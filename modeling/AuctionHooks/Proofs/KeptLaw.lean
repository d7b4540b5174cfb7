import AuctionHooks.Proofs.History

/-!
# What a module finds when one of its hooks is called

A module keeps whatever the latest of its hooks that has finished with a result has handed back for
it, and if this was nothing, the module keeps nothing.  It does not matter whether the result was a
success, nor which of its hooks it was, nor at what level the run took place.  Nothing else touches
what the module keeps: no other module, and no hook that has not finished with a result in time.

## Main statement

`moduleContext_history` says so for every history of a request.  To the first hook of a module the
request hands out what it has kept for the module from the beginning, and a request that has just
arrived keeps nothing.
-/

namespace AuctionHooks

variable {π : Type}

theorem Turn.returned?_eq_some_iff {t : Turn π} {moduleCode : String}
    {kept : Option ModuleContext} :
    t.returned? moduleCode = some kept ↔
      t.hook.moduleCode = moduleCode ∧
        ∃ r elapsed, t.attempt = .finished (.result r) elapsed ∧ r.moduleContext = kept := by
  rw [returned?]
  by_cases hm : t.hook.moduleCode = moduleCode
  · rw [if_pos hm, Attempt.returned?, Option.map_eq_some_iff]
    constructor
    · rintro ⟨r, hr, hkept⟩
      obtain ⟨elapsed, hattempt⟩ := Attempt.result?_eq_some_iff.1 hr
      exact ⟨hm, r, elapsed, hattempt, hkept⟩
    · rintro ⟨-, r, elapsed, hattempt, hkept⟩
      exact ⟨r, Attempt.result?_eq_some_iff.2 ⟨elapsed, hattempt⟩, hkept⟩
  · rw [if_neg hm]
    constructor
    · intro h
      cases h
    · rintro ⟨h, -⟩
      exact absurd h hm

/-- What a module keeps is handed on along a history. -/
theorem threads_moduleContext (moduleCode : String) (history : List (Happening π))
    (scene : Scene π) :
    Threads (fun t => t.before.request.moduleContext moduleCode)
      (fun t => t.after.request.moduleContext moduleCode)
      (scene.request.moduleContext moduleCode) (turnsOf history scene)
      ((sceneAfter history scene).request.moduleContext moduleCode) :=
  threads_history (fun _ kept => kept.get? moduleCode) history scene

/-- **A called hook finds what its module was left with latest.**  The calls of the turns are the
calls that the history has added to the timeline, and each of them is told, as what its module
keeps, what the latest result of a hook of that module has handed back before.  The same holds of
what is kept in the end, for every module. -/
theorem moduleContext_history (history : List (Happening π)) (scene : Scene π) :
    (sceneAfter history scene).timeline.launches =
        scene.timeline.launches ++ (turnsOf history scene).filterMap Turn.call? ∧
      (∀ t ∈ turnsOf history scene, ∀ moduleCode kept,
        t.returned? moduleCode = some kept ↔
          t.hook.moduleCode = moduleCode ∧
            ∃ r elapsed, t.attempt = .finished (.result r) elapsed ∧ r.moduleContext = kept) ∧
      (∀ earlier t later, turnsOf history scene = earlier ++ t :: later →
        ∀ call, t.call? = some call →
          call.hook = t.hook ∧
          call.invocation = t.setup.invocations t.timeout t.hook
            (latest (Turn.returned? t.hook.moduleCode)
              (scene.request.moduleContext t.hook.moduleCode) earlier)) ∧
      (∀ moduleCode, (sceneAfter history scene).request.moduleContext moduleCode =
        latest (Turn.returned? moduleCode) (scene.request.moduleContext moduleCode)
          (turnsOf history scene)) := by
  refine ⟨?_, ?_, ?_, ?_⟩
  · exact (threads_history (fun launches _ => launches) history scene).eq_append
      Turn.launches_after
  · intro t _ moduleCode kept
    exact Turn.returned?_eq_some_iff
  · intro earlier t later hturns call hcall
    obtain ⟨hhook, -, hinvocation⟩ := RunSetup.eq_of_call? hcall
    refine ⟨hhook, ?_⟩
    have hthreads := threads_moduleContext t.hook.moduleCode history scene
    rw [hturns] at hthreads
    rw [hinvocation,
      ← hthreads.found_eq_latest fun u => u.moduleContext_after t.hook.moduleCode]
  · intro moduleCode
    exact (threads_moduleContext moduleCode history scene).eq_latest fun u =>
      u.moduleContext_after moduleCode

end AuctionHooks
