import AuctionHooks.Proofs.Passage

/-!
# Scenes that are alike to hooks

A hook finds out little of the scene that it runs in: what its module keeps, and, by being run or
not, what there is to run hooks on.  Only a hook that remembers its earlier calls could tell more,
for these differ from scene to scene.  So hooks without memory (`RunSetup.Memoryless`) do alike in
scenes that are alike (`Scene.Alike`), whatever the time and whatever else is under way.

## Main statement

`RunSetup.takeTurn_alike`: a turn in a scene that is alike comes to the same record and the same
payload, ends the run if the other does, and leaves a scene that is alike again.
-/

namespace AuctionHooks

variable {π : Type}

/-! ## Scenes that look alike to hooks -/

/-- That two scenes are alike to the hooks: the modules keep the same, and what there is to run
hooks on is the same. -/
structure Scene.Alike (s s' : Scene π) : Prop where
  kept : s.request.kept = s'.request.kept
  runtime : s.timeline.runtime = s'.timeline.runtime

namespace Scene.Alike

variable {s s' s'' : Scene π}

theorem refl (s : Scene π) : s.Alike s := ⟨rfl, rfl⟩

theorem symm (h : s.Alike s') : s'.Alike s := ⟨h.kept.symm, h.runtime.symm⟩

theorem trans (h : s.Alike s') (h' : s'.Alike s'') : s.Alike s'' :=
  ⟨h.kept.trans h'.kept, h.runtime.trans h'.runtime⟩

end Scene.Alike

/-- What the modules keep after an attempt depends on what they have kept before and on what the
attempt has returned. -/
theorem Request.kept_afterAttempt (r : Request) (hook : HookId) (a : Attempt π) :
    (r.afterAttempt hook a).kept = a.returned?.elim r.kept (r.kept.put hook.moduleCode) := by
  rw [afterAttempt]
  cases a.returned? <;> rfl

namespace RunSetup

variable {setup : RunSetup π}

/-- That no hook of a run depends on how often it was called before. -/
def Memoryless (setup : RunSetup π) : Prop :=
  ∀ hook found, setup.provider hook = .ok found →
    ∀ m n payload invocation, found.course m payload invocation = found.course n payload invocation

section Alike

variable {slot : Slot} {payload : π} {scene scene' : Scene π}

/-- Hooks without memory are called alike in scenes that are alike. -/
theorem call?_alike (hmem : setup.Memoryless) (halike : scene.Alike scene') :
    setup.call? slot payload scene = setup.call? slot payload scene' := by
  unfold call?
  cases hp : setup.provider slot.hook with
  | error e => rfl
  | ok found =>
    simp only [Request.moduleContext, halike.kept]
    rw [hmem slot.hook found hp (scene.timeline.callsOf slot.hook)
      (scene'.timeline.callsOf slot.hook)]

/-- Hooks without memory do alike in scenes that are alike, and leave scenes that are alike. -/
theorem exists_attempt_alike (hmem : setup.Memoryless) (halike : scene.Alike scene') {t : Turn π}
    (ht : setup.takeTurn slot payload scene = .ok t) :
    ∃ t', setup.takeTurn slot payload scene' = .ok t' ∧ t'.attempt = t.attempt ∧
      t.after.Alike t'.after := by
  obtain ⟨rfl, rfl, rfl, rfl⟩ := eq_of_takeTurn ht
  rcases t.cases_call? with ⟨e, hp, -, hattempt, hafter⟩ | ⟨call, hc, ho, hattempt, hafter⟩
  · have hunresolved : t.setup.attempt t.timeout t.hook t.payload scene' =
        (.ok (.unresolved e), scene') := (attempt_of_error hp).2
    obtain ⟨t', ht', hattempt', hafter'⟩ := exists_takeTurn hunresolved
    refine ⟨t', ht', hattempt'.trans hattempt.symm, ?_⟩
    rw [hafter', hafter]
    exact halike
  · have ho' : scene'.timeline.runtime.obstacle? = none := by
      rw [← halike.runtime]
      exact ho
    have hc' : t.setup.call? t.toSlot t.payload scene' = some call :=
      (call?_alike hmem halike).symm.trans hc
    obtain ⟨t', ht', hattempt', hafter'⟩ := exists_takeTurn (attempt_of_ready hc' ho')
    refine ⟨t', ht', hattempt'.trans hattempt.symm, ?_⟩
    rw [hafter', hafter, hattempt]
    constructor
    · rw [Request.kept_afterAttempt, Request.kept_afterAttempt, halike.kept]
    · rw [(Timeline.run_of_ready ho t.timeout call).2.2,
        (Timeline.run_of_ready ho' t.timeout call).2.2]
      exact halike.runtime

/-- **A turn in a scene that is alike does the same to a run.** -/
theorem takeTurn_alike (hmem : setup.Memoryless) (halike : scene.Alike scene') {t : Turn π}
    (ht : setup.takeTurn slot payload scene = .ok t) :
    ∃ t', setup.takeTurn slot payload scene' = .ok t' ∧ t.after.Alike t'.after ∧
      t'.record = t.record ∧ t'.payloadAfter = t.payloadAfter ∧ t'.ends = t.ends := by
  obtain ⟨t', ht', hattempt, hafter⟩ := exists_attempt_alike hmem halike ht
  obtain ⟨hsetup, hslot, hpayload, -⟩ := eq_of_takeTurn ht
  obtain ⟨hsetup', hslot', hpayload', -⟩ := eq_of_takeTurn ht'
  exact ⟨t', ht', hafter, Turn.same_of_attempt (by rw [hsetup', hsetup])
    (hslot'.trans hslot.symm) (hpayload'.trans hpayload.symm) hattempt⟩

end Alike

end RunSetup

end AuctionHooks
