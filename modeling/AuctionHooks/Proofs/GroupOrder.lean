import AuctionHooks.Proofs.Loops

/-!
# Which hooks of a group run

A group makes one record for each hook that it has attempted, and it attempts the hooks whose module
is switched on in the order in which they stand.  There is one way only to leave out one of them: a
hook before it has finished with a successful result that asks for the rejection of the request,
in a run that allows it.  Then that hook is the last one.

## Main statement

`runGroup_outcomes_of_ok` says this of every group, provider and scene.  The attempts are told turn
by turn (`RunSetup.Account`), so that "the hook has asked for rejection" speaks of the attempt that
was made at that place of this run.
-/

namespace AuctionHooks

variable {π : Type}

namespace RunSetup

variable {setup : RunSetup π}

/-- The hooks of a group whose module is switched on. -/
def hooksOn (setup : RunSetup π) (group : HookGroup) : List HookId :=
  group.hooks.filter fun hook => setup.switches.isOn hook.moduleCode

theorem filter_slots (setup : RunSetup π) (group : HookGroup) :
    group.slots.filter (fun slot => !setup.passesOver slot) =
      (setup.hooksOn group).map (Slot.mk group.timeout) := by
  rw [HookGroup.slots, List.filter_map, hooksOn]
  congr 2
  funext hook
  simp [passesOver]

/-- A turn ends a run of its setup just if rejections are allowed and the attempt wishes for one. -/
theorem ends_iff {t : Turn π} (h : t.setup = setup) :
    t.ends = true ↔ setup.rejectAllowed = true ∧ t.attempt.rejects = true := by
  rw [Turn.ends, h, Bool.and_eq_true]

/-- The turns of a group are those of its switched-on hooks in their order, up to the hooks that
were not reached. -/
theorem exists_unreached_hooks (setup : RunSetup π) (group : HookGroup) (payload : π)
    (scene : Scene π) :
    ∃ unreached : List HookId,
      setup.hooksOn group =
        (setup.passage group.slots payload scene).turns.map (fun t => t.hook) ++ unreached ∧
      (∀ t ∈ (setup.passage group.slots payload scene).turns, t.timeout = group.timeout) ∧
      ((setup.passage group.slots payload scene).ending = .ok none → unreached = []) := by
  obtain ⟨unreached, hslots, hnone⟩ := setup.exists_unreached group.slots payload scene
  rw [filter_slots] at hslots
  refine ⟨unreached.map Slot.hook, ?_, ?_, ?_⟩
  · have hhooks := congrArg (List.map Slot.hook) hslots
    rw [List.map_append, List.map_map, List.map_map] at hhooks
    simpa [Function.comp_def] using hhooks
  · intro t ht
    have hmem : t.toSlot ∈ (setup.hooksOn group).map (Slot.mk group.timeout) := by
      rw [hslots]
      exact List.mem_append_left _ (List.mem_map_of_mem ht)
    obtain ⟨hook, -, hslot⟩ := List.mem_map.1 hmem
    rw [← hslot]
  · intro h
    rw [hnone h, List.map_nil]

/-- **A group runs its switched-on hooks in their order, up to the first that rejects.**  Each of
the attempts has one record.  Either no attempt wished to reject the request where this is allowed,
and every switched-on hook was attempted; or the last attempt is the only one that did, and it is to
this hook that the rejection is owed. -/
theorem runGroup_outcomes_of_ok {group : HookGroup} {payload : π} {scene after : Scene π}
    {result : GroupResult π} (h : setup.runGroup group payload scene = (.ok result, after)) :
    ∃ turns : List (Turn π),
      setup.Account turns payload result.payload scene after ∧
      (∀ t ∈ turns, t.timeout = group.timeout) ∧
      result.outcomes = turns.map Turn.record ∧
      (∀ t ∈ turns, t.attempt.rejects = true ↔
        ∃ r elapsed, t.attempt = .finished (.result r) elapsed ∧ r.status = .success ∧
          r.reject = true) ∧
      ((result.rejectedBy = none ∧
          result.outcomes.map HookOutcome.hook = setup.hooksOn group ∧
          ∀ t ∈ turns, ¬(setup.rejectAllowed = true ∧ t.attempt.rejects = true)) ∨
        (∃ earlier last unreached,
          turns = earlier ++ [last] ∧
          setup.hooksOn group = result.outcomes.map HookOutcome.hook ++ unreached ∧
          (∀ t ∈ earlier, ¬(setup.rejectAllowed = true ∧ t.attempt.rejects = true)) ∧
          (setup.rejectAllowed = true ∧ last.attempt.rejects = true) ∧
          result.rejectedBy = some last.hook ∧
          result.outcomes.getLast? = some last.record)) := by
  obtain ⟨hending, hpayload, houtcomes, hafter⟩ := runGroup_eq_ok h
  obtain ⟨unreached, hhooks, htimeout, hnone⟩ :=
    setup.exists_unreached_hooks group payload scene
  have haccount := setup.account_passage group.slots payload scene
  rw [← hpayload, ← hafter] at haccount
  have hrecords : result.outcomes.map HookOutcome.hook =
      (setup.passage group.slots payload scene).turns.map (fun t => t.hook) := by
    rw [houtcomes, Turn.map_hook_record]
  have hends : ∀ t ∈ (setup.passage group.slots payload scene).turns,
      t.ends = false → ¬(setup.rejectAllowed = true ∧ t.attempt.rejects = true) := by
    intro t ht hfalse hboth
    rw [(ends_iff (haccount.setup_eq t ht)).2 hboth] at hfalse
    cases hfalse
  refine ⟨_, haccount, htimeout, houtcomes, fun t _ => Attempt.rejects_iff, ?_⟩
  cases hrejected : result.rejectedBy with
  | none =>
    rw [hrejected] at hending
    refine Or.inl ⟨rfl, ?_, ?_⟩
    · rw [hrecords, hhooks, hnone hending, List.append_nil]
    · intro t ht
      exact hends t ht (ends_eq_false_of_completed hending t ht)
  | some hook =>
    rw [hrejected] at hending
    obtain ⟨earlier, last, hturns, hearlier, hlast, rfl⟩ := exists_last_of_rejected hending
    have hmem : last ∈ (setup.passage group.slots payload scene).turns := by
      rw [hturns]
      exact List.mem_append_right _ List.mem_cons_self
    refine Or.inr ⟨earlier, last, unreached, hturns, ?_, ?_, ?_, rfl, ?_⟩
    · rw [hrecords, hhooks]
    · intro t ht
      refine hends t ?_ (hearlier t ht)
      rw [hturns]
      exact List.mem_append_left _ ht
    · exact (ends_iff (haccount.setup_eq last hmem)).1 hlast
    · rw [houtcomes, hturns, List.map_append, List.map_singleton, List.getLast?_concat]

/-- A setup in which the code of a module says what its hooks do: one module is switched off, one
has no hooks, one never finishes, one fails and asks for rejection all the same, one rejects. -/
def motley : RunSetup Nat where
  provider hook :=
    if hook.moduleCode = "gone" then .error (.hookNotFound hook)
    else .ok ⟨hook.hookCode, fun _ bid _ =>
      if hook.moduleCode = "slow" then .hangs
      else if hook.moduleCode = "sour" then
        .finishes 1 (.result { status := .failure, payload := some 7, reject := true })
      else if hook.moduleCode = "stern" then
        .finishes 2 (.result { payload := some (bid + 1), reject := true })
      else .finishes 3 (.result {})⟩
  invocations := .atEndpoint "/auction"
  switches := Table.ofList [("off", false)]

/-- A group with a hook of each kind, and one behind the hook that rejects. -/
def motleyGroup : HookGroup :=
  ⟨10, [⟨"off", "a"⟩, ⟨"gone", "a"⟩, ⟨"slow", "a"⟩, ⟨"sour", "a"⟩, ⟨"stern", "a"⟩, ⟨"late", "a"⟩]⟩

/-- Neither the missing hook nor the slow one nor the one that fails keeps the next from running. -/
theorem runGroup_outcomes_motley :
    ∃ result after,
      motley.runGroup motleyGroup 0 default = (.ok result, after) ∧
      result.rejectedBy = some ⟨"stern", "a"⟩ ∧
      ∃ turns : List (Turn Nat),
        motley.Account turns 0 result.payload default after ∧
        result.outcomes = turns.map Turn.record ∧ turns.length = 4 := by
  obtain ⟨result, after, hrun, hrejected, hlength⟩ : ∃ result after,
      motley.runGroup motleyGroup 0 default = (.ok result, after) ∧
      result.rejectedBy = some ⟨"stern", "a"⟩ ∧ result.outcomes.length = 4 :=
    ⟨_, _, rfl, rfl, rfl⟩
  obtain ⟨turns, haccount, -, houtcomes, -⟩ := runGroup_outcomes_of_ok hrun
  refine ⟨result, after, hrun, hrejected, turns, haccount, houtcomes, ?_⟩
  rw [← hlength, houtcomes, List.length_map]

end RunSetup

end AuctionHooks
