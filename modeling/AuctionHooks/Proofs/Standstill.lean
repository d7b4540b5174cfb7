import AuctionHooks.Proofs.GroupOrder
import AuctionHooks.Proofs.Steps
import Mathlib.Data.List.Forall2

/-!
# Runs with nothing to run on

A hook needs something that runs it and something that times it.  Where either is missing, no hook can
be called, and a run comes to one of two ends.  If there is a hook to call anywhere in its groups, the
run is stopped with an error, however many hooks stand in front of it that are switched off or cannot
be found; and then it is as if the run had not been tried.  If there is none, the run comes to its end,
and all that it has to tell is which hooks could not be found.

## Why nothing is left behind

What a passage does before it is stopped could be lost or left behind half done.  But all that it does
up to that point is to look for hooks that are not there, and such turns change neither the payload nor
the scene (`RunSetup.passage_of_obstacle`); the records of them go down with the run.  So nothing has to
be taken back, at no level: not by the group, the stage, the engine or the session
(`Session.step_of_not_ready`).
-/

namespace AuctionHooks

variable {π : Type}

namespace RunSetup

variable {setup : RunSetup π}

/-- That there is a hook to call: its module is switched on, and it is found. -/
def Calls (setup : RunSetup π) (hook : HookId) : Prop :=
  setup.switches.isOn hook.moduleCode = true ∧ ∃ found, setup.provider hook = .ok found

/-- That a record says why a hook was not found, and no more. -/
def Misses (setup : RunSetup π) (hook : HookId) (o : HookOutcome) : Prop :=
  ∃ e, setup.provider hook = .error e ∧
    o = ⟨hook, .providerResolutionFailure, none, 0, { message := some e.message }⟩

/-- That a passage has run nothing: it has left everything as it was, and it was stopped if there was a
hook to call, and else has recorded of each switched-on place that its hook was not found. -/
structure RunsNothing (setup : RunSetup π) (e : EngineError) (slots : List Slot) (payload : π)
    (scene : Scene π) (p : Passage π) : Prop where
  payload_eq : p.payload = payload
  scene_eq : p.scene = scene
  ending : (p.ending = .error e ∧ ∃ slot ∈ slots, setup.Calls slot.hook) ∨
    (p.ending = .ok none ∧ (∀ slot ∈ slots, ¬setup.Calls slot.hook) ∧
      List.Forall₂ (fun slot o => setup.Misses slot.hook o)
        (slots.filter fun slot => !setup.passesOver slot) (p.turns.map Turn.record))

section Obstacle

variable {e : EngineError} {scene : Scene π}

/-- **Where nothing can be run, a passage runs nothing.** -/
theorem passage_of_obstacle (ho : scene.timeline.runtime.obstacle? = some e) (slots : List Slot)
    (payload : π) :
    setup.RunsNothing e slots payload scene (setup.passage slots payload scene) := by
  induction slots with
  | nil => exact ⟨rfl, rfl, Or.inr ⟨rfl, List.forall_mem_nil _, .nil⟩⟩
  | cons slot rest ih =>
    cases hover : setup.passesOver slot with
    | true =>
      have hoff : ¬setup.Calls slot.hook := by
        rintro ⟨hon, -⟩
        rw [passesOver, hon] at hover
        cases hover
      rw [passage_cons_of_passesOver hover]
      refine ⟨ih.payload_eq, ih.scene_eq, ?_⟩
      rcases ih.ending with ⟨hending, slot', hmem, hcalls⟩ | ⟨hending, hnone, hrecords⟩
      · exact Or.inl ⟨hending, slot', List.mem_cons_of_mem _ hmem, hcalls⟩
      · rw [List.filter_cons_of_neg (by simp [hover])]
        exact Or.inr ⟨hending, List.forall_mem_cons.2 ⟨hoff, hnone⟩, hrecords⟩
    | false =>
      have hon : setup.switches.isOn slot.hook.moduleCode = true := by
        simpa [passesOver] using hover
      cases hfound : setup.provider slot.hook with
      | ok found =>
        rw [passage_cons_of_error hover (takeTurn_eq_error (attempt_of_obstacle hfound ho))]
        exact ⟨rfl, rfl, Or.inl ⟨rfl, slot, List.mem_cons_self, hon, found, hfound⟩⟩
      | error miss =>
        -- The turn has found no hook, so it hands on what it was given.
        have hmiss : setup.attempt slot.timeout slot.hook payload scene =
            (.ok (.unresolved miss), scene) := (attempt_of_error hfound).2
        obtain ⟨t, ht, hattempt, hafter⟩ := exists_takeTurn hmiss
        obtain ⟨-, hslot, hpayload, -⟩ := eq_of_takeTurn ht
        have hends : t.ends = false := by
          rw [Turn.ends, hattempt]
          exact Bool.and_false _
        have hleft : t.payloadAfter = payload := by
          rw [Turn.payloadAfter, Turn.replacement?, hattempt, ← hpayload]
          rfl
        have hmissed : setup.Misses slot.hook t.record := by
          refine ⟨miss, hfound, ?_⟩
          rw [Turn.record, hattempt, hslot]
          rfl
        have hnot : ¬setup.Calls slot.hook := by
          rintro ⟨-, found, hfound'⟩
          cases hfound.symm.trans hfound'
        rw [passage_cons_of_goesOn hover ht hends, hleft, hafter]
        refine ⟨ih.payload_eq, ih.scene_eq, ?_⟩
        rcases ih.ending with ⟨hending, slot', hmem, hcalls⟩ | ⟨hending, hnone, hrecords⟩
        · exact Or.inl ⟨hending, slot', List.mem_cons_of_mem _ hmem, hcalls⟩
        · rw [List.filter_cons_of_pos (by simp [hover])]
          exact Or.inr ⟨hending, List.forall_mem_cons.2 ⟨hnot, hnone⟩, .cons hmissed hrecords⟩

/-- The places of a group have a hook to call just if the group has. -/
theorem exists_slot_calls {group : HookGroup} :
    (∃ slot ∈ group.slots, setup.Calls slot.hook) ↔ ∃ hook ∈ group.hooks, setup.Calls hook := by
  simp only [HookGroup.slots, List.mem_map, exists_exists_and_eq_and]

/-- A group with a hook to call is stopped, and leaves the scene as it was. -/
theorem runGroup_of_calls (ho : scene.timeline.runtime.obstacle? = some e) {group : HookGroup}
    (h : ∃ hook ∈ group.hooks, setup.Calls hook) (payload : π) :
    setup.runGroup group payload scene = (.error e, scene) := by
  obtain ⟨-, hscene, hending⟩ := setup.passage_of_obstacle ho group.slots payload
  rcases hending with ⟨hending, -⟩ | ⟨-, hnone, -⟩
  · rw [runGroup_eq, Passage.extend, hending, hscene]
    rfl
  · obtain ⟨slot, hmem, hcalls⟩ := exists_slot_calls.2 h
    exact absurd hcalls (hnone slot hmem)

/-- A group without one tells which hooks were not found. -/
theorem runGroup_of_misses (ho : scene.timeline.runtime.obstacle? = some e) {group : HookGroup}
    (h : ∀ hook ∈ group.hooks, ¬setup.Calls hook) (payload : π) :
    ∃ result, setup.runGroup group payload scene = (.ok result, scene) ∧
      result.payload = payload ∧ result.rejectedBy = none ∧
      List.Forall₂ setup.Misses (setup.hooksOn group) result.outcomes := by
  obtain ⟨hpayload, hscene, hending⟩ := setup.passage_of_obstacle ho group.slots payload
  rcases hending with ⟨-, hcalls⟩ | ⟨hending, -, hrecords⟩
  · obtain ⟨hook, hmem, hcalls⟩ := exists_slot_calls.1 hcalls
    exact absurd hcalls (h hook hmem)
  · rw [filter_slots, List.forall₂_map_left_iff] at hrecords
    rw [runGroup_eq, Passage.extend, hending, hscene]
    exact ⟨_, rfl, hpayload, rfl, hrecords⟩

/-- Groups of which one has a hook to call are stopped, and leave the scene as it was. -/
theorem runGroups_of_calls (ho : scene.timeline.runtime.obstacle? = some e) {groups : List HookGroup}
    (h : ∃ group ∈ groups, ∃ hook ∈ group.hooks, setup.Calls hook) (payload : π) :
    setup.runGroups groups payload scene = (.error e, scene) := by
  induction groups with
  | nil =>
    obtain ⟨group, hmem, -⟩ := h
    cases hmem
  | cons group rest ih =>
    rw [runGroups]
    by_cases hfirst : ∃ hook ∈ group.hooks, setup.Calls hook
    · rw [runGroup_of_calls ho hfirst, Ended.andThen_error]
    · -- The first group comes to its end, and the hook to call is in one of the others.
      have hrest : ∃ group ∈ rest, ∃ hook ∈ group.hooks, setup.Calls hook := by
        obtain ⟨group', hmem, hcalls⟩ := h
        rcases List.mem_cons.1 hmem with rfl | hmem
        · exact absurd hcalls hfirst
        · exact ⟨group', hmem, hcalls⟩
      obtain ⟨result, hrun, hpayload, hopen, -⟩ :=
        runGroup_of_misses ho (fun hook hmem hcalls => hfirst ⟨hook, hmem, hcalls⟩) payload
      rw [hrun, Ended.andThen_ok, hopen, hpayload]
      show (setup.runGroups rest payload scene).andThen _ = _
      rw [ih hrest, Ended.andThen_error]

/-- Groups without one tell, group by group, which hooks were not found. -/
theorem runGroups_of_misses (ho : scene.timeline.runtime.obstacle? = some e)
    {groups : List HookGroup} (h : ∀ group ∈ groups, ∀ hook ∈ group.hooks, ¬setup.Calls hook)
    (payload : π) :
    ∃ outcomes, setup.runGroups groups payload scene = (.ok (payload, none, outcomes), scene) ∧
      List.Forall₂ (fun group o => List.Forall₂ setup.Misses (setup.hooksOn group) o.hooks) groups
        outcomes := by
  induction groups with
  | nil => exact ⟨[], rfl, .nil⟩
  | cons group rest ih =>
    obtain ⟨hfirst, hrest⟩ := List.forall_mem_cons.1 h
    obtain ⟨result, hrun, hpayload, hopen, hrecords⟩ := runGroup_of_misses ho hfirst payload
    obtain ⟨outcomes, hruns, hothers⟩ := ih hrest
    refine ⟨result.toOutcome :: outcomes, ?_, .cons hrecords hothers⟩
    rw [runGroups, hrun, Ended.andThen_ok, hopen, hpayload]
    show (setup.runGroups rest payload scene).andThen _ = _
    rw [hruns, Ended.andThen_ok]

end Obstacle

end RunSetup

/-- What cannot run hooks says so. -/
theorem Runtime.exists_obstacle {r : Runtime} (h : r ≠ .ready) :
    ∃ reason, r.obstacle? = some (.scheduling reason) := by
  cases r with
  | ready => exact absurd rfl h
  | withoutTimers message => exact ⟨_, rfl⟩
  | absent complaint => exact ⟨_, rfl⟩

namespace Session

/-- **Without anything to run on, a step that runs hooks does all or nothing.**  It fails just if one of
its groups has a hook to call; then the error says that nothing could be scheduled, and the session is
as it was before: no call has begun or waits, and payload, request and monitor are the same.  Otherwise
it succeeds with the payload that it was given and without a rejection, no call has begun or waits, and
the records say of each switched-on hook of each group, in their order, that it was not found. -/
theorem step_of_not_ready {s after : Session π} {step : SessionStep π} {task : Task π}
    {answer : SessionAnswer π} (htask : s.task? step = some task)
    (hruntime : s.scene.timeline.runtime ≠ .ready) (h : s.step step = (answer, after)) :
    ((∃ e, answer = .failed e) ↔
        ∃ group ∈ task.groups, ∃ hook ∈ group.hooks, task.setup.Calls hook) ∧
      (∀ e, answer = .failed e → (∃ reason, e = .scheduling reason) ∧ after = s) ∧
      ((∀ e, answer ≠ .failed e) →
        ∃ outcomes, answer.summary? = some (s.payload, none, outcomes) ∧
          after.payload = s.payload ∧ after.scene.timeline = s.scene.timeline ∧
          after.scene.request.kept = s.scene.request.kept ∧
          List.Forall₂
            (fun group o => List.Forall₂ task.setup.Misses (task.setup.hooksOn group) o.hooks)
            task.groups outcomes) := by
  obtain ⟨reason, ho⟩ := Runtime.exists_obstacle hruntime
  by_cases hcalls : ∃ group ∈ task.groups, ∃ hook ∈ group.hooks, task.setup.Calls hook
  · have hstep := step_of_runGroups_error htask (RunSetup.runGroups_of_calls ho hcalls s.payload)
    obtain ⟨rfl, rfl⟩ := Prod.ext_iff.1 (h.symm.trans hstep)
    refine ⟨iff_of_true ⟨_, rfl⟩ hcalls, ?_, fun hok => absurd rfl (hok _)⟩
    intro e he
    cases he
    exact ⟨⟨reason, rfl⟩, rfl⟩
  · have hmisses : ∀ group ∈ task.groups, ∀ hook ∈ group.hooks, ¬task.setup.Calls hook :=
      fun group hgroup hook hhook hc => hcalls ⟨group, hgroup, hook, hhook, hc⟩
    obtain ⟨outcomes, hrun, hrecords⟩ := RunSetup.runGroups_of_misses ho hmisses s.payload
    obtain ⟨answer', after', hstep, hsummary, hpayload, htimeline, hkept⟩ :=
      exists_step_of_runGroups htask hrun
    cases hstep.symm.trans h
    have hok := (SessionAnswer.groupOutcomes_of_summary? hsummary).2
    refine ⟨iff_of_false (fun ⟨e, he⟩ => hok e he) hcalls, fun e he => absurd he (hok e), ?_⟩
    intro _
    exact ⟨outcomes, hsummary, hpayload, htimeline, hkept, hrecords⟩

/-- A session that has nothing to time its hooks with. -/
def untimed : Session Nat where
  engine := {}
  scene := ⟨default, { runtime := .withoutTimers "timers are disabled" }⟩
  payload := 7

/-- A group without a hook to call: one is switched off, and two cannot be found. -/
def goneGroup : HookGroup := ⟨10, [⟨"off", "a"⟩, ⟨"gone", "a"⟩, ⟨"gone", "b"⟩]⟩

/-- The stage is stopped in its second group, behind four hooks that come to nothing, and leaves no
trace of them; by itself the first group has two records. -/
theorem step_of_not_ready_untimed :
    untimed.scene.timeline.runtime ≠ .ready ∧
    (∃ e after, untimed.step
        (.stage RunSetup.motley .entrypoint "auction" [goneGroup, RunSetup.motleyGroup]) =
          (.failed e, after) ∧ (∃ reason, e = .scheduling reason) ∧ after = untimed) ∧
    ∃ result after, untimed.step (.group RunSetup.motley goneGroup) = (.group result, after) ∧
      after.payload = 7 ∧
      result.outcomes.map HookOutcome.hook = [⟨"gone", "a"⟩, ⟨"gone", "b"⟩] ∧
      List.Forall₂ RunSetup.motley.Misses (RunSetup.motley.hooksOn goneGroup) result.outcomes := by
  have hruntime : untimed.scene.timeline.runtime ≠ .ready := by decide
  obtain ⟨e, after, hstopped⟩ : ∃ e after, untimed.step
      (.stage RunSetup.motley .entrypoint "auction" [goneGroup, RunSetup.motleyGroup]) =
        (.failed e, after) :=
    ⟨_, _, rfl⟩
  obtain ⟨result, after', hstep, hhooks⟩ : ∃ result after,
      untimed.step (.group RunSetup.motley goneGroup) = (.group result, after) ∧
      result.outcomes.map HookOutcome.hook = [⟨"gone", "a"⟩, ⟨"gone", "b"⟩] :=
    ⟨_, _, rfl, rfl⟩
  obtain ⟨-, hfailed, -⟩ := step_of_not_ready rfl hruntime hstopped
  obtain ⟨-, -, hdone⟩ := step_of_not_ready rfl hruntime hstep
  obtain ⟨outcomes, hsummary, hpayload, -, -, hrecords⟩ := hdone fun e he => by cases he
  have houtcomes : [result.toOutcome] = outcomes :=
    (SessionAnswer.groupOutcomes_of_summary? hsummary).1
  rw [← houtcomes] at hrecords
  obtain ⟨hfirst, -⟩ := List.forall₂_cons.1 hrecords
  exact ⟨hruntime, ⟨e, after, hstopped, hfailed e rfl⟩, result, after', hstep, hpayload, hhooks,
    hfirst⟩

end Session

end AuctionHooks
