import AuctionHooks.Proofs.KeptLaw
import AuctionHooks.Proofs.TimeLaw
import Mathlib.Data.List.Forall2

/-!
# Calls and records, one for one

Where hooks can be run, every attempt that is recorded as more than a failure to find its hook has
called the hook, and nothing else has.  So the calls of a session, in the order in which they begin, are
those of its records, in the order in which they were made.

## Calls that begin later

This is not obvious from the order of events.  A call under a limit of zero is given up and recorded
before it has begun; it begins when the session waits the next time, perhaps in another step, when
payload and module contexts have moved on and other calls have been handed over behind it.  But what it
is given was settled when it was handed over, and waiting calls begin in the order in which they were
handed over.  The proof therefore follows the list of calls that were handed over (`Timeline.launches`),
which is not touched when calls begin, and looks at the calls that have begun only at the end, when
none is waiting any more.

## Main statement

`Session.starts_of_ready`, from `Session.launches_steps` (the calls are those of the turns),
`Session.records_of_ready` (so are the records) and `Turn.call?_eq_none_iff` (which of the turns have
called).
-/

namespace AuctionHooks

variable {π : Type}

/-! ## Runs that nothing can stop -/

theorem Turn.runtime_after (t : Turn π) : t.after.timeline.runtime = t.before.timeline.runtime := by
  rcases t.cases_call? with ⟨-, -, -, -, hafter⟩ | ⟨call, -, ho, -, hafter⟩
  · rw [hafter]
  · rw [hafter]
    exact (Timeline.run_of_ready ho t.timeout call).2.2

namespace RunSetup

variable {setup : RunSetup π} {scene : Scene π}

/-- Where hooks can be run, a passage comes to the end of its line or to a rejection. -/
theorem exists_ending_of_ready (setup : RunSetup π) (ho : scene.timeline.runtime.obstacle? = none) (slots : List Slot)
    (payload : π) :
    ∃ rejectedBy, (setup.passage slots payload scene).ending = .ok rejectedBy := by
  revert ho
  refine passage_induction
    (motive := fun _ _ scene q => scene.timeline.runtime.obstacle? = none →
      ∃ rejectedBy, q.ending = .ok rejectedBy) ?_ ?_ ?_ ?_ ?_ slots payload scene
  · intro _ _ _
    exact ⟨none, rfl⟩
  · intro _ _ _ _ _ _ ih
    exact ih
  · intro slot _ payload scene e _ ht ho
    have hstopped := attempt_of_takeTurn_eq_error ht
    rcases setup.attempt_cases slot payload scene with
      ⟨_, -, -, ha⟩ | ⟨_, _, -, ho', -⟩ | ⟨_, -, -, ha⟩
    · cases hstopped.symm.trans ha
    · cases ho.symm.trans ho'
    · cases hstopped.symm.trans ha
  · intro t _ _ _ _ _
    exact ⟨some t.hook, rfl⟩
  · intro t _ q _ _ _ ih ho
    exact ih (by rw [t.runtime_after, ho])

/-- The turns of a passage along groups are recorded group by group, each under the time limit of its
group. -/
theorem limits_of_runGroups {groups : List HookGroup} {payload payload' : π} {scene after : Scene π}
    {rejectedBy : Option HookId} {outcomes : List GroupOutcome}
    (h : setup.runGroups groups payload scene = (.ok (payload', rejectedBy, outcomes), after)) :
    (groups.zip outcomes).flatMap (fun x => x.2.hooks.map fun o => (x.1.timeout, o)) =
      (setup.passage (groups.flatMap HookGroup.slots) payload scene).turns.map
        fun t => (t.timeout, t.record) := by
  induction groups generalizing payload scene outcomes with
  | nil => rfl
  | cons group rest ih =>
    obtain ⟨result, between, hgroup, hnext⟩ := runGroups_cons_eq_ok h
    obtain ⟨hending, hpayload, houtcomes, rfl⟩ := runGroup_eq_ok hgroup
    have hown : result.outcomes.map (fun o => (group.timeout, o)) =
        (setup.passage group.slots payload scene).turns.map fun t => (t.timeout, t.record) := by
      rw [houtcomes, List.map_map]
      refine List.map_congr_left fun t ht => ?_
      rw [(setup.turns_length_le group payload scene).2 t ht]
      rfl
    rw [List.flatMap_cons, passage_append]
    rcases hnext with ⟨hook, hrejected, -, -, rfl, -⟩ | ⟨hopen, outcomes', hrest, rfl⟩
    · rw [hrejected] at hending
      rw [Passage.andThen_of_ne (by rw [hending]; intro he; cases he), List.zip_cons_cons,
        List.zip_nil_right, List.flatMap_singleton]
      exact hown
    · rw [hopen] at hending
      rw [hpayload] at hrest
      rw [Passage.andThen_of_ok_none hending, List.zip_cons_cons, List.flatMap_cons, ih hrest,
        List.map_append]
      exact congrArg (· ++ _) hown

end RunSetup

/-! ## Which turns have called -/

/-- A record tells whether its attempt has found a hook. -/
theorem Attempt.record_status_eq_resolutionFailure_iff (rejectAllowed : Bool) (hook : HookId)
    (a : Attempt π) :
    (a.record rejectAllowed hook).status = .providerResolutionFailure ↔ ∃ e, a = .unresolved e := by
  unfold record
  split
  · simp
  · split <;> simp
  all_goals simp

/-- However a race ends, there was a call. -/
theorem Attempt.ofRace_ne_unresolved (timeout : UInt64) (race : Option (Answer π) × UInt64)
    (e : EngineError) : Attempt.ofRace timeout race ≠ .unresolved e := by
  rcases race with ⟨_ | answer, elapsed⟩ <;> exact nofun

/-- A turn has called no hook just if its record says that none was found. -/
theorem Turn.call?_eq_none_iff (t : Turn π) :
    t.call? = none ↔ t.record.status = .providerResolutionFailure := by
  rw [record, Attempt.record_status_eq_resolutionFailure_iff]
  constructor
  · exact attempt_of_call?_eq_none
  · rintro ⟨e, hunresolved⟩
    cases hc : t.call? with
    | none => rfl
    | some call =>
      rw [(attempt_of_call? hc).1] at hunresolved
      exact absurd hunresolved (Attempt.ofRace_ne_unresolved t.timeout _ e)

/-- That a call is the one of a turn: it is a call of the hook that the record names, with the payload
that was there at the turn, and under the circumstances of the turn: the time limit, and what the module
of the hook had kept. -/
structure Turn.Begins (t : Turn π) (call : Launch π) : Prop where
  hook : call.hook = t.record.hook
  payload : call.payload = t.payload
  invocation : call.invocation = t.setup.invocations t.timeout t.hook
    (t.before.request.moduleContext t.hook.moduleCode)

/-- **The calls of turns are those of the records that name a hook that was found**, in their order. -/
theorem forall₂_begins (turns : List (Turn π)) :
    List.Forall₂ Turn.Begins
      (turns.filter fun t => t.record.status ≠ .providerResolutionFailure)
      (turns.filterMap Turn.call?) := by
  induction turns with
  | nil => exact .nil
  | cons t rest ih =>
    cases hc : t.call? with
    | none =>
      have hstatus := t.call?_eq_none_iff.1 hc
      rw [List.filterMap_cons_none hc, List.filter_cons_of_neg (by simp [hstatus])]
      exact ih
    | some call =>
      have hstatus : t.record.status ≠ .providerResolutionFailure := by
        intro h
        cases hc.symm.trans (t.call?_eq_none_iff.2 h)
      obtain ⟨hhook, hpayload, hinvocation⟩ := RunSetup.eq_of_call? hc
      rw [List.filterMap_cons_some hc, List.filter_cons_of_pos (by simp [hstatus])]
      exact .cons ⟨hhook.trans t.record_hook.symm, hpayload, hinvocation⟩ ih

/-! ## Sessions -/

/-- The records of an answer to a task, each with the time limit of its group. -/
def Task.entries (task : Task π) (answer : SessionAnswer π) : List (UInt64 × HookOutcome) :=
  (task.groups.zip answer.groupOutcomes).flatMap fun x => x.2.hooks.map fun o => (x.1.timeout, o)

namespace Session

/-- The records of a session in the order in which they were made, each with the time limit of its
group. -/
def entries (s : Session π) : List (SessionStep π) → List (UInt64 × HookOutcome)
  | [] => []
  | first :: rest =>
    (s.task? first).elim [] (·.entries (s.step first).1) ++ entries (s.step first).2 rest

/-- The records of the answers of a session, in the order of the answers. -/
def records (answers : List (SessionAnswer π)) : List HookOutcome :=
  answers.flatMap fun answer => answer.groupOutcomes.flatMap GroupOutcome.hooks

/-- **The calls that a session hands over are those of its turns.** -/
theorem launches_steps (s : Session π) (steps : List (SessionStep π)) :
    (s.steps steps).2.scene.timeline.launches =
      s.scene.timeline.launches ++ (s.turns steps).filterMap Turn.call? := by
  have hthreads := threads_history (fun launches _ => launches) (s.history steps) s.scene
  rw [turnsOf_history, sceneAfter_history] at hthreads
  exact hthreads.eq_append Turn.launches_after

/-- What a module keeps is handed on from turn to turn of a session. -/
theorem threads_kept (s : Session π) (steps : List (SessionStep π)) (moduleCode : String) :
    Threads (fun t => t.before.request.moduleContext moduleCode)
      (fun t => t.after.request.moduleContext moduleCode)
      (s.scene.request.moduleContext moduleCode) (s.turns steps)
      ((s.steps steps).2.scene.request.moduleContext moduleCode) := by
  have hthreads := threads_moduleContext moduleCode (s.history steps) s.scene
  rw [turnsOf_history, sceneAfter_history] at hthreads
  exact hthreads

/-- That a step has succeeded, and that its turns account for it: for its records, with the limits of
their groups, and for the payload that it has left. -/
structure StepTold (s : Session π) (step : SessionStep π) : Prop where
  ok : ∀ e, (s.step step).1 ≠ .failed e
  records : (s.turnsOfStep step).map Turn.record =
    (s.step step).1.groupOutcomes.flatMap GroupOutcome.hooks
  entries : (s.turnsOfStep step).map (fun t => (t.timeout, t.record)) =
    (s.task? step).elim [] (·.entries (s.step step).1)
  payloads : Threads Turn.payload Turn.payloadAfter s.payload (s.turnsOfStep step)
    (s.step step).2.payload
  ready : (s.step step).2.scene.timeline.runtime = .ready

/-- Where hooks can be run, a step succeeds, and its turns account for it. -/
theorem stepTold_of_ready {s : Session π} (hready : s.scene.timeline.runtime = .ready)
    (step : SessionStep π) : s.StepTold step := by
  cases htask : s.task? step with
  | none =>
    obtain ⟨hturns, ms, hstep⟩ := step_of_task?_eq_none htask
    refine ⟨?_, ?_, ?_, ?_, ?_⟩
    · intro e he
      rw [hstep] at he
      cases he
    · rw [hturns, hstep]
      rfl
    · rw [hturns, htask]
      rfl
    · rw [hturns, hstep]
      exact .nil s.payload
    · rw [hstep]
      exact hready
  | some task =>
    have ho : s.scene.timeline.runtime.obstacle? = none := by rw [hready]; rfl
    have hturns := turnsOfStep_eq htask
    have haccount := task.setup.account_passage (task.groups.flatMap HookGroup.slots) s.payload
      s.scene
    obtain ⟨rejectedBy, hending⟩ := task.setup.exists_ending_of_ready ho
      (task.groups.flatMap HookGroup.slots) s.payload
    obtain ⟨outcomes, hrun, hrecords⟩ := RunSetup.exists_runGroups_of_ending_ok hending
    obtain ⟨answer, left, hstep, htold, hleft, htimeline, -⟩ := exists_step_of_runGroups htask hrun
    obtain ⟨houtcomes, hok⟩ := SessionAnswer.groupOutcomes_of_summary? htold
    refine ⟨?_, ?_, ?_, ?_, ?_⟩
    · rw [hstep]
      exact hok
    · rw [hstep, hturns]
      show _ = answer.groupOutcomes.flatMap GroupOutcome.hooks
      rw [houtcomes]
      exact hrecords.symm
    · rw [hstep, hturns, htask]
      show _ = task.entries answer
      rw [Task.entries, houtcomes, RunSetup.limits_of_runGroups hrun]
    · rw [hstep, hturns]
      show Threads _ _ _ _ left.payload
      rw [hleft]
      exact haccount.payloads
    · rw [hstep]
      show left.scene.timeline.runtime = _
      rw [htimeline, ← hready]
      exact (haccount.scenes.map fun s => s.timeline.runtime).eq_of_unchanged Turn.runtime_after

/-- **Where hooks can be run, every step succeeds, and the turns account for the session**: for its
records, with the limits of their groups, and for its payload. -/
theorem records_of_ready {s : Session π} (hready : s.scene.timeline.runtime = .ready)
    (steps : List (SessionStep π)) :
    (∀ answer ∈ (s.steps steps).1, ∀ e, answer ≠ .failed e) ∧
      (s.turns steps).map Turn.record = records (s.steps steps).1 ∧
      (s.turns steps).map (fun t => (t.timeout, t.record)) = s.entries steps ∧
      Threads Turn.payload Turn.payloadAfter s.payload (s.turns steps) (s.steps steps).2.payload := by
  induction steps generalizing s with
  | nil => exact ⟨List.forall_mem_nil _, rfl, rfl, .nil s.payload⟩
  | cons first rest ih =>
    obtain ⟨hok, hrecords, hentries, hpayloads, hready'⟩ := stepTold_of_ready hready first
    obtain ⟨hoks, hrecords', hentries', hpayloads'⟩ := ih hready'
    refine ⟨List.forall_mem_cons.2 ⟨hok, hoks⟩, ?_, ?_, hpayloads.append hpayloads'⟩
    · rw [turns, List.map_append, hrecords, hrecords']
      rfl
    · rw [turns, List.map_append, hentries, hentries']
      rfl

/-- **Each record of a session has its call, and each call its record.**  Let hooks be run in a session,
in any steps, on something that can run them.  Then no step fails, and when no call waits any more, the
calls that have begun beside those of before are, one for one and in order, those of the records that
name a hook that was found: the hook of the record is called, under the time limit of the record's group.
Its payload is the one of the latest replacement that was made by an attempt before it in the session, or
else the one of the session; and what its module keeps is what the latest result of a hook of that module
has handed back before it, or else what the request has kept from the beginning. -/
theorem starts_of_ready (s : Session π) (steps : List (SessionStep π))
    (hready : s.scene.timeline.runtime = .ready) :
    let answers := (s.steps steps).1
    let drained := (s.steps steps).2.drained.scene.timeline
    let turns := s.turns steps
    (∀ answer ∈ answers, ∀ e, answer ≠ .failed e) ∧
      turns.map Turn.record = records answers ∧
      turns.map (fun t => (t.timeout, t.record)) = s.entries steps ∧
      drained.waiting = [] ∧
      (∃ calls, drained.started.map Start.launch = s.scene.timeline.launches ++ calls ∧
        List.Forall₂ Turn.Begins
          (turns.filter fun t => t.record.status ≠ .providerResolutionFailure) calls) ∧
      ∀ earlier t later, turns = earlier ++ t :: later →
        t.payload = latest Turn.replacement? s.payload earlier ∧
        ∀ moduleCode, t.before.request.moduleContext moduleCode =
          latest (Turn.returned? moduleCode) (s.scene.request.moduleContext moduleCode) earlier := by
  intro answers drained turns
  obtain ⟨hok, hrecords, hentries, hpayloads⟩ := records_of_ready hready steps
  refine ⟨hok, hrecords, hentries, rfl, ⟨_, ?_, forall₂_begins turns⟩, ?_⟩
  · have hdrained : drained.started.map Start.launch = (s.steps steps).2.scene.timeline.launches := by
      rw [← Timeline.launches_letRun]
      exact (List.append_nil _).symm
    rw [hdrained, launches_steps]
  · intro earlier t later hturns
    have hturns' : s.turns steps = earlier ++ t :: later := hturns
    rw [hturns'] at hpayloads
    refine ⟨hpayloads.found_eq_latest fun _ => rfl, fun moduleCode => ?_⟩
    have hkept := s.threads_kept steps moduleCode
    rw [hturns'] at hkept
    exact hkept.found_eq_latest fun u => u.moduleContext_after moduleCode

/-- Every hook that is found takes three milliseconds, raises the payload by one and keeps the payload
that it was given. -/
def raisers : RunSetup Nat where
  provider hook :=
    if hook.moduleCode = "gone" then .error (.hookNotFound hook)
    else .ok ⟨hook.hookCode, fun _ n _ =>
      .finishes 3 (.result
        { payload := some (n + 1), moduleContext := some ⟨n, .number n.toUInt64⟩ })⟩
  invocations := .atEndpoint "/auction"

/-- A session that has just begun. -/
def fresh : Session Nat where
  engine := {}
  scene := default
  payload := 0

/-- Two calls without time, one of them the last of all. -/
def hurriedSteps : List (SessionStep Nat) :=
  [.group raisers ⟨0, [⟨"m", "a"⟩]⟩, .group raisers ⟨5, [⟨"gone", "a"⟩, ⟨"m", "b"⟩]⟩, .wait 1,
    .stage raisers .entrypoint "auction" [⟨5, [⟨"m", "b"⟩]⟩, ⟨0, [⟨"m", "a"⟩]⟩]]

/-- The call that was handed over first begins in the second step; the one that was handed over last
begins when the session is over, with the payload and the kept number of its turn. -/
theorem starts_of_ready_hurried :
    fresh.scene.timeline.runtime = .ready ∧
    (records (fresh.steps hurriedSteps).1).map HookOutcome.status =
      [.timeout, .providerResolutionFailure, .success, .success, .timeout] ∧
    (fresh.steps hurriedSteps).2.drained.scene.timeline.started.map
        (fun start => (start.time, start.launch.hook.hookCode, start.launch.payload,
          start.launch.invocation.timeout, start.launch.invocation.moduleContext.bind (·.number?))) =
      [(0, "a", 0, 0, none), (0, "b", 0, 5, none), (4, "b", 1, 5, some 0), (7, "a", 2, 0, some 1)] ∧
    ∃ calls,
      (fresh.steps hurriedSteps).2.drained.scene.timeline.started.map Start.launch = calls ∧
      List.Forall₂ Turn.Begins
        ((fresh.turns hurriedSteps).filter
          fun t => t.record.status ≠ .providerResolutionFailure) calls := by
  obtain ⟨-, -, -, -, ⟨calls, hcalls, hbegins⟩, -⟩ := starts_of_ready fresh hurriedSteps rfl
  exact ⟨rfl, by decide +kernel, by decide +kernel, calls, hcalls, hbegins⟩

end Session

end AuctionHooks
