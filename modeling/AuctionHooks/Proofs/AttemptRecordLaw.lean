import AuctionHooks.Proofs.Race
import AuctionHooks.Proofs.Steps

/-!
# What a record says

Whoever reads the records of a run has nothing else to go by: the results of the hooks are gone, and so
are the attempts.  A record says how its attempt has ended, what the hook has done, if it was a success,
and what there is to say about it.  What it says is true (`Turn.IsTold`), and it is told in one of three
ways (`Attempt.record_cases`).  A success and a failure speak with the messages of the hook itself; every
other ending has one message, and it is not the hook's.

## From the records to the run

The records of a run are enough to tell that nothing has happened.  If no record tells of an update or of
a rejection, the run has left the payload as it was and has not rejected the request
(`Turn.of_changesNothing`).  This is not so clear from a single record.  A failure may carry a payload and
ask for rejection, and a hook may ask for it where it is not allowed; in the first case neither counts,
and in the second the record tells of a rejection all the same.  So the records may tell of more than has
happened, but never of less.
-/

namespace AuctionHooks

variable {π : Type}

/-! ## The record of an attempt -/

namespace InvocationResult

theorem action_eq_reject_iff {r : InvocationResult π} : r.action = .reject ↔ r.reject = true := by
  unfold action
  split
  · simp [*]
  · split <;> simp [*]

theorem action_eq_update_iff {r : InvocationResult π} :
    r.action = .update ↔ r.reject = false ∧ r.payload.isSome = true := by
  unfold action
  split
  · simp [*]
  · split <;> simp [*]

theorem action_eq_noAction_iff {r : InvocationResult π} :
    r.action = .noAction ↔ r.reject = false ∧ r.payload.isSome = false := by
  unfold action
  split
  · simp [*]
  · split <;> simp [*]

end InvocationResult

/-- **A record is made in one of three ways**: of a success, of a failure, or of an attempt that has led
to no result. -/
theorem Attempt.record_cases (rejectAllowed : Bool) (hook : HookId) (a : Attempt π) :
    (∃ r elapsed, a = .finished (.result r) elapsed ∧ r.status = .success ∧
      a.record rejectAllowed hook = ⟨hook, .success, some r.action, elapsed,
        { r.messages with
          warnings := r.messages.warnings ++
            if r.reject && !rejectAllowed then [rejectNotAllowed] else [] }⟩) ∨
    (∃ r elapsed, a = .finished (.result r) elapsed ∧ r.status = .failure ∧
      a.record rejectAllowed hook = ⟨hook, .failure, none, elapsed, r.messages⟩) ∨
    (a.result? = none ∧ ∃ status text, status ≠ .success ∧ status ≠ .failure ∧
      a.record rejectAllowed hook = ⟨hook, status, none, a.elapsed, { message := some text }⟩) := by
  match a with
  | .finished (.result r) elapsed =>
    cases hstatus : r.status with
    | success =>
      refine .inl ⟨r, elapsed, rfl, hstatus, ?_⟩
      simp only [record, hstatus, InvocationResult.withWarning]
      split <;> simp
    | failure =>
      refine .inr (.inl ⟨r, elapsed, rfl, hstatus, ?_⟩)
      simp only [record, hstatus]
  | .unresolved e =>
    exact .inr (.inr ⟨rfl, .providerResolutionFailure, _, by decide, by decide, rfl⟩)
  | .finished .nothing elapsed =>
    exact .inr (.inr ⟨rfl, .nullResult, _, by decide, by decide, rfl⟩)
  | .finished (.error e) elapsed =>
    exact .inr (.inr ⟨rfl, .invocationFault, _, by decide, by decide, rfl⟩)
  | .finished (.panic message) elapsed =>
    exact .inr (.inr ⟨rfl, .invocationFault, _, by decide, by decide, rfl⟩)
  | .timedOut timeout elapsed =>
    exact .inr (.inr ⟨rfl, .timeout, _, by decide, by decide, rfl⟩)

/-- That a record tells what a hook has done that has reported success: what it has asked for first of
all, and its messages, with a warning behind the others if it has asked for a rejection that is not
allowed. -/
structure HookOutcome.TellsSuccess (o : HookOutcome) (r : InvocationResult π)
    (rejectAllowed : Bool) : Prop where
  reject_iff : o.action = some .reject ↔ r.reject = true
  update_iff : o.action = some .update ↔ r.reject = false ∧ r.payload.isSome = true
  noAction_iff : o.action = some .noAction ↔ r.reject = false ∧ r.payload.isSome = false
  messages : o.messages = { r.messages with
    warnings := r.messages.warnings ++
      if r.reject = true ∧ rejectAllowed = false then [rejectNotAllowed] else [] }

/-- The record that is made of a success tells what the hook has done. -/
theorem HookOutcome.tellsSuccess_of_eq {o : HookOutcome} {r : InvocationResult π}
    {rejectAllowed : Bool} {hook : HookId} {elapsed : UInt64}
    (h : o = ⟨hook, .success, some r.action, elapsed, { r.messages with
      warnings := r.messages.warnings ++
        if r.reject && !rejectAllowed then [rejectNotAllowed] else [] }⟩) :
    o.TellsSuccess r rejectAllowed where
  reject_iff := by
    rw [h, Option.some_inj, InvocationResult.action_eq_reject_iff]
  update_iff := by
    rw [h, Option.some_inj, InvocationResult.action_eq_update_iff]
  noAction_iff := by
    rw [h, Option.some_inj, InvocationResult.action_eq_noAction_iff]
  messages := by
    rw [h]
    simp

/-! ## The record of a turn -/

namespace Turn

/-- That the hook of a turn was called and has finished in time with a result. -/
def Answered (t : Turn π) (r : InvocationResult π) : Prop :=
  ∃ call delay elapsed, t.call? = some call ∧ call.course = .finishes delay (.result r) ∧
    t.attempt = .finished (.result r) elapsed

/-- A turn that has a result has it from its hook. -/
theorem answered_of_attempt {t : Turn π} {r : InvocationResult π} {elapsed : UInt64}
    (h : t.attempt = .finished (.result r) elapsed) : t.Answered r := by
  cases hcall : t.call? with
  | none =>
    obtain ⟨e, hattempt⟩ := attempt_of_call?_eq_none hcall
    cases hattempt.symm.trans h
  | some call =>
    have hrace := (attempt_of_call? hcall).1.symm.trans h
    rcases hcourse : call.course with ⟨delay, answer⟩ | message | _
    · rw [hcourse, Course.race] at hrace
      split at hrace
      · cases hrace
        exact ⟨call, delay, _, hcall, hcourse, h⟩
      · cases hrace
    · rw [hcourse, Course.race] at hrace
      split at hrace <;> cases hrace
    · rw [hcourse] at hrace
      cases hrace

/-- A turn has one result at most. -/
theorem Answered.unique {t : Turn π} {r r' : InvocationResult π} {elapsed : UInt64}
    (h : t.Answered r) (h' : t.attempt = .finished (.result r') elapsed) : r = r' := by
  obtain ⟨call, delay, elapsed', -, -, hattempt⟩ := h
  cases hattempt.symm.trans h'
  rfl

/-- That the record of a turn says what has come of it.  A record tells of an action just if it tells of
a success, and it tells of success or failure just if the hook has finished in time and has reported so.
Then it tells what the result was.  Of anything else it tells one message. -/
structure IsTold (t : Turn π) : Prop where
  action_iff : t.record.action.isSome = true ↔ t.record.status = .success
  success_iff : t.record.status = .success ↔ ∃ r, t.Answered r ∧ r.status = .success
  failure_iff : t.record.status = .failure ↔ ∃ r, t.Answered r ∧ r.status = .failure
  ofSuccess : ∀ r, t.Answered r → r.status = .success →
    t.record.TellsSuccess r t.setup.rejectAllowed
  ofFailure : ∀ r, t.Answered r → r.status = .failure → t.record.messages = r.messages
  ofOthers : t.record.status ≠ .success → t.record.status ≠ .failure →
    ∃ text, t.record.messages = { message := some text }

/-- **Every record says what has come of its turn.** -/
theorem isTold (t : Turn π) : t.IsTold := by
  rcases t.attempt.record_cases t.setup.rejectAllowed t.hook with
    ⟨r, elapsed, hattempt, hstatus, hrecord⟩ | ⟨r, elapsed, hattempt, hstatus, hrecord⟩ |
      ⟨hnone, status, text, hsuccess, hfailure, hrecord⟩
  · have hanswered : t.Answered r := answered_of_attempt hattempt
    have hrecorded : t.record.status = .success := congrArg HookOutcome.status hrecord
    have hnever : ∀ r', t.Answered r' → r'.status ≠ .failure := by
      intro r' hanswered' hstatus'
      cases hanswered'.unique hattempt
      cases hstatus.symm.trans hstatus'
    refine ⟨?_, ?_, ?_, ?_, ?_, ?_⟩
    · rw [show t.record.action = some r.action from congrArg HookOutcome.action hrecord]
      exact iff_of_true rfl hrecorded
    · exact iff_of_true hrecorded ⟨r, hanswered, hstatus⟩
    · refine iff_of_false (by rw [hrecorded]; exact nofun) ?_
      exact fun ⟨r', hanswered', hstatus'⟩ => hnever r' hanswered' hstatus'
    · intro r' hanswered' _
      cases hanswered'.unique hattempt
      exact HookOutcome.tellsSuccess_of_eq hrecord
    · exact fun r' hanswered' hstatus' => absurd hstatus' (hnever r' hanswered')
    · exact fun hne _ => absurd hrecorded hne
  · have hanswered : t.Answered r := answered_of_attempt hattempt
    have hrecorded : t.record.status = .failure := congrArg HookOutcome.status hrecord
    have hne : t.record.status ≠ .success := by
      rw [hrecorded]
      exact nofun
    have hnever : ∀ r', t.Answered r' → r'.status ≠ .success := by
      intro r' hanswered' hstatus'
      cases hanswered'.unique hattempt
      cases hstatus.symm.trans hstatus'
    refine ⟨?_, ?_, ?_, ?_, ?_, ?_⟩
    · rw [show t.record.action = none from congrArg HookOutcome.action hrecord]
      exact iff_of_false nofun hne
    · exact iff_of_false hne fun ⟨r', hanswered', hstatus'⟩ => hnever r' hanswered' hstatus'
    · exact iff_of_true hrecorded ⟨r, hanswered, hstatus⟩
    · exact fun r' hanswered' hstatus' => absurd hstatus' (hnever r' hanswered')
    · intro r' hanswered' _
      cases hanswered'.unique hattempt
      exact congrArg HookOutcome.messages hrecord
    · exact fun _ hfailure => absurd hrecorded hfailure
  · have hnever : ∀ r, ¬t.Answered r := by
      rintro r ⟨call, delay, elapsed, -, -, hattempt⟩
      rw [hattempt] at hnone
      cases hnone
    have hrecorded : t.record.status = status := congrArg HookOutcome.status hrecord
    rw [← hrecorded] at hsuccess hfailure
    refine ⟨?_, ?_, ?_, ?_, ?_, ?_⟩
    · rw [show t.record.action = none from congrArg HookOutcome.action hrecord]
      exact iff_of_false nofun hsuccess
    · exact iff_of_false hsuccess fun ⟨r, hanswered, _⟩ => hnever r hanswered
    · exact iff_of_false hfailure fun ⟨r, hanswered, _⟩ => hnever r hanswered
    · exact fun r hanswered => absurd hanswered (hnever r)
    · exact fun r hanswered => absurd hanswered (hnever r)
    · exact fun _ _ => ⟨text, congrArg HookOutcome.messages hrecord⟩

end Turn

/-! ## From the records to the run -/

/-- That a record tells of no change: neither of an update nor of a rejection. -/
def HookOutcome.ChangesNothing (o : HookOutcome) : Prop :=
  o.action ≠ some .update ∧ o.action ≠ some .reject

instance (o : HookOutcome) : Decidable o.ChangesNothing := inferInstanceAs (Decidable (_ ∧ _))

/-- A turn whose record tells of no change has made none. -/
theorem Turn.of_changesNothing {t : Turn π} (h : t.record.ChangesNothing) :
    t.replacement? = none ∧ t.ends = false := by
  rcases t.attempt.record_cases t.setup.rejectAllowed t.hook with
    ⟨r, elapsed, hattempt, hstatus, hrecord⟩ | ⟨r, elapsed, hattempt, hstatus, hrecord⟩ |
      ⟨hnone, -⟩
  · have haction : t.record.action = some r.action := congrArg HookOutcome.action hrecord
    have hidle : r.action = .noAction := by
      rw [HookOutcome.ChangesNothing, haction] at h
      cases hr : r.action with
      | noAction => rfl
      | update => exact absurd (congrArg some hr) h.1
      | reject => exact absurd (congrArg some hr) h.2
    obtain ⟨hreject, hpayload⟩ := InvocationResult.action_eq_noAction_iff.1 hidle
    have hnone : r.payload = none := by simpa using hpayload
    simp [replacement?, Attempt.replacement?, ends, Attempt.rejects, Attempt.result?, hattempt,
      hreject, hnone]
  · simp [replacement?, Attempt.replacement?, ends, Attempt.rejects, Attempt.result?, hattempt,
      InvocationResult.isSuccess, hstatus]
  · simp [replacement?, Attempt.replacement?, ends, Attempt.rejects, hnone]

namespace RunSetup

variable {setup : RunSetup π}

/-- A passage whose records tell of no change has made none. -/
theorem passage_of_changesNothing {slots : List Slot} {payload : π} {scene : Scene π}
    {rejectedBy : Option HookId}
    (hending : (setup.passage slots payload scene).ending = .ok rejectedBy)
    (h : ∀ t ∈ (setup.passage slots payload scene).turns, t.record.ChangesNothing) :
    (setup.passage slots payload scene).payload = payload ∧ rejectedBy = none := by
  constructor
  · have hleft : ∀ t : Turn π, t.payloadAfter = t.replacement?.getD t.payload := fun _ => rfl
    rw [(setup.payloads_passage slots payload scene).eq_latest hleft, latest,
      List.filterMap_eq_nil_iff.2 fun t ht => (Turn.of_changesNothing (h t ht)).1]
    rfl
  · cases rejectedBy with
    | none => rfl
    | some hook =>
      obtain ⟨earlier, last, hturns, -, hlast, -⟩ := exists_last_of_rejected hending
      have hmem : last ∈ (setup.passage slots payload scene).turns := by
        rw [hturns]
        exact List.mem_append_right _ List.mem_cons_self
      cases hlast.symm.trans (Turn.of_changesNothing (h last hmem)).2

theorem runGroups_of_changesNothing {groups : List HookGroup} {payload payload' : π}
    {scene after : Scene π} {rejectedBy : Option HookId} {outcomes : List GroupOutcome}
    (hrun : setup.runGroups groups payload scene = (.ok (payload', rejectedBy, outcomes), after))
    (h : ∀ o ∈ outcomes.flatMap GroupOutcome.hooks, o.ChangesNothing) :
    payload' = payload ∧ rejectedBy = none := by
  obtain ⟨hending, rfl, hrecords, -⟩ := runGroups_eq_ok hrun
  refine passage_of_changesNothing hending fun t ht => h _ ?_
  rw [hrecords]
  exact List.mem_map_of_mem ht

end RunSetup

namespace Session

variable {s after : Session π} {step : SessionStep π} {answer : SessionAnswer π}
  {payload : π} {rejectedBy : Option HookId} {outcomes : List GroupOutcome}

/-- **The records of a run are true, and there are enough of them.**  Whatever is run, a group by itself,
a stage or a stage of the engine, its records are those of the turns that account for it, and every
record says what has come of its turn.  If none of them tells of an update or of a rejection, the run
has left the payload as it was, and has not rejected the request. -/
theorem step_records (h : s.step step = (answer, after))
    (hsummary : answer.summary? = some (payload, rejectedBy, outcomes)) :
    ∃ task turns scene, s.task? step = some task ∧
      task.setup.Account turns s.payload payload s.scene scene ∧
      outcomes.flatMap GroupOutcome.hooks = turns.map Turn.record ∧
      (∀ t ∈ turns, t.IsTold) ∧
      ((∀ o ∈ outcomes.flatMap GroupOutcome.hooks, o.ChangesNothing) →
        payload = s.payload ∧ rejectedBy = none) := by
  rcases step_cases h with ⟨task, _, _, _, scene, htask, hrun, htold, -⟩ | ⟨hnone, -⟩
  · cases htold.symm.trans hsummary
    obtain ⟨-, hpayload, hrecords, -⟩ := RunSetup.runGroups_eq_ok hrun
    have haccount :=
      task.setup.account_passage (task.groups.flatMap HookGroup.slots) s.payload s.scene
    rw [← hpayload] at haccount
    exact ⟨task, _, _, htask, haccount, hrecords, fun t _ => t.isTold,
      RunSetup.runGroups_of_changesNothing hrun⟩
  · cases hnone.symm.trans hsummary

/-- A setup in which the code of a module says what its hooks do, with a hook for each way in which a
record is made; none may reject. -/
def gallery : RunSetup Nat where
  provider hook :=
    if hook.moduleCode = "gone" then .error (.hookNotFound hook)
    else .ok ⟨hook.hookCode, fun _ bid _ =>
      if hook.moduleCode = "idle" then .hangs
      else if hook.moduleCode = "frail" then .collapses none
      else if hook.moduleCode = "mute" then .finishes 1 .nothing
      else if hook.moduleCode = "sour" then
        .finishes 1 (.result { status := .failure, payload := some 7, reject := true })
      else if hook.moduleCode = "meek" then .finishes 1 (.result {})
      else if hook.moduleCode = "keen" then .finishes 1 (.result { payload := some (bid + 1) })
      else .finishes 1 (.result
        { payload := some (bid + 1), reject := true, messages := { warnings := ["dear"] } })⟩
  invocations := .atEndpoint "/auction"
  rejectAllowed := false

def onlookers : List HookId :=
  ["gone", "idle", "frail", "mute", "sour", "meek"].map fun moduleCode => ⟨moduleCode, "a"⟩

/-- The hook that asks for a rejection has a record that says so, and a warning; without it and the one
that raises the bid, the bid stays as it was. -/
theorem step_records_gallery :
    (∃ answer after payload outcomes,
      (Session.mk default default {} 0).step
          (.group gallery ⟨5, onlookers ++ [⟨"keen", "a"⟩, ⟨"stern", "a"⟩]⟩) = (answer, after) ∧
        answer.summary? = some (payload, none, outcomes) ∧ payload = 2 ∧
        (outcomes.flatMap GroupOutcome.hooks).map (fun o => (o.status, o.action)) =
          [(.providerResolutionFailure, none), (.timeout, none), (.invocationFault, none),
            (.nullResult, none), (.failure, none), (.success, some .noAction),
            (.success, some .update), (.success, some .reject)] ∧
        (outcomes.flatMap GroupOutcome.hooks).getLast?.map (·.messages.warnings) =
          some ["dear", rejectNotAllowed] ∧
        ∃ turns : List (Turn Nat), outcomes.flatMap GroupOutcome.hooks = turns.map Turn.record ∧
          ∀ t ∈ turns, t.IsTold) ∧
      ∃ answer after payload rejectedBy outcomes,
        (Session.mk default default {} 0).step (.group gallery ⟨5, onlookers⟩) = (answer, after) ∧
          answer.summary? = some (payload, rejectedBy, outcomes) ∧ payload = 0 ∧
          rejectedBy = none := by
  obtain ⟨result, after, hstep, hrejected, hpayload, hkinds, hlast⟩ : ∃ result after,
      (Session.mk default default {} 0).step
          (.group gallery ⟨5, onlookers ++ [⟨"keen", "a"⟩, ⟨"stern", "a"⟩]⟩) =
        (.group result, after) ∧
      result.rejectedBy = none ∧ result.payload = 2 ∧
      result.outcomes.map (fun o => (o.status, o.action)) =
        [(.providerResolutionFailure, none), (.timeout, none), (.invocationFault, none),
          (.nullResult, none), (.failure, none), (.success, some .noAction),
          (.success, some .update), (.success, some .reject)] ∧
      result.outcomes.getLast?.map (·.messages.warnings) = some ["dear", rejectNotAllowed] :=
    ⟨_, _, rfl, rfl, rfl, rfl, rfl⟩
  obtain ⟨quiet, after', hquiet, hnothing⟩ : ∃ result after,
      (Session.mk default default {} 0).step (.group gallery ⟨5, onlookers⟩) =
        (.group result, after) ∧
      ∀ o ∈ result.outcomes, o.ChangesNothing :=
    ⟨_, _, rfl, by decide⟩
  have hall : [result.toOutcome].flatMap GroupOutcome.hooks = result.outcomes :=
    List.flatMap_singleton ..
  have hall' : [quiet.toOutcome].flatMap GroupOutcome.hooks = quiet.outcomes :=
    List.flatMap_singleton ..
  constructor
  · obtain ⟨-, turns, -, -, -, hrecords, htold, -⟩ := step_records hstep rfl
    refine ⟨_, after, result.payload, [result.toOutcome], hstep, ?_, hpayload, ?_, ?_, turns,
      hrecords, htold⟩
    · rw [← hrejected]
      rfl
    · rw [hall]
      exact hkinds
    · rw [hall]
      exact hlast
  · obtain ⟨-, -, -, -, -, -, -, hunchanged⟩ := step_records hquiet rfl
    rw [hall'] at hunchanged
    obtain ⟨hpayload', hrejected'⟩ := hunchanged hnothing
    exact ⟨_, after', _, _, _, hquiet, rfl, hpayload', hrejected'⟩

/-! ## The life of a request -/

/-- A step whose records tell of no change leaves the payload, whether it succeeds or not. -/
theorem payload_step_of_changesNothing (h : s.step step = (answer, after))
    (hnothing : ∀ o ∈ answer.groupOutcomes.flatMap GroupOutcome.hooks, o.ChangesNothing) :
    after.payload = s.payload := by
  rcases step_cases h with ⟨task, _, _, _, scene, -, hrun, hsummary, hpayload⟩ | ⟨-, hpayload⟩
  · rw [(SessionAnswer.groupOutcomes_of_summary? hsummary).1] at hnothing
    exact hpayload.trans (RunSetup.runGroups_of_changesNothing hrun hnothing).1
  · exact hpayload

/-- **Nothing happens to a payload without a record of it**, all through the life of a request. -/
theorem payload_steps_of_changesNothing (s : Session π) (steps : List (SessionStep π))
    (hnothing : ∀ answer ∈ (s.steps steps).1,
      ∀ o ∈ answer.groupOutcomes.flatMap GroupOutcome.hooks, o.ChangesNothing) :
    (s.steps steps).2.payload = s.payload := by
  induction steps generalizing s with
  | nil => rfl
  | cons first rest ih =>
    have hrest := ih (s.step first).2 fun answer hmem =>
      hnothing answer (List.mem_cons_of_mem _ hmem)
    exact hrest.trans (payload_step_of_changesNothing rfl (hnothing _ List.mem_cons_self))

end Session

end AuctionHooks
