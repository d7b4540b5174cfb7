import AuctionHooks.Proofs.Muted
import AuctionHooks.Proofs.AttemptRecordLaw
import AuctionHooks.Proofs.Repetition

/-!
# Wishes that cannot be granted

At the last stages of a request there is nothing left to reject.  A hook may still ask for it, and what
becomes of that is put down: its record tells of a rejection and carries a warning.  But nothing else
comes of it.  Unless there is nothing to run hooks on at all, every group runs, and in every group each
hook that is switched on; and no one can tell, from what the hooks were given or from what is left,
whether any of them has asked.

## Two runs

To say so, one run is compared with another in which some of the wishes are withdrawn
(`RunSetup.withdraw`).  As everywhere, a call is named by its hook and by how often the hook was called
before, so `Withdrawals` stands for any set of calls.  Only the wish is withdrawn: the result is the same
otherwise, it takes the same time, and calls that have no result or do not ask for anything are as they
were.

The wish could have an influence in five places, on the action, the warnings, the rejection and the end
of two loops.  The last three come down to one, the question whether a turn ends its run (`Turn.ends`),
and where rejections are not allowed none does.  The first two make up the record
(`Attempt.record_of_withdrawn`), and no run reads its own records.

## Main statement

`RunSetup.runStage_withdraw`.  The scenes of the two runs show the same all along (`Scene.muted`), so the
calls of both begin at the same times, with the same payloads and under the same circumstances.
-/

namespace AuctionHooks

variable {π : Type}

/-! ## Withdrawing wishes -/

/-- The calls whose wish to reject the request is withdrawn.  A call is named by its hook and by how
often the hook was called before. -/
abbrev Withdrawals := HookId → Nat → Bool

/-- A result without its wish to reject the request, if that is withdrawn. -/
def InvocationResult.withdraw (withdrawn : Bool) (r : InvocationResult π) : InvocationResult π :=
  { r with reject := r.reject && !withdrawn }

def Answer.withdraw (withdrawn : Bool) : Answer π → Answer π
  | .result r => .result (r.withdraw withdrawn)
  | .nothing => .nothing
  | .error e => .error e
  | .panic message => .panic message

def Course.withdraw (withdrawn : Bool) : Course π → Course π
  | .finishes delay answer => .finishes delay (answer.withdraw withdrawn)
  | .collapses message => .collapses message
  | .hangs => .hangs

def Attempt.withdraw (withdrawn : Bool) : Attempt π → Attempt π
  | .unresolved e => .unresolved e
  | .finished answer elapsed => .finished (answer.withdraw withdrawn) elapsed
  | .timedOut timeout elapsed => .timedOut timeout elapsed

/-- A hook without some of its wishes. -/
def Hook.withdraw (w : Withdrawals) (id : HookId) (hook : Hook π) : Hook π :=
  { hook with
    course := fun n payload invocation => (hook.course n payload invocation).withdraw (w id n) }

def RunSetup.withdraw (setup : RunSetup π) (w : Withdrawals) : RunSetup π :=
  { setup with provider := fun id => (setup.provider id).map (Hook.withdraw w id) }

/-- Without its wish a call races as before. -/
theorem Course.race_withdraw (withdrawn : Bool) (timeout : UInt64) (course : Course π) :
    (course.withdraw withdrawn).race timeout =
      Prod.map (Option.map (Answer.withdraw withdrawn)) id (course.race timeout) := by
  cases course with
  | finishes delay answer =>
    rw [withdraw, race, race]
    split
    · rfl
    · rfl
  | collapses message =>
    rw [withdraw, race]
    split
    · rfl
    · rfl
  | hangs => rfl

namespace Attempt

/-- An attempt whose race ends without the wish ends without the wish. -/
theorem ofRace_withdraw (withdrawn : Bool) (timeout : UInt64)
    (race : Option (Answer π) × UInt64) :
    ofRace timeout (Prod.map (Option.map (Answer.withdraw withdrawn)) id race) =
      (ofRace timeout race).withdraw withdrawn := by
  rcases race with ⟨_ | answer, elapsed⟩
  · rfl
  · rfl

theorem result?_withdraw (withdrawn : Bool) (a : Attempt π) :
    (a.withdraw withdrawn).result? = a.result?.map (InvocationResult.withdraw withdrawn) := by
  match a with
  | .unresolved e => rfl
  | .finished (.result r) elapsed => rfl
  | .finished .nothing elapsed => rfl
  | .finished (.error e) elapsed => rfl
  | .finished (.panic message) elapsed => rfl
  | .timedOut timeout elapsed => rfl

/-- The payload that an attempt puts in place of the current one does not depend on the wish. -/
theorem replacement?_withdraw (withdrawn : Bool) (a : Attempt π) :
    (a.withdraw withdrawn).replacement? = a.replacement? := by
  rw [replacement?, replacement?, result?_withdraw]
  cases a.result? <;> rfl

/-- Nor does what the module keeps. -/
theorem returned?_withdraw (withdrawn : Bool) (a : Attempt π) :
    (a.withdraw withdrawn).returned? = a.returned? := by
  rw [returned?, returned?, result?_withdraw]
  cases a.result? <;> rfl

end Attempt

/-! ## What the wish does to the record -/

/-- A record that tells of a rejection besides, and warns that there is none. -/
def HookOutcome.withWish (o : HookOutcome) : HookOutcome :=
  { o with
    action := some .reject
    messages := { o.messages with warnings := o.messages.warnings ++ [rejectNotAllowed] } }

namespace Attempt

/-- **A wish that cannot be granted shows in the record**, which tells of it in two places.  Without the
wish the record tells of what the hook has done otherwise. -/
theorem record_of_withdrawn {a : Attempt π} (h : a.rejects = true) (hook : HookId) :
    a.record false hook = ((a.withdraw true).record false hook).withWish ∧
      ((a.withdraw true).record false hook).status = .success ∧
      ((a.withdraw true).record false hook).action =
        some (if a.replacement?.isSome then .update else .noAction) := by
  obtain ⟨r, elapsed, rfl, hstatus, hreject⟩ := rejects_iff.1 h
  have haction : r.action = .reject := InvocationResult.action_eq_reject_iff.2 hreject
  simp [record, withdraw, Answer.withdraw, InvocationResult.withdraw, HookOutcome.withWish,
    InvocationResult.withWarning, InvocationResult.action, replacement?, result?,
    InvocationResult.isSuccess, hstatus, hreject]

/-- Where there is no wish, or none that counts, nothing can be withdrawn from the record. -/
theorem record_withdraw_of_not {a : Attempt π} {withdrawn : Bool}
    (h : ¬(withdrawn = true ∧ a.rejects = true)) (rejectAllowed : Bool) (hook : HookId) :
    (a.withdraw withdrawn).record rejectAllowed hook = a.record rejectAllowed hook := by
  match a with
  | .finished (.result r) elapsed =>
    cases hstatus : r.status with
    | failure => simp [record, withdraw, Answer.withdraw, InvocationResult.withdraw, hstatus]
    | success =>
      have hnone : (r.reject && !withdrawn) = r.reject := by
        cases withdrawn with
        | false => simp
        | true =>
          have hreject : ¬r.reject = true := fun hr =>
            h ⟨rfl, rejects_iff.2 ⟨r, elapsed, rfl, hstatus, hr⟩⟩
          simp [hreject]
      have hsame : r.withdraw withdrawn = r := by
        rw [InvocationResult.withdraw, hnone]
      rw [withdraw, Answer.withdraw, hsame]
  | .unresolved e => rfl
  | .finished .nothing elapsed => rfl
  | .finished (.error e) elapsed => rfl
  | .finished (.panic message) elapsed => rfl
  | .timedOut timeout elapsed => rfl

end Attempt

namespace Turn

/-- That the hook of a turn has reported success and asked for rejection, and its wish is
withdrawn. -/
def Withdraws (w : Withdrawals) (t : Turn π) : Prop :=
  w t.hook (t.before.timeline.callsOf t.hook) = true ∧
    ∃ r elapsed, t.attempt = .finished (.result r) elapsed ∧ r.status = .success ∧
      r.reject = true

/-- That a record is that of a turn, but for the wish if it is withdrawn.  If it is, the record of the
turn tells of a rejection in place of what the hook has done otherwise, and has one more warning behind
the others. -/
structure RecordedWithout (w : Withdrawals) (t : Turn π) (o : HookOutcome) : Prop where
  ofWithdrawn : t.Withdraws w → t.record = o.withWish ∧ o.status = .success ∧
    o.action = some (if t.replacement?.isSome then .update else .noAction)
  ofOthers : ¬t.Withdraws w → o = t.record

end Turn

namespace RunSetup

variable {setup : RunSetup π} {w : Withdrawals}

/-! ## A turn without the wish -/

theorem provider_withdraw (setup : RunSetup π) (w : Withdrawals) (id : HookId) :
    (setup.withdraw w).provider id = (setup.provider id).map (Hook.withdraw w id) := rfl

theorem call?_withdraw (setup : RunSetup π) (w : Withdrawals) (slot : Slot) (payload : π)
    (scene : Scene π) :
    (setup.withdraw w).call? slot payload scene =
      (setup.call? slot payload scene).map fun call =>
        { call with
          course := call.course.withdraw (w slot.hook (scene.timeline.callsOf slot.hook)) } := by
  rw [call?, call?, provider_withdraw]
  cases setup.provider slot.hook <;> rfl

/-- An attempt that is stopped is stopped without the wishes, too. -/
theorem takeTurn_withdraw_of_error {slot : Slot} {payload : π} {scene scene' : Scene π}
    {e : EngineError} (hscene : scene'.muted = scene.muted)
    (h : setup.takeTurn slot payload scene = .error e) :
    (setup.withdraw w).takeTurn slot payload scene' = .error e := by
  refine takeTurn_error_of_muted hscene ?_ h
  rw [call?_withdraw, Option.isSome_map]

/-- An attempt that is made ends without the wishes as it does with them, its own wish apart, and leaves
a scene that shows the same. -/
theorem exists_attempt_withdraw (w : Withdrawals) {t : Turn π} {scene' : Scene π}
    (hscene : scene'.muted = t.before.muted) :
    ∃ after', (t.setup.withdraw w).attempt t.timeout t.hook t.payload scene' =
        (.ok (t.attempt.withdraw (w t.hook (t.before.timeline.callsOf t.hook))), after') ∧
      after'.muted = t.after.muted := by
  rcases t.cases_call? with ⟨e, hp, -, hattempt, hafter⟩ | ⟨call, hc, ho, hattempt, -⟩
  · have hp' : (t.setup.withdraw w).provider t.hook = .error e := by
      rw [provider_withdraw, hp]
      rfl
    rw [hattempt, hafter]
    exact ⟨scene', (attempt_of_error hp').2, hscene⟩
  · have hc' := t.setup.call?_withdraw w t.toSlot t.payload scene'
    rw [call?_eq_of_muted hscene t.setup, Scene.callsOf_eq_of_muted hscene] at hc'
    have hcall := hc'.trans (congrArg (Option.map _) hc)
    rw [← Scene.runtime_eq_of_muted hscene] at ho
    have hmade := attempt_of_ready hcall ho
    -- The race of the call is the old one but for the wish, and so is what comes of it.
    rw [Course.race_withdraw, Attempt.ofRace_withdraw, ← hattempt] at hmade
    refine ⟨_, hmade, Turn.muted_after hscene hc rfl ?_ (Attempt.returned?_withdraw _ _)⟩
    rw [Course.race_withdraw]
    rfl

end RunSetup

/-! ## A run without the wishes -/

/-- That a second passage comes to what a first one has come to, without some of the wishes. -/
structure Passage.SameWithout (w : Withdrawals) (p q : Passage π) : Prop where
  ending : q.ending = p.ending
  payload : q.payload = p.payload
  scene : q.scene.muted = p.scene.muted
  records : List.Forall₂ (Turn.RecordedWithout w) p.turns (q.turns.map Turn.record)

namespace RunSetup

variable {setup : RunSetup π} {w : Withdrawals}

/-- A turn that may not end its run is taken without the wish as well, and does to the run what it does
with the wish. -/
theorem exists_takeTurn_withdraw (w : Withdrawals) {t : Turn π} {scene' : Scene π}
    (hallowed : t.setup.rejectAllowed = false) (hscene : scene'.muted = t.before.muted) :
    ∃ t', (t.setup.withdraw w).takeTurn t.toSlot t.payload scene' = .ok t' ∧
      t'.ends = false ∧ t'.payloadAfter = t.payloadAfter ∧ t'.after.muted = t.after.muted ∧
      t.RecordedWithout w t'.record := by
  obtain ⟨after', hmade, hafter⟩ := exists_attempt_withdraw w hscene
  obtain ⟨t', ht', hattempt, rfl⟩ := exists_takeTurn hmade
  obtain ⟨hsetup, hslot, hpayload, -⟩ := eq_of_takeTurn ht'
  have hhook : t'.hook = t.hook := congrArg Slot.hook hslot
  have hallowed' : t'.setup.rejectAllowed = false := by
    rw [hsetup]
    exact hallowed
  have hreplacement : t'.replacement? = t.replacement? := by
    rw [Turn.replacement?, hattempt, Attempt.replacement?_withdraw]
    rfl
  refine ⟨t', ht', ?_, ?_, hafter, ?_, ?_⟩
  · rw [Turn.ends, hallowed', Bool.false_and]
  · rw [Turn.payloadAfter, Turn.payloadAfter, hreplacement, hpayload]
  · rintro ⟨hwithdrawn, hwish⟩
    have hrejects : t.attempt.rejects = true := Attempt.rejects_iff.2 hwish
    rw [Turn.record, Turn.record, hallowed, hallowed', hattempt, hhook, hwithdrawn]
    exact Attempt.record_of_withdrawn hrejects t.hook
  · intro hnot
    rw [Turn.record, Turn.record, hallowed, hallowed', hattempt, hhook]
    refine Attempt.record_withdraw_of_not (fun hboth => hnot ⟨hboth.1, ?_⟩) false t.hook
    exact Attempt.rejects_iff.1 hboth.2

/-- **Without wishes that cannot be granted a passage comes to the same.** -/
theorem passage_withdraw (hallowed : setup.rejectAllowed = false) (w : Withdrawals)
    (slots : List Slot) {payload : π} {scene scene' : Scene π}
    (hscene : scene'.muted = scene.muted) :
    (setup.passage slots payload scene).SameWithout w
      ((setup.withdraw w).passage slots payload scene') := by
  induction slots generalizing payload scene scene' with
  | nil => exact ⟨rfl, rfl, hscene, .nil⟩
  | cons slot rest ih =>
    have hsame : (setup.withdraw w).passesOver slot = setup.passesOver slot := rfl
    cases hover : setup.passesOver slot with
    | true =>
      rw [passage_cons_of_passesOver hover, passage_cons_of_passesOver (hsame.trans hover)]
      exact ih hscene
    | false =>
      have hover' := hsame.trans hover
      cases ht : setup.takeTurn slot payload scene with
      | error e =>
        have ht' := takeTurn_withdraw_of_error (w := w) hscene ht
        rw [passage_cons_of_error hover ht, passage_cons_of_error hover' ht']
        exact ⟨rfl, rfl, hscene, .nil⟩
      | ok t =>
        obtain ⟨rfl, rfl, rfl, rfl⟩ := eq_of_takeTurn ht
        obtain ⟨t', ht', hends', hpayload, hafter, hrecord⟩ :=
          exists_takeTurn_withdraw w hallowed hscene
        have hends : t.ends = false := by
          rw [Turn.ends, hallowed, Bool.false_and]
        have hrest : (t.setup.passage rest t.payloadAfter t.after).SameWithout w
            ((t.setup.withdraw w).passage rest t.payloadAfter t'.after) := ih hafter
        obtain ⟨hending, hleft, hscenes, hrecords⟩ := hrest
        rw [passage_cons_of_goesOn hover ht hends, passage_cons_of_goesOn hover' ht' hends',
          hpayload]
        exact ⟨hending, hleft, hscenes, .cons hrecord hrecords⟩

/-! ## Nothing is left out -/

/-- Where none may reject, a passage comes to the end of its line, or there is nothing to run hooks on
and it is stopped before anything has happened. -/
theorem ending_cases_of_not_rejectAllowed (setup : RunSetup π)
    (hallowed : setup.rejectAllowed = false) (slots : List Slot) (payload : π) (scene : Scene π) :
    (setup.passage slots payload scene).ending = .ok none ∨
      ∃ e, scene.timeline.runtime.obstacle? = some e ∧
        (setup.passage slots payload scene).ending = .error e ∧
        (setup.passage slots payload scene).scene = scene := by
  cases ho : scene.timeline.runtime.obstacle? with
  | none => exact .inl (setup.ending_of_not_rejectAllowed hallowed ho slots payload)
  | some e =>
    obtain ⟨-, hscene, ⟨hstopped, -⟩ | ⟨hdone, -⟩⟩ := setup.passage_of_obstacle ho slots payload
    · exact .inr ⟨e, rfl, hstopped, hscene⟩
    · exact .inl hdone

/-- Groups that come to their end where none may reject have run all of their switched-on hooks. -/
theorem hooks_of_runGroups (hallowed : setup.rejectAllowed = false) {groups : List HookGroup}
    {payload payload' : π} {scene after : Scene π} {rejectedBy : Option HookId}
    {outcomes : List GroupOutcome}
    (h : setup.runGroups groups payload scene = (.ok (payload', rejectedBy, outcomes), after)) :
    rejectedBy = none ∧
      outcomes.map (fun o => o.hooks.map HookOutcome.hook) = groups.map setup.hooksOn := by
  induction groups generalizing payload scene outcomes with
  | nil =>
    cases h
    exact ⟨rfl, rfl⟩
  | cons group rest ih =>
    obtain ⟨result, between, hgroup, hnext⟩ := runGroups_cons_eq_ok h
    obtain ⟨hending, -, houtcomes, -⟩ := runGroup_eq_ok hgroup
    have hdone : (setup.passage group.slots payload scene).ending = .ok none := by
      rcases setup.ending_cases_of_not_rejectAllowed hallowed group.slots payload scene with
        hdone | ⟨e, -, hstopped, -⟩
      · exact hdone
      · cases hstopped.symm.trans hending
    obtain ⟨unreached, hhooks, -, hnone⟩ := setup.exists_unreached_hooks group payload scene
    have hall : result.outcomes.map HookOutcome.hook = setup.hooksOn group := by
      rw [houtcomes, Turn.map_hook_record, hhooks, hnone hdone, List.append_nil]
    rcases hnext with ⟨hook, hrejected, -⟩ | ⟨-, outcomes', hrest, rfl⟩
    · rw [hrejected] at hending
      cases hdone.symm.trans hending
    · obtain ⟨hopen, hothers⟩ := ih hrest
      refine ⟨hopen, ?_⟩
      rw [List.map_cons, List.map_cons, hothers, ← hall]
      rfl

/-- **Where none may reject, nothing is left out.**  Groups come to their end with all of their
switched-on hooks run, or there is nothing to run hooks on and they leave the scene as it was. -/
theorem runGroups_of_not_rejectAllowed (setup : RunSetup π) (hallowed : setup.rejectAllowed = false)
    (groups : List HookGroup) (payload : π) (scene : Scene π) :
    (∃ e, scene.timeline.runtime.obstacle? = some e ∧
      (setup.passage (groups.flatMap HookGroup.slots) payload scene).ending = .error e ∧
      setup.runGroups groups payload scene = (.error e, scene)) ∨
    ∃ outcomes,
      (setup.passage (groups.flatMap HookGroup.slots) payload scene).ending = .ok none ∧
      setup.runGroups groups payload scene =
        (.ok ((setup.passage (groups.flatMap HookGroup.slots) payload scene).payload, none,
          outcomes), (setup.passage (groups.flatMap HookGroup.slots) payload scene).scene) ∧
      outcomes.flatMap GroupOutcome.hooks =
        (setup.passage (groups.flatMap HookGroup.slots) payload scene).turns.map Turn.record ∧
      outcomes.map (fun o => o.hooks.map HookOutcome.hook) = groups.map setup.hooksOn := by
  rcases setup.ending_cases_of_not_rejectAllowed hallowed (groups.flatMap HookGroup.slots) payload
      scene with hdone | ⟨e, ho, hstopped, hscene⟩
  · obtain ⟨outcomes, hrun, hrecords⟩ := exists_runGroups_of_ending_ok hdone
    exact .inr ⟨outcomes, hdone, hrun, hrecords, (hooks_of_runGroups hallowed hrun).2⟩
  · have hrun := runGroups_of_ending_error hstopped
    rw [hscene] at hrun
    exact .inl ⟨e, ho, hstopped, hrun⟩

/-- That a stage has left nothing out: it has run every group, has made a record in it for each of its
switched-on hooks in their order, and has not rejected the request. -/
structure RunsAll (setup : RunSetup π) (groups : List HookGroup) (result : StageResult π) : Prop where
  hooks : result.outcome.groups.map (fun o => o.hooks.map HookOutcome.hook) =
    groups.map setup.hooksOn
  rejectedBy : result.rejectedBy = none

/-- **A wish to reject that cannot be granted comes to nothing.**  At a stage where no hook may reject,
let any of the wishes be withdrawn.  If there is nothing to run hooks on, the stage is stopped as before,
with and without the wishes, before it has done anything.  Otherwise both runs come to their end.  Both
run every group and in it every switched-on hook, and neither rejects the request; they leave the same
payload, the modules keep the same, and the same calls begin, at the same times, with the same payloads
and under the same circumstances.  They have the same records for the same attempts, save for those whose
wish was withdrawn: these differ in the action, and by the warning at the end. -/
theorem runStage_withdraw (setup : RunSetup π) {stage : Stage} (hstage : stage.rejectAllowed = false)
    (w : Withdrawals) (entity : String) (groups : List HookGroup) (payload : π) (scene : Scene π) :
    (∃ e, scene.timeline.runtime.obstacle? = some e ∧
      setup.runStage stage entity groups payload scene = (.error e, scene) ∧
      (setup.withdraw w).runStage stage entity groups payload scene = (.error e, scene)) ∨
    ∃ result result' after after' turns between,
      setup.runStage stage entity groups payload scene = (.ok result, after) ∧
      (setup.withdraw w).runStage stage entity groups payload scene = (.ok result', after') ∧
      setup.RunsAll groups result ∧ setup.RunsAll groups result' ∧
      result'.payload = result.payload ∧ after'.request.kept = after.request.kept ∧
      after'.timeline.muted = after.timeline.muted ∧
      (setup.atStage stage).Account turns payload result.payload scene between ∧
      result.outcome.hookOutcomes = turns.map Turn.record ∧
      List.Forall₂ (Turn.RecordedWithout w) turns result'.outcome.hookOutcomes := by
  have hallowed : (setup.atStage stage).rejectAllowed = false := hstage
  have hallowed' : ((setup.withdraw w).atStage stage).rejectAllowed = false := hstage
  obtain ⟨hending, hpayload, hscene, hrecorded⟩ :
      ((setup.atStage stage).passage (groups.flatMap HookGroup.slots) payload scene).SameWithout w
        (((setup.withdraw w).atStage stage).passage (groups.flatMap HookGroup.slots) payload
          scene) :=
    passage_withdraw hallowed w (groups.flatMap HookGroup.slots) rfl
  rcases (setup.atStage stage).runGroups_of_not_rejectAllowed hallowed groups payload scene with
    ⟨e, ho, hstopped, hrun⟩ | ⟨outcomes, hdone, hrun, hrecords, hall⟩
  · rcases ((setup.withdraw w).atStage stage).runGroups_of_not_rejectAllowed hallowed' groups payload
        scene with ⟨e', -, hstopped', hrun'⟩ | ⟨-, hdone', -⟩
    · cases hstopped.symm.trans (hending.symm.trans hstopped')
      exact .inl ⟨e, ho, runStage_of_error hrun entity, runStage_of_error hrun' entity⟩
    · cases hstopped.symm.trans (hending.symm.trans hdone')
  · rcases ((setup.withdraw w).atStage stage).runGroups_of_not_rejectAllowed hallowed' groups payload
        scene with ⟨e', -, hstopped', -⟩ | ⟨outcomes', -, hrun', hrecords', hall'⟩
    · cases hdone.symm.trans (hending.symm.trans hstopped')
    · obtain ⟨hrequest, htimeline⟩ := Scene.muted_eq_iff.1 hscene
      have hkept := congrArg Request.kept hrequest
      have haccount := (setup.atStage stage).account_passage (groups.flatMap HookGroup.slots)
        payload scene
      rw [← hrecords'] at hrecorded
      exact .inr ⟨_, _, _, _, _, _, runStage_of_ok hrun entity, runStage_of_ok hrun' entity,
        ⟨hall, rfl⟩, ⟨hall', rfl⟩, hpayload, hkept, htimeline, haccount, hrecords, hrecorded⟩

/-- A setup in which the code of a module says what its hooks do with the bid: one raises it and asks
for rejection, one only asks, one fails and asks all the same, one is too late to ask, one raises the bid
tenfold. -/
def pleaders : RunSetup Nat where
  provider hook :=
    .ok ⟨hook.hookCode, fun _ bid _ =>
      if hook.moduleCode = "stern" then
        .finishes 1 (.result
          { payload := some (bid + 1), reject := true, messages := { warnings := ["dear"] } })
      else if hook.moduleCode = "plain" then .finishes 2 (.result { reject := true })
      else if hook.moduleCode = "sour" then
        .finishes 1 (.result { status := .failure, payload := some 999, reject := true })
      else if hook.moduleCode = "late" then .finishes 9 (.result { reject := true })
      else .finishes 3 (.result { payload := some (10 * bid) })⟩
  invocations := .atEndpoint "/auction"
  switches := Table.ofList [("off", false)]

/-- Three groups in which nearly everyone asks for rejection. -/
def pleaderGroups : List HookGroup :=
  [⟨5, [⟨"stern", "a"⟩, ⟨"sour", "a"⟩, ⟨"stern", "a"⟩]⟩,
   ⟨4, [⟨"off", "a"⟩, ⟨"late", "a"⟩, ⟨"plain", "a"⟩]⟩,
   ⟨5, [⟨"keen", "a"⟩, ⟨"stern", "b"⟩]⟩]

/-- Withdrawn is the second wish of the hook that asks twice, that of the one that only asks, and those
that do not count. -/
def pleaderWithdrawals : Withdrawals := fun hook n =>
  hook = ⟨"stern", "a"⟩ && n = 1 || ["plain", "sour", "late"].contains hook.moduleCode

/-- With their wishes and without them, all of the hooks run and the bid is raised alike; in the records
two rejections have become an update and nothing, and two warnings are gone. -/
theorem runStage_withdraw_pleaders :
    Stage.exitpoint.rejectAllowed = false ∧
    ∃ result result' after after',
      pleaders.runStage .exitpoint "auction" pleaderGroups 7 default = (.ok result, after) ∧
      (pleaders.withdraw pleaderWithdrawals).runStage .exitpoint "auction" pleaderGroups 7 default =
        (.ok result', after') ∧
      result.payload = 91 ∧ result'.payload = result.payload ∧
      pleaders.RunsAll pleaderGroups result ∧ pleaders.RunsAll pleaderGroups result' ∧
      after'.timeline.muted = after.timeline.muted ∧
      result.outcome.hookOutcomes.map (fun o => (o.action, o.messages.warnings.length)) =
        [(some .reject, 2), (none, 0), (some .reject, 2), (none, 0), (some .reject, 1),
          (some .update, 0), (some .reject, 2)] ∧
      result'.outcome.hookOutcomes.map (fun o => (o.action, o.messages.warnings.length)) =
        [(some .reject, 2), (none, 0), (some .update, 1), (none, 0), (some .noAction, 0),
          (some .update, 0), (some .reject, 2)] := by
  have hstage : Stage.exitpoint.rejectAllowed = false := rfl
  obtain ⟨result, after, hrun, hbid, htold⟩ : ∃ result after,
      pleaders.runStage .exitpoint "auction" pleaderGroups 7 default = (.ok result, after) ∧
      result.payload = 91 ∧
      result.outcome.hookOutcomes.map (fun o => (o.action, o.messages.warnings.length)) =
        [(some .reject, 2), (none, 0), (some .reject, 2), (none, 0), (some .reject, 1),
          (some .update, 0), (some .reject, 2)] :=
    ⟨_, _, rfl, rfl, rfl⟩
  obtain ⟨result', after', hrun', htold'⟩ : ∃ result after,
      (pleaders.withdraw pleaderWithdrawals).runStage .exitpoint "auction" pleaderGroups 7 default =
        (.ok result, after) ∧
      result.outcome.hookOutcomes.map (fun o => (o.action, o.messages.warnings.length)) =
        [(some .reject, 2), (none, 0), (some .update, 1), (none, 0), (some .noAction, 0),
          (some .update, 0), (some .reject, 2)] :=
    ⟨_, _, rfl, rfl⟩
  rcases pleaders.runStage_withdraw hstage pleaderWithdrawals "auction" pleaderGroups 7 default with
    ⟨e, ho, -⟩ | ⟨_, _, _, _, turns, between, hfirst, hsecond, hall, hall', hpayload, -, hcalls, -⟩
  · cases ho
  · cases hrun.symm.trans hfirst
    cases hrun'.symm.trans hsecond
    exact ⟨hstage, result, result', after, after', hrun, hrun', hbid, hpayload, hall, hall', hcalls,
      htold, htold'⟩

def plainGroup : HookGroup := ⟨5, [⟨"plain", "a"⟩]⟩

/-- A scene with nothing to run hooks on. -/
def stranded : Scene Nat :=
  { (default : Scene Nat) with timeline := { runtime := .absent "there is no reactor running" } }

/-- That the stage may be stopped cannot be left out of the statement.  Where there is nothing to run the
hook on, it is not run, and there is no result, although nothing can be rejected. -/
theorem runStage_plainGroup_stranded :
    Stage.exitpoint.rejectAllowed = false ∧
    pleaders.runStage .exitpoint "auction" [plainGroup] 7 stranded =
      (.error (.scheduling "there is no reactor running"), stranded) ∧
    ¬∃ result after,
      pleaders.runStage .exitpoint "auction" [plainGroup] 7 stranded = (.ok result, after) ∧
      pleaders.RunsAll [plainGroup] result := by
  have hstopped : pleaders.runStage .exitpoint "auction" [plainGroup] 7 stranded =
      (.error (.scheduling "there is no reactor running"), stranded) := rfl
  refine ⟨rfl, hstopped, ?_⟩
  rintro ⟨result, after, hrun, -⟩
  cases hstopped.symm.trans hrun

end RunSetup

end AuctionHooks
