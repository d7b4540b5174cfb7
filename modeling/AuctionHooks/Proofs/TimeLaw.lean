import AuctionHooks.Proofs.Race
import AuctionHooks.Proofs.Steps
import Mathlib.Algebra.GroupWithZero.Nat

/-!
# What a step costs in time

Each hook has the whole time limit of its group to itself.  A slow hook takes nothing away from the
next one, nor do the calls of earlier hooks that were given up and run on in the background.  A
record says how much time its attempt has taken, and all the time that a step takes is on record.

## Main statements

* `Session.step_time_of_ok` says this of every step that runs hooks and succeeds: how each attempt
  ends, what time it takes, and what the records add up to.
* `RunSetup.limit_beyond_longest`: a limit of more than thirty years is cut to thirty years, so a hook
  that times out need not have taken its limit.
-/

namespace AuctionHooks

variable {π : Type}

/-- That a turn has kept to a time limit. -/
structure Turn.KeepsTime (t : Turn π) (timeout : UInt64) : Prop where
  /-- Where there was no hook to call, no time went by. -/
  unresolved : t.call? = none →
    t.record.status = .providerResolutionFailure ∧ t.record.executionTime = 0
  /-- A hook was told the full limit, whatever earlier hooks had taken. -/
  told : ∀ call, t.call? = some call →
    call.invocation = t.setup.invocations timeout t.hook
        (t.before.request.moduleContext t.hook.moduleCode) ∧
      ∀ endpoint, t.setup.invocations = .atEndpoint endpoint → call.invocation.timeout = timeout
  /-- It has timed out just if it took at least its limit. -/
  timeout_iff : ∀ call, t.call? = some call →
    (t.record.status = .timeout ↔ call.course.Outlasts timeout)
  /-- If it has timed out, the limit went by. -/
  late : ∀ call, t.call? = some call → t.record.status = .timeout →
    t.record.executionTime.toNat = Timer.span timeout.toNat
  /-- If it has not, the time that it took went by. -/
  inTime : ∀ call, t.call? = some call → t.record.status ≠ .timeout →
    call.course.delay? = some t.record.executionTime.toNat

namespace Turn

/-- How the record of a call depends on the race. -/
theorem record_of_call? {t : Turn π} {call : Launch π} (h : t.call? = some call) :
    (t.record.status = .timeout ∧ call.course.Outlasts t.timeout ∧
        t.record.executionTime.toNat = Timer.span t.timeout.toNat) ∨
      (t.record.status ≠ .timeout ∧ ¬call.course.Outlasts t.timeout ∧
        call.course.delay? = some t.record.executionTime.toNat) := by
  obtain ⟨hattempt, -, -⟩ := attempt_of_call? h
  rw [record, Attempt.record_executionTime, ne_eq, Attempt.record_status_eq_timeout_iff, hattempt]
  by_cases hlate : call.course.Outlasts t.timeout
  · rw [Course.race_of_outlasts hlate]
    exact Or.inl ⟨rfl, hlate, Timer.toNat_toUInt64_span t.timeout.toNat⟩
  · obtain ⟨answer, delay, hdelay, hlt, hrace⟩ := Course.exists_race_of_not_outlasts hlate
    rw [hrace]
    refine Or.inr ⟨Bool.false_ne_true, hlate, hdelay.trans (congrArg some ?_)⟩
    show delay = delay.toUInt64.toNat
    rw [← Timer.span_of_lt_span hlt, Timer.toNat_toUInt64_span]

/-- **Every turn keeps to its own time limit.** -/
theorem keepsTime (t : Turn π) : t.KeepsTime t.timeout where
  unresolved h := by
    obtain ⟨e, hattempt⟩ := attempt_of_call?_eq_none h
    rw [record, hattempt]
    exact ⟨rfl, rfl⟩
  told call h := by
    obtain ⟨-, -, hinvocation⟩ := RunSetup.eq_of_call? h
    refine ⟨hinvocation, fun endpoint hendpoint => ?_⟩
    rw [hinvocation, hendpoint]
    rfl
  timeout_iff call h := by
    rcases record_of_call? h with ⟨hstatus, hlate, -⟩ | ⟨hstatus, hlate, -⟩
    · exact iff_of_true hstatus hlate
    · exact iff_of_false hstatus hlate
  late call h hstatus := by
    rcases record_of_call? h with ⟨-, -, htime⟩ | ⟨hne, -, -⟩
    · exact htime
    · exact absurd hstatus hne
  inTime call h hstatus := by
    rcases record_of_call? h with ⟨heq, -, -⟩ | ⟨-, -, hdelay⟩
    · exact absurd heq hstatus
    · exact hdelay

/-- The time that a turn takes, in milliseconds. -/
def time (t : Turn π) : Nat := t.record.executionTime.toNat

/-- Turns under one limit take at most the limit each. -/
theorem sum_time_le {turns : List (Turn π)} {timeout : UInt64}
    (h : ∀ t ∈ turns, t.timeout = timeout) :
    (turns.map time).sum ≤ timeout.toNat * turns.length := by
  induction turns with
  | nil => exact Nat.zero_le _
  | cons t rest ih =>
    have hfirst : t.time ≤ timeout.toNat := by
      rw [← h t List.mem_cons_self]
      exact t.executionTime_le
    have hrest := ih fun u hu => h u (List.mem_cons_of_mem _ hu)
    rw [List.map_cons, List.sum_cons, List.length_cons, Nat.mul_succ]
    omega

/-- Turns of groups take at most the limits of the groups, one for each of their hooks. -/
theorem sum_time_flatten_le {groups : List HookGroup} {turns : List (List (Turn π))}
    (h : ∀ x ∈ groups.zip turns,
      x.2.length ≤ x.1.hooks.length ∧ ∀ t ∈ x.2, t.timeout = x.1.timeout)
    (hlength : turns.length ≤ groups.length) :
    (turns.flatten.map time).sum ≤
      ((groups.take turns.length).map fun g => g.timeout.toNat * g.hooks.length).sum := by
  induction turns generalizing groups with
  | nil => exact Nat.zero_le _
  | cons own turns ih =>
    cases groups with
    | nil => cases hlength
    | cons group groups =>
      obtain ⟨hhooks, htimeout⟩ := h (group, own) List.mem_cons_self
      have hown : (own.map time).sum ≤ group.timeout.toNat * group.hooks.length :=
        Nat.le_trans (sum_time_le htimeout) (Nat.mul_le_mul_left _ hhooks)
      have hrest := ih (fun x hx => h x (List.mem_cons_of_mem _ hx)) (Nat.le_of_succ_le_succ hlength)
      rw [List.flatten_cons, List.map_append, List.sum_append, List.length_cons,
        List.take_succ_cons, List.map_cons, List.sum_cons]
      exact Nat.add_le_add hown hrest

end Turn

/-- Of turns that each add to a number, the sum of all additions is there at the end. -/
theorem Threads.eq_add_sum {τ : Type} {found left added : τ → Nat} {b c : Nat} {ts : List τ}
    (hleft : ∀ t, left t = found t + added t) (h : Threads found left b ts c) :
    c = b + (ts.map added).sum := by
  induction h with
  | nil => rfl
  | cons finds _ ih => rw [ih, hleft, finds, List.map_cons, List.sum_cons, Nat.add_assoc]

/-- The time that a run takes is the time of its turns. -/
theorem RunSetup.Account.now {setup : RunSetup π} {turns : List (Turn π)} {payload payload' : π}
    {scene scene' : Scene π} (h : setup.Account turns payload payload' scene scene') :
    scene'.timeline.now = scene.timeline.now + (turns.map Turn.time).sum :=
  (h.scenes.map fun s => s.timeline.now).eq_add_sum Turn.now_after

/-- The records of turns that are divided among groups. -/
theorem flatMap_hooks_records (turns : List (List (Turn π))) :
    (turns.map fun ts => GroupOutcome.mk (ts.map Turn.record)).flatMap GroupOutcome.hooks =
      turns.flatten.map Turn.record := by
  rw [List.flatMap_map, List.map_flatten, List.flatMap_def]

/-- The time on record in an answer, in milliseconds. -/
def SessionAnswer.time (answer : SessionAnswer π) : Nat :=
  ((answer.groupOutcomes.flatMap GroupOutcome.hooks).map fun o => o.executionTime.toNat).sum

namespace Session

/-- **All time of a step is on record, and each hook has its whole limit.**  The records of a step
that has run groups and succeeded are those of attempts, each of which has kept to the limit of its
own group.  The clock has advanced by what the records say, and so by no more than the limits of the
groups that were run, one for each of their hooks. -/
theorem step_time_of_ok {s after : Session π} {step : SessionStep π} {task : Task π}
    {answer : SessionAnswer π} (htask : s.task? step = some task)
    (h : s.step step = (answer, after)) (hok : ∀ e, answer ≠ .failed e) :
    ∃ (turns : List (List (Turn π))) (scene : Scene π),
      task.setup.Account turns.flatten s.payload after.payload s.scene scene ∧
      after.scene.timeline = scene.timeline ∧
      answer.groupOutcomes = turns.map (fun ts => ⟨ts.map Turn.record⟩) ∧
      turns.length ≤ task.groups.length ∧
      (∀ x ∈ task.groups.zip turns, ∀ t ∈ x.2, t.KeepsTime x.1.timeout) ∧
      after.scene.timeline.now = s.scene.timeline.now + answer.time ∧
      answer.time ≤ ((task.groups.take answer.groupOutcomes.length).map fun g =>
        g.timeout.toNat * g.hooks.length).sum := by
  obtain ⟨rejectedBy, scene, hrun, htimeline, -⟩ := exists_runGroups_of_step htask h hok
  obtain ⟨turns, haccount, houtcomes, hlength, hzip⟩ := RunSetup.exists_turns_runGroups hrun
  have htime : answer.time = (turns.flatten.map Turn.time).sum := by
    rw [SessionAnswer.time, houtcomes, flatMap_hooks_records, List.map_map]
    rfl
  refine ⟨turns, scene, haccount, htimeline, houtcomes, hlength, ?_, ?_, ?_⟩
  · intro x hx t ht
    rw [← (hzip x hx).2 t ht]
    exact t.keepsTime
  · rw [htimeline, htime]
    exact haccount.now
  · rw [htime, houtcomes, List.length_map]
    exact Turn.sum_time_flatten_le hzip hlength

/-- A setup in which the code of a module says how long its hooks take: one has no hooks, one never
finishes, one takes ten milliseconds, any other three. -/
def dawdlers : RunSetup Nat where
  provider hook :=
    if hook.moduleCode = "gone" then .error (.hookNotFound hook)
    else .ok ⟨hook.hookCode, fun _ _ _ =>
      if hook.moduleCode = "idle" then .hangs
      else if hook.moduleCode = "slow" then .finishes 10 (.result {})
      else .finishes 3 (.result {})⟩
  invocations := .atEndpoint "/auction"

/-- Two groups of which the second has no time at all, and the first just as much as a slow hook
would need. -/
def dawdlerGroups : List HookGroup :=
  [⟨10, [⟨"idle", "a"⟩, ⟨"gone", "a"⟩, ⟨"slow", "a"⟩, ⟨"quick", "a"⟩]⟩, ⟨0, [⟨"quick", "b"⟩]⟩]

/-- The slow hook has its ten milliseconds although the idle one has had ten before, and they are
not enough; the quick one has its three, for which there is no time in the second group. -/
theorem step_time_dawdlers :
    ∃ answer after,
      (Session.mk default default {} 0).step
        (.stage dawdlers .entrypoint "auction" dawdlerGroups) = (answer, after) ∧
      (answer.groupOutcomes.flatMap GroupOutcome.hooks).map
          (fun o => (o.status, o.executionTime)) =
        [(.timeout, 10), (.providerResolutionFailure, 0), (.timeout, 10), (.success, 3),
          (.timeout, 0)] ∧
      after.scene.timeline.now = 0 + answer.time ∧ answer.time ≤ 10 * 4 + 0 * 1 := by
  obtain ⟨result, after, hstep, hrecords, hlength⟩ : ∃ result after,
      (Session.mk default default {} 0).step
        (.stage dawdlers .entrypoint "auction" dawdlerGroups) = (.stage result, after) ∧
      result.outcome.hookOutcomes.map (fun o => (o.status, o.executionTime)) =
        [(.timeout, 10), (.providerResolutionFailure, 0), (.timeout, 10), (.success, 3),
          (.timeout, 0)] ∧
      result.outcome.groups.length = 2 :=
    ⟨_, _, rfl, rfl, rfl⟩
  have hok : ∀ e, SessionAnswer.stage result ≠ .failed e := by
    intro e he
    cases he
  obtain ⟨-, -, -, -, -, -, -, hnow, hbound⟩ := step_time_of_ok rfl hstep hok
  refine ⟨_, after, hstep, hrecords, hnow, Nat.le_trans hbound ?_⟩
  show ((dawdlerGroups.take result.outcome.groups.length).map _).sum ≤ _
  rw [hlength]
  decide

end Session

namespace RunSetup

/-- A setup in which each hook takes a given number of milliseconds. -/
def sleepers (delay : Nat) : RunSetup Nat where
  provider hook := .ok ⟨hook.hookCode, fun _ _ _ => .finishes delay (.result {})⟩
  invocations := .atEndpoint "/auction"

/-- **No timer takes more than thirty years.**  Under a limit of one millisecond more, a hook that
takes thirty years times out although it is faster than its limit, and the time on record is not the
limit. -/
theorem limit_beyond_longest :
    (¬∀ (delay : Nat) (timeout : UInt64) (result : GroupResult Nat) (after : Scene Nat),
      (sleepers delay).runGroup ⟨timeout, [⟨"m", "a"⟩]⟩ 0 default = (.ok result, after) →
        ∀ o ∈ result.outcomes, o.status = .timeout ↔ timeout.toNat ≤ delay) ∧
    (¬∀ (delay : Nat) (timeout : UInt64) (result : GroupResult Nat) (after : Scene Nat),
      (sleepers delay).runGroup ⟨timeout, [⟨"m", "a"⟩]⟩ 0 default = (.ok result, after) →
        ∀ o ∈ result.outcomes, o.status = .timeout → o.executionTime = timeout) := by
  obtain ⟨result, after, hrun, o, ho, hstatus, htime⟩ : ∃ result after,
      (sleepers 946080000000).runGroup ⟨946080000001, [⟨"m", "a"⟩]⟩ 0 default =
        (.ok result, after) ∧
      ∃ o ∈ result.outcomes, o.status = .timeout ∧ o.executionTime = 946080000000 :=
    ⟨_, _, rfl, _, List.mem_singleton_self _, rfl, rfl⟩
  constructor
  · intro hclaim
    exact absurd ((hclaim _ _ result after hrun o ho).1 hstatus) (by decide)
  · intro hclaim
    exact absurd (htime.symm.trans (hclaim _ _ result after hrun o ho hstatus)) (by decide)

end RunSetup

end AuctionHooks
