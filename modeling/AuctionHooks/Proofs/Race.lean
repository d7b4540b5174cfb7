import AuctionHooks.Proofs.Passage

/-!
# How long a turn takes

A call races against its time limit, and both are timed by timers.  Nothing else enters into the
race: not the time, not what ran before, and not what still runs in the background.  So the race is
settled by two numbers, the milliseconds that the call takes (`Course.delay?`) and those that the
timer of the limit takes.

## Limits beyond what a timer takes

A limit of more than thirty years lasts thirty years (`Timer.span`).  A call that finishes in time
has therefore taken less than that, and the timer of its own delay was exact: the cut at thirty
years shows in calls that time out, and only there.

## Main statements

* `Course.race_of_outlasts`, `Course.exists_race_of_not_outlasts`: the two ways of the race.
* `Turn.now_after`: a turn takes as long as its record says.
-/

namespace AuctionHooks

variable {π : Type}

namespace Timer

theorem span_le_longest (ms : Nat) : span ms ≤ longest := Nat.min_le_right ms longest

theorem span_le (ms : Nat) : span ms ≤ ms := Nat.min_le_left ms longest

/-- What is earlier than the end of a timer can be timed exactly. -/
theorem span_of_lt_span {ms limit : Nat} (h : ms < span limit) : span ms = ms :=
  span_eq_self (Nat.le_of_lt (Nat.lt_of_lt_of_le h (span_le_longest limit)))

/-- A timer goes off after a number of milliseconds that a record has room for. -/
theorem toNat_toUInt64_span (ms : Nat) : (span ms).toUInt64.toNat = span ms :=
  UInt64.toNat_ofNat_of_lt' (Nat.lt_of_le_of_lt (span_le_longest ms) (by decide))

end Timer

/-! ## The race -/

namespace Course

/-- The milliseconds that a call takes, if it ever finishes. -/
def delay? : Course π → Option Nat
  | .finishes delay _ => some delay
  | .collapses _ => some 0
  | .hangs => none

/-- That a call does not finish before its limit is over. -/
def Outlasts (timeout : UInt64) (course : Course π) : Prop :=
  ∀ delay ∈ course.delay?, Timer.span timeout.toNat ≤ delay

instance (timeout : UInt64) (course : Course π) : Decidable (course.Outlasts timeout) :=
  inferInstanceAs (Decidable (∀ delay ∈ course.delay?, _))

/-- A call that outlasts its limit loses the race when the limit is over. -/
theorem race_of_outlasts {timeout : UInt64} {course : Course π} (h : course.Outlasts timeout) :
    course.race timeout = (none, (Timer.span timeout.toNat).toUInt64) := by
  cases course with
  | finishes delay answer =>
    have hle : Timer.span timeout.toNat ≤ Timer.span delay :=
      Nat.le_min.2 ⟨h delay rfl, Timer.span_le_longest timeout.toNat⟩
    exact if_neg (Nat.not_lt.2 hle)
  | collapses message =>
    have hzero : Timer.span timeout.toNat = 0 := Nat.le_zero.1 (h 0 rfl)
    rw [race, hzero]
    rfl
  | hangs => rfl

/-- A call that does not outlast its limit finishes before the limit is over. -/
theorem exists_delay_of_not_outlasts {timeout : UInt64} {course : Course π}
    (h : ¬course.Outlasts timeout) :
    ∃ delay, course.delay? = some delay ∧ delay < Timer.span timeout.toNat := by
  cases hdelay : course.delay? with
  | none =>
    refine absurd (fun d hd => ?_) h
    cases hdelay.symm.trans hd
  | some delay =>
    refine ⟨delay, rfl, Nat.lt_of_not_le fun hle => h fun d hd => ?_⟩
    obtain rfl : delay = d := Option.some.inj (hdelay.symm.trans hd)
    exact hle

/-- Such a call wins, with its answer and after the time that it takes. -/
theorem exists_race_of_not_outlasts {timeout : UInt64} {course : Course π}
    (h : ¬course.Outlasts timeout) :
    ∃ answer delay, course.delay? = some delay ∧ delay < Timer.span timeout.toNat ∧
      course.race timeout = (some answer, delay.toUInt64) := by
  obtain ⟨delay, hdelay, hlt⟩ := exists_delay_of_not_outlasts h
  cases course with
  | finishes delay' answer =>
    obtain rfl : delay' = delay := Option.some.inj hdelay
    refine ⟨answer, delay', rfl, hlt, ?_⟩
    show (if Timer.span delay' < _ then _ else _) = _
    rw [Timer.span_of_lt_span hlt, if_pos hlt]
  | collapses message =>
    obtain rfl : 0 = delay := Option.some.inj hdelay
    exact ⟨.panic message, 0, rfl, hlt, if_pos hlt⟩
  | hangs => cases hdelay

/-- A race is over when the call has finished or when its limit is over. -/
theorem toNat_race_le (timeout : UInt64) (course : Course π) :
    (course.race timeout).2.toNat ≤ Timer.span timeout.toNat := by
  by_cases h : course.Outlasts timeout
  · rw [race_of_outlasts h]
    exact Nat.le_of_eq (Timer.toNat_toUInt64_span timeout.toNat)
  · obtain ⟨answer, delay, -, hlt, hrace⟩ := exists_race_of_not_outlasts h
    rw [hrace, ← Timer.span_of_lt_span hlt]
    show (Timer.span delay).toUInt64.toNat ≤ _
    rw [Timer.toNat_toUInt64_span, Timer.span_of_lt_span hlt]
    exact Nat.le_of_lt hlt

end Course

/-- While a call is run, the time of its race goes by. -/
theorem Timeline.now_run {t : Timeline π} (h : t.runtime.obstacle? = none) (timeout : UInt64)
    (l : Launch π) :
    (t.run timeout l).2.now = t.now + (l.course.race timeout).2.toNat := by
  have hle : (l.course.race timeout).2.toNat ≤ Timer.span timeout.toNat :=
    l.course.toNat_race_le timeout
  rw [run, h]
  show Timeline.now (if timeout = 0 then _ else _) = _
  split
  · next hzero =>
    have hnone : (l.course.race timeout).2.toNat = 0 := by
      rw [hzero] at hle ⊢
      exact Nat.le_zero.1 hle
    rw [hnone]
    rfl
  · show t.now + Timer.span (l.course.race timeout).2.toNat = _
    rw [Timer.span_eq_self (Nat.le_trans hle (Timer.span_le_longest timeout.toNat))]

/-! ## The time of a record -/

namespace Attempt

/-- The milliseconds that an attempt has taken. -/
def elapsed : Attempt π → UInt64
  | .unresolved _ => 0
  | .finished _ elapsed => elapsed
  | .timedOut _ elapsed => elapsed

/-- Whether an attempt has timed out. -/
def isTimedOut : Attempt π → Bool
  | .timedOut _ _ => true
  | _ => false

@[simp] theorem record_executionTime (rejectAllowed : Bool) (hook : HookId) (a : Attempt π) :
    (a.record rejectAllowed hook).executionTime = a.elapsed := by
  unfold record
  split
  · rfl
  · split <;> rfl
  all_goals rfl

/-- A record tells whether its attempt has timed out. -/
theorem record_status_eq_timeout_iff (rejectAllowed : Bool) (hook : HookId) (a : Attempt π) :
    (a.record rejectAllowed hook).status = .timeout ↔ a.isTimedOut = true := by
  unfold record
  split
  · simp [isTimedOut]
  · split <;> simp [isTimedOut]
  all_goals simp [isTimedOut]

end Attempt

namespace Turn

/-- A turn that has called no hook had none to call. -/
theorem attempt_of_call?_eq_none {t : Turn π} (h : t.call? = none) :
    ∃ e, t.attempt = .unresolved e := by
  rcases t.cases_call? with ⟨e, -, -, hattempt, -⟩ | ⟨call, hcall, -, -, -⟩
  · exact ⟨e, hattempt⟩
  · cases h.symm.trans hcall

/-- A turn that has called a hook ended as its race did. -/
theorem attempt_of_call? {t : Turn π} {call : Launch π} (h : t.call? = some call) :
    t.attempt = Attempt.ofRace t.timeout (call.course.race t.timeout) ∧
      t.after.timeline = (t.before.timeline.run t.timeout call).2 ∧
      t.before.timeline.runtime.obstacle? = none := by
  rcases t.cases_call? with ⟨-, -, hnone, -, -⟩ | ⟨call', hcall, ho, hattempt, hafter⟩
  · cases h.symm.trans hnone
  · obtain rfl : call = call' := Option.some.inj (h.symm.trans hcall)
    exact ⟨hattempt, congrArg Scene.timeline hafter, ho⟩

/-- **A turn takes as long as its record says.** -/
theorem now_after (t : Turn π) :
    t.after.timeline.now = t.before.timeline.now + t.record.executionTime.toNat := by
  rw [record, Attempt.record_executionTime]
  rcases t.cases_call? with ⟨e, -, -, hattempt, hafter⟩ | ⟨call, -, ho, hattempt, hafter⟩
  · rw [hattempt, hafter]
    rfl
  · rw [hafter]
    show (t.before.timeline.run t.timeout call).2.now = _
    rw [hattempt, Timeline.now_run ho]
    rcases call.course.race t.timeout with ⟨_ | answer, elapsed⟩ <;> rfl

/-- A turn takes no longer than its limit. -/
theorem executionTime_le (t : Turn π) : t.record.executionTime.toNat ≤ t.timeout.toNat := by
  rw [record, Attempt.record_executionTime]
  cases hc : t.call? with
  | none =>
    obtain ⟨e, hattempt⟩ := attempt_of_call?_eq_none hc
    rw [hattempt]
    exact Nat.zero_le _
  | some call =>
    have helapsed : t.attempt.elapsed = (call.course.race t.timeout).2 := by
      rw [(attempt_of_call? hc).1]
      rcases call.course.race t.timeout with ⟨_ | answer, elapsed⟩ <;> rfl
    rw [helapsed]
    exact Nat.le_trans (call.course.toNat_race_le t.timeout) (Timer.span_le t.timeout.toNat)

end Turn

end AuctionHooks
