import AuctionHooks.Monitor.Statistics
import AuctionHooks.Proofs.WholeFloat
import Mathlib.Data.List.Induction

/-!
# What the statistics of a hook say

Statistics are carried along record by record, and what they say of the records has to be read off the
way in which they are carried along.  Three things may go wrong on the way.  A counter may run over, and
with 64 bits it does so only when there are as many records.  The extremes start from zero, which is
less than any latency, so that the first record has to replace them and the others must not.  And the
mean is formed by dividing by the number of records, which as a float must not be zero.

## Counters, extremes, and what they say of each other

Each counter counts the records of some statuses (`Counts`), and each extreme is taken by one record and
passed by none (`IsExtreme`).  Both are kept by one more record (`Counts.update`, `Extremes.update`), so
they hold after any number of records for which there is room.  That the counters agree with each other
(`IsBalanced`), and that the next record can be taken (`TakesSafely`), follows from them.  Neither
depends on the order of the records, and together they leave no choice (`Counts.eq_of_extremes`).

## Main statement

`HookStatistics.ofRecords_exact`: what statistics say of the records that they are made from.
-/

namespace AuctionHooks

namespace HookStatistics

variable {s : HookStatistics} {seen : List HookRecord}

/-! ## Counters -/

/-- Whether the counters count these records. -/
structure Counts (s : HookStatistics) (records : List HookRecord) : Prop where
  total : s.totalCount.toNat = records.length
  success : s.successCount.toNat = records.countP (·.status = .success)
  failure : s.failureCount.toNat = records.countP (·.status ≠ .success)
  timeout : s.timeoutCount.toNat = records.countP (·.status = .timeout)

theorem toNat_add_one {c : UInt64} (h : c.toNat + 1 < 2 ^ 64) : (c + 1).toNat = c.toNat + 1 :=
  (UInt64.toNat_add c 1).trans (Nat.mod_eq_of_lt h)

/-- A counter that goes up with some records counts them, as long as it has room. -/
theorem toNat_ite_add_one {c : UInt64} {p : HookRecord → Bool} (hc : c.toNat = seen.countP p)
    (hroom : seen.length + 1 < 2 ^ 64) (r : HookRecord) :
    (if p r then c + 1 else c).toNat = (seen ++ [r]).countP p := by
  have hle : seen.countP p ≤ seen.length := List.countP_le_length
  rw [List.countP_append, List.countP_singleton, ← hc]
  split
  · exact toNat_add_one (by omega)
  · rfl

theorem Counts.update (h : s.Counts seen) (hroom : seen.length + 1 < 2 ^ 64) (r : HookRecord) :
    (s.update r).Counts (seen ++ [r]) where
  total := by
    rw [List.length_append, List.length_singleton, ← h.total]
    exact toNat_add_one (by rw [h.total]; exact hroom)
  success := toNat_ite_add_one h.success hroom r
  failure := by
    have hfailure := toNat_ite_add_one h.failure hroom r
    have hflip : (if r.isSuccess then s.failureCount else s.failureCount + 1) =
        if decide (r.status ≠ .success) then s.failureCount + 1 else s.failureCount := by
      show (if decide (r.status = .success) = true then _ else _) = _
      simp only [decide_eq_true_eq, ite_not]
    exact (congrArg UInt64.toNat hflip).trans hfailure
  timeout := by
    have htimeout := toNat_ite_add_one h.timeout hroom r
    simp only [decide_eq_true_eq] at htimeout
    exact htimeout

/-! ## Extremes -/

/-- Whether one of these records has a latency, and none has one that goes beyond it; `within` says which
latencies do not. -/
def IsExtreme (within : UInt64 → UInt64 → Prop) (latency : UInt64) (records : List HookRecord) :
    Prop :=
  (∃ r ∈ records, r.latency = latency) ∧ ∀ r ∈ records, within r.latency latency

/-- Whether the extremes are those of the latencies of these records. -/
structure Extremes (s : HookStatistics) (records : List HookRecord) : Prop where
  greatest : IsExtreme (· ≤ ·) s.maxLatency records
  least : IsExtreme (· ≥ ·) s.minLatency records

/-- Choosing from two latencies the one that has the other within it. -/
structure Chooses (within : UInt64 → UInt64 → Prop) (pick : UInt64 → UInt64 → UInt64) : Prop where
  either : ∀ a b, pick a b = a ∨ pick a b = b
  left : ∀ a b, within a (pick a b)
  right : ∀ a b, within b (pick a b)
  trans : ∀ {a b c}, within a b → within b c → within a c

-- The order laws of `Std` reach `min` on these numbers but not `max`, which is opened instead.
theorem chooses_max : Chooses (· ≤ ·) max where
  either a b := by
    show (if a ≤ b then b else a) = a ∨ (if a ≤ b then b else a) = b
    split
    · exact .inr rfl
    · exact .inl rfl
  left a b := by
    show a ≤ if a ≤ b then b else a
    split
    · assumption
    · exact UInt64.le_refl a
  right a b := by
    show b ≤ if a ≤ b then b else a
    split
    · exact UInt64.le_refl b
    · next h => exact (UInt64.le_total a b).resolve_left h
  trans := UInt64.le_trans

theorem chooses_min : Chooses (· ≥ ·) min where
  either := Std.MinEqOr.min_eq_or
  left _ _ := Std.min_le_left
  right _ _ := Std.min_le_right
  trans hab hbc := UInt64.le_trans hbc hab

section IsExtreme

variable {within : UInt64 → UInt64 → Prop} {a b : UInt64}

theorem isExtreme_singleton {r : HookRecord} (hrefl : within r.latency r.latency) :
    IsExtreme within r.latency [r] := by
  refine ⟨⟨r, List.mem_singleton_self r, rfl⟩, fun other hother => ?_⟩
  rw [List.mem_singleton.1 hother]
  exact hrefl

theorem IsExtreme.pick {pick : UInt64 → UInt64 → UInt64} (hpick : Chooses within pick)
    (h : IsExtreme within a seen) (r : HookRecord) :
    IsExtreme within (pick a r.latency) (seen ++ [r]) := by
  obtain ⟨⟨holder, hmem, rfl⟩, hwithin⟩ := h
  refine ⟨?_, fun other hother => ?_⟩
  · rcases hpick.either holder.latency r.latency with hold | hnew
    · exact ⟨holder, List.mem_append_left _ hmem, hold.symm⟩
    · exact ⟨r, List.mem_append_right _ (List.mem_singleton_self r), hnew.symm⟩
  · rcases List.mem_append.1 hother with hseen | hlast
    · exact hpick.trans (hwithin other hseen) (hpick.left _ _)
    · rw [List.mem_singleton.1 hlast]
      exact hpick.right _ _

theorem IsExtreme.unique (hanti : ∀ {c d}, within c d → within d c → c = d)
    (ha : IsExtreme within a seen) (hb : IsExtreme within b seen) : a = b := by
  obtain ⟨⟨r, hr, rfl⟩, hmost⟩ := ha
  obtain ⟨⟨r', hr', rfl⟩, hmost'⟩ := hb
  exact hanti (hmost' r hr) (hmost r' hr')

theorem IsExtreme.of_perm {records : List HookRecord} (hperm : records.Perm seen)
    (h : IsExtreme within a records) : IsExtreme within a seen := by
  obtain ⟨⟨r, hr, rfl⟩, hmost⟩ := h
  exact ⟨⟨r, hperm.mem_iff.1 hr, rfl⟩, fun other hother => hmost other (hperm.mem_iff.2 hother)⟩

end IsExtreme

/-- The first record replaces the zeros at the beginning. -/
theorem extremes_update_first (hfirst : s.totalCount = 0) (r : HookRecord) :
    (s.update r).Extremes [r] := by
  have hone : s.totalCount + 1 = 1 := UInt64.add_eq_right.2 hfirst
  have hmax : (s.update r).maxLatency = r.latency := if_pos hone
  have hmin : (s.update r).minLatency = r.latency := if_pos hone
  constructor
  · rw [hmax]
    exact isExtreme_singleton (UInt64.le_refl r.latency)
  · rw [hmin]
    exact isExtreme_singleton (UInt64.le_refl r.latency)

/-- Every other record is compared with what stands there. -/
theorem Extremes.update (h : s.Extremes seen) (hlater : s.totalCount ≠ 0) (r : HookRecord) :
    (s.update r).Extremes (seen ++ [r]) := by
  have hone : ¬ s.totalCount + 1 = 1 := mt UInt64.add_eq_right.1 hlater
  have hmax : (s.update r).maxLatency = max s.maxLatency r.latency := if_neg hone
  have hmin : (s.update r).minLatency = min s.minLatency r.latency := if_neg hone
  constructor
  · rw [hmax]
    exact h.greatest.pick chooses_max r
  · rw [hmin]
    exact h.least.pick chooses_min r

/-! ## Any number of records -/

section Records

variable {records : List HookRecord}

theorem ofRecords_append_singleton (records : List HookRecord) (r : HookRecord) :
    ofRecords (records ++ [r]) = (ofRecords records).update r :=
  List.foldl_append

/-- **The counters count the records.** -/
theorem counts_ofRecords (hroom : records.length < 2 ^ 64) : (ofRecords records).Counts records := by
  induction records using List.reverseRecOn with
  | nil => exact ⟨rfl, rfl, rfl, rfl⟩
  | append_singleton earlier r ih =>
    rw [List.length_append, List.length_singleton] at hroom
    rw [ofRecords_append_singleton]
    exact (ih (Nat.lt_of_succ_lt hroom)).update hroom r

theorem totalCount_eq_zero_iff (h : s.Counts records) : s.totalCount = 0 ↔ records = [] := by
  rw [← List.length_eq_zero_iff, ← h.total]
  exact UInt64.toNat_inj.symm

/-- **The extremes are those of the latencies**, zero taking no part in it. -/
theorem extremes_ofRecords (hne : records ≠ []) (hroom : records.length < 2 ^ 64) :
    (ofRecords records).Extremes records := by
  induction records using List.reverseRecOn with
  | nil => exact absurd rfl hne
  | append_singleton earlier r ih =>
    rw [List.length_append, List.length_singleton] at hroom
    have hearlier : earlier.length < 2 ^ 64 := Nat.lt_of_succ_lt hroom
    have hzero := totalCount_eq_zero_iff (counts_ofRecords hearlier)
    rw [ofRecords_append_singleton]
    by_cases hnil : earlier = []
    · subst hnil
      exact extremes_update_first rfl r
    · exact (ih hnil hearlier).update (mt hzero.1 hnil) r

/-! ## What follows -/

/-- What the fields say of each other. -/
structure IsBalanced (s : HookStatistics) : Prop where
  success_add_failure : s.successCount.toNat + s.failureCount.toNat = s.totalCount.toNat
  timeout_le_failure : s.timeoutCount ≤ s.failureCount
  min_le_max : s.minLatency ≤ s.maxLatency

/-- Whether a record can be taken without a counter running over, without taking away from zero, and
without dividing by zero. -/
structure TakesSafely (s : HookStatistics) (r : HookRecord) : Prop where
  total : s.totalCount.toNat + 1 < 2 ^ 64
  success : s.successCount.toNat + 1 < 2 ^ 64
  failure : s.failureCount.toNat + 1 < 2 ^ 64
  timeout : s.timeoutCount.toNat + 1 < 2 ^ 64
  /-- The number of the records before this one is not less than zero. -/
  one_le_total : 1 ≤ (s.update r).totalCount
  /-- The number of records that the mean is divided by is not zero. -/
  divisor : ((s.update r).totalCount.toFloat == 0.0) = false

theorem Counts.success_add_failure (h : s.Counts records) :
    s.successCount.toNat + s.failureCount.toNat = s.totalCount.toNat := by
  rw [h.success, h.failure, h.total,
    List.length_eq_countP_add_countP (fun r : HookRecord => decide (r.status = .success))]
  simp only [decide_eq_true_eq, ne_eq]

/-- A timeout is a failure. -/
theorem Counts.timeout_le_failure (h : s.Counts records) : s.timeoutCount ≤ s.failureCount := by
  rw [UInt64.le_iff_toNat_le, h.timeout, h.failure]
  refine List.countP_mono_left fun r _ htimeout => decide_eq_true ?_
  rw [of_decide_eq_true htimeout]
  exact nofun

theorem isBalanced_ofRecords (hroom : records.length < 2 ^ 64) : (ofRecords records).IsBalanced := by
  have hcounts := counts_ofRecords hroom
  refine ⟨hcounts.success_add_failure, hcounts.timeout_le_failure, ?_⟩
  by_cases hnil : records = []
  · subst hnil
    exact UInt64.le_refl 0
  · obtain ⟨hgreatest, hleast⟩ := extremes_ofRecords hnil hroom
    obtain ⟨r, hr, hmin⟩ := hleast.1
    rw [← hmin]
    exact hgreatest.2 r hr

theorem takesSafely_ofRecords (hroom : records.length + 1 < 2 ^ 64) (r : HookRecord) :
    (ofRecords records).TakesSafely r := by
  have hcounts := counts_ofRecords (Nat.lt_of_succ_lt hroom)
  have hsum := hcounts.success_add_failure
  have htimeout := UInt64.le_iff_toNat_le.1 hcounts.timeout_le_failure
  have htotal : (ofRecords records).totalCount.toNat + 1 < 2 ^ 64 := by
    rw [hcounts.total]
    exact hroom
  have hnext : ((ofRecords records).update r).totalCount.toNat =
      (ofRecords records).totalCount.toNat + 1 := toNat_add_one htotal
  have hpos : ((ofRecords records).update r).totalCount ≠ 0 := by
    intro hzero
    rw [hzero] at hnext
    exact absurd hnext (Nat.succ_ne_zero _).symm
  refine ⟨htotal, by omega, by omega, by omega, ?_, WholeFloat.toFloat_beq_zero hpos⟩
  rw [UInt64.le_iff_toNat_le, hnext]
  exact Nat.le_add_left _ _

theorem Counts.of_perm (hperm : records.Perm seen) (h : s.Counts records) : s.Counts seen where
  total := h.total.trans hperm.length_eq
  success := h.success.trans (hperm.countP_eq _)
  failure := h.failure.trans (hperm.countP_eq _)
  timeout := h.timeout.trans (hperm.countP_eq _)

theorem Extremes.of_perm (hperm : records.Perm seen) (h : s.Extremes records) : s.Extremes seen :=
  ⟨h.greatest.of_perm hperm, h.least.of_perm hperm⟩

/-- **Counters and extremes leave no choice**: but for the mean, statistics are known by the records that
they are made from. -/
theorem Counts.eq_of_extremes {s' : HookStatistics} (hcounts : s.Counts records)
    (hextremes : s.Extremes records) (hcounts' : s'.Counts records)
    (hextremes' : s'.Extremes records) : { s' with meanLatency := s.meanLatency } = s := by
  have htotal := UInt64.toNat_inj.1 (hcounts'.total.trans hcounts.total.symm)
  have hsuccess := UInt64.toNat_inj.1 (hcounts'.success.trans hcounts.success.symm)
  have hfailure := UInt64.toNat_inj.1 (hcounts'.failure.trans hcounts.failure.symm)
  have htimeout := UInt64.toNat_inj.1 (hcounts'.timeout.trans hcounts.timeout.symm)
  have hmax := hextremes'.greatest.unique UInt64.le_antisymm hextremes.greatest
  have hmin := hextremes'.least.unique (fun hcd hdc => UInt64.le_antisymm hdc hcd) hextremes.least
  rw [htotal, hsuccess, hfailure, htimeout, hmax, hmin]

/-- **What statistics say of the records that they are made from.**  Let there be records, and fewer than
2^64.  Then the counters give the number of all records, of those that succeeded, of those that did not,
and of those that timed out, and the extremes are the greatest and the least latency among them.  At
every point on the way, before the first record included, successes and failures make up the total,
there are no more timeouts than failures, and the least latency is not above the greatest.  Every record
is taken with room in each counter, without taking one away from zero, and without dividing by zero.
And the same records in another order give the same statistics, but for the mean. -/
theorem ofRecords_exact (hne : records ≠ []) (hroom : records.length < 2 ^ 64) :
    (ofRecords records).Counts records ∧
    (ofRecords records).Extremes records ∧
    (∀ earlier, earlier <+: records → (ofRecords earlier).IsBalanced) ∧
    (∀ earlier r, earlier ++ [r] <+: records → (ofRecords earlier).TakesSafely r) ∧
    ∀ records', records'.Perm records →
      { ofRecords records' with meanLatency := (ofRecords records).meanLatency } =
        ofRecords records := by
  have hcounts := counts_ofRecords hroom
  have hextremes := extremes_ofRecords hne hroom
  refine ⟨hcounts, hextremes, fun earlier hearlier => ?_, fun earlier r hearlier => ?_,
    fun records' hperm => ?_⟩
  · exact isBalanced_ofRecords (Nat.lt_of_le_of_lt hearlier.length_le hroom)
  · have hlength := hearlier.length_le
    rw [List.length_append, List.length_singleton] at hlength
    exact takesSafely_ofRecords (Nat.lt_of_le_of_lt hlength hroom) r
  · have hroom' : records'.length < 2 ^ 64 := hperm.length_eq ▸ hroom
    have hne' : records' ≠ [] := fun hnil => hne (hnil ▸ hperm).symm.eq_nil
    exact hcounts.eq_of_extremes hextremes ((counts_ofRecords hroom').of_perm hperm)
      ((extremes_ofRecords hne' hroom').of_perm hperm)

end Records

/-- Six records of one hook, one of each status. -/
def medley : List HookRecord :=
  (HookStatus.all.zip [100, 3, 250, 100, 12, 7]).map fun (status, latency) =>
    ⟨⟨"ortb2-blocking", "bidder-request"⟩, .bidderRequest, status, none, latency, ⟨0, 0⟩, none⟩

/-- Of six records one succeeded and one timed out; none took no time at all. -/
theorem ofRecords_exact_medley :
    (ofRecords medley).totalCount = 6 ∧ (ofRecords medley).successCount = 1 ∧
    (ofRecords medley).failureCount = 5 ∧ (ofRecords medley).timeoutCount = 1 ∧
    (ofRecords medley).maxLatency = 250 ∧ (ofRecords medley).minLatency = 3 ∧
    (ofRecords medley).Counts medley ∧ (ofRecords medley).Extremes medley ∧
    (∀ earlier, earlier <+: medley → (ofRecords earlier).IsBalanced) ∧
    (∀ earlier r, earlier ++ [r] <+: medley → (ofRecords earlier).TakesSafely r) ∧
    { ofRecords medley.reverse with meanLatency := (ofRecords medley).meanLatency } =
      ofRecords medley := by
  have hne : medley ≠ [] := by decide
  have hroom : medley.length < 2 ^ 64 := by decide
  obtain ⟨hcounts, hextremes, hbalanced, hsafe, hperm⟩ := ofRecords_exact hne hroom
  exact ⟨rfl, rfl, rfl, rfl, rfl, rfl, hcounts, hextremes, hbalanced, hsafe,
    hperm _ medley.reverse_perm⟩

end HookStatistics

end AuctionHooks
