import AuctionHooks.Proofs.ByteOrder
import AuctionHooks.Proofs.MonitorLaw
import AuctionHooks.Proofs.TableLaw

/-!
# Which hooks an alert names

An alert is a statement about hooks: which of them fail too often, and which take too long.  On the way
to it there are two orders that have nothing to do with any hook.  The records of all hooks come in one
stream, in which those of a hook are scattered among those of others.  And the statistics of all hooks
are gone through one after the other, in an order that no table promises.  Neither may show.

## Why neither shows

The first order is lost in the statistics.  They take from the stream the records of their own hook, and
of these no more than status and latency (`Metrics.get?_ofReports`).  So two streams that agree hook by
hook leave the same statistics, the mean included, although the mean does depend on the order among the
records of one hook.

The second is undone by sorting.  A way past the statistics comes upon each hook once
(`Metrics.Covers`), so whatever is named on one way is named on every other, and once; and ids that
ascend strictly leave no choice of how to arrange them (`AlertTrigger.checkAlong_eq_check`).

## Main statement

`AlertTrigger.check_of_reports`: the alert after any history of reports.
-/

namespace AuctionHooks

/-! ## The order of ids -/

namespace HookId

/-- Whether an id comes before another by the bytes of its codes: those of the module decide, and among
the hooks of one module those of the hook. -/
def BytesBefore (h k : HookId) : Prop :=
  Text.bytes h.moduleCode < Text.bytes k.moduleCode ∨
    h.moduleCode = k.moduleCode ∧ Text.bytes h.hookCode < Text.bytes k.hookCode

/-- **Ids are in the order of their bytes.** -/
theorem compare_eq_lt_iff_bytesBefore {h k : HookId} : compare h k = .lt ↔ h.BytesBefore k := by
  have hcodes : compare h k =
    (compare h.moduleCode k.moduleCode).then (compare h.hookCode k.hookCode) := rfl
  rw [hcodes, Ordering.then_eq_lt, Std.compare_eq_iff_eq, Text.compare_eq_lt_iff_bytes_lt,
    Text.compare_eq_lt_iff_bytes_lt, BytesBefore]

/-- Whether an id may stand in front of another when ids are sorted. -/
def sortsBefore (h k : HookId) : Bool := (compare h k).isLE

theorem sortsBefore_trans (h k l : HookId) (hhk : h.sortsBefore k = true)
    (hkl : k.sortsBefore l = true) : h.sortsBefore l = true :=
  Std.TransOrd.isLE_trans hhk hkl

theorem sortsBefore_total (h k : HookId) : (h.sortsBefore k || k.sortsBefore h) = true := by
  rw [sortsBefore, sortsBefore, Std.OrientedOrd.eq_swap (a := k)]
  cases compare h k <;> rfl

theorem sortsBefore_antisymm {h k : HookId} (hhk : h.sortsBefore k = true)
    (hkh : k.sortsBefore h = true) : h = k :=
  Std.LawfulEqOrd.eq_of_compare (Std.OrientedCmp.isLE_antisymm hhk hkh)

end HookId

/-! ## Histories of reports -/

namespace Metrics

inductive Report where
  | record (r : HookRecord)
  | recordStage (stage : Stage) (time : Timestamp) (o : StageOutcome)

/-- The records that a report brings: those of a stage group by group. -/
def Report.records : Report → List HookRecord
  | .record r => [r]
  | .recordStage stage time o => o.hookOutcomes.map (HookRecord.ofOutcome stage time)

def report (m : Metrics) : Report → Metrics
  | .record r => m.record r
  | .recordStage stage time o => m.recordStage stage time o

/-- The metrics after a history of reports. -/
def ofReports (reports : List Report) : Metrics := reports.foldl report {}

def recordsOf (reports : List Report) : List HookRecord := reports.flatMap Report.records

/-- A report adds its records one by one. -/
theorem report_eq (m : Metrics) (r : Report) : m.report r = r.records.foldl record m := by
  cases r with
  | record r => rfl
  | recordStage stage time o => rfl

/-- So does a history. -/
theorem ofReports_eq (reports : List Report) :
    ofReports reports = (recordsOf reports).foldl record {} := by
  have hreport : report = fun m r => r.records.foldl record m := by
    funext m r
    exact m.report_eq r
  rw [ofReports, recordsOf, List.foldl_flatMap, hreport]

/-- What there is to count for a hook: status and latency of each of its own records, in their order. -/
def countedFor (hook : HookId) (records : List HookRecord) : List (HookStatus × UInt64) :=
  (records.filter (·.hook = hook)).map fun r => (r.status, r.latency)

theorem countedFor_eq_nil {hook : HookId} {records : List HookRecord}
    (h : hook ∉ records.map HookRecord.hook) : countedFor hook records = [] := by
  rw [countedFor, List.map_eq_nil_iff, List.filter_eq_nil_iff]
  intro r hr heq
  exact h (List.mem_map.2 ⟨r, hr, of_decide_eq_true heq⟩)

/-- Statistics with one more attempt, of which all is forgotten that does not count. -/
def count (s : Option HookStatistics) (attempt : HookStatus × UInt64) : Option HookStatistics :=
  some ((s.getD {}).update { (default : HookRecord) with status := attempt.1, latency := attempt.2 })

/-- **The statistics of a hook are made of what there is to count for it.** -/
theorem get?_ofReports (reports : List Report) (hook : HookId) :
    (ofReports reports).get? hook = (countedFor hook (recordsOf reports)).foldl count none := by
  rw [ofReports_eq, get?_foldl_record, countedFor, List.foldl_map]
  -- Of a record, `HookStatistics.update` reads nothing but status and latency.
  rfl

/-- **How the records of different hooks were interleaved does not matter.** -/
theorem ofReports_congr {reports reports' : List Report}
    (h : ∀ hook, countedFor hook (recordsOf reports') = countedFor hook (recordsOf reports)) :
    ofReports reports' = ofReports reports := by
  have hstatistics : (ofReports reports').statistics = (ofReports reports).statistics := by
    refine Table.ext_get? fun hook => ?_
    have hreports' := get?_ofReports reports' hook
    rw [h, ← get?_ofReports] at hreports'
    exact hreports'
  exact congrArg Metrics.mk hstatistics

/-! ## Ways past the statistics -/

/-- Hooks with their statistics, one after the other. -/
abbrev Way := List (HookId × HookStatistics)

/-- That a way comes upon the statistics of every hook, and upon each hook once. -/
def Covers (m : Metrics) (way : Way) : Prop := m.statistics.Covers way

/-- Ways differ in their order and in nothing else. -/
theorem covers_iff_perm {m : Metrics} {way : Way} : m.Covers way ↔ way.Perm m.statistics.toList :=
  Table.covers_iff_perm

end Metrics

/-! ## The alert -/

namespace AlertTrigger

variable {a : AlertTrigger} {m : Metrics} {way : Metrics.Way}

theorem exceededBy_iff {s : HookStatistics} :
    a.exceededBy s = true ↔
      1.0 - s.successRate > a.failureRate ∨ s.meanLatency > a.latency.toFloat := by
  rw [exceededBy, Bool.or_eq_true, decide_eq_true_iff, decide_eq_true_iff]

/-- The hooks that are named on a way, as they are come upon. -/
def namedAlong (a : AlertTrigger) (way : Metrics.Way) : List HookId :=
  (way.filter fun e => a.exceededBy e.2).map Prod.fst

/-- The alert of one who goes a given way past the statistics, and sorts the hooks at its end. -/
def checkAlong (a : AlertTrigger) (way : Metrics.Way) : List HookId :=
  (a.namedAlong way).mergeSort HookId.sortsBefore

/-- A hook is named just if it has statistics that exceed a threshold. -/
theorem mem_check_iff {hook : HookId} :
    hook ∈ a.check m ↔ ∃ s, m.get? hook = some s ∧ a.exceededBy s = true := by
  rw [check, List.mem_map]
  constructor
  · rintro ⟨⟨_, s⟩, hmem, rfl⟩
    obtain ⟨hentry, hexceeds⟩ := List.mem_filter.1 hmem
    exact ⟨s, Table.mem_toList_iff.1 hentry, hexceeds⟩
  · rintro ⟨s, hentry, hexceeds⟩
    exact ⟨(hook, s), List.mem_filter.2 ⟨Table.mem_toList_iff.2 hentry, hexceeds⟩, rfl⟩

theorem pairwise_check (a : AlertTrigger) (m : Metrics) :
    (a.check m).Pairwise fun h k => compare h k = .lt :=
  (m.statistics.ascending.filter _).map Prod.fst fun _ _ hlt => hlt

/-- No hook is named twice, not even one that exceeds both thresholds. -/
theorem nodup_check (a : AlertTrigger) (m : Metrics) : (a.check m).Nodup :=
  m.statistics.nodup_keys.sublist (List.filter_sublist.map Prod.fst)

/-- **Every way past the statistics ends with the same alert.** -/
theorem checkAlong_eq_check (h : m.Covers way) : a.checkAlong way = a.check m := by
  have hnamed : (a.checkAlong way).Perm (a.check m) :=
    (List.mergeSort_perm _ _).trans (((Metrics.covers_iff_perm.1 h).filter _).map Prod.fst)
  have hsorted : (a.checkAlong way).Pairwise fun h k => h.sortsBefore k = true :=
    List.pairwise_mergeSort HookId.sortsBefore_trans HookId.sortsBefore_total _
  have hcheck : (a.check m).Pairwise fun h k => h.sortsBefore k = true :=
    (a.pairwise_check m).imp Ordering.isLE_of_eq_lt
  exact hnamed.eq_of_pairwise (fun _ _ _ _ => HookId.sortsBefore_antisymm) hsorted hcheck

/-- **The alert after a history of reports.**  Let single records and whole stages be reported in any
order, and let there be any two thresholds.  The alert lists hooks in strictly ascending order of the
bytes of their ids, hence none twice.  It names a hook just if the hook has statistics of which the share
of failures exceeds the one threshold or the mean latency the other, both compared as floats; and a hook
has statistics just if a record is its own, and these are the sum of its own records in their order.  It
is the alert of every way past the statistics, and of every other history that for each hook has the same
statuses and latencies in the same order, whatever stands between them. -/
theorem check_of_reports (a : AlertTrigger) (reports : List Metrics.Report) :
    let m := Metrics.ofReports reports
    let records := Metrics.recordsOf reports
    (a.check m).Pairwise HookId.BytesBefore ∧ (a.check m).Nodup ∧
    (∀ hook, hook ∈ a.check m ↔ ∃ s, m.get? hook = some s ∧
      (1.0 - s.successRate > a.failureRate ∨ s.meanLatency > a.latency.toFloat)) ∧
    (∀ hook s, m.get? hook = some s ↔ (∃ r ∈ records, r.hook = hook) ∧
      s = HookStatistics.ofRecords (records.filter (·.hook = hook))) ∧
    (∀ way, m.Covers way → a.checkAlong way = a.check m) ∧
    ∀ reports', (∀ hook, Metrics.countedFor hook (Metrics.recordsOf reports') =
        Metrics.countedFor hook records) →
      a.check (Metrics.ofReports reports') = a.check m := by
  intro m records
  have hm : m = records.foldl Metrics.record {} := Metrics.ofReports_eq reports
  refine ⟨(a.pairwise_check m).imp HookId.compare_eq_lt_iff_bytesBefore.1, a.nodup_check m,
    fun hook => ?_, fun hook s => ?_, fun way => checkAlong_eq_check, fun reports' h => ?_⟩
  · simp only [mem_check_iff, exceededBy_iff]
  · rw [hm]
    exact Metrics.get?_foldl_record_eq_some_iff
  · rw [Metrics.ofReports_congr h]

/-- A record of a hook that tells no more than what counts. -/
def plainRecord (code : String) (status : HookStatus) (latency : UInt64) : HookRecord :=
  ⟨⟨"floor", code⟩, .rawAuctionRequest, status, none, latency, ⟨0, 0⟩, none⟩

/-- A stage in which a slow hook runs between two attempts of a flaky one, and single records after it. -/
def scattered : List Metrics.Report :=
  [.recordStage .rawAuctionRequest ⟨7, 0⟩ ⟨"auction-request", [
      ⟨[⟨⟨"floor", "flaky"⟩, .success, some .noAction, 100, {}⟩,
        ⟨⟨"floor", "slow"⟩, .success, some .update, 2000, {}⟩]⟩,
      ⟨[⟨⟨"floor", "flaky"⟩, .timeout, none, 200, {}⟩]⟩]⟩,
    .record (plainRecord "good" .success 50), .record (plainRecord "flaky" .timeout 200)]

/-- The same attempts as single records, hook by hook. -/
def gathered : List Metrics.Report :=
  [.record (plainRecord "slow" .success 2000), .record (plainRecord "good" .success 50),
    .record (plainRecord "flaky" .success 100), .record (plainRecord "flaky" .timeout 200),
    .record (plainRecord "flaky" .timeout 200)]

def watch : AlertTrigger := ⟨0.5, 1000⟩

/-- The way past the statistics with the greatest id first. -/
def backwards : Metrics.Way := (Metrics.ofReports scattered).statistics.toList.reverse

theorem countedFor_gathered (hook : HookId) :
    Metrics.countedFor hook (Metrics.recordsOf gathered) =
      Metrics.countedFor hook (Metrics.recordsOf scattered) := by
  have hknown : ∀ r ∈ Metrics.recordsOf gathered,
    r.hook ∈ (Metrics.recordsOf scattered).map HookRecord.hook := by decide
  by_cases hown : hook ∈ (Metrics.recordsOf scattered).map HookRecord.hook
  · revert hook
    decide
  · rw [Metrics.countedFor_eq_nil hown, Metrics.countedFor_eq_nil fun hmem => hown ?_]
    obtain ⟨r, hr, rfl⟩ := List.mem_map.1 hmem
    exact hknown r hr

/-- Two hooks out of three are named, in whichever order statistics and records are gone through. -/
theorem check_of_reports_scattered :
    watch.check (Metrics.ofReports scattered) = [⟨"floor", "flaky"⟩, ⟨"floor", "slow"⟩] ∧
    (Metrics.ofReports scattered).Covers backwards ∧
    watch.namedAlong backwards = [⟨"floor", "slow"⟩, ⟨"floor", "flaky"⟩] ∧
    watch.checkAlong backwards = watch.check (Metrics.ofReports scattered) ∧
    (∀ hook, Metrics.countedFor hook (Metrics.recordsOf gathered) =
      Metrics.countedFor hook (Metrics.recordsOf scattered)) ∧
    watch.check (Metrics.ofReports gathered) = watch.check (Metrics.ofReports scattered) := by
  have hcovers : (Metrics.ofReports scattered).Covers backwards :=
    Metrics.covers_iff_perm.2 (List.reverse_perm _)
  obtain ⟨-, -, -, -, hways, hhistories⟩ := watch.check_of_reports scattered
  exact ⟨rfl, hcovers, rfl, hways backwards hcovers, countedFor_gathered,
    hhistories gathered countedFor_gathered⟩

end AlertTrigger

end AuctionHooks
