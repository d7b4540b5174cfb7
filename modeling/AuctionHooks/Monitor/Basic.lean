import AuctionHooks.Monitor.Statistics

/-!
# Metrics, recorder and alerts

Monitoring looks at the records in three ways.  `Metrics` sums up the records of each hook.  The
`Recorder` keeps the latest records themselves, up to a number.  An `AlertTrigger` compares the
metrics with thresholds and names the hooks that exceed one.
-/

namespace AuctionHooks

structure Metrics where
  statistics : Table HookId HookStatistics := ∅
  deriving Inhabited

namespace Metrics

def record (m : Metrics) (r : HookRecord) : Metrics :=
  ⟨m.statistics.alter r.hook fun s => some ((s.getD {}).update r)⟩

/-- Adds the records of a stage one by one, in the order of its groups. -/
def recordStage (m : Metrics) (stage : Stage) (time : Timestamp) (o : StageOutcome) : Metrics :=
  (o.hookOutcomes.map (HookRecord.ofOutcome stage time)).foldl record m

def get? (m : Metrics) (hook : HookId) : Option HookStatistics := m.statistics.get? hook

end Metrics

/-- The latest records, oldest first. -/
structure Recorder where
  capacity : Nat := 10000
  records : List HookRecord := []
  deriving DecidableEq, Inhabited

namespace Recorder

/-- The last elements of a list, at most a given number of them. -/
def latest (capacity : Nat) (records : List HookRecord) : List HookRecord :=
  records.drop (records.length - capacity)

/-- Adds a record, and gives up the oldest ones that have no room any more. -/
def record (r : Recorder) (new : HookRecord) : Recorder :=
  { r with records := latest r.capacity (r.records ++ [new]) }

/-- Adds the records of a stage one by one, in the order of its groups. -/
def recordStage (r : Recorder) (stage : Stage) (time : Timestamp) (o : StageOutcome) : Recorder :=
  (o.hookOutcomes.map (HookRecord.ofOutcome stage time)).foldl record r

/-- The latest records, newest first: those of one hook, if one is given, and at most `limit`. -/
def query (r : Recorder) (hook : Option HookId) (limit : Nat) : List HookRecord :=
  (r.records.reverse.filter fun record => hook.all (record.hook = ·)).take limit

def size (r : Recorder) : Nat := r.records.length

end Recorder

/-- Thresholds beyond which a hook calls for attention. -/
structure AlertTrigger where
  /-- The share of failures that is still acceptable. -/
  failureRate : Float
  /-- The mean latency that is still acceptable, in milliseconds. -/
  latency : UInt64
  deriving Inhabited, Repr

namespace AlertTrigger

def exceededBy (a : AlertTrigger) (s : HookStatistics) : Bool :=
  1.0 - s.successRate > a.failureRate || s.meanLatency > a.latency.toFloat

/-- The hooks that exceed a threshold, in ascending order of their ids. -/
def check (a : AlertTrigger) (m : Metrics) : List HookId :=
  (m.statistics.toList.filter fun e => a.exceededBy e.2).map (·.1)

end AlertTrigger

end AuctionHooks
