import AuctionHooks.Outcome
import AuctionHooks.Stage
import AuctionHooks.Time.Timestamp

/-!
# Statistics of a hook

A `HookRecord` is what monitoring keeps of one attempt, and `HookStatistics` sums up the records of
one hook.  Every status other than success counts as a failure, timeouts among them.

## Running average

The mean is carried along: with the `n`-th record it becomes `(mean * (n - 1) + latency) / n`, in
double precision and evaluated in this order, so its last bits depend on the order of the records.
The first record sets mean, maximum and minimum, so that the zeros at the beginning do not take
part.
-/

namespace AuctionHooks

/-- What monitoring keeps of one attempt to run a hook. -/
structure HookRecord where
  hook : HookId
  stage : Stage
  status : HookStatus
  action : Option HookAction
  /-- The time that the attempt took, in milliseconds. -/
  latency : UInt64
  /-- When the record was made.  No sum depends on it. -/
  executedAt : Timestamp
  message : Option String
  deriving DecidableEq, Inhabited, Repr

namespace HookRecord

/-- The record of an outcome at a stage, made at a given time. -/
def ofOutcome (stage : Stage) (time : Timestamp) (o : HookOutcome) : HookRecord :=
  ⟨o.hook, stage, o.status, o.action, o.executionTime, time, o.messages.message⟩

def isSuccess (r : HookRecord) : Bool := r.status.isSuccess

end HookRecord

structure HookStatistics where
  totalCount : UInt64 := 0
  successCount : UInt64 := 0
  /-- All attempts without success, those that timed out included. -/
  failureCount : UInt64 := 0
  timeoutCount : UInt64 := 0
  /-- The mean latency in milliseconds. -/
  meanLatency : Float := 0.0
  maxLatency : UInt64 := 0
  minLatency : UInt64 := 0
  deriving Inhabited, Repr

namespace HookStatistics

/-- The share of attempts that succeeded; all of them, if there was none. -/
def successRate (s : HookStatistics) : Float :=
  if s.totalCount = 0 then 1.0 else s.successCount.toFloat / s.totalCount.toFloat

def update (s : HookStatistics) (r : HookRecord) : HookStatistics :=
  let total := s.totalCount + 1
  let first := total = 1
  { totalCount := total
    successCount := if r.isSuccess then s.successCount + 1 else s.successCount
    failureCount := if r.isSuccess then s.failureCount else s.failureCount + 1
    timeoutCount := if r.status = .timeout then s.timeoutCount + 1 else s.timeoutCount
    meanLatency :=
      if first then r.latency.toFloat
      else (s.meanLatency * (total - 1).toFloat + r.latency.toFloat) / total.toFloat
    maxLatency := if first then r.latency else max s.maxLatency r.latency
    minLatency := if first then r.latency else min s.minLatency r.latency }

def ofRecords (records : List HookRecord) : HookStatistics := records.foldl update {}

end HookStatistics

end AuctionHooks
