import AuctionHooks.Document.Codec.Outcome
import AuctionHooks.Monitor.Statistics

/-!
# Monitoring data as value trees

How records and statistics are written as value trees and read from them.
-/

namespace AuctionHooks

namespace Timestamp

/-- A point in time as a value tree: its written form. -/
def toValue (t : Timestamp) : Value := .text t.text

def decode : Decoder Timestamp
  | _, .text s =>
    match ofText? s with
    | some t => .ok t
    | none => .error .mismatch
  | _, _ => .error .mismatch

end Timestamp

namespace HookRecord

def toValue (r : HookRecord) : Value :=
  .record
    [("hook_id", r.hook.toValue), ("stage", r.stage.toValue), ("status", r.status.toValue),
      ("action", .ofOption HookAction.toValue r.action), ("latency_ms", .natural r.latency),
      ("executed_at", r.executedAt.toValue), ("message", .ofOption .text r.message)]

def reader : RecordReader HookRecord :=
  ((RecordReader.required "hook_id" HookId.decode).and
    ((RecordReader.required "stage" Stage.decode).and
      ((RecordReader.required "status" HookStatus.decode).and
        ((RecordReader.optional "action" HookAction.decode).and
          ((RecordReader.required "latency_ms" Decoder.natural).and
            ((RecordReader.required "executed_at" Timestamp.decode).and
              (RecordReader.optional "message" Decoder.text))))))).map
    fun (hook, stage, status, action, latency, time, message) =>
      ⟨hook, stage, status, action, latency, time, message⟩

def decode : Decoder HookRecord := reader.decode

end HookRecord

namespace HookStatistics

def toValue (s : HookStatistics) : Value :=
  .record
    [("total_count", .natural s.totalCount), ("success_count", .natural s.successCount),
      ("failure_count", .natural s.failureCount), ("timeout_count", .natural s.timeoutCount),
      ("avg_latency_ms", .real s.meanLatency), ("max_latency_ms", .natural s.maxLatency),
      ("min_latency_ms", .natural s.minLatency)]

def reader : RecordReader HookStatistics :=
  ((RecordReader.required "total_count" Decoder.natural).and
    ((RecordReader.required "success_count" Decoder.natural).and
      ((RecordReader.required "failure_count" Decoder.natural).and
        ((RecordReader.required "timeout_count" Decoder.natural).and
          ((RecordReader.required "avg_latency_ms" Decoder.real).and
            ((RecordReader.required "max_latency_ms" Decoder.natural).and
              (RecordReader.required "min_latency_ms" Decoder.natural))))))).map
    fun (total, success, failure, timeout, mean, max, min) =>
      ⟨total, success, failure, timeout, mean, max, min⟩

def decode : Decoder HookStatistics := reader.decode

end HookStatistics

end AuctionHooks
