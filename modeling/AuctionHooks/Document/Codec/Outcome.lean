import AuctionHooks.Document.Codec.Plan
import AuctionHooks.Invocation

/-!
# Records of runs as value trees

How messages, outcomes and their parts are written as value trees and read from them.  The messages
of a hook outcome have no record of their own: their fields stand beside those of the outcome.
-/

namespace AuctionHooks

namespace InvocationStatus

def toValue (s : InvocationStatus) : Value := .text s.name

def decode : Decoder InvocationStatus := Decoder.variant all name

end InvocationStatus

namespace HookStatus

def toValue (s : HookStatus) : Value := .text s.name

def decode : Decoder HookStatus := Decoder.variant all name

end HookStatus

namespace HookAction

def toValue (a : HookAction) : Value := .text a.name

def decode : Decoder HookAction := Decoder.variant all name

end HookAction

namespace HookMessages

/-- The entries of messages, as they stand in a record. -/
def toEntries (m : HookMessages) : List (String × Value) :=
  [("message", .ofOption .text m.message), ("errors", .texts m.errors),
    ("warnings", .texts m.warnings), ("debug_messages", .texts m.debugMessages)]

def toValue (m : HookMessages) : Value := .record m.toEntries

def reader : RecordReader HookMessages :=
  ((RecordReader.withDefault "message" Decoder.text.optional none).and
    ((RecordReader.withDefault "errors" Decoder.text.list []).and
      ((RecordReader.withDefault "warnings" Decoder.text.list []).and
        (RecordReader.withDefault "debug_messages" Decoder.text.list [])))).map
    fun (m, es, ws, ds) => ⟨m, es, ws, ds⟩

def decode : Decoder HookMessages := reader.decode

end HookMessages

namespace HookOutcome

def toValue (o : HookOutcome) : Value :=
  .record
    ([("hook_id", o.hook.toValue), ("status", o.status.toValue),
        ("action", .ofOption HookAction.toValue o.action),
        ("execution_time_ms", .natural o.executionTime)] ++
      o.messages.toEntries)

/-- Reads what an outcome holds besides the messages. -/
def ownReader : RecordReader (HookId × HookStatus × Option HookAction × UInt64) :=
  (RecordReader.required "hook_id" HookId.decode).and
    ((RecordReader.required "status" HookStatus.decode).and
      ((RecordReader.optional "action" HookAction.decode).and
        (RecordReader.required "execution_time_ms" Decoder.natural)))

def decode : Decoder HookOutcome := fun f v => do
  let ((hook, status, action, time), messages) ← ownReader.decodeBeside HookMessages.reader f v
  .ok ⟨hook, status, action, time, messages⟩

end HookOutcome

namespace GroupOutcome

def toValue (o : GroupOutcome) : Value :=
  .record [("hooks", .list (o.hooks.map HookOutcome.toValue))]

def reader : RecordReader GroupOutcome :=
  (RecordReader.required "hooks" HookOutcome.decode.list).map fun hs => ⟨hs⟩

def decode : Decoder GroupOutcome := reader.decode

end GroupOutcome

namespace StageOutcome

def toValue (o : StageOutcome) : Value :=
  .record [("entity", .text o.entity), ("groups", .list (o.groups.map GroupOutcome.toValue))]

def reader : RecordReader StageOutcome :=
  ((RecordReader.required "entity" Decoder.text).and
    (RecordReader.required "groups" GroupOutcome.decode.list)).map fun (e, gs) => ⟨e, gs⟩

def decode : Decoder StageOutcome := reader.decode

end StageOutcome

end AuctionHooks
