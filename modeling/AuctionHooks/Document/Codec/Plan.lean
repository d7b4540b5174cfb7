import AuctionHooks.Document.Decoder
import AuctionHooks.Plan.Basic

/-!
# Plans as value trees

How hook ids, groups and plans are written as value trees and read from them.

## Stages and their keys

Within an endpoint the stages are written under their names.  When they are read, the whole table is
read first, by its keys as they are written, and only then are the keys taken for stages, one after
the other (`EndpointPlan.stagesAlong`).  Of the entries that denote one stage the last that is visited
counts, and the groups under the others are lost; of the keys that denote no stage the first that is
visited is blamed.  In which order the entries are visited is not promised.  Here it is the ascending
one, which is as good as any other: nobody may rely on which entry counts or which key is blamed.
-/

namespace AuctionHooks

def Value.texts (l : List String) : Value := .list (l.map .text)

/-- A table with texts for keys as a value tree. -/
def Value.ofTable {α : Type} (encode : α → Value) (t : Table String α) : Value :=
  .record (t.toList.map fun e => (e.1, encode e.2))

/-- A value that may be absent as a value tree. -/
def Value.ofOption {α : Type} (encode : α → Value) : Option α → Value
  | some a => encode a
  | none => .null

namespace HookId

def toValue (h : HookId) : Value :=
  .record [("module-code", .text h.moduleCode), ("hook-impl-code", .text h.hookCode)]

def reader : RecordReader HookId :=
  ((RecordReader.required "module-code" Decoder.text).and
    (RecordReader.required "hook-impl-code" Decoder.text)).map fun (m, h) => ⟨m, h⟩

def decode : Decoder HookId := reader.decode

end HookId

namespace HookGroup

def toValue (g : HookGroup) : Value :=
  .record [("timeout", .natural g.timeout), ("hook-sequence", .list (g.hooks.map HookId.toValue))]

def reader : RecordReader HookGroup :=
  ((RecordReader.required "timeout" Decoder.natural).and
    (RecordReader.withDefault "hook-sequence" (Decoder.list HookId.decode) [])).map
    fun (t, hs) => ⟨t, hs⟩

def decode : Decoder HookGroup := reader.decode

end HookGroup

namespace Stage

def toValue (s : Stage) : Value := .text s.name

/-- Decodes a stage, by its exact name. -/
def decode : Decoder Stage := Decoder.variant all name

end Stage

namespace StagePlan

def toValue (p : StagePlan) : Value := .record [("groups", .list (p.groups.map HookGroup.toValue))]

def reader : RecordReader StagePlan :=
  (RecordReader.withDefault "groups" (Decoder.list HookGroup.decode) []).map fun gs => ⟨gs⟩

def decode : Decoder StagePlan := reader.decode

end StagePlan

namespace EndpointPlan

def toValue (p : EndpointPlan) : Value :=
  .record [("stages", .record (p.stages.toList.map fun e => (e.1.name, e.2.toValue)))]

/-- The stage that a key denotes. -/
def stageOfKey (key : String) : Except DecodeError Stage :=
  match Stage.ofText? key with
  | some s => .ok s
  | none => .error (.unknownStage key)

/-- Takes entries for stages in the order in which they stand. -/
def stagesAlong (way : List (String × StagePlan)) : Except DecodeError (Table Stage StagePlan) :=
  way.foldlM (fun stages e => (stages.insert · e.2) <$> stageOfKey e.1) ∅

/-- Takes the entries of a table for stages, in one of the orders in which they may be visited. -/
def stagesOfKeys (t : Table String StagePlan) : Except DecodeError (Table Stage StagePlan) :=
  stagesAlong t.toList

def decodeStages : Decoder (Table Stage StagePlan) := fun f v => do
  let t ← Decoder.table StagePlan.decode f v
  stagesOfKeys t

def reader : RecordReader EndpointPlan :=
  (RecordReader.withDefault "stages" decodeStages ∅).map fun ss => ⟨ss⟩

def decode : Decoder EndpointPlan := reader.decode

end EndpointPlan

namespace Plan

def toValue (p : Plan) : Value :=
  .record [("endpoints", .ofTable EndpointPlan.toValue p.endpoints)]

def reader : RecordReader Plan :=
  (RecordReader.withDefault "endpoints" (Decoder.table EndpointPlan.decode) ∅).map fun es => ⟨es⟩

def decode : Decoder Plan := reader.decode

end Plan

end AuctionHooks
