import AuctionHooks.Config.Basic
import AuctionHooks.Document.Codec.Plan

/-!
# Configurations as value trees

How configurations are written as value trees and read from them.  Every field may be absent, and
what stands in for it is what the configuration holds when nothing is configured.
-/

namespace AuctionHooks

def ModuleSwitches.toValue (s : ModuleSwitches) : Value := .ofTable .bool s

def ModuleSwitches.decode : Decoder ModuleSwitches := Decoder.bool.table

namespace LogSettings

def toValue (s : LogSettings) : Value :=
  .record
    [("level", .text s.level), ("with_target", .bool s.withTarget),
      ("with_thread_ids", .bool s.withThreadIds), ("with_file", .bool s.withFile),
      ("with_line_number", .bool s.withLineNumber), ("json", .bool s.json)]

def reader : RecordReader LogSettings :=
  let none : LogSettings := {}
  ((RecordReader.withDefault "level" Decoder.text none.level).and
    ((RecordReader.withDefault "with_target" Decoder.bool none.withTarget).and
      ((RecordReader.withDefault "with_thread_ids" Decoder.bool none.withThreadIds).and
        ((RecordReader.withDefault "with_file" Decoder.bool none.withFile).and
          ((RecordReader.withDefault "with_line_number" Decoder.bool none.withLineNumber).and
            (RecordReader.withDefault "json" Decoder.bool none.json)))))).map
    fun (level, target, threads, file, line, json) => ⟨level, target, threads, file, line, json⟩

def decode : Decoder LogSettings := reader.decode

end LogSettings

namespace HooksConfig

def toValue (c : HooksConfig) : Value :=
  .record [("modules", c.modules.toValue), ("host_execution_plan", c.hostPlan.toValue)]

def reader : RecordReader HooksConfig :=
  ((RecordReader.withDefault "modules" ModuleSwitches.decode ∅).and
    (RecordReader.withDefault "host_execution_plan" Plan.decode {})).map fun (ms, p) => ⟨ms, p⟩

def decode : Decoder HooksConfig := reader.decode

end HooksConfig

namespace EngineConfig

def toValue (c : EngineConfig) : Value :=
  .record [("logging", .ofOption LogSettings.toValue c.logging), ("hooks", c.hooks.toValue)]

def reader : RecordReader EngineConfig :=
  ((RecordReader.withDefault "logging" LogSettings.decode.optional none).and
    (RecordReader.withDefault "hooks" HooksConfig.decode {})).map fun (l, h) => ⟨l, h⟩

def decode : Decoder EngineConfig := reader.decode

end EngineConfig

namespace AccountConfig

def toValue (c : AccountConfig) : Value :=
  .record
    [("execution_plan", .ofOption Plan.toValue c.plan), ("modules", c.modules.toValue)]

def reader : RecordReader AccountConfig :=
  ((RecordReader.withDefault "execution_plan" Plan.decode.optional none).and
    (RecordReader.withDefault "modules" ModuleSwitches.decode ∅)).map fun (p, ms) => ⟨p, ms⟩

def decode : Decoder AccountConfig := reader.decode

end AccountConfig

end AuctionHooks
