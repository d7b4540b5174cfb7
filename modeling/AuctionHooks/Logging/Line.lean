import AuctionHooks.Config.Basic
import AuctionHooks.Document.Json.Printer
import AuctionHooks.Logging.Event
import AuctionHooks.Text.Lines

/-!
# Log lines

An event that is shown becomes one line, or several if a text in it has line breaks and the lines
are plain.  A plain line gives the level, the target, the message and the fields; a JSON line is an
object that holds the same.  The settings say whether the target is given.  The time at which the
event is written stands in front of its first line or in the object, and is added by whoever writes
the line.
-/

namespace AuctionHooks

/-- A line of the log, without its time. -/
inductive LogLine where
  | plain (s : String)
  | json (v : Value)
  deriving Inhabited

namespace LogValue

/-- A field as a part of a plain line. -/
def shown : LogValue → String
  | .text s => s
  | .count n => toString n

def toValue : LogValue → Value
  | .text s => .text s
  | .count n => .natural n.toUInt64

end LogValue

namespace LogEvent

def plainText (withTarget : Bool) (e : LogEvent) : String :=
  e.level.name ++ " " ++ (if withTarget then e.target ++ ": " else "") ++ e.message ++
    String.join (e.fields.map fun f => " " ++ f.1 ++ "=" ++ f.2.shown)

def jsonLine (withTarget : Bool) (e : LogEvent) : Value :=
  .record
    ([("level", .text e.level.name),
        ("fields",
          .record (("message", .text e.message) :: e.fields.map fun f => (f.1, f.2.toValue)))] ++
      if withTarget then [("target", .text e.target)] else [])

/-- The lines that the settings ask for. -/
def lines (settings : LogSettings) (e : LogEvent) : List LogLine :=
  if settings.json then [.json (e.jsonLine settings.withTarget)]
  else (Text.lines (e.plainText settings.withTarget)).map .plain

end LogEvent

def LogLine.text : LogLine → String
  | .plain s => s
  | .json v => Json.compact v

end AuctionHooks
