/-!
# Log events

An event has a level, a target that says which part of the program it comes from, a message, and
named fields.  Events are plain values; whether one is shown, and how, is decided elsewhere.
-/

namespace AuctionHooks

inductive LogLevel where
  | error
  | warn
  | info
  | debug
  | trace
  deriving DecidableEq, Inhabited, Repr

namespace LogLevel

def name : LogLevel → String
  | error => "ERROR"
  | warn => "WARN"
  | info => "INFO"
  | debug => "DEBUG"
  | trace => "TRACE"

/-- How talkative a filter must be to let the level through, counted from one. -/
def verbosity : LogLevel → Nat
  | error => 1
  | warn => 2
  | info => 3
  | debug => 4
  | trace => 5

end LogLevel

inductive LogValue where
  | text (s : String)
  | count (n : Nat)
  deriving DecidableEq, Inhabited, Repr

/-- Something worth telling. -/
structure LogEvent where
  level : LogLevel
  /-- Which part of the program the event comes from. -/
  target : String
  message : String
  fields : List (String × LogValue) := []
  deriving DecidableEq, Inhabited, Repr

end AuctionHooks
