import AuctionHooks.Config.Load
import AuctionHooks.Config.Validity
import AuctionHooks.Logging.Filter
import AuctionHooks.Logging.Line
import AuctionHooks.Text.Quoted

/-!
# The command-line program

The program loads a configuration, validates it, and logs a summary of its plan.  All that it finds
around it is a value (`Surroundings`) and all that it does is a value too (`Verdict`), so what it
makes of a configuration can be said without running it.

## What the log settings can change

The configuration says how to log, and an environment variable may say it differently.  Both only
decide which events become lines and what the lines look like.  Whether the program succeeds is
settled by loading and validation alone, save that a directive that tears a character ends the
program before it logs anything.

## What is left out

Arguments and variables that are no texts.  A first argument of that kind would end the program at
once, and a variable of that kind would count as if it were not set.
-/

namespace AuctionHooks.Program

/-- What the program finds around it. -/
structure Surroundings where
  arguments : List String := []
  /-- The environment variable that names the configuration. -/
  configVariable : Option String := none
  /-- The environment variable that holds a log filter. -/
  filterVariable : Option String := none
  /-- What there is on disk, seen from where the program runs. -/
  disk : String → Option FileTree

structure Verdict where
  exitCode : Nat
  errors : List String
  log : List LogLine
  deriving Inhabited

def defaultPath : String := "config/hooks.toml"

/-- The path of the configuration: from the environment, even if it is empty there, else the first
argument, else the default. -/
def Surroundings.configPath (s : Surroundings) : String :=
  (s.configVariable.or s.arguments.head?).getD defaultPath

/-- The part of the program that the events of this module come from. -/
def target : String := "openbid_hook_engine"

def startEvent (path : String) : LogEvent :=
  ⟨.info, target, "Starting OpenBid Hook Engine", [("path", .text path)]⟩

def faultEvent (path : String) (fault : ConfigFault) : LogEvent :=
  ⟨.error, target, "Invalid hook engine config",
    [("path", .text path), ("error", .text (": ".intercalate fault.messages))]⟩

def stageEvent (endpoint : String) (stage : Stage) (p : StagePlan) : LogEvent :=
  ⟨.info, target, "Execution plan stage",
    [("endpoint", .text endpoint), ("stage", .text stage.name), ("groups", .count p.groups.length),
      ("hooks", .count (p.groups.flatMap HookGroup.hooks).length)]⟩

def loadedEvent (c : EngineConfig) : LogEvent :=
  ⟨.info, target, "Hook engine config loaded",
    [("endpoints", .count c.hooks.hostPlan.endpoints.size),
      ("modules", .text (Text.quoteSet c.hooks.hostPlan.moduleCodes.keys)),
      ("disabled_modules", .text (Text.quoteSet c.hooks.disabledModules.keys))]⟩

/-- The events that sum up a valid configuration. -/
def summary (c : EngineConfig) : List LogEvent :=
  (c.hooks.hostPlan.stageEntries.map fun e => stageEvent e.1 e.2.1 e.2.2) ++ [loadedEvent c]

/-- The log filter that is in force, if there can be one, and the complaints about it.  A filter
from the environment counts if all of it can be read; otherwise the settings do, unless a character
is torn. -/
def filterFor (wanted : Option String) (settings : LogSettings) :
    Option LogFilter × List String :=
  match wanted.map LogFilter.ofText with
  | some (.ok filter) => (some filter, [])
  | some (.error .tornCharacter) => (none, [])
  | _ => LogFilter.ofTextLeniently settings.level

/-- The events about a loaded configuration, and the fault that it has, if any. -/
def review (path : String) (c : EngineConfig) : List LogEvent × Option ConfigFault :=
  match c.fault? with
  | some fault => (startEvent path :: c.remarks ++ [faultEvent path fault], some fault)
  | none => (startEvent path :: c.remarks ++ summary c, none)

def errorText (message : String) : String := "Error: " ++ message

/-- What is written when no log filter comes about, which ends the program at once.  An empty line
stands in front. -/
def noFilterText : String := "\n" ++ DirectiveFault.tornCharacter.message

/-- What the program does in given surroundings. -/
def run (s : Surroundings) : Verdict :=
  let path := s.configPath
  let tree := s.disk path
  match (ConfigLoader.forTree tree).load path tree with
  | .error e =>
    let heading := errorText ("Failed to load hook engine config from " ++ path)
    ⟨1, [heading, e.context].flatMap Text.lines, []⟩
  | .ok config =>
    let settings := config.logging.getD {}
    let (filter, complaints) := filterFor s.filterVariable settings
    let (events, fault) := review path config
    match filter with
    | none => ⟨101, (complaints ++ [noFilterText]).flatMap Text.lines, []⟩
    | some filter =>
      let log := (events.filter filter.shows).flatMap (·.lines settings)
      match fault with
      | some fault =>
        ⟨1, (complaints ++ [errorText (fault.messages.headD "")]).flatMap Text.lines, log⟩
      | none => ⟨0, complaints.flatMap Text.lines, log⟩

end AuctionHooks.Program
