import AuctionHooks.Plan.Basic
import AuctionHooks.Run.Attempt

/-!
# Configuration

The host configures the engine: which modules run, which hooks run when, and how to log.  An
account may come with a configuration of its own, which adds groups to the plan of the host and
overrides its module switches.

## Merging

Several configurations are merged in order (`EngineConfig.merge`), each part by its own rule: of
the log settings the last that are given count, of the switches of one module the last, and the
plans are merged by appending.
-/

namespace AuctionHooks

structure LogSettings where
  /-- Which events are logged, as the text of a filter. -/
  level : String := "info"
  withTarget : Bool := true
  withThreadIds : Bool := false
  withFile : Bool := false
  withLineNumber : Bool := false
  json : Bool := false
  deriving DecidableEq, Inhabited, Repr

structure HooksConfig where
  modules : ModuleSwitches := ∅
  hostPlan : Plan := {}
  deriving DecidableEq, Inhabited

def HooksConfig.disabledModules (c : HooksConfig) : KeySet String :=
  KeySet.ofList ((c.modules.toList.filter fun e => !e.2).map (·.1))

/-- What the host configures. -/
structure EngineConfig where
  logging : Option LogSettings := none
  hooks : HooksConfig := {}
  deriving DecidableEq, Inhabited

/-- What an account configures. -/
structure AccountConfig where
  /-- Groups that run after those of the host. -/
  plan : Option Plan := none
  /-- Switches that override those of the host. -/
  modules : ModuleSwitches := ∅
  deriving DecidableEq, Inhabited

namespace EngineConfig

/-- Lays one configuration over another. -/
def overlay (base top : EngineConfig) : EngineConfig where
  logging := top.logging.or base.logging
  hooks :=
    { modules := base.hooks.modules.override top.hooks.modules
      hostPlan := base.hooks.hostPlan.mergedWith top.hooks.hostPlan }

/-- Several configurations as one, each laid over those before it. -/
def merge (configs : List EngineConfig) : EngineConfig := configs.foldl overlay {}

end EngineConfig

end AuctionHooks
