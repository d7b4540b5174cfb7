import AuctionHooks.Config.Basic
import AuctionHooks.Logging.Event
import AuctionHooks.Plan.Validity

/-!
# What makes a configuration valid

A configuration is valid when its plan is, when every module switch names a module, and when no
group may take longer than half a minute per hook.  A fault of the switches is found before a fault
of the plan, and that before an excessive time limit.

Two things are worth a remark without being faults: a group that runs no hook, and a plan that
refers to a module that is switched off.
-/

namespace AuctionHooks

inductive ConfigFault where
  | blankModule
  | plan (fault : PlanFault)
  /-- A group with a time limit beyond what is allowed. -/
  | excessiveTimeout (endpoint : String) (stage : Stage) (timeout : UInt64)
  deriving DecidableEq, Inhabited, Repr

/-- The greatest time limit of a group, in milliseconds. -/
def maxGroupTimeout : UInt64 := 30000

namespace ConfigFault

/-- What is shown to people, outermost first. -/
def messages : ConfigFault → List String
  | blankModule => ["Module code cannot be empty"]
  | plan fault => ["Invalid host execution plan", fault.toEngineError.message]
  | excessiveTimeout endpoint stage timeout =>
    [s!"Group timeout of {endpoint}/{stage.name} must be at most {maxGroupTimeout}ms, "
      ++ s!"got {timeout}ms"]

end ConfigFault

/-- The first group of a stage with an excessive time limit, as a fault. -/
def StagePlan.excess? (endpoint : String) (stage : Stage) (p : StagePlan) : Option ConfigFault :=
  (p.groups.find? fun g => g.timeout > maxGroupTimeout).map fun g =>
    .excessiveTimeout endpoint stage g.timeout

def Plan.stageEntries (p : Plan) : List (String × Stage × StagePlan) :=
  p.endpoints.toList.flatMap fun e => e.2.stages.toList.map fun s => (e.1, s.1, s.2)

namespace EngineConfig

def excess? (c : EngineConfig) : Option ConfigFault :=
  c.hooks.hostPlan.stageEntries.findSome? fun e => e.2.2.excess? e.1 e.2.1

/-- The faults that are looked for before any time limit is compared. -/
def earlyFault? (c : EngineConfig) : Option ConfigFault :=
  if c.hooks.modules.keys.any Text.isBlank then some .blankModule
  else c.hooks.hostPlan.fault?.map .plan

def fault? (c : EngineConfig) : Option ConfigFault := c.earlyFault?.or c.excess?

def validate (c : EngineConfig) : Except ConfigFault Unit :=
  match c.fault? with
  | some f => .error f
  | none => .ok ()

/-- The part of the program that remarks on configurations. -/
def remarkTarget : String := "openbid_hook_engine::infrastructure::config::loader"

/-- The remarks that are made while a configuration is validated: about groups without hooks, as
far as the stages are looked at, and about modules that are switched off, if there is no fault. -/
def remarks (c : EngineConfig) : List LogEvent :=
  let plan := c.hooks.hostPlan
  let seen :=
    if c.earlyFault?.isSome then []
    else plan.stageEntries.takeWhile fun e => (e.2.2.excess? e.1 e.2.1).isNone
  let unused := seen.filter fun e => e.2.2.groups.any HookGroup.isEmpty
  let disabled :=
    if c.fault?.isSome then []
    else plan.moduleCodes.keys.filter fun m => c.hooks.modules.get? m = some false
  (unused.map fun e =>
    ⟨.warn, remarkTarget, "Execution group without hooks",
      [("endpoint", .text e.1), ("stage", .text e.2.1.name)]⟩) ++
  (disabled.map fun m =>
    ⟨.debug, remarkTarget, "Module referenced by host plan is disabled", [("module", .text m)]⟩)

end EngineConfig

end AuctionHooks
