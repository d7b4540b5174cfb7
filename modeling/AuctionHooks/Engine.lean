import AuctionHooks.Config.Basic
import AuctionHooks.Monitor.Basic
import AuctionHooks.Run.Stage

/-!
# The engine

The engine runs a stage for a request: it works out the plan and the module switches, from the
configuration of the host and that of the account, runs the groups that the plan has for the
endpoint of the request, and reports what they did to the monitor.  A run that is stopped by an
error is not reported.

## The date of a record

A record is dated.  In service the date is that of a clock on the wall, which is read anew for each
record.  This library knows one clock only, the timeline of the scene, so here the records of a stage
all carry the time at which the stage has ended, counted from the beginning of 1970.  The date goes
into `HookRecord.executedAt` and is not looked at again.
-/

namespace AuctionHooks

structure Monitor where
  metrics : Metrics := {}
  /-- Keeps single records, if there is one. -/
  recorder : Option Recorder := none
  deriving Inhabited

namespace Monitor

def record (m : Monitor) (r : HookRecord) : Monitor :=
  ⟨m.metrics.record r, m.recorder.map (·.record r)⟩

def recordStage (m : Monitor) (stage : Stage) (time : Timestamp) (o : StageOutcome) : Monitor :=
  ⟨m.metrics.recordStage stage time o, m.recorder.map (·.recordStage stage time o)⟩

end Monitor

structure Engine (π : Type) where
  config : HooksConfig := {}
  catalog : HookCatalog π := {}
  deriving Inhabited

namespace Engine

variable {π : Type}

/-- The plan for an account: that of the host, followed by that of the account if it has one. -/
def planFor (e : Engine π) (account : Option AccountConfig) : Plan :=
  match account.bind AccountConfig.plan with
  | some plan => e.config.hostPlan.mergedWith plan
  | none => e.config.hostPlan

/-- The module switches for an account: its own laid over those of the host. -/
def switchesFor (e : Engine π) (account : Option AccountConfig) : ModuleSwitches :=
  match account with
  | some account =>
    if account.modules.isEmpty then e.config.modules
    else e.config.modules.override account.modules
  | none => e.config.modules

/-- Runs a stage for a request and reports the run to the monitor. -/
def executeStage (e : Engine π) (stage : Stage) (entity : String) (account : Option AccountConfig)
    (invocations : InvocationProvider) (payload : π) (scene : Scene π) (monitor : Monitor) :
    Except EngineError (StageResult π) × Scene π × Monitor :=
  let groups := (e.planFor account).groupsFor scene.request.endpoint stage
  let setup : RunSetup π :=
    { provider := e.catalog.resolve, invocations, switches := e.switchesFor account }
  match setup.runStage stage entity groups payload scene with
  | (.ok result, scene) =>
    let time := Timestamp.ofMillis scene.timeline.now
    (.ok result, scene, monitor.recordStage stage time result.outcome)
  | (.error e, scene) => (.error e, scene, monitor)

end Engine

end AuctionHooks
