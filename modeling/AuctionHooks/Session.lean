import AuctionHooks.Engine

/-!
# Sessions

A session is the life of one request in one engine: a payload that is handed from run to run, the
scene that the runs work on, and the monitor that watches.  Its steps run a single group, the
groups of a stage, or a stage as the engine has it planned, or let time pass.

A step that succeeds leaves its payload to the session.  A step that is stopped by an error leaves
the payload of the session as it was.
-/

namespace AuctionHooks

/-- The life of one request in one engine. -/
structure Session (π : Type) where
  engine : Engine π
  scene : Scene π
  monitor : Monitor := {}
  /-- The payload as the latest successful step has left it. -/
  payload : π

inductive SessionStep (π : Type) where
  /-- Runs a group by itself, under circumstances that are given in full. -/
  | group (setup : RunSetup π) (group : HookGroup)
  /-- Runs groups as a stage, without the engine. -/
  | stage (setup : RunSetup π) (stage : Stage) (entity : String) (groups : List HookGroup)
  /-- Runs a stage through the engine. -/
  | engine (stage : Stage) (entity : String) (account : Option AccountConfig)
      (invocations : InvocationProvider)
  | wait (ms : Nat)

inductive SessionAnswer (π : Type) where
  | group (result : GroupResult π)
  | stage (result : StageResult π)
  | waited
  | failed (e : EngineError)
  deriving DecidableEq, Inhabited

namespace Session

variable {π : Type}

def step (s : Session π) : SessionStep π → SessionAnswer π × Session π
  | .group setup group =>
    match setup.runGroup group s.payload s.scene with
    | (.ok result, scene) => (.group result, { s with scene, payload := result.payload })
    | (.error e, scene) => (.failed e, { s with scene })
  | .stage setup stage entity groups =>
    match setup.runStage stage entity groups s.payload s.scene with
    | (.ok result, scene) => (.stage result, { s with scene, payload := result.payload })
    | (.error e, scene) => (.failed e, { s with scene })
  | .engine stage entity account invocations =>
    match s.engine.executeStage stage entity account invocations s.payload s.scene s.monitor with
    | (.ok result, scene, monitor) =>
      (.stage result, { s with scene, monitor, payload := result.payload })
    | (.error e, scene, monitor) => (.failed e, { s with scene, monitor })
  | .wait ms =>
    (.waited, { s with scene := { s.scene with timeline := s.scene.timeline.wait ms } })

def steps (s : Session π) : List (SessionStep π) → List (SessionAnswer π) × Session π
  | [] => ([], s)
  | first :: rest =>
    let (answer, s) := s.step first
    let (answers, s) := steps s rest
    (answer :: answers, s)

/-- The session after every waiting call has begun. -/
def drained (s : Session π) : Session π :=
  { s with scene := { s.scene with timeline := s.scene.timeline.letRun } }

end Session

end AuctionHooks
