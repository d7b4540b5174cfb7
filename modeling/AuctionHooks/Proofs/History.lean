import AuctionHooks.Proofs.Loops
import AuctionHooks.Session

/-!
# The history of a request

A request passes through many runs: single groups, stages, stages as an engine has them planned,
with waiting in between.  The runs need not be those of one session: each may meet another payload,
and even another engine.  What they have in common is the scene that they work on.

The turns of a history are the turns of its runs, one run after the other.  A run that is stopped by
an error counts with the turns that it has taken before that.

## Main statement

`threads_history`: whatever can be read off the timeline's calls and what the modules keep is handed
on from turn to turn along the whole history.  What else happens, the end of a run or waiting,
changes neither.
-/

namespace AuctionHooks

variable {π : Type}

/-! ## A run through the engine -/

namespace Engine

/-- What the hooks share in a run for an account. -/
def setupFor (e : Engine π) (account : Option AccountConfig) (invocations : InvocationProvider) :
    RunSetup π :=
  { provider := e.catalog.resolve, invocations, switches := e.switchesFor account }

/-- The engine runs a stage as anyone would, with the groups and the setup that it has for the
account; the monitor has no say in it. -/
theorem executeStage_eq (e : Engine π) (stage : Stage) (entity : String)
    (account : Option AccountConfig) (invocations : InvocationProvider) (payload : π)
    (scene : Scene π) (monitor : Monitor) :
    ((e.executeStage stage entity account invocations payload scene monitor).1,
        (e.executeStage stage entity account invocations payload scene monitor).2.1) =
      (e.setupFor account invocations).runStage stage entity
        ((e.planFor account).groupsFor scene.request.endpoint stage) payload scene := by
  unfold executeStage setupFor
  dsimp only
  split <;> (next hrun => rw [hrun])

section Monitored

variable {e : Engine π} {stage : Stage} {entity : String} {account : Option AccountConfig}
  {invocations : InvocationProvider} {payload : π} {scene after : Scene π}

/-- A stage that comes to its end is reported to the monitor, at the time of its end. -/
theorem executeStage_of_ok {result : StageResult π}
    (h : (e.setupFor account invocations).runStage stage entity
      ((e.planFor account).groupsFor scene.request.endpoint stage) payload scene =
        (.ok result, after)) (monitor : Monitor) :
    e.executeStage stage entity account invocations payload scene monitor =
      (.ok result, after,
        monitor.recordStage stage (Timestamp.ofMillis after.timeline.now) result.outcome) := by
  rw [setupFor] at h
  rw [executeStage, h]

/-- A stage that is stopped is not. -/
theorem executeStage_of_error {error : EngineError}
    (h : (e.setupFor account invocations).runStage stage entity
      ((e.planFor account).groupsFor scene.request.endpoint stage) payload scene =
        (.error error, after)) (monitor : Monitor) :
    e.executeStage stage entity account invocations payload scene monitor =
      (.error error, after, monitor) := by
  rw [setupFor] at h
  rw [executeStage, h]

end Monitored

end Engine

/-! ## What a step leaves of the scene -/

namespace Session

theorem scene_step_group (s : Session π) (setup : RunSetup π) (group : HookGroup) :
    (s.step (.group setup group)).2.scene = (setup.runGroup group s.payload s.scene).2 := by
  rw [step]
  split <;> (next hrun => rw [hrun])

theorem scene_step_stage (s : Session π) (setup : RunSetup π) (stage : Stage) (entity : String)
    (groups : List HookGroup) :
    (s.step (.stage setup stage entity groups)).2.scene =
      (setup.runStage stage entity groups s.payload s.scene).2 := by
  rw [step]
  split <;> (next hrun => rw [hrun])

theorem scene_step_engine (s : Session π) (stage : Stage) (entity : String)
    (account : Option AccountConfig) (invocations : InvocationProvider) :
    (s.step (.engine stage entity account invocations)).2.scene =
      ((s.engine.setupFor account invocations).runStage stage entity
        ((s.engine.planFor account).groupsFor s.scene.request.endpoint stage) s.payload
        s.scene).2 := by
  rw [← Engine.executeStage_eq s.engine stage entity account invocations s.payload s.scene s.monitor,
    step]
  split <;> (next hrun => rw [hrun])

end Session

/-! ## The runs of a request -/

/-- Something that happens to a request: a step of a session, in an engine and with a payload. -/
structure Happening (π : Type) where
  engine : Engine π
  monitor : Monitor := {}
  payload : π
  step : SessionStep π

namespace Happening

/-- The scene that is left. -/
def after (h : Happening π) (scene : Scene π) : Scene π :=
  ((Session.mk h.engine scene h.monitor h.payload).step h.step).2.scene

/-- The turns that are taken. -/
def turns (h : Happening π) (scene : Scene π) : List (Turn π) :=
  match h.step with
  | .group setup group => (setup.passage group.slots h.payload scene).turns
  | .stage setup stage _ groups => (setup.stagePassage stage groups h.payload scene).turns
  | .engine stage _ account invocations =>
    ((h.engine.setupFor account invocations).stagePassage stage
      ((h.engine.planFor account).groupsFor scene.request.endpoint stage) h.payload scene).turns
  | .wait _ => []

/-- The turns hand on the scene to one that differs from what is left at most in the time, in which
calls have begun, and in the log of the request. -/
theorem exists_scene (h : Happening π) (scene : Scene π) :
    ∃ scene', Threads Turn.before Turn.after scene (h.turns scene) scene' ∧
      (h.after scene).timeline.launches = scene'.timeline.launches ∧
      (h.after scene).request.kept = scene'.request.kept := by
  obtain ⟨engine, monitor, payload, step⟩ := h
  rw [turns, after]
  cases step with
  | group setup group =>
    refine ⟨_, setup.scenes_passage group.slots payload scene, ?_⟩
    rw [Session.scene_step_group, RunSetup.runGroup_eq]
    exact ⟨rfl, rfl⟩
  | stage setup stage entity groups =>
    refine ⟨_, (setup.account_stagePassage stage groups payload scene).scenes, ?_⟩
    rw [Session.scene_step_stage]
    obtain ⟨htimeline, hkept⟩ := setup.runStage_scene stage entity groups payload scene
    exact ⟨congrArg Timeline.launches htimeline, hkept⟩
  | engine stage entity account invocations =>
    refine ⟨_, ((engine.setupFor account invocations).account_stagePassage stage
      ((engine.planFor account).groupsFor scene.request.endpoint stage) payload scene).scenes, ?_⟩
    rw [Session.scene_step_engine]
    obtain ⟨htimeline, hkept⟩ := (engine.setupFor account invocations).runStage_scene stage entity
      ((engine.planFor account).groupsFor scene.request.endpoint stage) payload scene
    exact ⟨congrArg Timeline.launches htimeline, hkept⟩
  | wait ms =>
    exact ⟨scene, .nil scene, scene.timeline.launches_wait ms, rfl⟩

end Happening

/-! ## Histories -/

def sceneAfter : List (Happening π) → Scene π → Scene π
  | [], scene => scene
  | first :: rest, scene => sceneAfter rest (first.after scene)

/-- The turns of a history. -/
def turnsOf : List (Happening π) → Scene π → List (Turn π)
  | [], _ => []
  | first :: rest, scene => first.turns scene ++ turnsOf rest (first.after scene)

/-- **Calls and what modules keep are handed on along a history.** -/
theorem threads_history {β : Type} (g : List (Launch π) → Table String ModuleContext → β)
    (history : List (Happening π)) (scene : Scene π) :
    Threads (fun t => g t.before.timeline.launches t.before.request.kept)
      (fun t => g t.after.timeline.launches t.after.request.kept)
      (g scene.timeline.launches scene.request.kept) (turnsOf history scene)
      (g (sceneAfter history scene).timeline.launches
        (sceneAfter history scene).request.kept) := by
  induction history generalizing scene with
  | nil => exact .nil _
  | cons first rest ih =>
    obtain ⟨scene', hthreads, hlaunches, hkept⟩ := first.exists_scene scene
    have hrest := ih (first.after scene)
    rw [hlaunches, hkept] at hrest
    exact (hthreads.map fun s => g s.timeline.launches s.request.kept).append hrest

end AuctionHooks
