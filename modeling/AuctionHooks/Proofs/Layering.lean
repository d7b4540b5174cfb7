import AuctionHooks.Proofs.AccountLaw
import AuctionHooks.Proofs.Steps

/-!
# Two ways of laying one configuration over another

What one configuration leaves open another can be laid over, in two ways.  Two files are merged when
they are loaded, before there is an engine; and an account is laid over the host when a stage is run,
once for each request.  The two are written apart from each other.  The merge of files begins with the
empty configuration and knows no short cuts, the engine begins with what the host has configured and
takes some.

They come to the same.  An engine that has been given two files runs every stage as the engine of the
first file does for an account that brings the second one along (`Engine.executeStage_merge`), and it
does so all through the life of a request (`Session.steps_merge`).  Both rest on
`Engine.planFor_eq` and `Engine.switchesFor_eq`, by which the short cuts do not show, and on
`EngineConfig.merge_cons`, by which the empty beginning does not show either.  What runs is then equal
as a plan and as a table of switches, and there is nothing to be said about the run itself.
-/

namespace AuctionHooks

variable {π : Type}

/-- A configuration as an account brings it along.  Its log settings stay behind. -/
def EngineConfig.asAccount (c : EngineConfig) : AccountConfig where
  plan := some c.hooks.hostPlan
  modules := c.hooks.modules

namespace Engine

variable (a b : EngineConfig) (catalog : HookCatalog π)

theorem planFor_merge :
    (⟨(EngineConfig.merge [a, b]).hooks, catalog⟩ : Engine π).planFor none =
      (⟨a.hooks, catalog⟩ : Engine π).planFor (some b.asAccount) := by
  rw [EngineConfig.merge_pair, planFor_eq ⟨a.hooks, catalog⟩]
  rfl

theorem switchesFor_merge :
    (⟨(EngineConfig.merge [a, b]).hooks, catalog⟩ : Engine π).switchesFor none =
      (⟨a.hooks, catalog⟩ : Engine π).switchesFor (some b.asAccount) := by
  rw [EngineConfig.merge_pair, switchesFor_eq ⟨a.hooks, catalog⟩]
  rfl

/-- **An account that brings a file along is as good as the file.**  The engine of two merged files,
without an account, and the engine of the first file, for an account that brings the second along, run
every stage to the same answer, or the same error, and leave the same scene and the same monitor. -/
theorem executeStage_merge (stage : Stage) (entity : String) (invocations : InvocationProvider)
    (payload : π) (scene : Scene π) (monitor : Monitor) :
    (⟨(EngineConfig.merge [a, b]).hooks, catalog⟩ : Engine π).executeStage stage entity none
        invocations payload scene monitor =
      (⟨a.hooks, catalog⟩ : Engine π).executeStage stage entity (some b.asAccount) invocations
        payload scene monitor := by
  rw [executeStage, executeStage, planFor_merge, switchesFor_merge]

end Engine

/-! ## The life of a request -/

/-- A step with another account, if it is one of those that have any. -/
def SessionStep.forAccount (account : Option AccountConfig) : SessionStep π → SessionStep π
  | .engine st entity _ invocations => .engine st entity account invocations
  | other => other

namespace Session

/-- A session with another configuration of the host. -/
def configured (s : Session π) (config : HooksConfig) : Session π :=
  { s with engine := ⟨config, s.engine.catalog⟩ }

variable (a b : EngineConfig)

/-- One step answers alike however the second file has come in, and leaves sessions that differ in
nothing else. -/
theorem step_merge (s : Session π) (step : SessionStep π) :
    (s.configured (EngineConfig.merge [a, b]).hooks).step (step.forAccount none) =
      Prod.map id (·.configured (EngineConfig.merge [a, b]).hooks)
        ((s.configured a.hooks).step (step.forAccount (some b.asAccount))) := by
  cases step with
  | group setup group =>
    simp only [SessionStep.forAccount, Session.step, configured]
    rcases setup.runGroup group s.payload s.scene with ⟨_ | _, _⟩ <;> rfl
  | stage setup stage entity groups =>
    simp only [SessionStep.forAccount, Session.step, configured]
    rcases setup.runStage stage entity groups s.payload s.scene with ⟨_ | _, _⟩ <;> rfl
  | engine stage entity account invocations =>
    simp only [SessionStep.forAccount, Session.step, configured, Engine.executeStage,
      Engine.planFor_merge, Engine.switchesFor_merge]
    rcases RunSetup.runStage _ stage entity _ s.payload s.scene with ⟨_ | _, _⟩ <;> rfl
  | wait ms => rfl

/-- A session that is configured as it was already stays as it is. -/
theorem configured_step (s : Session π) (config : HooksConfig) (step : SessionStep π) :
    ((s.configured config).step step).2.configured config = ((s.configured config).step step).2 := by
  have hengine := (s.configured config).engine_step step
  generalize ((s.configured config).step step).2 = after at hengine ⊢
  show ({ after with engine := ⟨config, after.engine.catalog⟩ } : Session π) = after
  rw [hengine]
  show ({ after with engine := (s.configured config).engine } : Session π) = after
  rw [← hengine]

/-- **All through the life of a request** it makes no difference whether the second file was merged
into the first or is brought along by the account at every step: the answers are the same, and so is
all that is left, save for the configuration itself. -/
theorem steps_merge (s : Session π) (steps : List (SessionStep π)) :
    (s.configured (EngineConfig.merge [a, b]).hooks).steps (steps.map (·.forAccount none)) =
      Prod.map id (·.configured (EngineConfig.merge [a, b]).hooks)
        ((s.configured a.hooks).steps (steps.map (·.forAccount (some b.asAccount)))) := by
  induction steps generalizing s with
  | nil => rfl
  | cons first rest ih =>
    have hstep := step_merge a b s first
    have hnext := ih ((s.configured a.hooks).step (first.forAccount (some b.asAccount))).2
    rw [configured_step] at hnext
    rw [List.map_cons, List.map_cons, Session.steps, Session.steps, hstep]
    simp only [Prod.map_fst, Prod.map_snd, id_eq]
    rw [hnext]
    rfl

end Session

end AuctionHooks
