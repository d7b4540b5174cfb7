import AuctionHooks.Proofs.History
import AuctionHooks.Proofs.Merging
import AuctionHooks.Proofs.Mirror

/-!
# What an account adds

The engine merges what the host has configured with what an account brings along, and it takes short
cuts where there is nothing to merge.  Neither the merging nor the short cuts show in a run.  The
groups of the account follow those of the host, a switch of the account outweighs one of the host, and
beyond this a run through the engine is the run of a stage like any other.

## Which module runs is all that counts

Module switches are a table, and tables that differ may switch on the same modules.  A run cannot
tell them apart (`RunSetup.runStage_congr_switches`), so the engine is compared with a run under *any*
switches that switch on the right modules.
-/

namespace AuctionHooks

variable {π : Type}

namespace RunSetup

/-- Once the turn of a hook has come, its switch is no longer looked at. -/
theorem attempt_with_switches (setup : RunSetup π) (switches : ModuleSwitches) :
    { setup with switches }.attempt = setup.attempt := rfl

/-- Switches that switch on the same modules are as good as each other. -/
theorem follows_switches (setup : RunSetup π) {switches : ModuleSwitches}
    (h : ∀ moduleCode, switches.isOn moduleCode = setup.switches.isOn moduleCode) :
    setup.Follows Eq (fun _ => True) { setup with switches } where
  rejectAllowed := rfl
  isOn := h
  stopped := by
    rintro slot payload scene _ e rfl ht
    have hstopped := attempt_of_takeTurn_eq_error ht
    rw [← attempt_with_switches setup switches] at hstopped
    exact takeTurn_eq_error hstopped
  taken := by
    rintro t scene' rfl - rfl
    have hmade := t.made
    rw [← attempt_with_switches t.setup switches] at hmade
    obtain ⟨t', ht', hattempt, hafter⟩ := exists_takeTurn hmade
    exact ⟨t', ht', hattempt, hafter.symm⟩

/-- **A stage depends on its switches only by the modules that they switch on.** -/
theorem runStage_congr_switches (setup : RunSetup π) {switches : ModuleSwitches}
    (h : ∀ moduleCode, switches.isOn moduleCode = setup.switches.isOn moduleCode) (stage : Stage)
    (entity : String) (groups : List HookGroup) (payload : π) (scene : Scene π) :
    { setup with switches }.runStage stage entity groups payload scene =
      setup.runStage stage entity groups payload scene := by
  have hfollows : (setup.atStage stage).Follows Eq (fun _ => True)
      ({ setup with switches }.atStage stage) := (setup.atStage stage).follows_switches h
  have hmirrors : Ended.Mirrors Eq (setup.runStage stage entity groups payload scene)
      ({ setup with switches }.runStage stage entity groups payload scene) :=
    hfollows.runStage (fun o heq => by rw [heq]) entity groups rfl fun _ _ => trivial
  exact Prod.ext hmirrors.1 hmirrors.2.symm

end RunSetup

namespace Engine

/-- Whether the engine runs the hooks of a module for an account: the switch of the account decides,
else that of the host; a module that neither mentions runs. -/
def runsModule (e : Engine π) (account : Option AccountConfig) (moduleCode : String) : Bool :=
  ((account.bind fun a => a.modules.get? moduleCode).or (e.config.modules.get? moduleCode)).getD
    true

/-- The plan for an account is a merged plan, also where there is nothing to merge. -/
theorem planFor_eq (e : Engine π) (account : Option AccountConfig) :
    e.planFor account =
      e.config.hostPlan.mergedWith ((account.bind AccountConfig.plan).getD {}) := by
  rw [planFor]
  cases account.bind AccountConfig.plan <;> rfl

/-- The switches for an account are switches laid over others, also where there are none to lay. -/
theorem switchesFor_eq (e : Engine π) (account : Option AccountConfig) :
    e.switchesFor account =
      e.config.modules.override ((account.map AccountConfig.modules).getD ∅) := by
  cases account with
  | none => rfl
  | some account =>
    rw [switchesFor]
    split
    · next hempty =>
      have hentries : account.modules.entries = [] := List.isEmpty_iff.1 hempty
      rw [Option.map_some, Option.getD_some, Table.override, hentries]
      rfl
    · rfl

theorem isOn_switchesFor (e : Engine π) (account : Option AccountConfig) (moduleCode : String) :
    (e.switchesFor account).isOn moduleCode = e.runsModule account moduleCode := by
  rw [switchesFor_eq, ModuleSwitches.isOn, Table.get?_override, runsModule]
  cases account <;> rfl

theorem groupsFor_planFor (e : Engine π) (account : Option AccountConfig) (endpoint : String)
    (stage : Stage) :
    (e.planFor account).groupsFor endpoint stage =
      e.config.hostPlan.groupsFor endpoint stage ++
        ((account.bind AccountConfig.plan).map (·.groupsFor endpoint stage)).getD [] := by
  rw [planFor_eq, Plan.groupsFor_mergedWith]
  cases account.bind AccountConfig.plan <;> rfl

/-- **An account adds its groups and its switches, and nothing else.**  Through the engine a stage
comes to the same answer, or the same error, and leaves the same scene as the stage run by itself,
with the groups of the host followed by those of the account, under any switches that switch on the
modules that are to run.  There are such switches, those that the engine works out; and the engine
works out plan and switches by merging, where it takes a short cut as well as where it does not. -/
theorem executeStage_eq_runStage (e : Engine π) (stage : Stage) (entity : String)
    (account : Option AccountConfig) (invocations : InvocationProvider) (payload : π)
    (scene : Scene π) (monitor : Monitor) {switches : ModuleSwitches}
    (h : ∀ moduleCode, switches.isOn moduleCode = e.runsModule account moduleCode) :
    ((e.executeStage stage entity account invocations payload scene monitor).1,
        (e.executeStage stage entity account invocations payload scene monitor).2.1) =
      RunSetup.runStage { provider := e.catalog.resolve, invocations, switches } stage entity
        (e.config.hostPlan.groupsFor scene.request.endpoint stage ++
          ((account.bind AccountConfig.plan).map
            (·.groupsFor scene.request.endpoint stage)).getD [])
        payload scene ∧
      (∀ moduleCode, (e.switchesFor account).isOn moduleCode = e.runsModule account moduleCode) ∧
      e.planFor account =
        e.config.hostPlan.mergedWith ((account.bind AccountConfig.plan).getD {}) ∧
      e.switchesFor account =
        e.config.modules.override ((account.map AccountConfig.modules).getD ∅) := by
  refine ⟨?_, e.isOn_switchesFor account, e.planFor_eq account, e.switchesFor_eq account⟩
  rw [executeStage_eq, groupsFor_planFor]
  have hswitches : ∀ moduleCode,
      switches.isOn moduleCode = (e.setupFor account invocations).switches.isOn moduleCode :=
    fun moduleCode => (h moduleCode).trans (e.isOn_switchesFor account moduleCode).symm
  exact ((e.setupFor account invocations).runStage_congr_switches hswitches stage entity _ payload
    scene).symm

/-- A module whose only hook appends a digit to the payload. -/
def digitHook (digit : Nat) : Hook Nat where
  code := "add"
  course _ payload _ := .finishes 1 (.result { payload := some (10 * payload + digit) })

/-- A host with two groups, one of its three modules switched off. -/
def lodge : Engine Nat where
  config :=
    { modules := Table.ofList [("shut", false), ("loud", true)]
      hostPlan :=
        ⟨Table.ofList [("/auction", ⟨Table.ofList
          [(.entrypoint, ⟨[⟨5, [⟨"first", "add"⟩, ⟨"shut", "add"⟩]⟩, ⟨5, [⟨"loud", "add"⟩]⟩]⟩)]⟩)]⟩ }
  catalog :=
    ((({} : HookCatalog Nat).register "first" (digitHook 1)).register "shut" (digitHook 2)).register
      "loud" (digitHook 3)

/-- An account with another group, which turns both switches round. -/
def lodger : AccountConfig where
  plan := some ⟨Table.ofList [("/auction", ⟨Table.ofList
    [(.entrypoint, ⟨[⟨5, [⟨"first", "add"⟩, ⟨"gone", "add"⟩]⟩]⟩)]⟩)]⟩
  modules := Table.ofList [("shut", true), ("loud", false)]

def lodgeScene : Scene Nat := ⟨⟨default, "/auction", default, ∅, ∅⟩, default⟩

/-- A setup of one switch, which runs what the engine runs for the account. -/
def lodgerSetup : RunSetup Nat where
  provider := lodge.catalog.resolve
  invocations := .atEndpoint "/auction"
  switches := Table.ofList [("loud", false)]

def lodgerGroups : List HookGroup :=
  [⟨5, [⟨"first", "add"⟩, ⟨"shut", "add"⟩]⟩, ⟨5, [⟨"loud", "add"⟩]⟩,
    ⟨5, [⟨"first", "add"⟩, ⟨"gone", "add"⟩]⟩]

/-- For the account the module that the host has switched off runs, and the loud one does not, just
as in a stage run under the single switch that says so. -/
theorem executeStage_lodger :
    (∀ moduleCode, lodgerSetup.switches.isOn moduleCode =
      lodge.runsModule (some lodger) moduleCode) ∧
    ∃ result after,
      lodgerSetup.runStage .entrypoint "auction" lodgerGroups 0 lodgeScene = (.ok result, after) ∧
      (lodge.executeStage .entrypoint "auction" (some lodger) (.atEndpoint "/auction") 0 lodgeScene
        {}).1 = .ok result ∧
      (lodge.executeStage .entrypoint "auction" (some lodger) (.atEndpoint "/auction") 0 lodgeScene
        {}).2.1 = after ∧
      result.payload = 121 ∧
      result.outcome.hookOutcomes.map HookOutcome.hook =
        [⟨"first", "add"⟩, ⟨"shut", "add"⟩, ⟨"first", "add"⟩, ⟨"gone", "add"⟩] := by
  have hswitches : ∀ moduleCode, lodgerSetup.switches.isOn moduleCode =
      lodge.runsModule (some lodger) moduleCode := by
    intro moduleCode
    by_cases hloud : moduleCode = "loud"
    · rw [hloud]
      rfl
    · by_cases hshut : moduleCode = "shut"
      · rw [hshut]
        rfl
      · simp [ModuleSwitches.isOn, runsModule, lodgerSetup, lodge, lodger, Table.ofList,
          Table.insertAll, hloud, hshut]
  obtain ⟨result, after, hrun, hpayload, hhooks⟩ : ∃ result after,
      lodgerSetup.runStage .entrypoint "auction" lodgerGroups 0 lodgeScene = (.ok result, after) ∧
      result.payload = 121 ∧
      result.outcome.hookOutcomes.map HookOutcome.hook =
        [⟨"first", "add"⟩, ⟨"shut", "add"⟩, ⟨"first", "add"⟩, ⟨"gone", "add"⟩] :=
    ⟨_, _, rfl, rfl, rfl⟩
  obtain ⟨hexecuted, -⟩ := executeStage_eq_runStage lodge .entrypoint "auction" (some lodger)
    (.atEndpoint "/auction") 0 lodgeScene {} hswitches
  obtain ⟨hresult, hafter⟩ := Prod.ext_iff.1 (hexecuted.trans hrun)
  exact ⟨hswitches, result, after, hrun, hresult, hafter, hpayload, hhooks⟩

end Engine

end AuctionHooks
