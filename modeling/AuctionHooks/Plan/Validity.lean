import AuctionHooks.Plan.Basic

/-!
# What makes a plan valid

A plan is valid when every endpoint has a name, every group a positive time limit and every hook
id both of its codes.  `Plan.fault?` finds the first violation and says where it is; within one
stage it looks at the groups in order, and within a group at the time limit before the ids.
-/

namespace AuctionHooks

/-- What is wrong with a plan, and where. -/
inductive PlanFault where
  | blankEndpoint
  /-- A group whose hooks would have no time at all. -/
  | noTimeout (group : Nat) (endpoint : String) (stage : Stage)
  | incompleteHook (group : Nat) (endpoint : String) (stage : Stage) (hook : HookId)
  deriving DecidableEq, Inhabited, Repr

namespace PlanFault

def message : PlanFault → String
  | blankEndpoint => "endpoint cannot be empty"
  | noTimeout group endpoint stage =>
    s!"group #{group} of {endpoint}/{stage.name} must have a positive timeout"
  | incompleteHook group endpoint stage hook =>
    s!"group #{group} of {endpoint}/{stage.name} has an incomplete hook id '{hook.display}'"

def toEngineError (f : PlanFault) : EngineError := .configuration f.message none

end PlanFault

/-- What is wrong with the group at a given place of a stage, if anything is. -/
def HookGroup.fault? (endpoint : String) (stage : Stage) (index : Nat) (g : HookGroup) :
    Option PlanFault :=
  if g.timeout = 0 then some (.noTimeout index endpoint stage)
  else (g.hooks.find? HookId.isIncomplete).map (.incompleteHook index endpoint stage)

/-- The first fault among the groups of a stage. -/
def StagePlan.fault? (endpoint : String) (stage : Stage) (p : StagePlan) : Option PlanFault :=
  p.groups.zipIdx.findSome? fun e => e.1.fault? endpoint stage e.2

/-- The first fault of what is planned for an endpoint, its name included. -/
def EndpointPlan.fault? (endpoint : String) (p : EndpointPlan) : Option PlanFault :=
  if Text.isBlank endpoint then some .blankEndpoint
  else p.stages.toList.findSome? fun e => e.2.fault? endpoint e.1

namespace Plan

def fault? (p : Plan) : Option PlanFault :=
  p.endpoints.toList.findSome? fun e => e.2.fault? e.1

def validate (p : Plan) : Except EngineError Unit :=
  match p.fault? with
  | some f => .error f.toEngineError
  | none => .ok ()

end Plan

end AuctionHooks
