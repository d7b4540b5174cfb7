import AuctionHooks.EngineError
import AuctionHooks.Stage

/-!
# Execution plans

A plan says which hooks run when: for an endpoint and a stage it holds a list of groups, and a
group is a list of hooks that run one after the other.

## Merging

Two plans are merged by appending: where both have groups for the same endpoint and stage, those
of the first come first.  Nothing is ever dropped or replaced, an endpoint or stage that holds no
group included, so `Plan.mergedWith` makes the plans a monoid with the empty plan as its unit, and
looking up groups is a homomorphism into lists.
-/

namespace AuctionHooks

/-- Hooks that run one after the other, each under the same time limit. -/
structure HookGroup where
  /-- The time limit of each single hook, in milliseconds.  It is not shared: a slow hook takes
  nothing away from the next. -/
  timeout : UInt64
  hooks : List HookId := []
  deriving DecidableEq, Inhabited, Repr

namespace HookGroup

def isEmpty (g : HookGroup) : Bool := g.hooks.isEmpty

/-- The whole seconds of the time limit. -/
def timeoutSeconds (g : HookGroup) : UInt64 := g.timeout / 1000

/-- What the time limit holds beyond whole seconds, in nanoseconds. -/
def timeoutNanos (g : HookGroup) : UInt64 := g.timeout % 1000 * 1000000

end HookGroup

/-- What runs at one stage. -/
structure StagePlan where
  groups : List HookGroup := []
  deriving DecidableEq, Inhabited, Repr

/-- What runs for one endpoint, by stage. -/
structure EndpointPlan where
  stages : Table Stage StagePlan := ∅
  deriving DecidableEq, Inhabited

/-- What runs when, by endpoint and stage. -/
structure Plan where
  endpoints : Table String EndpointPlan := ∅
  deriving DecidableEq, Inhabited

def StagePlan.append (a b : StagePlan) : StagePlan := ⟨a.groups ++ b.groups⟩

namespace EndpointPlan

/-- The groups planned for a stage, none if the stage is not planned for. -/
def groupsFor (p : EndpointPlan) (stage : Stage) : List HookGroup :=
  ((p.stages.get? stage).map StagePlan.groups).getD []

/-- Both plans, the groups of the first in front. -/
def mergedWith (a b : EndpointPlan) : EndpointPlan :=
  ⟨a.stages.mergeWith StagePlan.append b.stages⟩

end EndpointPlan

namespace Plan

def empty : Plan := {}

def isEmpty (p : Plan) : Bool := p.endpoints.isEmpty

/-- The groups planned for an endpoint and a stage, none if either is not planned for. -/
def groupsFor (p : Plan) (endpoint : String) (stage : Stage) : List HookGroup :=
  ((p.endpoints.get? endpoint).map (·.groupsFor stage)).getD []

def mergedWith (a b : Plan) : Plan :=
  ⟨a.endpoints.mergeWith EndpointPlan.mergedWith b.endpoints⟩

def groups (p : Plan) : List HookGroup :=
  p.endpoints.values.flatMap fun e => e.stages.values.flatMap StagePlan.groups

def moduleCodes (p : Plan) : KeySet String :=
  KeySet.ofList (p.groups.flatMap fun g => g.hooks.map HookId.moduleCode)

end Plan

end AuctionHooks
