import AuctionHooks.Catalog
import AuctionHooks.Run.Scene

/-!
# One attempt to run a hook

An attempt asks the provider for the hook, tells the hook its circumstances, and lets it race
against the time limit.  What a module keeps is replaced as soon as one of its hooks has finished
with a result, whatever the result says otherwise; no other ending touches it.
-/

namespace AuctionHooks

/-- Which modules are switched on; a module that is not mentioned is. -/
abbrev ModuleSwitches := Table String Bool

def ModuleSwitches.isOn (s : ModuleSwitches) (moduleCode : String) : Bool :=
  (s.get? moduleCode).getD true

/-- What the hooks of a run share. -/
structure RunSetup (π : Type) where
  provider : HookProvider π
  invocations : InvocationProvider
  switches : ModuleSwitches := ∅
  /-- Whether a hook may reject the request. -/
  rejectAllowed : Bool := true

inductive Attempt (π : Type) where
  /-- There was no hook to call. -/
  | unresolved (e : EngineError)
  /-- The call finished in time, after some milliseconds. -/
  | finished (answer : Answer π) (elapsed : UInt64)
  /-- The call did not finish within the limit, and some milliseconds went by. -/
  | timedOut (timeout elapsed : UInt64)
  deriving DecidableEq, Inhabited

/-- What the module of a hook keeps after an answer. -/
def Request.settle {π : Type} (r : Request) (hook : HookId) : Answer π → Request
  | .result result => r.putModuleContext hook.moduleCode result.moduleContext
  | _ => r

def RunSetup.attempt {π : Type} (setup : RunSetup π) (timeout : UInt64) (hook : HookId)
    (payload : π) (scene : Scene π) : Ended (Scene π) (Attempt π) :=
  match setup.provider hook with
  | .error e => (.ok (.unresolved e), scene)
  | .ok found =>
    let kept := scene.request.moduleContext hook.moduleCode
    let invocation := setup.invocations timeout hook kept
    let course := found.course (scene.timeline.callsOf hook) payload invocation
    match scene.timeline.run timeout ⟨hook, payload, invocation, course⟩ with
    | (.error e, timeline) => (.error e, { scene with timeline })
    | (.ok (some answer, elapsed), timeline) =>
      (.ok (.finished answer elapsed), ⟨scene.request.settle hook answer, timeline⟩)
    | (.ok (none, elapsed), timeline) =>
      (.ok (.timedOut timeout elapsed), { scene with timeline })

end AuctionHooks
