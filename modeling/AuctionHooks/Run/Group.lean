import AuctionHooks.Plan.Basic
import AuctionHooks.Run.Attempt

/-!
# Running a group

The hooks of a group run one after the other, and each sees the payload that the hooks before it
have left.  Nothing that goes wrong with one hook keeps the next from running: it is recorded, and
the group goes on.  Only a rejection ends the group early, and only where rejections are allowed.

## What a result does

A result that reports failure is recorded and has no other effect, its payload and its wish to
reject included.  A result that reports success first replaces the payload, if it carries one, and
then rejects the request, if it asks for that.  Where rejections are not allowed the wish is
recorded all the same, together with a warning.
-/

namespace AuctionHooks

/-- What a run of a group has come to so far. -/
structure GroupResult (π : Type) where
  payload : π
  rejectAllowed : Bool := true
  rejectedBy : Option HookId := none
  outcomes : List HookOutcome := []
  deriving DecidableEq, Inhabited

def rejectNotAllowed : String := "rejection is not supported during this stage"

def panicText : Option String → String := breakdownText "hook panicked"

namespace GroupResult

variable {π : Type}

def isRejected (r : GroupResult π) : Bool := r.rejectedBy.isSome

/-- The first record of a hook. -/
def outcomeFor (r : GroupResult π) (hook : HookId) : Option HookOutcome :=
  r.outcomes.find? fun o => o.hook = hook

def toOutcome (r : GroupResult π) : GroupOutcome := ⟨r.outcomes⟩

def push (r : GroupResult π) (o : HookOutcome) : GroupResult π :=
  { r with outcomes := r.outcomes ++ [o] }

/-- Records an attempt that has led to no result. -/
def recordFailure (r : GroupResult π) (hook : HookId) (status : HookStatus) (message : String)
    (elapsed : UInt64) : GroupResult π :=
  r.push ⟨hook, status, none, elapsed, { message := some message }⟩

def applyResult (r : GroupResult π) (hook : HookId) (result : InvocationResult π)
    (elapsed : UInt64) : GroupResult π :=
  match result.status with
  | .failure => r.push ⟨hook, .failure, none, elapsed, result.messages⟩
  | .success =>
    let rejects := result.reject && r.rejectAllowed
    let messages :=
      if result.reject && !r.rejectAllowed then (result.withWarning rejectNotAllowed).messages
      else result.messages
    { r with
      payload := result.payload.getD r.payload
      rejectedBy := r.rejectedBy.or (if rejects then some hook else none)
      outcomes := r.outcomes ++ [⟨hook, .success, some result.action, elapsed, messages⟩] }

/-- Records how an attempt ended, and applies its result if it has one. -/
def note (r : GroupResult π) (hook : HookId) : Attempt π → GroupResult π
  | .unresolved e => r.recordFailure hook .providerResolutionFailure e.message 0
  | .finished (.result result) elapsed => r.applyResult hook result elapsed
  | .finished .nothing elapsed =>
    r.recordFailure hook .nullResult "hook returned no result" elapsed
  | .finished (.error e) elapsed => r.recordFailure hook .invocationFault e.message elapsed
  | .finished (.panic message) elapsed =>
    r.recordFailure hook .invocationFault (panicText message) elapsed
  | .timedOut timeout elapsed =>
    r.recordFailure hook .timeout s!"timed out after {timeout}ms" elapsed

end GroupResult

namespace RunSetup

variable {π : Type}

/-- Runs hooks one after the other until one rejects the request. -/
def runHooks (setup : RunSetup π) (timeout : UInt64) :
    List HookId → GroupResult π → Scene π → Ended (Scene π) (GroupResult π)
  | [], result, scene => (.ok result, scene)
  | hook :: rest, result, scene =>
    if setup.switches.isOn hook.moduleCode then
      (setup.attempt timeout hook result.payload scene).andThen fun attempt scene =>
        let result := result.note hook attempt
        if result.isRejected then (.ok result, scene)
        else runHooks setup timeout rest result scene
    else runHooks setup timeout rest result scene

def runGroup (setup : RunSetup π) (group : HookGroup) (payload : π) (scene : Scene π) :
    Ended (Scene π) (GroupResult π) :=
  setup.runHooks group.timeout group.hooks { payload, rejectAllowed := setup.rejectAllowed } scene

end RunSetup

end AuctionHooks
