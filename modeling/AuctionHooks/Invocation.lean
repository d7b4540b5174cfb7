import AuctionHooks.EngineError
import AuctionHooks.ModuleContext
import AuctionHooks.Outcome

/-!
# Calling a hook

A hook is called with the payload and an `Invocation`, which tells it under which circumstances it
runs.  What it does then is its `Course`: it may finish after a while with an `Answer`, break down
before it has done anything, or never finish.  An answer is usually an `InvocationResult`.

## Results

A result says whether the hook considers itself successful, and may carry a new payload, the wish
to reject the request, the context that the module wants to keep, and messages.  Saying nothing
about the module context means that none is kept.
-/

namespace AuctionHooks

inductive InvocationStatus where
  | success
  | failure
  deriving DecidableEq, Inhabited, Repr

namespace InvocationStatus

def name : InvocationStatus → String
  | success => "success"
  | failure => "failure"

def all : List InvocationStatus := [success, failure]

end InvocationStatus

/-- What a hook hands back. -/
structure InvocationResult (π : Type) where
  status : InvocationStatus := .success
  payload : Option π := none
  reject : Bool := false
  /-- What the module keeps from now on; nothing is kept if nothing is given. -/
  moduleContext : Option ModuleContext := none
  messages : HookMessages := {}
  deriving DecidableEq, Inhabited

namespace InvocationResult

variable {π : Type}

def succeeded : InvocationResult π := {}

def withMessage (r : InvocationResult π) (text : String) : InvocationResult π :=
  { r with messages := { r.messages with message := some text } }

/-- A failure, with the reason for it. -/
def failed (text : String) : InvocationResult π :=
  ({ status := .failure } : InvocationResult π).withMessage text

/-- A success that asks for the request to be rejected, with the reason for it. -/
def rejected (text : String) : InvocationResult π :=
  ({ reject := true } : InvocationResult π).withMessage text

def withPayload (r : InvocationResult π) (p : π) : InvocationResult π :=
  { r with payload := some p }

def withModuleContext (r : InvocationResult π) (c : ModuleContext) : InvocationResult π :=
  { r with moduleContext := some c }

def withError (r : InvocationResult π) (text : String) : InvocationResult π :=
  { r with messages := { r.messages with errors := r.messages.errors ++ [text] } }

def withWarning (r : InvocationResult π) (text : String) : InvocationResult π :=
  { r with messages := { r.messages with warnings := r.messages.warnings ++ [text] } }

def withDebugMessage (r : InvocationResult π) (text : String) : InvocationResult π :=
  { r with messages := { r.messages with debugMessages := r.messages.debugMessages ++ [text] } }

def isSuccess (r : InvocationResult π) : Bool := r.status = .success

/-- What the result does to the request, provided that it is a success: a wish to reject outweighs
a new payload. -/
def action (r : InvocationResult π) : HookAction :=
  if r.reject then .reject else if r.payload.isSome then .update else .noAction

end InvocationResult

/-- The circumstances under which a hook is called. -/
structure Invocation where
  /-- The time limit of the call, in milliseconds. -/
  timeout : UInt64
  hook : HookId
  endpoint : String
  moduleContext : Option ModuleContext
  deriving DecidableEq, Inhabited, Repr

inductive Answer (π : Type) where
  | result (r : InvocationResult π)
  | nothing
  | error (e : HookError)
  /-- A breakdown, with its message if it has one. -/
  | panic (message : Option String)
  deriving DecidableEq, Inhabited

/-- What one call of a hook does with its time. -/
inductive Course (π : Type) where
  /-- It finishes with an answer after some milliseconds. -/
  | finishes (delay : Nat) (answer : Answer π)
  /-- It breaks down before it has paused for the first time. -/
  | collapses (message : Option String)
  | hangs
  deriving DecidableEq, Inhabited

/-- What a hook is to the engine: its own code, and what its calls do.  A call sees how often the
hook was called before, the payload and the circumstances. -/
structure Hook (π : Type) where
  code : String
  course : Nat → π → Invocation → Course π

abbrev HookProvider (π : Type) := HookId → Except EngineError (Hook π)

/-- Tells hooks their circumstances, from the time limit, the hook and what its module keeps. -/
abbrev InvocationProvider := UInt64 → HookId → Option ModuleContext → Invocation

def InvocationProvider.atEndpoint (endpoint : String) : InvocationProvider :=
  fun timeout hook kept => ⟨timeout, hook, endpoint, kept⟩

end AuctionHooks
