import AuctionHooks.HookId

/-!
# Records of what hooks did

Every attempt to run a hook leaves one record, whatever came of it.  The records of a group stand
in the order in which its hooks ran, the records of a stage in the order of its groups.
-/

namespace AuctionHooks

/-- What a hook has to say besides its answer. -/
structure HookMessages where
  /-- The one message that explains the answer. -/
  message : Option String := none
  errors : List String := []
  warnings : List String := []
  debugMessages : List String := []
  deriving DecidableEq, Inhabited, Repr

/-- What came of an attempt to run a hook. -/
inductive HookStatus where
  | success
  /-- The hook itself reported a failure. -/
  | failure
  | timeout
  /-- The hook answered with an error, or broke down. -/
  | invocationFault
  /-- The hook finished without an answer. -/
  | nullResult
  /-- There was no hook to run. -/
  | providerResolutionFailure
  deriving DecidableEq, Inhabited, Repr

namespace HookStatus

def name : HookStatus → String
  | success => "success"
  | failure => "failure"
  | timeout => "timeout"
  | invocationFault => "invocation-fault"
  | nullResult => "null-result"
  | providerResolutionFailure => "provider-resolution-failure"

def all : List HookStatus :=
  [success, failure, timeout, invocationFault, nullResult, providerResolutionFailure]

def isSuccess (s : HookStatus) : Bool := s = success

end HookStatus

/-- What a successful hook did to the request. -/
inductive HookAction where
  | noAction
  | update
  /-- It asked for the request to be rejected, whether or not it also replaced the payload. -/
  | reject
  deriving DecidableEq, Inhabited, Repr

namespace HookAction

def name : HookAction → String
  | noAction => "no-action"
  | update => "update"
  | reject => "reject"

def all : List HookAction := [noAction, update, reject]

end HookAction

/-- The record of one attempt to run a hook. -/
structure HookOutcome where
  hook : HookId
  status : HookStatus
  /-- What the hook did, if it succeeded. -/
  action : Option HookAction
  /-- The time that the attempt took, in milliseconds. -/
  executionTime : UInt64
  messages : HookMessages
  deriving DecidableEq, Inhabited, Repr

structure GroupOutcome where
  /-- The records in the order in which the hooks ran. -/
  hooks : List HookOutcome := []
  deriving DecidableEq, Inhabited, Repr

structure StageOutcome where
  /-- On whose behalf the stage ran, for instance a bidder. -/
  entity : String
  groups : List GroupOutcome := []
  deriving DecidableEq, Inhabited, Repr

/-- The records of all groups of a stage, one after the other. -/
def StageOutcome.hookOutcomes (o : StageOutcome) : List HookOutcome :=
  o.groups.flatMap GroupOutcome.hooks

end AuctionHooks
