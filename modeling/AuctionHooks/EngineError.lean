import AuctionHooks.HookId

/-!
# Errors of the engine

An `EngineError` says why the engine could not do its work at all.  A hook that fails, hangs or is
missing is *not* such an error: its group records what happened and goes on with the next hook.
-/

namespace AuctionHooks

/-- Why the engine could not do what it was asked to do. -/
inductive EngineError where
  | hookNotFound (hook : HookId)
  | resolution (hook : HookId) (reason : String)
  /-- There is no runtime, or none with timers, to run a hook on. -/
  | scheduling (reason : String)
  /-- A configuration does not make sense; `path` is the file it was read from, where known. -/
  | configuration (reason : String) (path : Option String)
  | io (reason : String)
  | parse (format reason : String)
  deriving DecidableEq, Inhabited, Repr

namespace EngineError

def message : EngineError → String
  | hookNotFound hook => "hook not found: " ++ hook.display
  | resolution hook reason => "failed to resolve hook " ++ hook.display ++ ": " ++ reason
  | scheduling reason => "scheduling failure: " ++ reason
  | configuration reason _ => "configuration error: " ++ reason
  | io reason => reason
  | parse format reason => "failed to parse " ++ format ++ ": " ++ reason

/-- The file that a configuration error blames. -/
def path? : EngineError → Option String
  | configuration _ path => path
  | _ => none

def unknownStage (text : String) : EngineError :=
  configuration ("unknown hook stage: " ++ text) none

end EngineError

inductive HookError where
  | failed (reason : String)
  /-- Something below the hook failed; each layer above may have put a context in front of it. -/
  | other (root : String) (contexts : List String)
  deriving DecidableEq, Inhabited, Repr

/-- What is shown to people: of a chain only the outermost context, which was put on last. -/
def HookError.message : HookError → String
  | failed reason => reason
  | other root contexts => contexts.getLast?.getD root

end AuctionHooks
