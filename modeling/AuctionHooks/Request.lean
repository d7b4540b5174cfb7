import AuctionHooks.ModuleContext
import AuctionHooks.Outcome
import AuctionHooks.Stage
import AuctionHooks.Time.Timestamp

/-!
# The context of one request

A `Request` accompanies an auction request from its arrival to the last stage.  It holds what the
modules keep between their calls, and the log of what the stages did.  Nothing of it outlives the
request.
-/

namespace AuctionHooks

/-- The random name of a request: one hundred and twenty-eight bits, six of them fixed to mark
the name as a random one. -/
structure RequestId where
  high : UInt64
  low : UInt64
  deriving DecidableEq, Inhabited, Repr

namespace RequestId

/-- The name made of random bits: four bits of the upper half are set to the version four, and the
two topmost bits of the lower half to the variant binary ten. -/
def ofRandom (high low : UInt64) : RequestId :=
  ⟨high &&& 0xFFFFFFFFFFFF0FFF ||| 0x4000, low &&& 0x3FFFFFFFFFFFFFFF ||| 0x8000000000000000⟩

/-- How the name was made; four stands for "at random". -/
def version (id : RequestId) : UInt64 := id.high >>> 12 &&& 0xF

end RequestId

structure Request where
  id : RequestId
  endpoint : String
  createdAt : Timestamp
  /-- What the modules keep, by module code. -/
  kept : Table String ModuleContext := ∅
  /-- What the stages did, by stage and in the order of their runs. -/
  log : Table Stage (List StageOutcome) := ∅
  deriving DecidableEq, Inhabited

namespace Request

def moduleContext (r : Request) (moduleCode : String) : Option ModuleContext :=
  r.kept.get? moduleCode

/-- Lets a module keep a context, or nothing. -/
def putModuleContext (r : Request) (moduleCode : String) (c : Option ModuleContext) : Request :=
  { r with kept := r.kept.put moduleCode c }

def recordStage (r : Request) (stage : Stage) (o : StageOutcome) : Request :=
  { r with log := r.log.alter stage fun runs => some (runs.getD [] ++ [o]) }

/-- What the runs of a stage did, in the order of the runs. -/
def stageOutcomes (r : Request) (stage : Stage) : List StageOutcome :=
  (r.log.get? stage).getD []

/-- The whole log in the order of the stages, and within a stage in the order of the runs. -/
def outcomes (r : Request) : List (Stage × StageOutcome) :=
  Stage.all.flatMap fun stage => (r.stageOutcomes stage).map fun o => (stage, o)

end Request

end AuctionHooks
