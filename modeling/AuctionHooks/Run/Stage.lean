import AuctionHooks.Run.Group

/-!
# Running a stage

The groups of a stage run one after the other, each on the payload that the group before it has
left, until one of them rejects the request.  Whether that may happen is for the stage to say.  A
run that comes to its end is entered in the log of the request; a run that is stopped by an error
is not.
-/

namespace AuctionHooks

/-- What a run of a stage has come to. -/
structure StageResult (π : Type) where
  payload : π
  rejectedBy : Option HookId
  outcome : StageOutcome
  deriving DecidableEq, Inhabited

def StageResult.isRejected {π : Type} (r : StageResult π) : Bool := r.rejectedBy.isSome

namespace RunSetup

variable {π : Type}

/-- Runs groups one after the other until one rejects the request: the payload that is left, the
hook that has rejected the request, and the records of the groups. -/
def runGroups (setup : RunSetup π) :
    List HookGroup → π → Scene π → Ended (Scene π) (π × Option HookId × List GroupOutcome)
  | [], payload, scene => (.ok (payload, none, []), scene)
  | group :: rest, payload, scene =>
    (setup.runGroup group payload scene).andThen fun result scene =>
      match result.rejectedBy with
      | some hook => (.ok (result.payload, some hook, [result.toOutcome]), scene)
      | none =>
        (runGroups setup rest result.payload scene).andThen fun (payload, rejectedBy, outcomes)
            scene =>
          (.ok (payload, rejectedBy, result.toOutcome :: outcomes), scene)

/-- Runs a stage on behalf of an entity and enters the run in the log. -/
def runStage (setup : RunSetup π) (stage : Stage) (entity : String) (groups : List HookGroup)
    (payload : π) (scene : Scene π) : Ended (Scene π) (StageResult π) :=
  let setup := { setup with rejectAllowed := stage.rejectAllowed }
  (setup.runGroups groups payload scene).andThen fun (payload, rejectedBy, outcomes) scene =>
    let outcome : StageOutcome := ⟨entity, outcomes⟩
    (.ok ⟨payload, rejectedBy, outcome⟩,
      { scene with request := scene.request.recordStage stage outcome })

end RunSetup

end AuctionHooks
