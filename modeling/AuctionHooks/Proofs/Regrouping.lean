import AuctionHooks.Proofs.Loops

/-!
# Dividing a stage into groups

Whoever plans a stage decides where one group ends and the next begins.  A group has one time limit for
all of its hooks, so hooks with different limits stand in different groups; but where two neighbours have
the same limit, they may as well be one group, and a group may be cut wherever one likes.  A group
without hooks may come and go.

## Why the division does not show

There are two loops and two ways to stop early.  A rejection first ends the loop over the hooks of its
group and then the loop over the groups, and between the two the payload is handed over in the result of
the group; an error takes a third way, past both.  So whether a cut shows could depend on what happens in
front of it, at it or behind it.  That it does not is the content of `runGroups_eq`, by which both loops
are one passage along the line of all hooks with their limits: what is not in that line has no part in
the run.

The one thing that is left to see of the division are the records, which the outcome of the stage holds
group by group.  Read one after the other they are the same again (`Ended.SameUndivided`).

## Main statement

`RunSetup.runStage_regrouped`: the ways to change the division, one by one, and the law that they are
instances of.
-/

namespace AuctionHooks

variable {π : Type}

/-- That two runs of a stage come to the same, apart from the way in which the records are divided among
the groups.  Both are stopped by one error and leave one scene; or both come to their end with one
payload, one rejection and the same records one after the other, and each enters its own outcome in the
log of one and the same request. -/
inductive Ended.SameUndivided (stage : Stage) :
    Ended (Scene π) (StageResult π) → Ended (Scene π) (StageResult π) → Prop where
  | stopped (e : EngineError) (scene : Scene π) :
    SameUndivided stage (.error e, scene) (.error e, scene)
  | completed (payload : π) (rejectedBy : Option HookId) (scene : Scene π) {o o' : StageOutcome}
      (entity : o'.entity = o.entity) (records : o'.hookOutcomes = o.hookOutcomes) :
    SameUndivided stage
      (.ok ⟨payload, rejectedBy, o⟩,
        { scene with request := scene.request.recordStage stage o })
      (.ok ⟨payload, rejectedBy, o'⟩,
        { scene with request := scene.request.recordStage stage o' })

namespace RunSetup

variable (setup : RunSetup π) (stage : Stage) (entity : String) (payload : π) (scene : Scene π)

/-- **A stage is determined by the line of its hooks with their limits.**  Two divisions of one line run
to the same end. -/
theorem runStage_of_slots_eq {groups groups' : List HookGroup}
    (h : groups'.flatMap HookGroup.slots = groups.flatMap HookGroup.slots) :
    Ended.SameUndivided stage (setup.runStage stage entity groups payload scene)
      (setup.runStage stage entity groups' payload scene) := by
  cases hending : ((setup.atStage stage).passage (groups.flatMap HookGroup.slots) payload
      scene).ending with
  | error e =>
    have hrun := runGroups_of_ending_error hending
    rw [← h] at hending
    have hrun' := runGroups_of_ending_error hending
    rw [runStage_of_error hrun, runStage_of_error hrun', h]
    exact .stopped e _
  | ok rejectedBy =>
    obtain ⟨outcomes, hrun, hrecords⟩ := exists_runGroups_of_ending_ok hending
    rw [← h] at hending
    obtain ⟨outcomes', hrun', hrecords'⟩ := exists_runGroups_of_ending_ok hending
    rw [h] at hrun' hrecords'
    rw [runStage_of_ok hrun, runStage_of_ok hrun']
    exact .completed _ rejectedBy _ rfl (hrecords'.trans hrecords.symm)

/-- **How a stage is divided into groups does not matter.**  Two neighbours with one limit may be joined,
and a group may be cut at any point, which is the same read the other way; a group without hooks may be
left out or put in; and, whatever leads from one division to another, the stage runs to the same end as
long as the hooks stand in the same line, each with the same limit. -/
theorem runStage_regrouped :
    (∀ earlier later timeout hooks hooks',
      Ended.SameUndivided stage
        (setup.runStage stage entity (earlier ++ ⟨timeout, hooks⟩ :: ⟨timeout, hooks'⟩ :: later)
          payload scene)
        (setup.runStage stage entity (earlier ++ ⟨timeout, hooks ++ hooks'⟩ :: later) payload
          scene)) ∧
    (∀ earlier later timeout,
      Ended.SameUndivided stage
        (setup.runStage stage entity (earlier ++ ⟨timeout, []⟩ :: later) payload scene)
        (setup.runStage stage entity (earlier ++ later) payload scene)) ∧
    ∀ groups groups', groups'.flatMap HookGroup.slots = groups.flatMap HookGroup.slots →
      Ended.SameUndivided stage (setup.runStage stage entity groups payload scene)
        (setup.runStage stage entity groups' payload scene) := by
  refine ⟨?_, ?_, ?_⟩
  · intro earlier later timeout hooks hooks'
    have hjoined : (HookGroup.mk timeout (hooks ++ hooks')).slots =
        (HookGroup.mk timeout hooks).slots ++ (HookGroup.mk timeout hooks').slots :=
      List.map_append
    refine setup.runStage_of_slots_eq stage entity payload scene ?_
    simp only [List.flatMap_append, List.flatMap_cons, hjoined, List.append_assoc]
  · intro earlier later timeout
    have hnone : (HookGroup.mk timeout []).slots = [] := rfl
    refine setup.runStage_of_slots_eq stage entity payload scene ?_
    simp only [List.flatMap_append, List.flatMap_cons, hnone, List.nil_append]
  · intro groups groups' h
    exact setup.runStage_of_slots_eq stage entity payload scene h

end RunSetup

end AuctionHooks
