import AuctionHooks.Proofs.Passage
import AuctionHooks.Run.Stage

/-!
# Groups and stages are passages

The loop of a group and the loop of a stage around it are both the passage along their places, and
what they tell of a run is what the passage has come to.  Of a group this is the whole truth
(`runGroup_eq`).  A stage divides the records among its groups besides, and it enters a run that
comes to its end in the log; neither has a part in what the hooks do.

## Main statements

* `RunSetup.runGroup_eq`, `RunSetup.runGroups_eq`: both loops are the passage.  The records of a
  run are those of its turns, one for each and in the same order.
* `RunSetup.runGroups_of_ending_error`, `RunSetup.exists_runGroups_of_ending_ok`: the same read from the
  passage to the loops.
* `RunSetup.runStage_eq_ok`, `RunSetup.runStage_scene`: what this means for a stage, for one that
  comes to its end and for any.
-/

namespace AuctionHooks

variable {π : Type}

namespace RunSetup

variable {setup : RunSetup π}

/-! ## Groups -/

/-- What a turn does to the result of a group in which nothing has rejected the request yet. -/
theorem note_turn {r : GroupResult π} {t : Turn π} (hopen : r.rejectedBy = none)
    (hallowed : r.rejectAllowed = t.setup.rejectAllowed) (hpayload : t.payload = r.payload) :
    r.note t.hook t.attempt =
      { r with
        payload := t.payloadAfter
        rejectedBy := if t.ends then some t.hook else none
        outcomes := r.outcomes ++ [t.record] } := by
  rw [GroupResult.note_eq, hopen, hallowed, ← hpayload, Option.none_or]
  rfl

/-- **The loop of a group is the passage along its places.** -/
theorem runHooks_eq (timeout : UInt64) (hooks : List HookId) (r : GroupResult π) (scene : Scene π)
    (hopen : r.rejectedBy = none) (hallowed : r.rejectAllowed = setup.rejectAllowed) :
    setup.runHooks timeout hooks r scene =
      (setup.passage (hooks.map (Slot.mk timeout)) r.payload scene).extend r := by
  induction hooks generalizing r scene with
  | nil =>
    rw [runHooks, List.map_nil, passage_nil, Passage.extend, List.map_nil, List.append_nil,
      ← hopen]
    rfl
  | cons hook rest ih =>
    rw [runHooks, List.map_cons]
    cases hover : setup.passesOver ⟨timeout, hook⟩ with
    | true =>
      have hoff : ¬setup.switches.isOn hook.moduleCode = true := by
        simpa [passesOver] using hover
      rw [if_neg hoff, passage_cons_of_passesOver hover, ih r scene hopen hallowed]
    | false =>
      have hon : setup.switches.isOn hook.moduleCode = true := by
        simpa [passesOver] using hover
      rw [if_pos hon]
      cases ht : setup.takeTurn ⟨timeout, hook⟩ r.payload scene with
      | error e =>
        have hstopped : setup.attempt timeout hook r.payload scene = (.error e, scene) :=
          attempt_of_takeTurn_eq_error ht
        rw [hstopped, Ended.andThen_error, passage_cons_of_error hover ht]
        rfl
      | ok t =>
        obtain ⟨hsetup, hslot, hpayload, hbefore⟩ := eq_of_takeTurn ht
        obtain ⟨rfl, rfl⟩ : t.timeout = timeout ∧ t.hook = hook := by
          rw [← Slot.mk.injEq]
          exact hslot
        have hmade : setup.attempt t.timeout t.hook r.payload scene = (.ok t.attempt, t.after) := by
          rw [← hsetup, ← hpayload, ← hbefore]
          exact t.made
        have hnote := note_turn hopen (hallowed.trans (by rw [hsetup])) hpayload
        rw [hmade, Ended.andThen_ok]
        cases hends : t.ends with
        | true =>
          rw [passage_cons_of_ends hover ht hends, hnote, hends]
          rfl
        | false =>
          rw [passage_cons_of_goesOn hover ht hends, hnote, hends]
          have htail := ih
            { r with
              payload := t.payloadAfter
              rejectedBy := none
              outcomes := r.outcomes ++ [t.record] } t.after rfl hallowed
          exact htail.trans (Passage.extend_cons t _ r _ _).symm

/-- **A group passes along its places.** -/
theorem runGroup_eq (setup : RunSetup π) (group : HookGroup) (payload : π) (scene : Scene π) :
    setup.runGroup group payload scene =
      (setup.passage group.slots payload scene).extend
        { payload, rejectAllowed := setup.rejectAllowed } := by
  rw [runGroup, runHooks_eq _ _ _ _ rfl rfl]
  rfl

/-- Whatever its ending, a group leaves the scene as its passage has left it. -/
theorem runGroup_scene (setup : RunSetup π) (group : HookGroup) (payload : π) (scene : Scene π) :
    (setup.runGroup group payload scene).2 =
      (setup.passage group.slots payload scene).scene := by
  rw [runGroup_eq]
  rfl

/-- A group that comes to its end tells what its passage has come to. -/
theorem runGroup_eq_ok {group : HookGroup} {payload : π} {scene after : Scene π}
    {result : GroupResult π} (h : setup.runGroup group payload scene = (.ok result, after)) :
    (setup.passage group.slots payload scene).ending = .ok result.rejectedBy ∧
      result.payload = (setup.passage group.slots payload scene).payload ∧
      result.outcomes = (setup.passage group.slots payload scene).turns.map Turn.record ∧
      after = (setup.passage group.slots payload scene).scene := by
  rw [runGroup_eq, Passage.extend] at h
  obtain ⟨hresult, hafter⟩ := Prod.ext_iff.1 h
  cases hending : (setup.passage group.slots payload scene).ending with
  | error e =>
    rw [hending] at hresult
    cases hresult
  | ok rejectedBy =>
    rw [hending] at hresult
    obtain rfl := Except.ok.inj hresult
    exact ⟨rfl, rfl, List.nil_append _, hafter.symm⟩

/-! ## Stages -/

/-- **The groups of a stage pass along their places as if they were one group**, apart from the
way in which the records are divided among them. -/
theorem runGroups_eq (setup : RunSetup π) (groups : List HookGroup) (payload : π)
    (scene : Scene π) :
    (setup.runGroups groups payload scene).1.map
        (fun x => (x.1, x.2.1, x.2.2.flatMap GroupOutcome.hooks)) =
      (setup.passage (groups.flatMap HookGroup.slots) payload scene).summary ∧
    (setup.runGroups groups payload scene).2 =
      (setup.passage (groups.flatMap HookGroup.slots) payload scene).scene := by
  induction groups generalizing payload scene with
  | nil => exact ⟨rfl, rfl⟩
  | cons group rest ih =>
    rw [runGroups, runGroup_eq, List.flatMap_cons, passage_append]
    generalize setup.passage group.slots payload scene = q
    obtain ⟨turns, payload', scene', ending⟩ := q
    match ending with
    | .error e => exact ⟨rfl, rfl⟩
    | .ok (some hook) =>
      refine ⟨?_, rfl⟩
      show Except.ok (payload', some hook, [GroupOutcome.mk _].flatMap GroupOutcome.hooks) = _
      rw [List.flatMap_singleton]
      rfl
    | .ok none =>
      obtain ⟨hsummary, hscene⟩ := ih payload' scene'
      rw [Passage.summary_andThen_of_ok_none rfl, Passage.andThen_of_ok_none rfl, ← hsummary,
        ← hscene]
      show (((setup.runGroups rest payload' scene').andThen fun x scene =>
          (.ok (x.1, x.2.1, ⟨turns.map Turn.record⟩ :: x.2.2), scene)).1.map _ = _) ∧
        ((setup.runGroups rest payload' scene').andThen fun x scene =>
          (.ok (x.1, x.2.1, ⟨turns.map Turn.record⟩ :: x.2.2), scene)).2 = _
      rcases setup.runGroups rest payload' scene' with ⟨e | ⟨p, rejectedBy, outcomes⟩, after⟩
      · exact ⟨rfl, rfl⟩
      · refine ⟨?_, rfl⟩
        show Except.ok (p, rejectedBy, (GroupOutcome.mk _ :: outcomes).flatMap _) = _
        rw [List.flatMap_cons]
        rfl

/-- Groups that come to their end tell what their passage has come to. -/
theorem runGroups_eq_ok {groups : List HookGroup} {payload payload' : π} {scene after : Scene π}
    {rejectedBy : Option HookId} {outcomes : List GroupOutcome}
    (h : setup.runGroups groups payload scene = (.ok (payload', rejectedBy, outcomes), after)) :
    (setup.passage (groups.flatMap HookGroup.slots) payload scene).ending = .ok rejectedBy ∧
      payload' = (setup.passage (groups.flatMap HookGroup.slots) payload scene).payload ∧
      outcomes.flatMap GroupOutcome.hooks =
        (setup.passage (groups.flatMap HookGroup.slots) payload scene).turns.map Turn.record ∧
      after = (setup.passage (groups.flatMap HookGroup.slots) payload scene).scene := by
  obtain ⟨hsummary, hscene⟩ := setup.runGroups_eq groups payload scene
  rw [h] at hsummary hscene
  unfold Passage.summary at hsummary
  cases hending : (setup.passage (groups.flatMap HookGroup.slots) payload scene).ending with
  | error e =>
    rw [hending] at hsummary
    cases hsummary
  | ok rejectedBy' =>
    rw [hending] at hsummary
    obtain ⟨hpayload, hrest⟩ := Prod.ext_iff.1 (Except.ok.inj hsummary)
    obtain ⟨hrejected, hrecords⟩ := Prod.ext_iff.1 hrest
    exact ⟨congrArg Except.ok hrejected.symm, hpayload, hrecords, hscene⟩

/-- Groups whose passage is stopped are stopped with it. -/
theorem runGroups_of_ending_error {groups : List HookGroup} {payload : π} {scene : Scene π}
    {e : EngineError}
    (h : (setup.passage (groups.flatMap HookGroup.slots) payload scene).ending = .error e) :
    setup.runGroups groups payload scene =
      (.error e, (setup.passage (groups.flatMap HookGroup.slots) payload scene).scene) := by
  rcases hrun : setup.runGroups groups payload scene with ⟨e' | ⟨payload', rejectedBy, outcomes⟩, after⟩
  · obtain ⟨hsummary, hscene⟩ := setup.runGroups_eq groups payload scene
    rw [hrun] at hsummary hscene
    rw [Passage.summary, h] at hsummary
    cases hsummary
    exact Prod.ext rfl hscene
  · cases h.symm.trans (runGroups_eq_ok hrun).1

/-- Groups whose passage comes to its end come to theirs, and tell what it has come to. -/
theorem exists_runGroups_of_ending_ok {groups : List HookGroup} {payload : π} {scene : Scene π}
    {rejectedBy : Option HookId}
    (h : (setup.passage (groups.flatMap HookGroup.slots) payload scene).ending = .ok rejectedBy) :
    ∃ outcomes,
      setup.runGroups groups payload scene =
        (.ok ((setup.passage (groups.flatMap HookGroup.slots) payload scene).payload, rejectedBy,
          outcomes), (setup.passage (groups.flatMap HookGroup.slots) payload scene).scene) ∧
      outcomes.flatMap GroupOutcome.hooks =
        (setup.passage (groups.flatMap HookGroup.slots) payload scene).turns.map Turn.record := by
  rcases hrun : setup.runGroups groups payload scene with
    ⟨e | ⟨payload', rejectedBy', outcomes⟩, after⟩
  · have hsummary := (setup.runGroups_eq groups payload scene).1
    rw [hrun, Passage.summary, h] at hsummary
    cases hsummary
  · obtain ⟨hending, rfl, hrecords, rfl⟩ := runGroups_eq_ok hrun
    obtain rfl : rejectedBy' = rejectedBy := Except.ok.inj (hending.symm.trans h)
    exact ⟨outcomes, rfl, hrecords⟩

/-- Whatever their ending, groups change nothing in the request but what the modules keep. -/
theorem runGroups_request_but_kept (setup : RunSetup π) (groups : List HookGroup) (payload : π)
    (scene : Scene π) (kept : Table String ModuleContext) :
    { (setup.runGroups groups payload scene).2.request with kept } =
      { scene.request with kept } := by
  rw [(setup.runGroups_eq groups payload scene).2]
  exact (setup.account_passage _ payload scene).request_but_kept kept

/-- A run of several groups begins with the first of them, and goes on with the others unless it
has rejected the request. -/
theorem runGroups_cons_eq_ok {group : HookGroup} {rest : List HookGroup} {payload payload' : π}
    {scene after : Scene π} {rejectedBy : Option HookId} {outcomes : List GroupOutcome}
    (h : setup.runGroups (group :: rest) payload scene =
      (.ok (payload', rejectedBy, outcomes), after)) :
    ∃ result between, setup.runGroup group payload scene = (.ok result, between) ∧
      ((∃ hook, result.rejectedBy = some hook ∧ rejectedBy = some hook ∧
          payload' = result.payload ∧ outcomes = [result.toOutcome] ∧ after = between) ∨
        (result.rejectedBy = none ∧ ∃ outcomes',
          setup.runGroups rest result.payload between =
            (.ok (payload', rejectedBy, outcomes'), after) ∧
          outcomes = result.toOutcome :: outcomes')) := by
  rw [runGroups, Ended.andThen_eq_ok_iff] at h
  obtain ⟨result, between, hgroup, hnext⟩ := h
  refine ⟨result, between, hgroup, ?_⟩
  cases hrejected : result.rejectedBy with
  | some hook =>
    rw [hrejected] at hnext
    cases hnext
    exact Or.inl ⟨hook, rfl, rfl, rfl, rfl, rfl⟩
  | none =>
    rw [hrejected] at hnext
    obtain ⟨⟨p, r, outcomes'⟩, scene', hrest, hlast⟩ := Ended.andThen_eq_ok_iff.1 hnext
    cases hlast
    exact Or.inr ⟨rfl, outcomes', hrest, rfl⟩

/-- A setup for the runs of a stage, which says whether hooks may reject. -/
def atStage (setup : RunSetup π) (stage : Stage) : RunSetup π :=
  { setup with rejectAllowed := stage.rejectAllowed }

/-- The passage along the groups of a stage. -/
def stagePassage (setup : RunSetup π) (stage : Stage) (groups : List HookGroup) (payload : π)
    (scene : Scene π) : Passage π :=
  (setup.atStage stage).passage (groups.flatMap HookGroup.slots) payload scene

theorem account_stagePassage (setup : RunSetup π) (stage : Stage) (groups : List HookGroup)
    (payload : π) (scene : Scene π) :
    (setup.atStage stage).Account (setup.stagePassage stage groups payload scene).turns payload
      (setup.stagePassage stage groups payload scene).payload scene
      (setup.stagePassage stage groups payload scene).scene :=
  (setup.atStage stage).account_passage _ payload scene

/-- A stage comes to its end just if its groups do. -/
theorem runStage_eq_ok_iff {stage : Stage} {entity : String} {groups : List HookGroup}
    {payload : π} {scene after : Scene π} {result : StageResult π} :
    setup.runStage stage entity groups payload scene = (.ok result, after) ↔
      ∃ between,
        (setup.atStage stage).runGroups groups payload scene =
          (.ok (result.payload, result.rejectedBy, result.outcome.groups), between) ∧
        result.outcome.entity = entity ∧
        after = { between with request := between.request.recordStage stage result.outcome } := by
  rw [runStage, Ended.andThen_eq_ok_iff]
  constructor
  · rintro ⟨⟨payload', rejectedBy, outcomes⟩, between, hgroups, hlast⟩
    cases hlast
    exact ⟨between, hgroups, rfl, rfl⟩
  · rintro ⟨between, hgroups, rfl, rfl⟩
    exact ⟨_, between, hgroups, rfl⟩

/-- A stage whose groups come to their end adds their records to the log. -/
theorem runStage_of_ok {stage : Stage} {groups : List HookGroup} {payload payload' : π}
    {scene between : Scene π} {rejectedBy : Option HookId} {outcomes : List GroupOutcome}
    (h : (setup.atStage stage).runGroups groups payload scene =
      (.ok (payload', rejectedBy, outcomes), between)) (entity : String) :
    setup.runStage stage entity groups payload scene =
      (.ok ⟨payload', rejectedBy, ⟨entity, outcomes⟩⟩,
        { between with request := between.request.recordStage stage ⟨entity, outcomes⟩ }) :=
  runStage_eq_ok_iff.2 ⟨between, h, rfl, rfl⟩

/-- A stage whose groups are stopped adds nothing. -/
theorem runStage_of_error {stage : Stage} {groups : List HookGroup} {payload : π}
    {scene between : Scene π} {e : EngineError}
    (h : (setup.atStage stage).runGroups groups payload scene = (.error e, between))
    (entity : String) :
    setup.runStage stage entity groups payload scene = (.error e, between) := by
  show ((setup.atStage stage).runGroups groups payload scene).andThen _ = _
  rw [h, Ended.andThen_error]

/-- **A stage that comes to its end tells what its passage has come to**, and adds itself to the
log. -/
theorem runStage_eq_ok {stage : Stage} {entity : String} {groups : List HookGroup} {payload : π}
    {scene after : Scene π} {result : StageResult π}
    (h : setup.runStage stage entity groups payload scene = (.ok result, after)) :
    (setup.stagePassage stage groups payload scene).ending = .ok result.rejectedBy ∧
      result.payload = (setup.stagePassage stage groups payload scene).payload ∧
      result.outcome.hookOutcomes =
        (setup.stagePassage stage groups payload scene).turns.map Turn.record ∧
      after.timeline = (setup.stagePassage stage groups payload scene).scene.timeline ∧
      after.request = (setup.stagePassage stage groups payload scene).scene.request.recordStage
        stage result.outcome := by
  obtain ⟨between, hgroups, -, rfl⟩ := runStage_eq_ok_iff.1 h
  obtain ⟨hending, hpayload, hrecords, rfl⟩ := runGroups_eq_ok hgroups
  exact ⟨hending, hpayload, hrecords, rfl, rfl⟩

/-- Whatever its ending, a stage leaves the timeline and what the modules keep as its passage has
left them. -/
theorem runStage_scene (setup : RunSetup π) (stage : Stage) (entity : String)
    (groups : List HookGroup) (payload : π) (scene : Scene π) :
    (setup.runStage stage entity groups payload scene).2.timeline =
        (setup.stagePassage stage groups payload scene).scene.timeline ∧
      (setup.runStage stage entity groups payload scene).2.request.kept =
        (setup.stagePassage stage groups payload scene).scene.request.kept := by
  obtain ⟨-, hscene⟩ := (setup.atStage stage).runGroups_eq groups payload scene
  rw [stagePassage, ← hscene]
  show Scene.timeline (((setup.atStage stage).runGroups groups payload scene).andThen _).2 = _ ∧
    Request.kept (Scene.request
      (((setup.atStage stage).runGroups groups payload scene).andThen _).2) = _
  rcases (setup.atStage stage).runGroups groups payload scene with ⟨_ | _, after⟩
  · exact ⟨rfl, rfl⟩
  · exact ⟨rfl, rfl⟩

end RunSetup

end AuctionHooks
