import AuctionHooks.Proofs.History

/-!
# What a step of a session runs

A session runs single groups, stages, and stages as its engine has them planned, and for most of what
is to be said about its steps the three are one: some groups are run under some setup, one after the
other, on the payload of the session.  `Session.task?` says which, and `exists_runGroups_of_step`
that this is what a step comes to.

## Turns, group by group

`RunSetup.exists_turns_runGroups` divides the turns of such a run among the groups in the way in
which the records are divided, so that a record can be read beside the group that it belongs to.
-/

namespace AuctionHooks

variable {π : Type}

/-- Groups that are run one after the other, and what their hooks share. -/
structure Task (π : Type) where
  setup : RunSetup π
  groups : List HookGroup

/-- What a step runs; waiting runs nothing. -/
def Session.task? (s : Session π) : SessionStep π → Option (Task π)
  | .group setup group => some ⟨setup, [group]⟩
  | .stage setup stage _ groups => some ⟨setup.atStage stage, groups⟩
  | .engine stage _ account invocations =>
    some ⟨(s.engine.setupFor account invocations).atStage stage,
      (s.engine.planFor account).groupsFor s.scene.request.endpoint stage⟩
  | .wait _ => none

/-- The records in an answer, group by group. -/
def SessionAnswer.groupOutcomes : SessionAnswer π → List GroupOutcome
  | .group result => [result.toOutcome]
  | .stage result => result.outcome.groups
  | .waited | .failed _ => []

/-- What an answer tells of groups that have come to their end: the payload, the hook that has
rejected the request, and the records. -/
def SessionAnswer.summary? : SessionAnswer π → Option (π × Option HookId × List GroupOutcome)
  | .group result => some (result.payload, result.rejectedBy, [result.toOutcome])
  | .stage result => some (result.payload, result.rejectedBy, result.outcome.groups)
  | .waited | .failed _ => none

/-- The records of an answer are part of what it tells. -/
theorem SessionAnswer.groupOutcomes_of_summary? {answer : SessionAnswer π} {payload : π}
    {rejectedBy : Option HookId} {outcomes : List GroupOutcome}
    (h : answer.summary? = some (payload, rejectedBy, outcomes)) :
    answer.groupOutcomes = outcomes ∧ ∀ e, answer ≠ .failed e := by
  cases answer with
  | group result =>
    cases h
    exact ⟨rfl, fun e he => by cases he⟩
  | stage result =>
    cases h
    exact ⟨rfl, fun e he => by cases he⟩
  | waited => cases h
  | failed e => cases h

/-- A single group may be run as a list of groups. -/
theorem RunSetup.runGroups_singleton (setup : RunSetup π) (group : HookGroup) (payload : π)
    (scene : Scene π) :
    setup.runGroups [group] payload scene =
      (setup.runGroup group payload scene).andThen fun result scene =>
        (.ok (result.payload, result.rejectedBy, [result.toOutcome]), scene) := by
  rw [runGroups]
  congr 1
  funext result scene
  cases result.rejectedBy <;> rfl

namespace Session

variable {s after : Session π} {step : SessionStep π} {task : Task π} {answer : SessionAnswer π}

/-- A step whose groups are stopped fails.  It leaves the scene that the groups have left, and
everything else as it was. -/
theorem step_of_runGroups_error {e : EngineError} {scene : Scene π} (htask : s.task? step = some task)
    (h : task.setup.runGroups task.groups s.payload s.scene = (.error e, scene)) :
    s.step step = (.failed e, { s with scene }) := by
  cases step with
  | group setup group =>
    cases htask
    rw [RunSetup.runGroups_singleton] at h
    rw [Session.step]
    rcases hrun : setup.runGroup group s.payload s.scene with ⟨_ | result, after⟩
    · rw [hrun] at h
      cases h
      rfl
    · rw [hrun] at h
      cases h
  | stage setup stage entity groups =>
    cases htask
    rw [Session.step, RunSetup.runStage_of_error h]
  | engine stage entity account invocations =>
    cases htask
    rw [Session.step, Engine.executeStage_of_error (RunSetup.runStage_of_error h entity)]
  | wait ms => cases htask

/-- **A step whose groups come to their end succeeds** and tells what they have come to.  Of the scene
that they leave, the step leaves the time, the calls and what the modules keep. -/
theorem exists_step_of_runGroups {payload : π} {rejectedBy : Option HookId}
    {outcomes : List GroupOutcome} {scene : Scene π} (htask : s.task? step = some task)
    (h : task.setup.runGroups task.groups s.payload s.scene =
      (.ok (payload, rejectedBy, outcomes), scene)) :
    ∃ answer after, s.step step = (answer, after) ∧
      answer.summary? = some (payload, rejectedBy, outcomes) ∧ after.payload = payload ∧
      after.scene.timeline = scene.timeline ∧ after.scene.request.kept = scene.request.kept := by
  cases step with
  | group setup group =>
    cases htask
    rw [RunSetup.runGroups_singleton] at h
    obtain ⟨result, between, hrun, hlast⟩ := Ended.andThen_eq_ok_iff.1 h
    cases hlast
    rw [Session.step, hrun]
    exact ⟨_, _, rfl, rfl, rfl, rfl, rfl⟩
  | stage setup stage entity groups =>
    cases htask
    rw [Session.step, RunSetup.runStage_of_ok h]
    exact ⟨_, _, rfl, rfl, rfl, rfl, rfl⟩
  | engine stage entity account invocations =>
    cases htask
    rw [Session.step, Engine.executeStage_of_ok (RunSetup.runStage_of_ok h entity)]
    exact ⟨_, _, rfl, rfl, rfl, rfl, rfl⟩
  | wait ms => cases htask

/-- **A step that succeeds has run its groups.**  Of the scene that they leave, the step leaves the
time, the calls and what the modules keep. -/
theorem exists_runGroups_of_step (htask : s.task? step = some task)
    (h : s.step step = (answer, after)) (hok : ∀ e, answer ≠ .failed e) :
    ∃ rejectedBy scene,
      task.setup.runGroups task.groups s.payload s.scene =
        (.ok (after.payload, rejectedBy, answer.groupOutcomes), scene) ∧
      after.scene.timeline = scene.timeline ∧ after.scene.request.kept = scene.request.kept := by
  rcases hrun : task.setup.runGroups task.groups s.payload s.scene with
    ⟨e | ⟨payload, rejectedBy, outcomes⟩, scene⟩
  · rw [step_of_runGroups_error htask hrun] at h
    cases h
    exact absurd rfl (hok e)
  · obtain ⟨answer', after', hstep, hsummary, rfl, htimeline, hkept⟩ :=
      exists_step_of_runGroups htask hrun
    cases hstep.symm.trans h
    rw [(SessionAnswer.groupOutcomes_of_summary? hsummary).1]
    exact ⟨rejectedBy, scene, rfl, htimeline, hkept⟩

/-- Whatever comes of a step, it leaves the engine as it was. -/
theorem engine_step (s : Session π) (step : SessionStep π) : (s.step step).2.engine = s.engine := by
  cases step with
  | group setup group =>
    rw [Session.step]
    rcases setup.runGroup group s.payload s.scene with ⟨_ | _, _⟩ <;> rfl
  | stage setup stage entity groups =>
    rw [Session.step]
    rcases setup.runStage stage entity groups s.payload s.scene with ⟨_ | _, _⟩ <;> rfl
  | engine stage entity account invocations =>
    rw [Session.step]
    rcases s.engine.executeStage stage entity account invocations s.payload s.scene s.monitor with
      ⟨_ | _, _, _⟩ <;> rfl
  | wait ms => rfl

/-- A step has run groups and tells what they have come to, or it tells of none and leaves the payload
as it was. -/
theorem step_cases (h : s.step step = (answer, after)) :
    (∃ task payload rejectedBy outcomes scene, s.task? step = some task ∧
      task.setup.runGroups task.groups s.payload s.scene =
        (.ok (payload, rejectedBy, outcomes), scene) ∧
      answer.summary? = some (payload, rejectedBy, outcomes) ∧ after.payload = payload) ∨
    (answer.summary? = none ∧ after.payload = s.payload) := by
  cases htask : s.task? step with
  | none =>
    cases step with
    | wait ms =>
      cases h
      exact .inr ⟨rfl, rfl⟩
    | group setup group => cases htask
    | stage setup stage entity groups => cases htask
    | engine stage entity account invocations => cases htask
  | some task =>
    rcases hrun : task.setup.runGroups task.groups s.payload s.scene with
      ⟨e | ⟨payload, rejectedBy, outcomes⟩, scene⟩
    · cases (step_of_runGroups_error htask hrun).symm.trans h
      exact .inr ⟨rfl, rfl⟩
    · obtain ⟨answer', after', hstep, hsummary, hpayload, -⟩ := exists_step_of_runGroups htask hrun
      cases hstep.symm.trans h
      exact .inl ⟨task, payload, rejectedBy, outcomes, scene, rfl, hrun, hsummary, hpayload⟩

end Session

/-! ## Turns, group by group -/

namespace RunSetup

variable {setup : RunSetup π}

/-- Two runs one after the other are accounted for by the turns of both. -/
theorem Account.append {turns turns' : List (Turn π)} {payload payload' payload'' : π}
    {scene scene' scene'' : Scene π} (h : setup.Account turns payload payload' scene scene')
    (h' : setup.Account turns' payload' payload'' scene' scene'') :
    setup.Account (turns ++ turns') payload payload'' scene scene'' := by
  refine ⟨fun t ht => ?_, h.payloads.append h'.payloads, h.scenes.append h'.scenes⟩
  rcases List.mem_append.1 ht with ht | ht
  · exact h.setup_eq t ht
  · exact h'.setup_eq t ht

/-- A place of a group that is not passed over is a place of the group. -/
theorem turns_length_le (setup : RunSetup π) (group : HookGroup) (payload : π) (scene : Scene π) :
    (setup.passage group.slots payload scene).turns.length ≤ group.hooks.length ∧
      ∀ t ∈ (setup.passage group.slots payload scene).turns, t.timeout = group.timeout := by
  obtain ⟨unreached, hslots, -⟩ := setup.exists_unreached group.slots payload scene
  constructor
  · have hle := List.length_filter_le (fun slot => !setup.passesOver slot) group.slots
    rw [hslots, List.length_append, List.length_map] at hle
    have hlength : group.slots.length = group.hooks.length := List.length_map _
    omega
  · intro t ht
    have hmem : t.toSlot ∈ group.slots.filter fun slot => !setup.passesOver slot := by
      rw [hslots]
      exact List.mem_append_left _ (List.mem_map_of_mem ht)
    obtain ⟨hook, -, hslot⟩ := List.mem_map.1 (List.mem_filter.1 hmem).1
    rw [← hslot]

/-- **Each group that runs has its own turns**, in the order of the groups: as many as it has
records, at most one for each of its hooks, and all under its own time limit. -/
theorem exists_turns_runGroups {groups : List HookGroup} {payload payload' : π}
    {scene after : Scene π} {rejectedBy : Option HookId} {outcomes : List GroupOutcome}
    (h : setup.runGroups groups payload scene = (.ok (payload', rejectedBy, outcomes), after)) :
    ∃ turns : List (List (Turn π)),
      setup.Account turns.flatten payload payload' scene after ∧
      outcomes = turns.map (fun ts => ⟨ts.map Turn.record⟩) ∧
      turns.length ≤ groups.length ∧
      ∀ x ∈ groups.zip turns,
        x.2.length ≤ x.1.hooks.length ∧ ∀ t ∈ x.2, t.timeout = x.1.timeout := by
  induction groups generalizing payload scene outcomes with
  | nil =>
    cases h
    exact ⟨[], setup.account_passage [] _ _, rfl, Nat.le_refl 0, fun x hx => by cases hx⟩
  | cons group rest ih =>
    obtain ⟨result, between, hgroup, hnext⟩ := runGroups_cons_eq_ok h
    obtain ⟨-, hpayload, houtcomes, hbetween⟩ := runGroup_eq_ok hgroup
    have haccount := setup.account_passage group.slots payload scene
    rw [← hpayload, ← hbetween] at haccount
    have hown := setup.turns_length_le group payload scene
    have houtcome : result.toOutcome =
        ⟨(setup.passage group.slots payload scene).turns.map Turn.record⟩ :=
      congrArg GroupOutcome.mk houtcomes
    -- After a rejection the groups behind have no turns, and no list of turns either.
    rcases hnext with ⟨hook, -, -, rfl, rfl, rfl⟩ | ⟨-, outcomes', hrest, rfl⟩
    · refine ⟨[_], ?_, congrArg (fun o => [o]) houtcome, Nat.le_add_left 1 rest.length, ?_⟩
      · rw [List.flatten_singleton]
        exact haccount
      · intro x hx
        rw [List.zip_cons_cons, List.zip_nil_right] at hx
        obtain rfl := List.mem_singleton.1 hx
        exact hown
    · obtain ⟨turns, haccount', rfl, hlength, hzip⟩ := ih hrest
      refine ⟨_ :: turns, ?_, congrArg (fun o => o :: _) houtcome, Nat.succ_le_succ hlength, ?_⟩
      · rw [List.flatten_cons]
        exact haccount.append haccount'
      · intro x hx
        rcases List.mem_cons.1 hx with rfl | hx
        · exact hown
        · exact hzip x hx

end RunSetup

/-! ## The turns of a session -/

namespace Session

/-- The turns of a step. -/
def turnsOfStep (s : Session π) (step : SessionStep π) : List (Turn π) :=
  Happening.turns ⟨s.engine, s.monitor, s.payload, step⟩ s.scene

/-- The turns of a session. -/
def turns (s : Session π) : List (SessionStep π) → List (Turn π)
  | [] => []
  | first :: rest => s.turnsOfStep first ++ turns (s.step first).2 rest

/-- The turns of a step that runs groups are those of the passage along the groups. -/
theorem turnsOfStep_eq {s : Session π} {step : SessionStep π} {task : Task π}
    (htask : s.task? step = some task) :
    s.turnsOfStep step =
      (task.setup.passage (task.groups.flatMap HookGroup.slots) s.payload s.scene).turns := by
  cases step with
  | group setup group =>
    cases htask
    show (setup.passage group.slots s.payload s.scene).turns = _
    rw [List.flatMap_singleton]
  | stage setup stage entity groups =>
    cases htask
    rfl
  | engine stage entity account invocations =>
    cases htask
    rfl
  | wait ms => cases htask

/-- A step that runs nothing lets time pass. -/
theorem step_of_task?_eq_none {s : Session π} {step : SessionStep π} (h : s.task? step = none) :
    s.turnsOfStep step = [] ∧ ∃ ms, s.step step =
      (.waited, { s with scene := { s.scene with timeline := s.scene.timeline.wait ms } }) := by
  cases step with
  | group setup group => cases h
  | stage setup stage entity groups => cases h
  | engine stage entity account invocations => cases h
  | wait ms => exact ⟨rfl, ms, rfl⟩

/-- A session as a history of its request. -/
def history (s : Session π) : List (SessionStep π) → List (Happening π)
  | [] => []
  | first :: rest => ⟨s.engine, s.monitor, s.payload, first⟩ :: history (s.step first).2 rest

/-- The turns of a session are those of its history. -/
theorem turnsOf_history (s : Session π) (steps : List (SessionStep π)) :
    turnsOf (s.history steps) s.scene = s.turns steps := by
  induction steps generalizing s with
  | nil => rfl
  | cons first rest ih => exact congrArg (s.turnsOfStep first ++ ·) (ih (s.step first).2)

/-- A session leaves the scene that its history leaves. -/
theorem sceneAfter_history (s : Session π) (steps : List (SessionStep π)) :
    sceneAfter (s.history steps) s.scene = (s.steps steps).2.scene := by
  induction steps generalizing s with
  | nil => rfl
  | cons first rest ih => exact ih (s.step first).2

end Session

end AuctionHooks
