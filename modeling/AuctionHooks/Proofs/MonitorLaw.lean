import AuctionHooks.Proofs.History

/-!
# What the monitor knows of a session

Of all that a session does, the monitor is told what was done by the stages that were run through the
engine and came to their end.  It is told of each attempt once, in the order in which the attempts
were made, and it makes two things of it: statistics for each hook, and a list of the latest records.

## One list of records

Statistics and recorder are both fed record by record, but neither keeps the list: the statistics
keep sums, and the recorder gives up what it has no room for.  The list that both are made from is
therefore written down on its own, as what the steps, their answers and the times of their ends say
(`notices`), and a session tells it to its monitor piece by piece (`Session.monitor_steps`).  What the
two then hold is a matter of lists (`Metrics.get?_foldl_record`, `Recorder.foldl_record`).

## Main statement

`Session.monitor_of_told`: after any session the monitor holds what its answers say, no more and no
less.
-/

namespace AuctionHooks

variable {π : Type}

/-! ## Statistics -/

namespace Metrics

/-- A record counts for its own hook only. -/
theorem get?_record (m : Metrics) (r : HookRecord) (hook : HookId) :
    (m.record r).get? hook =
      if r.hook = hook then some (((m.get? hook).getD {}).update r) else m.get? hook := by
  rw [record, get?, Table.get?_alter]
  by_cases h : hook = r.hook
  · rw [if_pos h, if_pos h.symm, h]
    rfl
  · rw [if_neg h, if_neg (Ne.symm h)]
    rfl

/-- The statistics of a hook are those of its own records, in their order. -/
theorem get?_foldl_record (m : Metrics) (records : List HookRecord) (hook : HookId) :
    (records.foldl record m).get? hook =
      (records.filter (·.hook = hook)).foldl (fun s r => some ((s.getD {}).update r))
        (m.get? hook) := by
  induction records generalizing m with
  | nil => rfl
  | cons r rest ih =>
    rw [List.foldl_cons, ih, get?_record]
    by_cases h : r.hook = hook
    · rw [if_pos h, List.filter_cons, if_pos (decide_eq_true h), List.foldl_cons]
    · rw [if_neg h, List.filter_cons, if_neg fun hpos => h (of_decide_eq_true hpos)]

theorem foldl_update_some (s : HookStatistics) (records : List HookRecord) :
    records.foldl (fun s r => some ((s.getD {}).update r)) (some s) =
      some (records.foldl HookStatistics.update s) := by
  induction records generalizing s with
  | nil => rfl
  | cons r rest ih => exact ih (s.update r)

/-- **Of a list of records, a hook has statistics just if one of them is its own**, and these are the
sum of its own. -/
theorem get?_foldl_record_eq_some_iff {records : List HookRecord} {hook : HookId}
    {s : HookStatistics} :
    (records.foldl record {}).get? hook = some s ↔
      (∃ r ∈ records, r.hook = hook) ∧
        s = HookStatistics.ofRecords (records.filter (·.hook = hook)) := by
  rw [get?_foldl_record]
  have hmem : (∃ r ∈ records, r.hook = hook) ↔ ∃ r, r ∈ records.filter (·.hook = hook) := by
    simp only [List.mem_filter, decide_eq_true_eq]
  rw [hmem]
  cases records.filter (·.hook = hook) with
  | nil =>
    constructor
    · intro h
      cases h
    · rintro ⟨⟨r, hr⟩, -⟩
      cases hr
  | cons r rest =>
    -- The first record of its own gives the hook its statistics, and the others add to them.
    have hsum := foldl_update_some (HookStatistics.update {} r) rest
    constructor
    · intro h
      exact ⟨⟨r, List.mem_cons_self⟩, Option.some.inj (h.symm.trans hsum)⟩
    · rintro ⟨-, rfl⟩
      exact hsum

end Metrics

/-! ## The latest records -/

namespace Recorder

/-- What had no room once has no room later. -/
theorem latest_append (capacity : Nat) (xs ys : List HookRecord) :
    latest capacity (latest capacity xs ++ ys) = latest capacity (xs ++ ys) := by
  have hle : xs.length - capacity ≤ xs.length := Nat.sub_le _ _
  unfold latest
  rw [← List.drop_append_of_le_length hle, List.drop_drop, List.length_drop, List.length_append]
  congr 1
  omega

/-- **The recorder holds the latest of all records that it was ever given.** -/
theorem foldl_record (capacity : Nat) (records earlier : List HookRecord) :
    records.foldl record ⟨capacity, latest capacity earlier⟩ =
      ⟨capacity, latest capacity (earlier ++ records)⟩ := by
  -- The recorder does not know `earlier`, but the induction must: it grows with each record.
  induction records generalizing earlier with
  | nil => rw [List.append_nil]; rfl
  | cons r rest ih =>
    rw [List.foldl_cons, record, latest_append, ih, List.append_assoc, List.singleton_append]

end Recorder

/-! ## What a session tells -/

namespace Monitor

/-- Statistics and recorder take records independently of each other. -/
theorem foldl_record (m : Monitor) (records : List HookRecord) :
    records.foldl record m =
      ⟨records.foldl Metrics.record m.metrics,
        m.recorder.map fun r => records.foldl Recorder.record r⟩ := by
  induction records generalizing m with
  | nil => cases m with | mk metrics recorder => cases recorder <;> rfl
  | cons r rest ih =>
    rw [List.foldl_cons, ih, record, Option.map_map]
    rfl

/-- A stage is reported record by record. -/
theorem recordStage_eq (m : Monitor) (stage : Stage) (time : Timestamp) (o : StageOutcome) :
    m.recordStage stage time o =
      (o.hookOutcomes.map (HookRecord.ofOutcome stage time)).foldl record m :=
  (m.foldl_record _).symm

end Monitor

/-- What the monitor is told of one attempt: the stage, what the stage has in its own records, and the
time when the stage had ended. -/
structure Notice where
  stage : Stage
  outcome : HookOutcome
  /-- In milliseconds. -/
  time : Nat
  deriving DecidableEq

def Notice.record (n : Notice) : HookRecord :=
  HookRecord.ofOutcome n.stage (Timestamp.ofMillis n.time) n.outcome

/-- What the monitor is to be told of a step, by its answer and the time of its end: every attempt of a
stage that was run through the engine and has come to its end, group by group, and otherwise nothing. -/
def SessionStep.notices : SessionStep π → SessionAnswer π → Nat → List Notice
  | .engine s _ _ _, .stage result, time =>
    result.outcome.groups.flatMap fun g => g.hooks.map fun o => ⟨s, o, time⟩
  | _, _, _ => []

/-- What the monitor is to be told of steps, in the order of the steps. -/
def notices (steps : List (SessionStep π)) (answers : List (SessionAnswer π)) (times : List Nat) :
    List Notice :=
  (steps.zip (answers.zip times)).flatMap fun x => x.1.notices x.2.1 x.2.2

namespace Session

/-- The times at the ends of the steps. -/
def endTimes (s : Session π) : List (SessionStep π) → List Nat
  | [] => []
  | first :: rest =>
    let after := (s.step first).2
    after.scene.timeline.now :: endTimes after rest

/-- A step tells its monitor what there is to be told of it, and nothing else. -/
theorem monitor_step (s : Session π) (step : SessionStep π) :
    (s.step step).2.monitor =
      ((step.notices (s.step step).1 (s.step step).2.scene.timeline.now).map Notice.record).foldl
        Monitor.record s.monitor := by
  cases step with
  | group setup group =>
    rw [step]
    split <;> rfl
  | stage setup stage entity groups =>
    rw [step]
    split <;> rfl
  | engine stage entity account invocations =>
    rcases hrun : (s.engine.setupFor account invocations).runStage stage entity
        ((s.engine.planFor account).groupsFor s.scene.request.endpoint stage) s.payload s.scene
      with ⟨e | result, after⟩
    · rw [step, Engine.executeStage_of_error hrun]
      rfl
    · rw [step, Engine.executeStage_of_ok hrun, SessionStep.notices, List.map_flatMap]
      simp only [List.map_map]
      rw [Monitor.recordStage_eq, StageOutcome.hookOutcomes, List.map_flatMap]
      rfl
  | wait ms => rfl

/-- **A session tells its monitor what there is to be told of its steps**, one step after the other. -/
theorem monitor_steps (s : Session π) (steps : List (SessionStep π)) :
    (s.steps steps).2.monitor =
      ((notices steps (s.steps steps).1 (s.endTimes steps)).map Notice.record).foldl Monitor.record
        s.monitor := by
  induction steps generalizing s with
  | nil => rfl
  | cons first rest ih =>
    rw [Session.steps, endTimes, notices, List.zip_cons_cons, List.zip_cons_cons, List.flatMap_cons,
      List.map_append, List.foldl_append, ← monitor_step]
    exact ih (s.step first).2

/-- **The monitor holds what the answers of a session say.**  Let a session begin with a monitor that
holds nothing and has a recorder of any capacity.  What the monitor is told is every attempt in the
answers of the stages that were run through the engine and came to their end, in the order of steps,
groups and attempts; and of each it makes one record, with hook, status, action, latency and message of
the attempt, with the stage, and with the time when the step had ended.  A hook has statistics just if
one of the records is its own, and the statistics are the sum of its own, in their order; and the recorder
holds the latest of the records, as many as it has room for. -/
theorem monitor_of_told (s : Session π) (capacity : Nat) (steps : List (SessionStep π)) :
    let fresh : Session π := { s with monitor := { recorder := some { capacity } } }
    let monitor := (fresh.steps steps).2.monitor
    let told := notices steps (fresh.steps steps).1 (fresh.endTimes steps)
    let records : List HookRecord := told.map fun n =>
      { hook := n.outcome.hook
        stage := n.stage
        status := n.outcome.status
        action := n.outcome.action
        latency := n.outcome.executionTime
        executedAt := Timestamp.ofMillis n.time
        message := n.outcome.messages.message }
    (∀ hook statistics, monitor.metrics.get? hook = some statistics ↔
      (∃ n ∈ told, n.outcome.hook = hook) ∧
        statistics = (records.filter (·.hook = hook)).foldl HookStatistics.update {}) ∧
    monitor.recorder = some ⟨capacity, records.drop (records.length - capacity)⟩ := by
  intro fresh monitor told records
  have hmonitor : monitor = ⟨records.foldl Metrics.record {},
      some (records.foldl Recorder.record { capacity })⟩ :=
    (fresh.monitor_steps steps).trans (Monitor.foldl_record _ records)
  refine ⟨fun hook statistics => ?_, ?_⟩
  · rw [hmonitor]
    refine Metrics.get?_foldl_record_eq_some_iff.trans (and_congr_left' ?_)
    rw [← List.mem_map, ← List.mem_map, List.map_map]
    rfl
  · have hlatest := Recorder.foldl_record capacity records []
    rw [Recorder.latest, List.drop_nil] at hlatest
    rw [hmonitor, hlatest]
    rfl

/-- An engine with three hooks: one raises the payload, one never finishes, and one rejects.  They are
planned for two stages, with one that is not there. -/
def toll : Engine Nat where
  config :=
    { hostPlan := ⟨Table.ofList [("/auction", ⟨Table.ofList
        [(.entrypoint, ⟨[⟨5, [⟨"toll", "raise"⟩, ⟨"toll", "hang"⟩]⟩, ⟨5, [⟨"toll", "raise"⟩]⟩]⟩),
          (.bidderRequest, ⟨[⟨9, [⟨"gone", "hook"⟩, ⟨"toll", "raise"⟩, ⟨"toll", "veto"⟩,
            ⟨"toll", "hang"⟩]⟩]⟩)]⟩)]⟩ }
  catalog :=
    ((({} : HookCatalog Nat).register "toll" ⟨"raise", fun _ n _ =>
        .finishes 2 (.result ((InvocationResult.succeeded.withPayload (n + 1)).withMessage "raised"))⟩
      ).register "toll" ⟨"hang", fun _ _ _ => .hangs⟩).register "toll" ⟨"veto", fun _ _ _ =>
        .finishes 1 (.result (.rejected "too high"))⟩

/-- A session of that engine, with room for four records. -/
def tollSession : Session Nat where
  engine := toll
  scene := ⟨⟨default, "/auction", default, ∅, ∅⟩, default⟩
  monitor := { recorder := some { capacity := 4 } }
  payload := 0

/-- The two stages that are planned; between them the first hook runs twice outside the engine, and some
time passes. -/
def tollSteps : List (SessionStep Nat) :=
  let setup := toll.setupFor none (.atEndpoint "/auction")
  [.engine .entrypoint "auction" none (.atEndpoint "/auction"),
    .group setup ⟨5, [⟨"toll", "raise"⟩]⟩,
    .wait 3,
    .stage setup .exitpoint "auction" [⟨5, [⟨"toll", "raise"⟩]⟩],
    .engine .bidderRequest "bidder" none (.atEndpoint "/auction")]

/-- What the monitor is told of them: six attempts, and none of the two that were made outside the
engine. -/
def tollNotices : List Notice :=
  [⟨.entrypoint, ⟨⟨"toll", "raise"⟩, .success, some .update, 2, { message := some "raised" }⟩, 9⟩,
    ⟨.entrypoint, ⟨⟨"toll", "hang"⟩, .timeout, none, 5, { message := some "timed out after 5ms" }⟩, 9⟩,
    ⟨.entrypoint, ⟨⟨"toll", "raise"⟩, .success, some .update, 2, { message := some "raised" }⟩, 9⟩,
    ⟨.bidderRequest, ⟨⟨"gone", "hook"⟩, .providerResolutionFailure, none, 0,
      { message := some "hook not found: gone:hook" }⟩, 19⟩,
    ⟨.bidderRequest, ⟨⟨"toll", "raise"⟩, .success, some .update, 2, { message := some "raised" }⟩,
      19⟩,
    ⟨.bidderRequest, ⟨⟨"toll", "veto"⟩, .success, some .reject, 1, { message := some "too high" }⟩,
      19⟩]

/-- The statistics count all six attempts; as records the last four are kept. -/
theorem monitor_of_told_toll :
    notices tollSteps (tollSession.steps tollSteps).1 (tollSession.endTimes tollSteps) =
      tollNotices ∧
    let monitor := (tollSession.steps tollSteps).2.monitor
    (∃ s, monitor.metrics.get? ⟨"toll", "raise"⟩ = some s ∧
      (s.totalCount, s.failureCount, s.maxLatency, s.minLatency) = (3, 0, 2, 2) ∧
      (s.meanLatency == 2) = true) ∧
    (∃ s, monitor.metrics.get? ⟨"toll", "hang"⟩ = some s ∧
      (s.totalCount, s.failureCount, s.timeoutCount, s.maxLatency) = (1, 1, 1, 5) ∧
      (s.meanLatency == 5) = true) ∧
    monitor.recorder = some ⟨4, [
      ⟨⟨"toll", "raise"⟩, .entrypoint, .success, some .update, 2, ⟨0, 9000000⟩, some "raised"⟩,
      ⟨⟨"gone", "hook"⟩, .bidderRequest, .providerResolutionFailure, none, 0, ⟨0, 19000000⟩,
        some "hook not found: gone:hook"⟩,
      ⟨⟨"toll", "raise"⟩, .bidderRequest, .success, some .update, 2, ⟨0, 19000000⟩, some "raised"⟩,
      ⟨⟨"toll", "veto"⟩, .bidderRequest, .success, some .reject, 1, ⟨0, 19000000⟩,
        some "too high"⟩]⟩ := by
  have hfresh : { tollSession with monitor := { recorder := some { capacity := 4 } } } = tollSession :=
    rfl
  have htold : notices tollSteps (tollSession.steps tollSteps).1 (tollSession.endTimes tollSteps) =
      tollNotices := by decide +kernel
  have hholds := monitor_of_told tollSession 4 tollSteps
  simp only [hfresh, htold] at hholds
  obtain ⟨hmetrics, hrecorder⟩ := hholds
  refine ⟨htold, ⟨_, (hmetrics _ _).2 ⟨by decide, rfl⟩, rfl, by decide +kernel⟩,
    ⟨_, (hmetrics _ _).2 ⟨by decide, rfl⟩, rfl, by decide +kernel⟩, hrecorder⟩

end Session

end AuctionHooks
