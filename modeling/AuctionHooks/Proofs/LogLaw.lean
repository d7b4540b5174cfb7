import AuctionHooks.Proofs.History
import Mathlib.Data.List.Basic

/-!
# The log of a request

A stage may be run many times for one request, once for each bidder for instance, and the stages need
not be run in their order.  The log keeps the runs of each stage apart, and it is read stage by stage.
So the order in which the runs were made is lost in it, except among the runs of one stage.

What the log says is therefore compared with the list of all runs in the order in which they were made
(`stageRuns`), and that list is taken from the answers alone: what a stage answers that has come to its
end.  A stage that is stopped answers with an error, and a group that is run by itself is no run of a
stage; neither is in the list.

## Who runs the stages

Nothing but the request need be common to the runs.  Each may be made by another engine, on another
payload and even on payloads of another type, at any time and under any runtime, one that is missing
included.  An `Occasion` is therefore a whole session of which all but the request is used.

## Main statement

`outcomes_of_occasions`: the log holds the runs of stages that have come to their end, each once; for
each stage in the order in which they were made, and altogether as the stable sort of all of them.
-/

namespace AuctionHooks

/-! ## Sorting by place -/

section Sorting

variable {α κ : Type} [DecidableEq κ] {key : α → κ} {rank : κ → Nat}

/-- A list that is sorted by its keys is put together from what it has for each key. -/
theorem flatMap_filter_of_sorted {keys : List κ} {l : List α}
    (hkeys : keys.Pairwise fun k k' => rank k < rank k')
    (hl : l.Pairwise fun a b => rank (key a) ≤ rank (key b)) (hmem : ∀ a ∈ l, key a ∈ keys) :
    (keys.flatMap fun k => l.filter fun a => key a = k) = l := by
  induction l with
  | nil => exact List.flatMap_eq_nil_iff.2 fun _ _ => rfl
  | cons a rest ih =>
    obtain ⟨hleast, hrest⟩ := List.pairwise_cons.1 hl
    have htail := ih hrest fun b hb => hmem b (List.mem_cons_of_mem a hb)
    obtain ⟨before, after, rfl⟩ := List.append_of_mem (hmem a List.mem_cons_self)
    obtain ⟨-, hafter, hbetween⟩ := List.pairwise_append.1 hkeys
    -- No element has a key before that of the first one, and the first one has none behind its own.
    have hnone {m : List α} (hm : ∀ b ∈ m, rank (key a) ≤ rank (key b)) :
        (before.flatMap fun k => m.filter fun b => key b = k) = [] := by
      refine List.flatMap_eq_nil_iff.2 fun k hk => List.filter_eq_nil_iff.2 fun b hb heq => ?_
      have hlt := hbetween k hk (key a) List.mem_cons_self
      rw [← of_decide_eq_true heq] at hlt
      exact absurd (hm b hb) (Nat.not_le.2 hlt)
    have hbehind : (after.flatMap fun k => (a :: rest).filter fun b => key b = k) =
        after.flatMap fun k => rest.filter fun b => key b = k := by
      refine List.flatMap_congr fun k hk => List.filter_cons_of_neg fun heq => ?_
      have hlt := (List.pairwise_cons.1 hafter).1 k hk
      rw [← of_decide_eq_true heq] at hlt
      exact absurd hlt (Nat.lt_irrefl _)
    have hall : ∀ b ∈ a :: rest, rank (key a) ≤ rank (key b) :=
      List.forall_mem_cons.2 ⟨Nat.le_refl _, hleast⟩
    rw [List.flatMap_append, List.flatMap_cons, hnone hleast, List.nil_append] at htail
    rw [List.flatMap_append, List.flatMap_cons, hnone hall, List.nil_append, hbehind,
      List.filter_cons_of_pos (by simp), List.cons_append, htail]

/-- A stable sort leaves the order among elements that have the same place. -/
theorem filter_mergeSort {le : α → α → Bool} (htrans : ∀ a b c, le a b → le b c → le a c)
    (htotal : ∀ a b, le a b || le b a) {p : α → Bool} (hp : ∀ a b, p a → p b → le a b) (l : List α) :
    (l.mergeSort le).filter p = l.filter p := by
  have hsorted : (l.filter p).Pairwise fun a b => le a b = true :=
    List.pairwise_of_forall_mem_list fun a ha b hb =>
      hp a b (List.mem_filter.1 ha).2 (List.mem_filter.1 hb).2
  have hsub := (List.sublist_mergeSort htrans htotal hsorted List.filter_sublist).filter p
  simp only [List.filter_filter, Bool.and_self] at hsub
  exact (hsub.eq_of_length ((List.mergeSort_perm l le).filter p).length_eq.symm).symm

end Sorting

/-! ## What a run adds to the log -/

namespace Stage

/-- The list of all stages is in the order in which a request passes them. -/
theorem pairwise_all : all.Pairwise fun s s' => s.position < s'.position := by decide

end Stage

namespace Request

theorem stageOutcomes_recordStage (r : Request) (stage s : Stage) (o : StageOutcome) :
    (r.recordStage stage o).stageOutcomes s =
      r.stageOutcomes s ++ ([(stage, o)].filter fun x => x.1 = s).map Prod.snd := by
  rw [stageOutcomes, recordStage, Table.get?_alter]
  by_cases h : s = stage
  · rw [if_pos h, List.filter_cons_of_pos (by simp [h]), h]
    rfl
  · rw [if_neg h, List.filter_cons_of_neg (by simp [Ne.symm h])]
    exact (List.append_nil _).symm

/-- Whether a run belongs to a stage that a request passes no later than that of another. -/
def runsBefore (x y : Stage × StageOutcome) : Bool := x.1.position ≤ y.1.position

theorem runsBefore_trans (x y z : Stage × StageOutcome) (hxy : runsBefore x y = true)
    (hyz : runsBefore y z = true) : runsBefore x z = true :=
  decide_eq_true (Nat.le_trans (of_decide_eq_true hxy) (of_decide_eq_true hyz))

theorem runsBefore_total (x y : Stage × StageOutcome) :
    (runsBefore x y || runsBefore y x) = true := by
  rw [runsBefore, runsBefore, Bool.or_eq_true, decide_eq_true_iff, decide_eq_true_iff]
  exact Nat.le_total _ _

/-- Sorting runs by their stages leaves the order among the runs of one stage. -/
theorem filter_mergeSort_runsBefore (runs : List (Stage × StageOutcome)) (s : Stage) :
    ((runs.mergeSort runsBefore).filter fun x => x.1 = s) = runs.filter fun x => x.1 = s := by
  refine filter_mergeSort runsBefore_trans runsBefore_total (fun x y hx hy => ?_) runs
  rw [runsBefore, of_decide_eq_true hx, of_decide_eq_true hy]
  exact decide_eq_true (Nat.le_refl _)

/-- **A log that has the runs of each stage in their order lists all of them as their stable sort.** -/
theorem outcomes_eq_mergeSort {r : Request} {runs : List (Stage × StageOutcome)}
    (h : ∀ s, r.stageOutcomes s = (runs.filter fun x => x.1 = s).map Prod.snd) :
    r.outcomes = runs.mergeSort runsBefore := by
  have hstage (s : Stage) : ((r.stageOutcomes s).map fun o => (s, o)) =
      (runs.mergeSort runsBefore).filter fun x => x.1 = s := by
    rw [h, filter_mergeSort_runsBefore, List.map_map]
    refine (List.map_congr_left fun x hx => ?_).trans (List.map_id _)
    rw [← of_decide_eq_true (List.mem_filter.1 hx).2]
    rfl
  rw [outcomes, List.flatMap_congr fun s _ => hstage s]
  refine flatMap_filter_of_sorted Stage.pairwise_all ?_ fun x _ => Stage.mem_all x.1
  exact (List.pairwise_mergeSort runsBefore_trans runsBefore_total runs).imp of_decide_eq_true

end Request

namespace RunSetup

variable {π : Type} {setup : RunSetup π}

/-- Turns leave the log as it was. -/
theorem log_passage (setup : RunSetup π) (slots : List Slot) (payload : π) (scene : Scene π) :
    (setup.passage slots payload scene).scene.request.log = scene.request.log := by
  have hrequest := (setup.account_passage slots payload scene).request_but_kept ∅
  have hlog := congrArg Request.log hrequest
  exact hlog

/-- A stage adds its outcome if it comes to its end, and nothing otherwise. -/
theorem stageOutcomes_runStage (setup : RunSetup π) (stage : Stage) (entity : String)
    (groups : List HookGroup) (payload : π) (scene : Scene π) (s : Stage) :
    (setup.runStage stage entity groups payload scene).2.request.stageOutcomes s =
      scene.request.stageOutcomes s ++
        ((match (setup.runStage stage entity groups payload scene).1 with
          | .ok result => [(stage, result.outcome)]
          | .error _ => []).filter fun x : Stage × StageOutcome => x.1 = s).map Prod.snd := by
  have hgroups : ((setup.atStage stage).runGroups groups payload scene).2.request.stageOutcomes s =
      scene.request.stageOutcomes s := by
    rw [((setup.atStage stage).runGroups_eq groups payload scene).2, Request.stageOutcomes,
      log_passage]
    rfl
  rcases hrun : (setup.atStage stage).runGroups groups payload scene with
    ⟨e | ⟨payload', rejectedBy, outcomes⟩, between⟩
  · rw [hrun] at hgroups
    rw [runStage_of_error hrun]
    exact hgroups.trans (List.append_nil _).symm
  · rw [hrun] at hgroups
    rw [runStage_of_ok hrun, ← hgroups]
    exact between.request.stageOutcomes_recordStage stage s ⟨entity, outcomes⟩

end RunSetup

/-! ## The runs of a request -/

/-- What a step has to enter in the log, by its answer: the outcome of a stage that has come to its
end, with the stage. -/
def SessionStep.entered {π : Type} :
    SessionStep π → SessionAnswer π → List (Stage × StageOutcome)
  | .stage _ s _ _, .stage result => [(s, result.outcome)]
  | .engine s _ _ _, .stage result => [(s, result.outcome)]
  | _, _ => []

/-- A step that is taken for a request, with everything that it meets but the request. -/
structure Occasion where
  Payload : Type
  /-- What the step meets; the request in it is not used. -/
  session : Session Payload
  step : SessionStep Payload

namespace Occasion

/-- The answer of the step and the session that it leaves, for a request. -/
def take (o : Occasion) (r : Request) : SessionAnswer o.Payload × Session o.Payload :=
  Session.step { o.session with scene := { o.session.scene with request := r } } o.step

/-- The request as the step leaves it. -/
def after (o : Occasion) (r : Request) : Request := (o.take r).2.scene.request

/-- What the step has to enter in the log. -/
def entered (o : Occasion) (r : Request) : List (Stage × StageOutcome) :=
  o.step.entered (o.take r).1

/-- **A step enters what it answers**, and nothing else. -/
theorem stageOutcomes_after (o : Occasion) (r : Request) (s : Stage) :
    (o.after r).stageOutcomes s =
      r.stageOutcomes s ++ ((o.entered r).filter fun x => x.1 = s).map Prod.snd := by
  obtain ⟨Payload, session, step⟩ := o
  rw [after, entered, take]
  cases step with
  | group setup group =>
    have hlog : (setup.runGroup group session.payload ⟨r, session.scene.timeline⟩).2.request.log =
        r.log := by
      rw [RunSetup.runGroup_scene, RunSetup.log_passage]
    rw [Request.stageOutcomes, Session.scene_step_group, hlog]
    exact (List.append_nil _).symm
  | stage setup stage entity groups =>
    have hlog := setup.stageOutcomes_runStage stage entity groups session.payload
      ⟨r, session.scene.timeline⟩ s
    rw [Session.step]
    rcases hrun : setup.runStage stage entity groups session.payload ⟨r, session.scene.timeline⟩ with
      ⟨e | result, left⟩
    all_goals
      rw [hrun] at hlog
      exact hlog
  | engine stage entity account invocations =>
    have hlog := (session.engine.setupFor account invocations).stageOutcomes_runStage stage entity
      ((session.engine.planFor account).groupsFor r.endpoint stage) session.payload
      ⟨r, session.scene.timeline⟩ s
    rcases hrun : (session.engine.setupFor account invocations).runStage stage entity
        ((session.engine.planFor account).groupsFor r.endpoint stage) session.payload
        ⟨r, session.scene.timeline⟩ with ⟨e | result, left⟩
    · rw [hrun] at hlog
      rw [Session.step, Engine.executeStage_of_error hrun]
      exact hlog
    · rw [hrun] at hlog
      rw [Session.step, Engine.executeStage_of_ok hrun]
      exact hlog
  | wait ms => exact (List.append_nil _).symm

end Occasion

/-- The request after steps that were taken for it. -/
def requestAfter : List Occasion → Request → Request
  | [], r => r
  | first :: rest, r => requestAfter rest (first.after r)

/-- The runs of stages that have come to their end, in the order in which they were made. -/
def stageRuns : List Occasion → Request → List (Stage × StageOutcome)
  | [], _ => []
  | first :: rest, r => first.entered r ++ stageRuns rest (first.after r)

/-- The runs of a stage are added to those that the log has of it. -/
theorem stageOutcomes_requestAfter (occasions : List Occasion) (r : Request) (s : Stage) :
    (requestAfter occasions r).stageOutcomes s =
      r.stageOutcomes s ++ ((stageRuns occasions r).filter fun x => x.1 = s).map Prod.snd := by
  induction occasions generalizing r with
  | nil => exact (List.append_nil _).symm
  | cons first rest ih =>
    rw [requestAfter, ih, first.stageOutcomes_after, stageRuns, List.filter_append, List.map_append,
      List.append_assoc]

/-- **The log of a request is complete and in order.**  Let steps be taken for a request whose log is
empty.  Afterwards the log has for each stage the outcomes of the runs of that stage that have come to
their end, in the order in which they were made.  It lists them all, and nothing else: as the stable sort
of these runs by their stages, so that the order among the runs of one stage is what it was. -/
theorem outcomes_of_occasions (occasions : List Occasion) (id : RequestId) (endpoint : String)
    (createdAt : Timestamp) (kept : Table String ModuleContext) :
    let fresh : Request := { id, endpoint, createdAt, kept }
    let runs := stageRuns occasions fresh
    let after := requestAfter occasions fresh
    (∀ s, after.stageOutcomes s = (runs.filter fun x => x.1 = s).map Prod.snd) ∧
    after.outcomes = runs.mergeSort (fun x y => x.1.position ≤ y.1.position) ∧
    after.outcomes.Perm runs ∧
    ∀ s, (after.outcomes.filter fun x => x.1 = s) = runs.filter fun x => x.1 = s := by
  intro fresh runs after
  have hstage : ∀ s, after.stageOutcomes s = (runs.filter fun x => x.1 = s).map Prod.snd :=
    fun s => stageOutcomes_requestAfter occasions fresh s
  have hsorted := Request.outcomes_eq_mergeSort hstage
  refine ⟨hstage, hsorted, ?_, fun s => ?_⟩
  · rw [hsorted]
    exact List.mergeSort_perm runs _
  · rw [hsorted]
    exact Request.filter_mergeSort_runsBefore runs s

end AuctionHooks
