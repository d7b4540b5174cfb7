import AuctionHooks.Proofs.Loops

/-!
# Two runs in step

Often two runs are to be compared that differ in something that should not matter.  Then one says how
their scenes are related, and shows of a single attempt that it ends alike in both runs and leaves
scenes that are related again (`RunSetup.Follows`).  What this means for whole runs is the same every
time and is said here: groups and stages come to the same results (`Ended.Mirrors`).

Only attempts that the first run really makes need to be followed.  So the condition on attempts may
speak of what went on in that run: it is a condition on its turns.

## Main statements

* `RunSetup.Follows.passage`, `RunSetup.Follows.runGroup`, `RunSetup.Follows.runGroups`: from single
  attempts to runs.
* `RunSetup.Follows.runStage`: the same for stages, if the relation bears entries in the log.
-/

namespace AuctionHooks

variable {π σ α β : Type}

/-! ## Endings that mirror each other -/

/-- That two runs end alike and leave related states. -/
def Ended.Mirrors (R : σ → σ → Prop) (r r' : Ended σ α) : Prop := r'.1 = r.1 ∧ R r.2 r'.2

/-- Runs that mirror each other are both stopped by one error or come to one result. -/
theorem Ended.Mirrors.cases {R : σ → σ → Prop} {r r' : Ended σ α} (h : r.Mirrors R r') :
    (∃ e s s', r = (.error e, s) ∧ r' = (.error e, s') ∧ R s s') ∨
      (∃ a s s', r = (.ok a, s) ∧ r' = (.ok a, s') ∧ R s s') := by
  obtain ⟨ending, s⟩ := r
  obtain ⟨ending', s'⟩ := r'
  obtain ⟨rfl, hs⟩ : ending' = ending ∧ R s s' := h
  cases ending' with
  | error e => exact Or.inl ⟨e, s, s', rfl, rfl, hs⟩
  | ok a => exact Or.inr ⟨a, s, s', rfl, rfl, hs⟩

/-- If what goes on after a success is mirrored, then so is the chain. -/
theorem Ended.Mirrors.andThen {R : σ → σ → Prop} {r r' : Ended σ α} {next next' : α → σ → Ended σ β}
    (h : r.Mirrors R r')
    (hnext : ∀ a s s', r = (.ok a, s) → R s s' → (next a s).Mirrors R (next' a s')) :
    (r.andThen next).Mirrors R (r'.andThen next') := by
  rcases h.cases with ⟨e, s, s', rfl, rfl, hs⟩ | ⟨a, s, s', rfl, rfl, hs⟩
  · exact ⟨rfl, hs⟩
  · exact hnext a s s' rfl hs

/-- That a second passage comes to what a first one has come to, in related scenes. -/
structure Passage.Mirrors (R : Scene π → Scene π → Prop) (p q : Passage π) : Prop where
  ending : q.ending = p.ending
  payload : q.payload = p.payload
  records : q.turns.map Turn.record = p.turns.map Turn.record
  scene : R p.scene q.scene

namespace Passage.Mirrors

variable {R : Scene π → Scene π → Prop} {p q : Passage π} {t t' : Turn π}

theorem cons (h : p.Mirrors R q) (hrecord : t'.record = t.record) :
    (p.cons t).Mirrors R (q.cons t') := by
  refine ⟨h.ending, h.payload, ?_, h.scene⟩
  rw [turns_cons, turns_cons, List.map_cons, List.map_cons, hrecord, h.records]

/-- Groups see nothing of a passage but what is mirrored. -/
theorem extend (h : p.Mirrors R q) (r : GroupResult π) :
    Ended.Mirrors R (p.extend r) (q.extend r) := by
  refine ⟨?_, h.scene⟩
  show Except.map _ q.ending = Except.map _ p.ending
  rw [h.ending, h.payload, h.records]

end Passage.Mirrors

/-! ## From attempts to runs -/

/-- That attempts under a second setup follow those under a first one, wherever the scenes are
related: those that the first run makes, as far as they meet the condition, and those that are
stopped. -/
structure RunSetup.Follows (R : Scene π → Scene π → Prop) (met : Turn π → Prop)
    (setup setup' : RunSetup π) : Prop where
  rejectAllowed : setup'.rejectAllowed = setup.rejectAllowed
  isOn : ∀ moduleCode, setup'.switches.isOn moduleCode = setup.switches.isOn moduleCode
  /-- An attempt that is stopped is stopped under the second setup, too. -/
  stopped : ∀ {slot payload scene scene' e}, R scene scene' →
    setup.takeTurn slot payload scene = .error e → setup'.takeTurn slot payload scene' = .error e
  /-- An attempt that is made ends alike under the second setup. -/
  taken : ∀ {t : Turn π} {scene'}, t.setup = setup → met t → R t.before scene' →
    ∃ t', setup'.takeTurn t.toSlot t.payload scene' = .ok t' ∧ t'.attempt = t.attempt ∧
      R t.after t'.after

namespace RunSetup.Follows

variable {R : Scene π → Scene π → Prop} {met : Turn π → Prop} {setup setup' : RunSetup π}
  {payload : π} {scene scene' : Scene π}

/-- **A passage is followed turn by turn.** -/
theorem passage (h : setup.Follows R met setup') (slots : List Slot) (hscene : R scene scene')
    (hmet : ∀ t ∈ (setup.passage slots payload scene).turns, met t) :
    (setup.passage slots payload scene).Mirrors R (setup'.passage slots payload scene') := by
  induction slots generalizing payload scene scene' with
  | nil => exact ⟨rfl, rfl, rfl, hscene⟩
  | cons slot rest ih =>
    have hsame : setup'.passesOver slot = setup.passesOver slot := by
      rw [passesOver, passesOver, h.isOn]
    cases hover : setup.passesOver slot with
    | true =>
      rw [passage_cons_of_passesOver hover] at hmet ⊢
      rw [passage_cons_of_passesOver (hsame.trans hover)]
      exact ih hscene hmet
    | false =>
      have hover' := hsame.trans hover
      cases ht : setup.takeTurn slot payload scene with
      | error e =>
        rw [passage_cons_of_error hover ht, passage_cons_of_error hover' (h.stopped hscene ht)]
        exact ⟨rfl, rfl, rfl, hscene⟩
      | ok t =>
        -- The condition is known of `t` only as a turn of the first run, so `t` comes first.
        have hfirst := hmet t (mem_turns_passage_cons hover ht)
        obtain ⟨hsetup, rfl, rfl, rfl⟩ := eq_of_takeTurn ht
        obtain ⟨t', ht', hattempt, hafter⟩ := h.taken hsetup hfirst hscene
        obtain ⟨hsetup', hslot', hpayload', -⟩ := eq_of_takeTurn ht'
        obtain ⟨hrecord, hpayload, hends'⟩ := Turn.same_of_attempt
          (by rw [hsetup', hsetup, h.rejectAllowed]) hslot' hpayload' hattempt
        have hhook : t'.hook = t.hook := congrArg Slot.hook hslot'
        cases hends : t.ends with
        | true =>
          rw [passage_cons_of_ends hover ht hends,
            passage_cons_of_ends hover' ht' (hends'.trans hends), hpayload, hhook]
          refine ⟨rfl, rfl, ?_, hafter⟩
          rw [List.map_singleton, List.map_singleton, hrecord]
        | false =>
          rw [passage_cons_of_goesOn hover ht hends] at hmet ⊢
          rw [passage_cons_of_goesOn hover' ht' (hends'.trans hends), hpayload]
          exact (ih hafter fun u hu => hmet u (List.mem_cons_of_mem _ hu)).cons hrecord

theorem runGroup (h : setup.Follows R met setup') (group : HookGroup) (hscene : R scene scene')
    (hmet : ∀ t ∈ (setup.passage group.slots payload scene).turns, met t) :
    Ended.Mirrors R (setup.runGroup group payload scene)
      (setup'.runGroup group payload scene') := by
  rw [runGroup_eq, runGroup_eq, h.rejectAllowed]
  exact (h.passage group.slots hscene hmet).extend _

theorem runGroups (h : setup.Follows R met setup') (groups : List HookGroup)
    (hscene : R scene scene')
    (hmet : ∀ t ∈ (setup.passage (groups.flatMap HookGroup.slots) payload scene).turns, met t) :
    Ended.Mirrors R (setup.runGroups groups payload scene)
      (setup'.runGroups groups payload scene') := by
  induction groups generalizing payload scene scene' with
  | nil => exact ⟨rfl, hscene⟩
  | cons group rest ih =>
    rw [List.flatMap_cons, passage_append] at hmet
    refine (h.runGroup group hscene fun t ht =>
      hmet t (Passage.mem_turns_andThen_left ht)).andThen fun result s s' hrun hs => ?_
    obtain ⟨hending, hpayload, -, rfl⟩ := runGroup_eq_ok hrun
    cases hrejected : result.rejectedBy with
    | some hook => exact ⟨rfl, hs⟩
    | none =>
      rw [hrejected] at hending
      refine (ih hs fun t ht => ?_).andThen fun _ _ _ _ hs => ⟨rfl, hs⟩
      rw [hpayload] at ht
      exact hmet t (Passage.mem_turns_andThen_right hending ht)

/-- **A stage is followed**, if entries in the log keep scenes related. -/
theorem runStage {stage : Stage}
    (h : (setup.atStage stage).Follows R met (setup'.atStage stage))
    (hlog : ∀ {s s' : Scene π} (o : StageOutcome), R s s' →
      R { s with request := s.request.recordStage stage o }
        { s' with request := s'.request.recordStage stage o })
    (entity : String) (groups : List HookGroup) (hscene : R scene scene')
    (hmet : ∀ t ∈ (setup.stagePassage stage groups payload scene).turns, met t) :
    Ended.Mirrors R (setup.runStage stage entity groups payload scene)
      (setup'.runStage stage entity groups payload scene') :=
  (h.runGroups groups hscene hmet).andThen fun _ _ _ _ hs => ⟨rfl, hlog _ hs⟩

end RunSetup.Follows

end AuctionHooks
