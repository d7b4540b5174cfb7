import AuctionHooks.Proofs.Alike
import AuctionHooks.Proofs.GroupOrder

/-!
# Erasing the hooks that came to nothing

A hook that comes to no result, whatever the reason, leaves a record and takes its time, and that is
all.  So it may as well not have been there: a run from which such hooks are erased, together with
any that were switched off, comes to the same payload, the same rejection, the same things kept by
the modules, and the same records of all other hooks.

## Two runs that are compared

Between the two runs the clock and the calls that have begun drift apart.  The scenes remain alike
to the hooks (`Scene.Alike`), and hooks without memory do alike in both (`RunSetup.Memoryless`); a
hook that counts its calls might not.

## Main statement

`runStage_remaining_of_ok`.  Positions are erased by a mark (`MarkedGroup`), and the records of a
group are read beside the positions that they belong to (`MarkedGroup.recorded`).
-/

namespace AuctionHooks

variable {π : Type}

/-! ## Turns that have come to nothing -/

/-- A turn without a result leaves the payload as it was. -/
theorem Turn.payloadAfter_of_result?_eq_none {t : Turn π} (h : t.attempt.result? = none) :
    t.payloadAfter = t.payload := by
  rw [payloadAfter, replacement?, Attempt.replacement?, h, Option.bind_none, Option.getD_none]

/-- A turn without a result does not end a run. -/
theorem Turn.ends_of_result?_eq_none {t : Turn π} (h : t.attempt.result? = none) :
    t.ends = false := by
  rw [ends, Attempt.rejects, h, Option.any_none, Bool.and_false]

/-- A turn without a result leaves a scene like the one that it found. -/
theorem Turn.alike_of_result?_eq_none {t : Turn π} (h : t.attempt.result? = none) :
    t.before.Alike t.after := by
  rcases t.cases_call? with ⟨-, -, -, -, hafter⟩ | ⟨call, -, ho, -, hafter⟩
  · rw [hafter]
    exact .refl _
  · have hreturned : t.attempt.returned? = none := by
      rw [Attempt.returned?, h, Option.map_none]
    constructor
    · rw [hafter]
      show _ = (t.before.request.afterAttempt t.hook t.attempt).kept
      rw [Request.kept_afterAttempt, hreturned, Option.elim_none]
    · rw [hafter]
      exact (Timeline.run_of_ready ho t.timeout call).2.2.symm

/-! ## Erasing places of a line -/

namespace RunSetup

variable {setup : RunSetup π}

/-- The turns of a line of marked places, each beside the mark of its place.  The turns are those of
the switched-on places in their order. -/
def beside (setup : RunSetup π) (marked : List (Slot × Bool)) (turns : List (Turn π)) :
    List (Bool × Turn π) :=
  ((marked.filter fun x => !setup.passesOver x.1).map Prod.snd).zip turns

theorem beside_cons_of_passesOver {slot : Slot} (h : setup.passesOver slot = true) (mark : Bool)
    (rest : List (Slot × Bool)) (turns : List (Turn π)) :
    setup.beside ((slot, mark) :: rest) turns = setup.beside rest turns := by
  rw [beside, List.filter_cons_of_neg (by simp [h]), beside]

theorem beside_nil (setup : RunSetup π) (marked : List (Slot × Bool)) :
    setup.beside marked [] = [] :=
  List.zip_nil_right

theorem beside_cons {slot : Slot} (h : setup.passesOver slot = false) (mark : Bool)
    (rest : List (Slot × Bool)) (t : Turn π) (turns : List (Turn π)) :
    setup.beside ((slot, mark) :: rest) (t :: turns) = (mark, t) :: setup.beside rest turns := by
  rw [beside, List.filter_cons_of_pos (by simp [h])]
  rfl

/-- The places without a mark. -/
def unmarked (marked : List (Slot × Bool)) : List Slot :=
  (marked.filter fun x => !x.2).map Prod.fst

end RunSetup

/-- That a second passage comes to what a first one has come to, but for the marked ones among the
turns of the first. -/
structure Passage.SameUnmarked (turns : List (Bool × Turn π)) (p q : Passage π) : Prop where
  ending : q.ending = p.ending
  payload : q.payload = p.payload
  scene : p.scene.Alike q.scene
  /-- The records of the second are those of the unmarked turns. -/
  records : q.turns.map Turn.record = (turns.filter fun x => !x.1).map fun x => x.2.record

namespace Passage.SameUnmarked

variable {turns : List (Bool × Turn π)} {p q : Passage π} {t t' : Turn π}

/-- A marked turn in front is left out. -/
theorem leaveOut (h : p.SameUnmarked turns q) : (p.cons t).SameUnmarked ((true, t) :: turns) q :=
  ⟨h.ending, h.payload, h.scene, h.records⟩

/-- An unmarked turn in front is taken in both passages. -/
theorem keep (h : p.SameUnmarked turns q) (hrecord : t'.record = t.record) :
    (p.cons t).SameUnmarked ((false, t) :: turns) (q.cons t') := by
  refine ⟨h.ending, h.payload, h.scene, ?_⟩
  rw [turns_cons, List.map_cons, hrecord, h.records]
  rfl

end Passage.SameUnmarked

namespace RunSetup

variable {setup : RunSetup π}

/-- **Erasing idle places changes nothing but their records.**  The places whose mark is set are
erased, and their turns must have had no result. -/
theorem passage_unmarked (hmem : setup.Memoryless) (marked : List (Slot × Bool)) {payload : π}
    {scene scene' : Scene π} (halike : scene.Alike scene') {rejectedBy : Option HookId}
    (hending : (setup.passage (marked.map Prod.fst) payload scene).ending = .ok rejectedBy)
    (hidle : ∀ x ∈ setup.beside marked (setup.passage (marked.map Prod.fst) payload scene).turns,
      x.1 = true → x.2.attempt.result? = none) :
    (setup.passage (marked.map Prod.fst) payload scene).SameUnmarked
      (setup.beside marked (setup.passage (marked.map Prod.fst) payload scene).turns)
      (setup.passage (unmarked marked) payload scene') := by
  induction marked generalizing payload scene scene' with
  | nil => exact ⟨rfl, rfl, halike, rfl⟩
  | cons x rest ih =>
    obtain ⟨slot, mark⟩ := x
    rw [List.map_cons] at hending hidle ⊢
    cases hover : setup.passesOver slot with
    | true =>
      -- the place is passed over in the first run, and in the second if it is still there
      rw [passage_cons_of_passesOver hover] at hending hidle ⊢
      rw [beside_cons_of_passesOver hover] at hidle ⊢
      have hsecond : setup.passage (unmarked ((slot, mark) :: rest)) payload scene' =
          setup.passage (unmarked rest) payload scene' := by
        cases mark with
        | true => rfl
        | false => exact passage_cons_of_passesOver hover
      rw [hsecond]
      exact ih halike hending hidle
    | false =>
      cases ht : setup.takeTurn slot payload scene with
      | error e =>
        rw [passage_cons_of_error hover ht] at hending
        cases hending
      | ok t =>
        obtain ⟨-, -, hpayload, hbefore⟩ := eq_of_takeTurn ht
        cases hends : t.ends with
        | true =>
          rw [passage_cons_of_ends hover ht hends] at hidle ⊢
          rw [beside_cons hover] at hidle ⊢
          cases mark with
          | true =>
            -- a turn that ends the run has had a result
            have hnone := hidle _ List.mem_cons_self rfl
            rw [Turn.ends_of_result?_eq_none hnone] at hends
            cases hends
          | false =>
            obtain ⟨t', ht', hafter, hrecord, hpayload', hends'⟩ := takeTurn_alike hmem halike ht
            have hhook : t'.hook = t.hook := by
              rw [← t'.record_hook, hrecord, t.record_hook]
            have hsecond : setup.passage (unmarked ((slot, false) :: rest)) payload scene' =
                ⟨[t'], t'.payloadAfter, t'.after, .ok (some t'.hook)⟩ :=
              passage_cons_of_ends hover ht' (hends'.trans hends)
            rw [hsecond, hpayload', hhook, beside_nil]
            refine ⟨rfl, rfl, hafter, ?_⟩
            show [t'.record] = [t.record]
            rw [hrecord]
        | false =>
          rw [passage_cons_of_goesOn hover ht hends] at hending hidle ⊢
          rw [Passage.turns_cons, beside_cons hover] at hidle ⊢
          have hidle' := fun x hx => hidle x (List.mem_cons_of_mem _ hx)
          cases mark with
          | true =>
            -- the turn has left everything as it was, and the second run knows nothing of it
            have hnone := hidle _ List.mem_cons_self rfl
            have hafter : t.after.Alike scene' :=
              (Turn.alike_of_result?_eq_none hnone).symm.trans (hbefore ▸ halike)
            rw [Turn.payloadAfter_of_result?_eq_none hnone, hpayload] at hending hidle' ⊢
            exact (ih hafter hending hidle').leaveOut
          | false =>
            obtain ⟨t', ht', hafter, hrecord, hpayload', hends'⟩ := takeTurn_alike hmem halike ht
            have hsecond : setup.passage (unmarked ((slot, false) :: rest)) payload scene' =
                (setup.passage (unmarked rest) t.payloadAfter t'.after).cons t' := by
              rw [← hpayload']
              exact passage_cons_of_goesOn hover ht' (hends'.trans hends)
            rw [hsecond]
            exact (ih hafter hending hidle').keep hrecord

end RunSetup

/-! ## Erasing hooks of a group -/

/-- Whether a status is that of an attempt with a result. -/
def HookStatus.hasResult : HookStatus → Bool
  | .success | .failure => true
  | .timeout | .invocationFault | .nullResult | .providerResolutionFailure => false

/-- A record tells whether its attempt has had a result. -/
theorem Attempt.hasResult_record (rejectAllowed : Bool) (hook : HookId) (a : Attempt π) :
    (a.record rejectAllowed hook).status.hasResult = a.result?.isSome := by
  match a with
  | .finished (.result r) elapsed =>
    rw [record]
    cases r.status <;> rfl
  | .unresolved e => rfl
  | .finished .nothing elapsed => rfl
  | .finished (.error e) elapsed => rfl
  | .finished (.panic message) elapsed => rfl
  | .timedOut timeout elapsed => rfl

/-- A group with a mark at each position, which says whether the position is to be erased. -/
structure MarkedGroup where
  timeout : UInt64
  hooks : List (HookId × Bool)
  deriving DecidableEq, Inhabited, Repr

namespace MarkedGroup

def whole (g : MarkedGroup) : HookGroup := ⟨g.timeout, g.hooks.map Prod.fst⟩

def remaining (g : MarkedGroup) : HookGroup :=
  ⟨g.timeout, (g.hooks.filter fun x => !x.2).map Prod.fst⟩

/-- The records of the group, each beside its position: they are those of the positions whose
module is switched on, in their order and as far as the run has come. -/
def recorded (g : MarkedGroup) (switches : ModuleSwitches) (o : GroupOutcome) :
    List ((HookId × Bool) × HookOutcome) :=
  (g.hooks.filter fun x => switches.isOn x.1.moduleCode).zip o.hooks

/-- The records of the positions without a mark. -/
def outcomeRemaining (g : MarkedGroup) (switches : ModuleSwitches) (o : GroupOutcome) :
    GroupOutcome :=
  ⟨((g.recorded switches o).filter fun x => !x.1.2).map Prod.snd⟩

def slots (g : MarkedGroup) : List (Slot × Bool) :=
  g.hooks.map fun x => (⟨g.timeout, x.1⟩, x.2)

theorem slots_whole (g : MarkedGroup) : g.whole.slots = g.slots.map Prod.fst := by
  simp [whole, slots, HookGroup.slots, Function.comp_def]

theorem slots_remaining (g : MarkedGroup) :
    g.remaining.slots = RunSetup.unmarked g.slots := by
  simp [remaining, slots, RunSetup.unmarked, HookGroup.slots, List.filter_map, Function.comp_def]

/-- The records beside their positions are the turns beside the marks of their places. -/
theorem recorded_turns (g : MarkedGroup) (setup : RunSetup π) (turns : List (Turn π)) :
    (g.recorded setup.switches ⟨turns.map Turn.record⟩).map (fun x => (x.1.2, x.2)) =
      (setup.beside g.slots turns).map fun x => (x.1, x.2.record) := by
  have hover : ((fun x : Slot × Bool => !setup.passesOver x.1) ∘
      fun x : HookId × Bool => (Slot.mk g.timeout x.1, x.2)) =
        fun x => setup.switches.isOn x.1.moduleCode := by
    funext x
    show (!!setup.switches.isOn x.1.moduleCode) = _
    rw [Bool.not_not]
  rw [recorded, RunSetup.beside, slots, List.filter_map, hover, List.map_map, List.zip_map_right,
    List.zip_map_left, List.map_map, List.map_map]
  rfl

/-- Each record stands beside the position of its own hook, and no record is left over. -/
def Aligned (g : MarkedGroup) (switches : ModuleSwitches) (o : GroupOutcome) : Prop :=
  (g.recorded switches o).map Prod.snd = o.hooks ∧ ∀ y ∈ g.recorded switches o, y.2.hook = y.1.1

/-- The marked positions that the run of the group has come to have had no result. -/
def IdleMarks (g : MarkedGroup) (switches : ModuleSwitches) (o : GroupOutcome) : Prop :=
  ∀ y ∈ g.recorded switches o, y.1.2 = true → y.2.status.hasResult = false

instance (g : MarkedGroup) (switches : ModuleSwitches) (o : GroupOutcome) :
    Decidable (g.IdleMarks switches o) :=
  inferInstanceAs (Decidable (∀ y ∈ g.recorded switches o, _))

/-- Without the marked positions there remain the turns of the unmarked places. -/
theorem outcomeRemaining_turns (g : MarkedGroup) (setup : RunSetup π) (turns : List (Turn π)) :
    g.outcomeRemaining setup.switches ⟨turns.map Turn.record⟩ =
      ⟨((setup.beside g.slots turns).filter fun x => !x.1).map fun x => x.2.record⟩ := by
  have hbeside := congrArg (fun l => (l.filter fun x => !x.1).map Prod.snd)
    (g.recorded_turns setup turns)
  simp only [List.filter_map, List.map_map] at hbeside
  exact congrArg GroupOutcome.mk hbeside

/-- The turns of idle places have had no result. -/
theorem IdleMarks.result?_eq_none {g : MarkedGroup} {setup : RunSetup π} {turns : List (Turn π)}
    (h : g.IdleMarks setup.switches ⟨turns.map Turn.record⟩) :
    ∀ x ∈ setup.beside g.slots turns, x.1 = true → x.2.attempt.result? = none := by
  intro x hx hmark
  have hrecorded : (x.1, x.2.record) ∈
      (g.recorded setup.switches ⟨turns.map Turn.record⟩).map fun y => (y.1.2, y.2) := by
    rw [recorded_turns]
    exact List.mem_map_of_mem hx
  obtain ⟨y, hy, heq⟩ := List.mem_map.1 hrecorded
  obtain ⟨hymark, hyrecord⟩ := Prod.ext_iff.1 heq
  have hstatus := h y hy (hymark.trans hmark)
  rw [show y.2 = x.2.record from hyrecord, Turn.record, Attempt.hasResult_record] at hstatus
  exact Option.not_isSome_iff_eq_none.1 (Bool.eq_false_iff.1 hstatus)

end MarkedGroup

/-- If what is read off the second list is the beginning of what is read off the first, then each
of its elements stands beside the one that it belongs to. -/
theorem zip_of_beginning {α β κ : Type} {f : α → κ} {g : β → κ} {as : List α} {bs : List β}
    {rest : List κ} (h : as.map f = bs.map g ++ rest) :
    (as.zip bs).map Prod.snd = bs ∧ ∀ y ∈ as.zip bs, g y.2 = f y.1 := by
  induction bs generalizing as with
  | nil =>
    rw [List.zip_nil_right]
    exact ⟨rfl, fun y hy => by cases hy⟩
  | cons b bs ih =>
    cases as with
    | nil => cases h
    | cons a as =>
      obtain ⟨hhead, htail⟩ := List.cons.inj h
      obtain ⟨hsnd, hmem⟩ := ih htail
      rw [List.zip_cons_cons, List.map_cons, hsnd]
      refine ⟨rfl, fun y hy => ?_⟩
      rcases List.mem_cons.1 hy with rfl | hy
      · exact hhead.symm
      · exact hmem y hy

namespace RunSetup

variable {setup : RunSetup π}

/-- A run of a group makes its records for the switched-on positions one by one. -/
theorem aligned_runGroup {g : MarkedGroup} {payload : π} {scene after : Scene π}
    {result : GroupResult π} (h : setup.runGroup g.whole payload scene = (.ok result, after)) :
    g.Aligned setup.switches result.toOutcome := by
  obtain ⟨-, -, houtcomes, -⟩ := runGroup_eq_ok h
  obtain ⟨unreached, hhooks, -⟩ := setup.exists_unreached_hooks g.whole payload scene
  rw [← Turn.map_hook_record, ← houtcomes, hooksOn, MarkedGroup.whole, List.filter_map] at hhooks
  exact zip_of_beginning hhooks

/-- **A group without its idle positions** does to a run what the whole group does. -/
theorem runGroup_remaining (hmem : setup.Memoryless) {g : MarkedGroup} {payload : π}
    {scene scene' after : Scene π} {result : GroupResult π}
    (h : setup.runGroup g.whole payload scene = (.ok result, after))
    (hidle : g.IdleMarks setup.switches result.toOutcome) (halike : scene.Alike scene') :
    ∃ result' after',
      setup.runGroup g.remaining payload scene' = (.ok result', after') ∧
      after.Alike after' ∧ result'.payload = result.payload ∧
      result'.rejectedBy = result.rejectedBy ∧
      result'.toOutcome = g.outcomeRemaining setup.switches result.toOutcome := by
  obtain ⟨hending, hpayload, houtcomes, rfl⟩ := runGroup_eq_ok h
  rw [MarkedGroup.slots_whole] at hending hpayload houtcomes ⊢
  rw [GroupResult.toOutcome, houtcomes] at hidle ⊢
  have hsame := passage_unmarked hmem g.slots halike hending hidle.result?_eq_none
  rw [runGroup_eq, MarkedGroup.slots_remaining, Passage.extend, hsame.ending, hending,
    MarkedGroup.outcomeRemaining_turns, ← hsame.records]
  exact ⟨_, _, rfl, hsame.scene, hsame.payload.trans hpayload.symm, rfl, rfl⟩

/-! ## Erasing hooks of a stage -/

/-- The groups of a stage without their idle positions do to a run what the whole groups do. -/
theorem runGroups_remaining (hmem : setup.Memoryless) (groups : List MarkedGroup)
    {payload payload' : π} {scene scene' after : Scene π} {rejectedBy : Option HookId}
    {outcomes : List GroupOutcome}
    (h : setup.runGroups (groups.map MarkedGroup.whole) payload scene =
      (.ok (payload', rejectedBy, outcomes), after))
    (hidle : ∀ x ∈ groups.zip outcomes, x.1.IdleMarks setup.switches x.2)
    (halike : scene.Alike scene') :
    outcomes.length ≤ groups.length ∧
      (∀ x ∈ groups.zip outcomes, x.1.Aligned setup.switches x.2) ∧
      ∃ after', after.Alike after' ∧
        setup.runGroups (groups.map MarkedGroup.remaining) payload scene' =
          (.ok (payload', rejectedBy,
            List.zipWith (fun g o => g.outcomeRemaining setup.switches o) groups outcomes),
            after') := by
  induction groups generalizing payload scene scene' outcomes with
  | nil =>
    cases h
    refine ⟨Nat.le_refl 0, ?_, scene', halike, rfl⟩
    intro x hx
    cases hx
  | cons g rest ih =>
    obtain ⟨result, between, hgroup, hnext⟩ := runGroups_cons_eq_ok h
    have haligned := aligned_runGroup hgroup
    rcases hnext with ⟨hook, hrejected, rfl, rfl, rfl, rfl⟩ | ⟨hrejected, outcomes', hrest, rfl⟩
    · obtain ⟨result', after', hgroup', halike', hpayload, hrejected', houtcome⟩ :=
        runGroup_remaining hmem hgroup (hidle _ List.mem_cons_self) halike
      refine ⟨Nat.le_add_left 1 rest.length, ?_, after', halike', ?_⟩
      · intro x hx
        rw [List.zip_cons_cons, List.zip_nil_right] at hx
        obtain rfl := List.mem_singleton.1 hx
        exact haligned
      · rw [List.map_cons, runGroups, hgroup', Ended.andThen_ok, hrejected', hrejected, hpayload,
          houtcome, List.zipWith_cons_cons, List.zipWith_nil_right]
    · obtain ⟨result', between', hgroup', halike', hpayload, hrejected', houtcome⟩ :=
        runGroup_remaining hmem hgroup (hidle _ List.mem_cons_self) halike
      obtain ⟨hlength, haligneds, after', hafter, hrest'⟩ :=
        ih hrest (fun x hx => hidle x (List.mem_cons_of_mem _ hx)) halike'
      refine ⟨Nat.succ_le_succ hlength, ?_, after', hafter, ?_⟩
      · intro x hx
        rcases List.mem_cons.1 hx with rfl | hx
        · exact haligned
        · exact haligneds x hx
      · rw [List.map_cons, runGroups, hgroup', Ended.andThen_ok, hrejected', hrejected, hpayload]
        show Ended.andThen (setup.runGroups (rest.map MarkedGroup.remaining) _ _) _ = _
        rw [hrest', Ended.andThen_ok, houtcome, List.zipWith_cons_cons]

/-- **Idle hooks may be erased from a stage.**  If the hooks have no memory, and the marked positions
that a run has come to are such that the hook has had no result, then a run without the marked
positions comes to its end as well.  From the same payload, with the same kept by the modules and
the same to run hooks on, it leaves the same payload, the same rejection and the same kept by the
modules; its records are those of the first run apart from those of the marked positions; and
apart from what the modules keep and from the log nothing in its request has changed. -/
theorem runStage_remaining_of_ok (hmem : setup.Memoryless) {stage : Stage} {entity : String}
    {groups : List MarkedGroup} {payload : π} {scene scene' after : Scene π}
    {result : StageResult π}
    (h : setup.runStage stage entity (groups.map MarkedGroup.whole) payload scene =
      (.ok result, after))
    (hidle : ∀ x ∈ groups.zip result.outcome.groups, x.1.IdleMarks setup.switches x.2)
    (hkept : scene'.request.kept = scene.request.kept)
    (hruntime : scene'.timeline.runtime = scene.timeline.runtime) :
    result.outcome.groups.length ≤ groups.length ∧
      (∀ x ∈ groups.zip result.outcome.groups, x.1.Aligned setup.switches x.2) ∧
      ∃ result' after',
        setup.runStage stage entity (groups.map MarkedGroup.remaining) payload scene' =
          (.ok result', after') ∧
        result'.payload = result.payload ∧ result'.rejectedBy = result.rejectedBy ∧
        after'.request.kept = after.request.kept ∧
        result'.outcome.groups =
          List.zipWith (fun g o => g.outcomeRemaining setup.switches o) groups
            result.outcome.groups ∧
        after'.request =
          { scene'.request with kept := after.request.kept }.recordStage stage result'.outcome := by
  obtain ⟨between, hgroups, -, rfl⟩ := runStage_eq_ok_iff.1 h
  have hmem' : (setup.atStage stage).Memoryless := hmem
  have halike : scene.Alike scene' := ⟨hkept.symm, hruntime.symm⟩
  obtain ⟨hlength, haligned, between', hbetween, hgroups'⟩ :=
    runGroups_remaining hmem' groups hgroups hidle halike
  have hrequest := (setup.atStage stage).runGroups_request_but_kept
    (groups.map MarkedGroup.remaining) payload scene' between'.request.kept
  rw [hgroups'] at hrequest
  refine ⟨hlength, haligned, ⟨_, _, ⟨entity, _⟩⟩, _,
    runStage_eq_ok_iff.2 ⟨between', hgroups', rfl, rfl⟩, rfl, rfl, hbetween.kept.symm, rfl, ?_⟩
  show between'.request.recordStage stage _ =
    { scene'.request with kept := between.request.kept }.recordStage stage _
  rw [hbetween.kept, ← hrequest]

/-- A setup in which the code of a module says what its hooks do: one module is switched off, one
has no hooks, one never finishes, one breaks down, one finishes with nothing, one rejects; any other
raises the bid, and by more if it has done so before. -/
def patchy : RunSetup Nat where
  provider hook :=
    if hook.moduleCode = "gone" then .error (.hookNotFound hook)
    else .ok ⟨hook.hookCode, fun _ bid invocation =>
      if hook.moduleCode = "slow" then .hangs
      else if hook.moduleCode = "frail" then .collapses none
      else if hook.moduleCode = "mute" then .finishes 1 .nothing
      else if hook.moduleCode = "stern" then .finishes 2 (.result { reject := true })
      else .finishes 3 (.result
        { payload := some (bid + if invocation.moduleContext.isSome then 10 else 1)
          moduleContext := some ⟨0, .text "raised"⟩ })⟩
  invocations := .atEndpoint "/auction"
  switches := Table.ofList [("off", false)]

/-- Two groups in which the idle hooks are marked. -/
def patchyGroups : List MarkedGroup :=
  [⟨10, [(⟨"off", "a"⟩, true), (⟨"gone", "a"⟩, true), (⟨"raise", "a"⟩, false),
    (⟨"slow", "a"⟩, true)]⟩,
   ⟨20, [(⟨"frail", "a"⟩, true), (⟨"mute", "a"⟩, true), (⟨"raise", "b"⟩, false),
    (⟨"stern", "a"⟩, false), (⟨"raise", "c"⟩, false)]⟩]

def laterScene : Scene Nat := ⟨default, (default : Timeline Nat).wait 7⟩

theorem memoryless_patchy : patchy.Memoryless := by
  intro hook found hfound m n payload invocation
  change (if _ then _ else _) = _ at hfound
  split at hfound
  · cases hfound
  · cases hfound
    rfl

/-- Without the idle hooks the bid is raised as before, also at a later time. -/
theorem runStage_remaining_patchy :
    ∃ result after result' after',
      patchy.runStage .entrypoint "auction" (patchyGroups.map MarkedGroup.whole) 100 default =
        (.ok result, after) ∧
      patchy.runStage .entrypoint "auction" (patchyGroups.map MarkedGroup.remaining) 100
        laterScene = (.ok result', after') ∧
      result.payload = 111 ∧ result'.payload = result.payload ∧
      result.outcome.groups.map (fun o => o.hooks.length) = [3, 4] ∧
      result'.outcome.groups.map (fun o => o.hooks.length) = [1, 2] := by
  obtain ⟨result, after, hrun, hpayload, hgroups, hidle, hremaining⟩ : ∃ result after,
      patchy.runStage .entrypoint "auction" (patchyGroups.map MarkedGroup.whole) 100 default =
        (.ok result, after) ∧
      result.payload = 111 ∧ result.outcome.groups.map (fun o => o.hooks.length) = [3, 4] ∧
      (∀ x ∈ patchyGroups.zip result.outcome.groups, x.1.IdleMarks patchy.switches x.2) ∧
      (List.zipWith (fun g o => g.outcomeRemaining patchy.switches o) patchyGroups
        result.outcome.groups).map (fun o => o.hooks.length) = [1, 2] :=
    ⟨_, _, rfl, rfl, rfl, by decide, rfl⟩
  have hkept : laterScene.request.kept = (default : Scene Nat).request.kept := rfl
  have hruntime : laterScene.timeline.runtime = (default : Scene Nat).timeline.runtime := rfl
  obtain ⟨-, -, result', after', hrun', hpayload', -, -, houtcome, -⟩ :=
    runStage_remaining_of_ok memoryless_patchy hrun hidle hkept hruntime
  refine ⟨result, after, result', after', hrun, hrun', hpayload, hpayload', hgroups, ?_⟩
  rw [houtcome]
  exact hremaining

end RunSetup

end AuctionHooks
