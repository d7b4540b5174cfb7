import AuctionHooks.Proofs.Attempt
import AuctionHooks.Proofs.Threads

/-!
# The passage through a line of hooks

A group is run by one loop and a stage by another around it, and each of the two has its own way to
stop early.  For nearly everything that is to be said about a run the two loops are one: the hooks
of a stage stand in a single line, each with the time limit of its group (`Slot`), and the run
passes along the line until it has come to the end, a hook has rejected the request, or nothing can
be run.  `RunSetup.passage` is that one loop.

## Turns

What the passage comes to is told turn by turn.  A `Turn` is an attempt together with what it found
and what it left, and it carries the proof that the attempt was really made, so a list of turns
cannot tell of attempts that never took place.

## Main statements

* `RunSetup.passage_append`: a line may be cut in two at any point.
* `RunSetup.account_passage`: each turn finds the scene and the payload that the turn before it has
  left.
* `RunSetup.exists_unreached`, `RunSetup.exists_last_of_rejected`: the turns are those of the
  switched-on places in their order, and only the last of them can have ended the passage.
-/

namespace AuctionHooks

variable {π : Type}

/-! ## Turns -/

/-- An attempt as it was made in the course of a run: for a place in line, with what it found and
what it left. -/
structure Turn (π : Type) extends Slot where
  setup : RunSetup π
  payload : π
  before : Scene π
  attempt : Attempt π
  after : Scene π
  made : setup.attempt timeout hook payload before = (.ok attempt, after)

namespace Turn

def replacement? (t : Turn π) : Option π := t.attempt.replacement?

def payloadAfter (t : Turn π) : π := t.replacement?.getD t.payload

/-- Whether a turn is the last of its run, for the hook rejects the request and may do so. -/
def ends (t : Turn π) : Bool := t.setup.rejectAllowed && t.attempt.rejects

def record (t : Turn π) : HookOutcome := t.attempt.record t.setup.rejectAllowed t.hook

/-- The call that a turn made, if there was a hook to call. -/
def call? (t : Turn π) : Option (Launch π) := t.setup.call? t.toSlot t.payload t.before

/-- What a turn has given a module to keep; the outer `none` stands for "nothing was given". -/
def returned? (moduleCode : String) (t : Turn π) : Option (Option ModuleContext) :=
  if t.hook.moduleCode = moduleCode then t.attempt.returned? else none

@[simp] theorem record_hook (t : Turn π) : t.record.hook = t.hook :=
  Attempt.record_hook _ _ _

theorem map_hook_record (turns : List (Turn π)) :
    (turns.map record).map HookOutcome.hook = turns.map fun t => t.hook := by
  rw [List.map_map]
  exact List.map_congr_left fun t _ => t.record_hook

/-- Two turns of one place and one payload that end alike do the same to a run, if both may end it or
neither may. -/
theorem same_of_attempt {t t' : Turn π}
    (hallowed : t'.setup.rejectAllowed = t.setup.rejectAllowed) (hslot : t'.toSlot = t.toSlot)
    (hpayload : t'.payload = t.payload) (hattempt : t'.attempt = t.attempt) :
    t'.record = t.record ∧ t'.payloadAfter = t.payloadAfter ∧ t'.ends = t.ends := by
  have hhook : t'.hook = t.hook := congrArg Slot.hook hslot
  refine ⟨?_, ?_, ?_⟩
  · rw [record, record, hallowed, hhook, hattempt]
  · rw [payloadAfter, payloadAfter, replacement?, replacement?, hpayload, hattempt]
  · rw [ends, ends, hallowed, hattempt]

/-- A turn ended in the only way in which its attempt could. -/
theorem eq_of_attempt {t : Turn π} {a : Attempt π} {after : Scene π}
    (h : t.setup.attempt t.timeout t.hook t.payload t.before = (.ok a, after)) :
    t.attempt = a ∧ t.after = after := by
  obtain ⟨hattempt, hafter⟩ := Prod.ext_iff.1 (t.made.symm.trans h)
  exact ⟨Except.ok.inj hattempt, hafter⟩

theorem cases_call? (t : Turn π) :
    (∃ e, t.setup.provider t.hook = .error e ∧ t.call? = none ∧ t.attempt = .unresolved e ∧
      t.after = t.before) ∨
    (∃ call, t.call? = some call ∧ t.before.timeline.runtime.obstacle? = none ∧
      t.attempt = Attempt.ofRace t.timeout (call.course.race t.timeout) ∧
      t.after = ⟨t.before.request.afterAttempt t.hook t.attempt,
        (t.before.timeline.run t.timeout call).2⟩) := by
  rcases t.setup.attempt_cases t.toSlot t.payload t.before with
    ⟨e, hp, hc, ha⟩ | ⟨call, e, -, -, ha⟩ | ⟨call, hc, ho, ha⟩
  · obtain ⟨hattempt, hafter⟩ := eq_of_attempt ha
    exact Or.inl ⟨e, hp, hc, hattempt, hafter⟩
  · cases t.made.symm.trans ha
  · obtain ⟨hattempt, hafter⟩ := eq_of_attempt ha
    refine Or.inr ⟨call, hc, ho, hattempt, ?_⟩
    rw [hattempt]
    exact hafter

theorem launches_after (t : Turn π) :
    t.after.timeline.launches = t.before.timeline.launches ++ t.call?.toList := by
  rcases t.cases_call? with ⟨-, -, hc, -, hafter⟩ | ⟨call, hc, ho, -, hafter⟩
  · rw [hc, hafter, Option.toList_none, List.append_nil]
  · rw [hc, hafter, Option.toList_some]
    exact (Timeline.run_of_ready ho t.timeout call).2.1

/-- A turn changes nothing in the request but what the modules keep. -/
theorem request_after_but_kept (t : Turn π) (kept : Table String ModuleContext) :
    { t.after.request with kept } = { t.before.request with kept } := by
  rcases t.cases_call? with ⟨-, -, -, -, hafter⟩ | ⟨call, -, -, -, hafter⟩
  · rw [hafter]
  · rw [hafter]
    exact t.before.request.afterAttempt_but_kept t.hook t.attempt kept

/-- A turn changes what a module keeps just if it has given that module something to keep. -/
theorem moduleContext_after (t : Turn π) (moduleCode : String) :
    t.after.request.moduleContext moduleCode =
      (t.returned? moduleCode).getD (t.before.request.moduleContext moduleCode) := by
  rcases t.cases_call? with ⟨e, -, -, hattempt, hafter⟩ | ⟨call, -, -, -, hafter⟩
  · have hnone : t.returned? moduleCode = none := by
      simp [returned?, Attempt.returned?, Attempt.result?, hattempt]
    rw [hafter, hnone, Option.getD_none]
  · rw [hafter]
    show (t.before.request.afterAttempt t.hook t.attempt).moduleContext moduleCode = _
    rw [Request.afterAttempt, returned?]
    cases t.attempt.returned? with
    | none => rw [Option.elim_none, ite_self, Option.getD_none]
    | some c =>
      rw [Option.elim_some, Request.moduleContext, Request.putModuleContext, Table.get?_put]
      by_cases hm : moduleCode = t.hook.moduleCode
      · rw [if_pos hm, if_pos hm.symm, Option.getD_some]
      · rw [if_neg hm, if_neg (Ne.symm hm), Option.getD_none]
        rfl

end Turn

/-! ## The passage -/

/-- What a passage along a line has come to. -/
structure Passage (π : Type) where
  turns : List (Turn π)
  payload : π
  scene : Scene π
  /-- The hook that has rejected the request, if one has, or the error that has stopped the run. -/
  ending : Except EngineError (Option HookId)

namespace Passage

def cons (t : Turn π) (p : Passage π) : Passage π := { p with turns := t :: p.turns }

@[simp] theorem turns_cons (t : Turn π) (p : Passage π) : (p.cons t).turns = t :: p.turns := rfl

/-- Goes on along another line, unless the passage has been ended or stopped. -/
def andThen (p : Passage π) (next : π → Scene π → Passage π) : Passage π :=
  match p.ending with
  | .ok none =>
    let q := next p.payload p.scene
    { q with turns := p.turns ++ q.turns }
  | _ => p

theorem andThen_of_ok_none {p : Passage π} (h : p.ending = .ok none)
    (next : π → Scene π → Passage π) :
    p.andThen next =
      { next p.payload p.scene with turns := p.turns ++ (next p.payload p.scene).turns } := by
  rw [andThen, h]

theorem andThen_of_ne {p : Passage π} (h : p.ending ≠ .ok none)
    (next : π → Scene π → Passage π) : p.andThen next = p := by
  unfold andThen
  split
  · next h' => exact absurd h' h
  · rfl

theorem mem_turns_andThen_left {p : Passage π} {next : π → Scene π → Passage π} {t : Turn π}
    (h : t ∈ p.turns) : t ∈ (p.andThen next).turns := by
  by_cases hending : p.ending = .ok none
  · rw [andThen_of_ok_none hending]
    exact List.mem_append_left _ h
  · rw [andThen_of_ne hending]
    exact h

theorem mem_turns_andThen_right {p : Passage π} {next : π → Scene π → Passage π} {t : Turn π}
    (hending : p.ending = .ok none) (h : t ∈ (next p.payload p.scene).turns) :
    t ∈ (p.andThen next).turns := by
  rw [andThen_of_ok_none hending]
  exact List.mem_append_right _ h

theorem cons_andThen (t : Turn π) (p : Passage π) (next : π → Scene π → Passage π) :
    (p.cons t).andThen next = (p.andThen next).cons t := by
  by_cases h : p.ending = .ok none
  · rw [andThen_of_ok_none h, andThen_of_ok_none (p := p.cons t) h]
    rfl
  · rw [andThen_of_ne h, andThen_of_ne (p := p.cons t) h]

/-- What a passage tells: the payload, the hook that has rejected the request, and the records. -/
def summary (p : Passage π) : Except EngineError (π × Option HookId × List HookOutcome) :=
  p.ending.map fun rejectedBy => (p.payload, rejectedBy, p.turns.map Turn.record)

theorem summary_andThen_of_ok_none {p : Passage π} (h : p.ending = .ok none)
    (next : π → Scene π → Passage π) :
    (p.andThen next).summary =
      (next p.payload p.scene).summary.map fun x =>
        (x.1, x.2.1, p.turns.map Turn.record ++ x.2.2) := by
  rw [andThen_of_ok_none h, summary, summary]
  cases (next p.payload p.scene).ending with
  | error e => rfl
  | ok rejectedBy => simp [Except.map]

/-- What becomes of the result of a group by a passage. -/
def extend (p : Passage π) (r : GroupResult π) : Ended (Scene π) (GroupResult π) :=
  (p.ending.map fun rejectedBy =>
    { r with
      payload := p.payload
      rejectedBy
      outcomes := r.outcomes ++ p.turns.map Turn.record }, p.scene)

theorem extend_cons (t : Turn π) (p : Passage π) (r : GroupResult π)
    (payload : π) (rejectedBy : Option HookId) :
    (p.cons t).extend r =
      p.extend { r with payload, rejectedBy, outcomes := r.outcomes ++ [t.record] } := by
  simp [extend, cons, List.append_assoc]

end Passage

namespace RunSetup

variable {setup : RunSetup π}

/-- Whether the place of a hook is passed over: its module is switched off. -/
def passesOver (setup : RunSetup π) (slot : Slot) : Bool :=
  !setup.switches.isOn slot.hook.moduleCode

def takeTurn (setup : RunSetup π) (slot : Slot) (payload : π) (scene : Scene π) :
    Except EngineError (Turn π) :=
  match made : setup.attempt slot.timeout slot.hook payload scene with
  | (.ok attempt, after) => .ok { slot with setup, payload, before := scene, attempt, after, made }
  | (.error e, _) => .error e

/-- Passes along a line until it has come to the end, a turn ends it, or nothing can be run. -/
def passage (setup : RunSetup π) : List Slot → π → Scene π → Passage π
  | [], payload, scene => ⟨[], payload, scene, .ok none⟩
  | slot :: rest, payload, scene =>
    if setup.passesOver slot then passage setup rest payload scene
    else
      match setup.takeTurn slot payload scene with
      | .error e => ⟨[], payload, scene, .error e⟩
      | .ok t =>
        if t.ends then ⟨[t], t.payloadAfter, t.after, .ok (some t.hook)⟩
        else (passage setup rest t.payloadAfter t.after).cons t

theorem eq_of_takeTurn {slot : Slot} {payload : π} {scene : Scene π} {t : Turn π}
    (h : setup.takeTurn slot payload scene = .ok t) :
    t.setup = setup ∧ t.toSlot = slot ∧ t.payload = payload ∧ t.before = scene := by
  unfold takeTurn at h
  split at h
  · cases h
    exact ⟨rfl, rfl, rfl, rfl⟩
  · cases h

theorem exists_takeTurn {slot : Slot} {payload : π} {scene after : Scene π} {a : Attempt π}
    (h : setup.attempt slot.timeout slot.hook payload scene = (.ok a, after)) :
    ∃ t, setup.takeTurn slot payload scene = .ok t ∧ t.attempt = a ∧ t.after = after := by
  unfold takeTurn
  split
  · next a' after' made =>
    rw [h] at made
    obtain ⟨hattempt, hafter⟩ := Prod.ext_iff.1 made
    exact ⟨_, rfl, (Except.ok.inj hattempt).symm, hafter.symm⟩
  · next e after' made =>
    rw [h] at made
    cases made

theorem takeTurn_eq_error {slot : Slot} {payload : π} {scene after : Scene π} {e : EngineError}
    (h : setup.attempt slot.timeout slot.hook payload scene = (.error e, after)) :
    setup.takeTurn slot payload scene = .error e := by
  unfold takeTurn
  split
  · next made =>
    rw [h] at made
    cases made
  · next made =>
    rw [h] at made
    cases made
    rfl

/-- A turn that cannot be taken leaves the scene as it was. -/
theorem attempt_of_takeTurn_eq_error {slot : Slot} {payload : π} {scene : Scene π}
    {e : EngineError} (h : setup.takeTurn slot payload scene = .error e) :
    setup.attempt slot.timeout slot.hook payload scene = (.error e, scene) := by
  unfold takeTurn at h
  split at h
  · cases h
  · next e' after made =>
    cases h
    rcases setup.attempt_cases slot payload scene with
      ⟨_, -, -, ha⟩ | ⟨_, _, -, -, ha⟩ | ⟨_, -, -, ha⟩
    · cases made.symm.trans ha
    · rw [made] at ha ⊢
      rw [ha]
      cases ha
      rfl
    · cases made.symm.trans ha

section Passage

variable {slot : Slot} {rest : List Slot} {payload : π} {scene : Scene π}

@[simp] theorem passage_nil (payload : π) (scene : Scene π) :
    setup.passage [] payload scene = ⟨[], payload, scene, .ok none⟩ := rfl

theorem passage_cons_of_passesOver (h : setup.passesOver slot = true) :
    setup.passage (slot :: rest) payload scene = setup.passage rest payload scene := by
  rw [passage, if_pos h]

theorem passage_cons_of_error (h : setup.passesOver slot = false) {e : EngineError}
    (ht : setup.takeTurn slot payload scene = .error e) :
    setup.passage (slot :: rest) payload scene = ⟨[], payload, scene, .error e⟩ := by
  rw [passage, if_neg (Bool.eq_false_iff.1 h), ht]

theorem passage_cons_of_ends (h : setup.passesOver slot = false) {t : Turn π}
    (ht : setup.takeTurn slot payload scene = .ok t) (hends : t.ends = true) :
    setup.passage (slot :: rest) payload scene =
      ⟨[t], t.payloadAfter, t.after, .ok (some t.hook)⟩ := by
  rw [passage, if_neg (Bool.eq_false_iff.1 h), ht]
  exact if_pos hends

theorem passage_cons_of_goesOn (h : setup.passesOver slot = false) {t : Turn π}
    (ht : setup.takeTurn slot payload scene = .ok t) (hends : t.ends = false) :
    setup.passage (slot :: rest) payload scene =
      (setup.passage rest t.payloadAfter t.after).cons t := by
  rw [passage, if_neg (Bool.eq_false_iff.1 h), ht]
  exact if_neg (Bool.eq_false_iff.1 hends)

theorem mem_turns_passage_cons (h : setup.passesOver slot = false) {t : Turn π}
    (ht : setup.takeTurn slot payload scene = .ok t) :
    t ∈ (setup.passage (slot :: rest) payload scene).turns := by
  cases hends : t.ends with
  | true =>
    rw [passage_cons_of_ends h ht hends]
    exact List.mem_cons_self
  | false =>
    rw [passage_cons_of_goesOn h ht hends]
    exact List.mem_cons_self

/-- **Induction along a passage.**  At each place the passage passes over, is stopped, takes a last
turn, or takes a turn and goes on. -/
@[elab_as_elim]
theorem passage_induction {motive : List Slot → π → Scene π → Passage π → Prop}
    (nil : ∀ payload scene, motive [] payload scene ⟨[], payload, scene, .ok none⟩)
    (off : ∀ slot rest payload scene q, setup.passesOver slot = true →
      motive rest payload scene q → motive (slot :: rest) payload scene q)
    (stopped : ∀ slot rest payload scene e, setup.passesOver slot = false →
      setup.takeTurn slot payload scene = .error e →
      motive (slot :: rest) payload scene ⟨[], payload, scene, .error e⟩)
    (last : ∀ (t : Turn π) rest, t.setup = setup → setup.passesOver t.toSlot = false →
      t.ends = true →
      motive (t.toSlot :: rest) t.payload t.before
        ⟨[t], t.payloadAfter, t.after, .ok (some t.hook)⟩)
    (goesOn : ∀ (t : Turn π) rest q, t.setup = setup → setup.passesOver t.toSlot = false →
      t.ends = false → motive rest t.payloadAfter t.after q →
      motive (t.toSlot :: rest) t.payload t.before (q.cons t))
    (slots : List Slot) (payload : π) (scene : Scene π) :
    motive slots payload scene (setup.passage slots payload scene) := by
  induction slots generalizing payload scene with
  | nil => exact nil payload scene
  | cons slot rest ih =>
    cases hover : setup.passesOver slot with
    | true =>
      rw [passage_cons_of_passesOver hover]
      exact off slot rest payload scene _ hover (ih payload scene)
    | false =>
      cases ht : setup.takeTurn slot payload scene with
      | error e =>
        rw [passage_cons_of_error hover ht]
        exact stopped slot rest payload scene e hover ht
      | ok t =>
        obtain ⟨hsetup, rfl, rfl, rfl⟩ := eq_of_takeTurn ht
        cases hends : t.ends with
        | true =>
          rw [passage_cons_of_ends hover ht hends]
          exact last t rest hsetup hover hends
        | false =>
          rw [passage_cons_of_goesOn hover ht hends]
          exact goesOn t rest _ hsetup hover hends (ih t.payloadAfter t.after)

/-- **A line may be cut in two.**  The passage along the second part begins with what the passage
along the first has left, if that one was neither ended nor stopped. -/
theorem passage_append (slots slots' : List Slot) (payload : π) (scene : Scene π) :
    setup.passage (slots ++ slots') payload scene =
      (setup.passage slots payload scene).andThen (setup.passage slots') := by
  induction slots generalizing payload scene with
  | nil => rfl
  | cons slot rest ih =>
    rw [List.cons_append]
    cases hover : setup.passesOver slot with
    | true => rw [passage_cons_of_passesOver hover, passage_cons_of_passesOver hover, ih]
    | false =>
      cases ht : setup.takeTurn slot payload scene with
      | error e =>
        rw [passage_cons_of_error hover ht, passage_cons_of_error hover ht]
        rfl
      | ok t =>
        cases hends : t.ends with
        | true =>
          rw [passage_cons_of_ends hover ht hends, passage_cons_of_ends hover ht hends]
          rfl
        | false =>
          rw [passage_cons_of_goesOn hover ht hends, passage_cons_of_goesOn hover ht hends, ih,
            Passage.cons_andThen]

theorem setup_of_mem_passage {slots : List Slot} {t : Turn π}
    (h : t ∈ (setup.passage slots payload scene).turns) : t.setup = setup := by
  revert h
  refine passage_induction (motive := fun _ _ _ q => t ∈ q.turns → t.setup = setup) ?_ ?_ ?_ ?_ ?_
    slots payload scene
  · intro _ _ h
    cases h
  · intro _ _ _ _ _ _ ih h
    exact ih h
  · intro _ _ _ _ _ _ _ h
    cases h
  · intro u _ hsetup _ _ h
    rw [List.mem_singleton.1 h, hsetup]
  · intro u _ q hsetup _ _ ih h
    rcases List.mem_cons.1 h with rfl | h
    · exact hsetup
    · exact ih h

/-- **Scenes are handed on** from turn to turn, and nothing else changes them. -/
theorem scenes_passage (slots : List Slot) (payload : π) (scene : Scene π) :
    Threads Turn.before Turn.after scene (setup.passage slots payload scene).turns
      (setup.passage slots payload scene).scene := by
  refine passage_induction
    (motive := fun _ _ scene q => Threads Turn.before Turn.after scene q.turns q.scene)
    ?_ ?_ ?_ ?_ ?_ slots payload scene
  · intro _ scene
    exact .nil scene
  · intro _ _ _ _ _ _ ih
    exact ih
  · intro _ _ _ scene _ _ _
    exact .nil scene
  · intro t _ _ _ _
    exact .cons rfl (.nil t.after)
  · intro _ _ _ _ _ _ ih
    exact .cons rfl ih

/-- **Payloads are handed on** from turn to turn. -/
theorem payloads_passage (slots : List Slot) (payload : π) (scene : Scene π) :
    Threads Turn.payload Turn.payloadAfter payload (setup.passage slots payload scene).turns
      (setup.passage slots payload scene).payload := by
  refine passage_induction
    (motive := fun _ payload _ q => Threads Turn.payload Turn.payloadAfter payload q.turns q.payload)
    ?_ ?_ ?_ ?_ ?_ slots payload scene
  · intro payload _
    exact .nil payload
  · intro _ _ _ _ _ _ ih
    exact ih
  · intro _ _ payload _ _ _ _
    exact .nil payload
  · intro t _ _ _ _
    exact .cons rfl (.nil t.payloadAfter)
  · intro _ _ _ _ _ _ ih
    exact .cons rfl ih

/-- That turns account for what a run under a setup has made of a payload and a scene: each of them
was taken under the setup, and each found what the turn before it had left. -/
structure Account (setup : RunSetup π) (turns : List (Turn π)) (payload payload' : π)
    (scene scene' : Scene π) : Prop where
  setup_eq : ∀ t ∈ turns, t.setup = setup
  payloads : Threads Turn.payload Turn.payloadAfter payload turns payload'
  scenes : Threads Turn.before Turn.after scene turns scene'

theorem account_passage (slots : List Slot) (payload : π) (scene : Scene π) :
    setup.Account (setup.passage slots payload scene).turns payload
      (setup.passage slots payload scene).payload scene
      (setup.passage slots payload scene).scene :=
  ⟨fun _ h => setup_of_mem_passage h, payloads_passage slots payload scene,
    scenes_passage slots payload scene⟩

theorem Account.launches {turns : List (Turn π)} {payload payload' : π} {scene scene' : Scene π}
    (h : setup.Account turns payload payload' scene scene') :
    scene'.timeline.launches = scene.timeline.launches ++ turns.filterMap Turn.call? :=
  (h.scenes.map fun s => s.timeline.launches).eq_append Turn.launches_after

/-- Apart from what the modules keep, the request stays as it is. -/
theorem Account.request_but_kept {turns : List (Turn π)} {payload payload' : π}
    {scene scene' : Scene π} (h : setup.Account turns payload payload' scene scene')
    (kept : Table String ModuleContext) :
    { scene'.request with kept } = { scene.request with kept } :=
  (h.scenes.map fun s => ({ s.request with kept } : Request)).eq_of_unchanged fun t =>
    t.request_after_but_kept kept

/-- The turns of a passage are those of the switched-on places, in the order of the line; a passage
that comes to the end of the line leaves out none of them. -/
theorem exists_unreached (slots : List Slot) (payload : π) (scene : Scene π) :
    ∃ unreached : List Slot,
      slots.filter (fun slot => !setup.passesOver slot) =
        (setup.passage slots payload scene).turns.map Turn.toSlot ++ unreached ∧
      ((setup.passage slots payload scene).ending = .ok none → unreached = []) := by
  refine passage_induction
    (motive := fun slots _ _ q => ∃ unreached : List Slot,
      slots.filter (fun slot => !setup.passesOver slot) =
        q.turns.map Turn.toSlot ++ unreached ∧ (q.ending = .ok none → unreached = []))
    ?_ ?_ ?_ ?_ ?_ slots payload scene
  · intro _ _
    exact ⟨[], rfl, fun _ => rfl⟩
  · rintro slot rest _ _ q hover ⟨unreached, hslots, hend⟩
    refine ⟨unreached, ?_, hend⟩
    rw [List.filter_cons_of_neg (by simp [hover]), hslots]
  · intro slot rest _ _ e _ _
    exact ⟨_, rfl, fun h => by cases h⟩
  · intro t rest _ hover _
    refine ⟨rest.filter fun slot => !setup.passesOver slot, ?_, fun h => by cases h⟩
    rw [List.filter_cons_of_pos (by simp [hover])]
    rfl
  · rintro t rest q _ hover _ ⟨unreached, hslots, hend⟩
    refine ⟨unreached, ?_, hend⟩
    rw [List.filter_cons_of_pos (by simp [hover]), hslots]
    rfl

/-- No turn ends a passage that comes to the end of its line. -/
theorem ends_eq_false_of_completed {slots : List Slot}
    (h : (setup.passage slots payload scene).ending = .ok none) :
    ∀ t ∈ (setup.passage slots payload scene).turns, t.ends = false := by
  revert h
  refine passage_induction
    (motive := fun _ _ _ q => q.ending = .ok none → ∀ t ∈ q.turns, t.ends = false)
    ?_ ?_ ?_ ?_ ?_ slots payload scene
  · intro _ _ _ t ht
    cases ht
  · intro _ _ _ _ _ _ ih
    exact ih
  · intro _ _ _ _ _ _ _ h
    cases h
  · intro _ _ _ _ _ h
    cases h
  · intro u _ q _ _ hends ih h t ht
    rcases List.mem_cons.1 ht with rfl | ht
    · exact hends
    · exact ih h t ht

/-- A rejection is the doing of the last turn and of no other. -/
theorem exists_last_of_rejected {slots : List Slot} {hook : HookId}
    (h : (setup.passage slots payload scene).ending = .ok (some hook)) :
    ∃ earlier last, (setup.passage slots payload scene).turns = earlier ++ [last] ∧
      (∀ t ∈ earlier, t.ends = false) ∧ last.ends = true ∧ last.hook = hook := by
  revert h
  refine passage_induction
    (motive := fun _ _ _ q => q.ending = .ok (some hook) →
      ∃ earlier last, q.turns = earlier ++ [last] ∧ (∀ t ∈ earlier, t.ends = false) ∧
        last.ends = true ∧ last.hook = hook)
    ?_ ?_ ?_ ?_ ?_ slots payload scene
  · intro _ _ h
    cases h
  · intro _ _ _ _ _ _ ih
    exact ih
  · intro _ _ _ _ _ _ _ h
    cases h
  · intro t _ _ _ hends h
    refine ⟨[], t, rfl, ?_, hends, Option.some.inj (Except.ok.inj h)⟩
    intro u hu
    cases hu
  · intro u _ q _ _ hends ih h
    obtain ⟨earlier, last, hturns, hearlier, hlast⟩ := ih h
    refine ⟨u :: earlier, last, ?_, ?_, hlast⟩
    · rw [Passage.cons, hturns, List.cons_append]
    · intro t ht
      rcases List.mem_cons.1 ht with rfl | ht
      · exact hends
      · exact hearlier t ht

end Passage

end RunSetup

end AuctionHooks
