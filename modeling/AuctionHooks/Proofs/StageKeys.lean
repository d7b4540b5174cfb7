import AuctionHooks.Document.Codec.Plan
import AuctionHooks.Proofs.Arrangement
import AuctionHooks.Proofs.TableLaw
import Mathlib.Data.List.Perm.Subperm

/-!
# Keys that meet in one stage

The stages of an endpoint are written as a table whose keys are texts.  They are read in two steps: into
a table with these texts for keys first, and then into one that has stages for keys.  Texts are taken
for stages leniently, so several of them may denote one stage, and a text may come again.  In either
case the entries meet, and a table has room for one of them.

## What is kept and what is lost

The plan for a stage is that of one of the entries that denote it, as a whole; of entries with the very
same key it is the last (`EndpointPlan.kept_of_stagesAlong`).  The groups of the others are not appended
to it, though that is what is done wherever else two plans meet (`EndpointPlan.mergedWith`): they are
lost.  So no group is lost at a stage just if none of the others holds any, and then in particular if
there are no others.  Nothing warns of the loss.

## What is not promised

In which order the second step visits the entries of the first table is left open.  Whether the stages
are read does not depend on it (`EndpointPlan.exists_stagesAlong_iff_of_covers`).  But among different
keys for one stage any can be the one that counts (`EndpointPlan.exists_covers_keeping_iff`), and among
several keys that denote no stage any can be the one that is blamed
(`EndpointPlan.exists_covers_blaming_iff`).  Only where no keys meet is there nothing to decide
(`EndpointPlan.stagesAlong_eq_stagesOfKeys`).

## Main statements

* `EndpointPlan.decodeStages_eq_ok_iff`: what the two steps come to, for any entries.
* `EndpointPlan.exists_decode_kept`: what becomes of the groups of each stage, in every order.
* `EndpointPlan.exists_decode_losing`: two spellings of one stage, and a group that is lost.
-/

namespace AuctionHooks

/-! ## Reading entries into a table -/

section Reading

variable {γ κ α ε : Type} [Ord κ] [Std.TransOrd κ] {read : γ → Except ε (κ × α)}
  {step : Table κ α → γ → Except ε (Table κ α)} {l : List γ} {known : Table κ α}

/-- Entries that are put into a table as they are read may as well all be read first. -/
theorem foldlM_insert_eq_mapM (hstep : ∀ t a, step t a = (fun e => t.insert e.1 e.2) <$> read a) :
    l.foldlM step known = known.insertAll <$> l.mapM read := by
  induction l generalizing known with
  | nil => rfl
  | cons a rest ih =>
    rw [List.foldlM_cons, List.mapM_cons, hstep]
    cases read a with
    | error e => rfl
    | ok e =>
      refine (@ih (known.insert e.1 e.2)).trans ?_
      cases rest.mapM read <;> rfl

/-- **Entries that are put into a table as they are read** are all read, and of two with one key the
later counts. -/
theorem foldlM_insert_eq_ok_iff (hstep : ∀ t a, step t a = (fun e => t.insert e.1 e.2) <$> read a)
    {t : Table κ α} :
    l.foldlM step known = .ok t ↔
      ∃ es, List.Forall₂ (fun a e => read a = .ok e) l es ∧ t = known.insertAll es := by
  simp only [foldlM_insert_eq_mapM hstep, ← mapM_eq_ok_iff]
  cases l.mapM read <;> simp [Functor.map, Except.map, eq_comm]

/-- Reading stops at the first entry that cannot be read, and its error is the error. -/
theorem foldlM_insert_eq_error_iff
    (hstep : ∀ t a, step t a = (fun e => t.insert e.1 e.2) <$> read a) {err : ε} :
    l.foldlM step known = .error err ↔
      ∃ before a after, l = before ++ a :: after ∧ (∀ b ∈ before, ∃ e, read b = .ok e) ∧
        read a = .error err := by
  rw [foldlM_insert_eq_mapM hstep, ← mapM_eq_error_iff]
  cases l.mapM read <;> simp [Functor.map, Except.map]

end Reading

/-- That a list holds what entries stand for, name by name. -/
def Decoder.EntriesAre {α : Type} (d : Decoder α) (f : Format) (es : List (String × Value))
    (l : List (String × α)) : Prop :=
  List.Forall₂ (fun e x => e.1 = x.1 ∧ d f e.2 = .ok x.2) es l

/-- What a table is read as: each entry by itself, and of entries with one key the last counts. -/
theorem Decoder.table_eq_ok_iff {α : Type} {d : Decoder α} {f : Format}
    {es : List (String × Value)} {t : Table String α} :
    d.table f (.record es) = .ok t ↔ ∃ l, d.EntriesAre f es l ∧ t = Table.ofList l := by
  have hread : ∀ (e : String × Value) (x : String × α),
      (e.1, ·) <$> d f e.2 = .ok x ↔ e.1 = x.1 ∧ d f e.2 = .ok x.2 := by
    rintro e ⟨name, a⟩
    cases d f e.2 <;> simp [Except.map, Functor.map]
  have hstep : ∀ (t : Table String α) (e : String × Value),
      t.insert e.1 <$> d f e.2 = (fun x => t.insert x.1 x.2) <$> ((e.1, ·) <$> d f e.2) := by
    intro t e
    cases d f e.2 <;> rfl
  refine (foldlM_insert_eq_ok_iff hstep).trans ?_
  simp only [hread]
  rfl

namespace EndpointPlan

/-- That a key denotes a stage and is the key of a plan, which is then a plan for this stage. -/
def Denotes (e : String × StagePlan) (x : Stage × StagePlan) : Prop :=
  Stage.ofText? e.1 = some x.1 ∧ e.2 = x.2

theorem map_stageOfKey_eq_ok_iff {e : String × StagePlan} {x : Stage × StagePlan} :
    (·, e.2) <$> stageOfKey e.1 = .ok x ↔ Denotes e x := by
  obtain ⟨stage, plan⟩ := x
  rw [Denotes, stageOfKey]
  cases Stage.ofText? e.1 <;> simp [Except.map, Functor.map]

theorem map_stageOfKey_eq_error_iff {e : String × StagePlan} {err : DecodeError} :
    (·, e.2) <$> stageOfKey e.1 = .error err ↔
      Stage.ofText? e.1 = none ∧ err = .unknownStage e.1 := by
  rw [stageOfKey]
  cases Stage.ofText? e.1 <;> simp [Except.map, Functor.map, eq_comm]

theorem insert_stageOfKey_eq (stages : Table Stage StagePlan) (e : String × StagePlan) :
    (stages.insert · e.2) <$> stageOfKey e.1 =
      (fun x => stages.insert x.1 x.2) <$> ((·, e.2) <$> stageOfKey e.1) := by
  cases stageOfKey e.1 <;> rfl

/-- What entries are taken for: each by itself, for the stage that its key denotes. -/
theorem stagesAlong_eq_ok_iff {way : List (String × StagePlan)} {stages : Table Stage StagePlan} :
    stagesAlong way = .ok stages ↔ ∃ m, List.Forall₂ Denotes way m ∧ stages = Table.ofList m := by
  refine (foldlM_insert_eq_ok_iff insert_stageOfKey_eq).trans ?_
  simp only [map_stageOfKey_eq_ok_iff]
  rfl

/-- **The first key that denotes no stage is blamed**, and nothing else is. -/
theorem stagesAlong_eq_error_iff {way : List (String × StagePlan)} {err : DecodeError} :
    stagesAlong way = .error err ↔
      ∃ before x after, way = before ++ x :: after ∧
        (∀ y ∈ before, ∃ stage, Stage.ofText? y.1 = some stage) ∧
        Stage.ofText? x.1 = none ∧ err = .unknownStage x.1 := by
  have hreads : ∀ y : String × StagePlan, (∃ x, (·, y.2) <$> stageOfKey y.1 = .ok x) ↔
      ∃ stage, Stage.ofText? y.1 = some stage := by
    intro y
    simp only [map_stageOfKey_eq_ok_iff]
    exact ⟨fun ⟨x, hstage, _⟩ => ⟨x.1, hstage⟩, fun ⟨stage, hstage⟩ => ⟨(stage, y.2), hstage, rfl⟩⟩
  refine (foldlM_insert_eq_error_iff insert_stageOfKey_eq).trans ?_
  simp only [hreads, map_stageOfKey_eq_error_iff]

/-- **What the stages of an endpoint are read as**: each entry by itself first, and then what is left of
them for the stages that their keys denote. -/
theorem decodeStages_eq_ok_iff {f : Format} {es : List (String × Value)}
    {stages : Table Stage StagePlan} :
    decodeStages f (.record es) = .ok stages ↔
      ∃ l, StagePlan.decode.EntriesAre f es l ∧ stagesOfKeys (Table.ofList l) = .ok stages := by
  have hsteps : decodeStages f (.record es) =
      (StagePlan.decode.table f (.record es) >>= stagesOfKeys) := rfl
  rw [hsteps]
  constructor
  · intro h
    cases ht : StagePlan.decode.table f (.record es) with
    | error e =>
      rw [ht] at h
      cases h
    | ok t =>
      rw [ht] at h
      obtain ⟨l, hl, rfl⟩ := Decoder.table_eq_ok_iff.1 ht
      exact ⟨l, hl, h⟩
  · rintro ⟨l, hl, hstages⟩
    rw [Decoder.table_eq_ok_iff.2 ⟨l, hl, rfl⟩]
    exact hstages

/-- Entries are taken for stages just if each of their keys denotes one. -/
theorem exists_stagesAlong_iff {way : List (String × StagePlan)} :
    (∃ stages, stagesAlong way = .ok stages) ↔
      ∀ key ∈ way.map Prod.fst, ∃ stage, Stage.ofText? key = some stage := by
  have hsome : (∃ stages, stagesAlong way = .ok stages) ↔ ∃ m, List.Forall₂ Denotes way m := by
    simp only [stagesAlong_eq_ok_iff]
    exact ⟨fun ⟨_, m, hm, _⟩ => ⟨m, hm⟩, fun ⟨m, hm⟩ => ⟨_, m, hm, rfl⟩⟩
  rw [hsome, exists_forall₂_iff, List.forall_mem_map]
  constructor
  · intro h e he
    obtain ⟨x, hstage, -⟩ := h e he
    exact ⟨x.1, hstage⟩
  · intro h e he
    obtain ⟨stage, hstage⟩ := h e he
    exact ⟨(stage, e.2), hstage, rfl⟩

/-- **Whether a table is read does not depend on the order in which its entries are visited**: it is just
if each of its keys denotes a stage. -/
theorem exists_stagesAlong_iff_of_covers {t : Table String StagePlan}
    {way : List (String × StagePlan)} (h : t.Covers way) :
    (∃ stages, stagesAlong way = .ok stages) ↔
      ∀ key ∈ t.keys, ∃ stage, Stage.ofText? key = some stage := by
  simp only [exists_stagesAlong_iff, h.mem_keys_iff]

/-! ## What is kept of a stage -/

/-- The entries whose keys denote a stage. -/
def entriesFor (l : List (String × StagePlan)) (stage : Stage) : List (String × StagePlan) :=
  l.filter fun x => Stage.ofText? x.1 = some stage

/-- The groups that are written for a stage, in all entries. -/
def groupsWritten (l : List (String × StagePlan)) (stage : Stage) : List HookGroup :=
  (entriesFor l stage).flatMap fun x => x.2.groups

/-- The last of those that are filtered out of a list, at its place in the list. -/
theorem exists_of_getLast?_filter {α : Type} {p : α → Bool} {l : List α} {x : α}
    (h : (l.filter p).getLast? = some x) :
    ∃ before after, l = before ++ x :: after ∧ p x = true ∧ ∀ y ∈ after, p y = false := by
  obtain ⟨ys, hys⟩ := List.getLast?_eq_some_iff.1 h
  obtain ⟨before, rest, rfl, -, hrest⟩ := List.filter_eq_append_iff.1 hys
  obtain ⟨skipped, after, rfl, -, hx, hafter⟩ := List.filter_eq_cons_iff.1 hrest
  refine ⟨before ++ skipped, after, by simp, hx, fun y hy => ?_⟩
  simpa using List.filter_eq_nil_iff.1 hafter y hy

theorem plansFor_of_denotes {way : List (String × StagePlan)} {m : List (Stage × StagePlan)}
    (h : List.Forall₂ Denotes way m) (stage : Stage) :
    (m.filter fun x => x.1 = stage).map Prod.snd = (entriesFor way stage).map Prod.snd := by
  induction h with
  | nil => rfl
  | @cons e x _ _ hfirst _ ih =>
    obtain ⟨hstage, hplan⟩ := hfirst
    rw [entriesFor] at ih ⊢
    by_cases hx : x.1 = stage
    · simp [hx ▸ hstage, hx, hplan, ih]
    · simp [hstage, hx, ih]

/-- **Of the entries for a stage the last that is visited counts.** -/
theorem get?_of_stagesAlong {way : List (String × StagePlan)} {stages : Table Stage StagePlan}
    (h : stagesAlong way = .ok stages) (stage : Stage) :
    stages.get? stage = (entriesFor way stage).getLast?.map Prod.snd := by
  obtain ⟨m, hm, rfl⟩ := stagesAlong_eq_ok_iff.1 h
  rw [Table.ofList, Table.get?_insertAll, Table.get?_empty, Option.or_none, ← List.getLast?_map,
    plansFor_of_denotes hm, List.getLast?_map]

/-- **One of the entries for a stage is kept**, and it is the last with its key; if there is none, there
is no plan for the stage. -/
theorem kept_of_stagesAlong {l way : List (String × StagePlan)} {stages : Table Stage StagePlan}
    (hcovers : (Table.ofList l).Covers way) (h : stagesAlong way = .ok stages) (stage : Stage) :
    (entriesFor l stage = [] ∧ stages.get? stage = none) ∨
      ∃ before x after, entriesFor l stage = before ++ x :: after ∧ (∀ y ∈ after, y.1 ≠ x.1) ∧
        stages.get? stage = some x.2 := by
  have hget := get?_of_stagesAlong h stage
  cases hlast : (entriesFor way stage).getLast? with
  | none =>
    refine .inl ⟨List.filter_eq_nil_iff.2 fun x hx hstage => ?_, by rw [hget, hlast]; rfl⟩
    -- A key that denotes the stage is one of the table, hence it is visited.
    have hkey := Table.mem_keys_ofList_iff.2 (List.mem_map_of_mem (f := Prod.fst) hx)
    obtain ⟨e, he, hsame⟩ := List.mem_map.1 (hcovers.mem_keys_iff.2 hkey)
    rw [List.getLast?_eq_none_iff, entriesFor, List.filter_eq_nil_iff] at hlast
    exact hlast e he (hsame ▸ hstage)
  | some x =>
    obtain ⟨hx, hstage⟩ := List.mem_filter.1 (List.mem_of_getLast? hlast)
    have hkept := Table.get?_ofList_eq_some_iff.1 ((hcovers.mem_iff x.1 x.2).1 hx)
    obtain ⟨before, after, rfl, -, hafter⟩ := exists_of_getLast?_filter hkept
    refine .inr ⟨entriesFor before stage, x, entriesFor after stage, ?_, fun y hy => ?_, ?_⟩
    · simp [entriesFor, of_decide_eq_true hstage]
    · simpa using hafter y (List.mem_filter.1 hy).1
    · rw [hget, hlast]
      rfl

/-- No group of several entries is lost by keeping one of them just if the others hold none. -/
theorem subperm_flatMap_iff {before after : List (String × StagePlan)} {x : String × StagePlan} :
    ((before ++ x :: after).flatMap fun y => y.2.groups).Subperm x.2.groups ↔
      ∀ y ∈ before ++ after, y.2.groups = [] := by
  rw [List.flatMap_append, List.flatMap_cons]
  constructor
  · intro h
    have hlength := h.length_le
    simp only [List.length_append] at hlength
    have hbefore : before.flatMap (fun y => y.2.groups) = [] := List.length_eq_zero_iff.1 (by omega)
    have hafter : after.flatMap (fun y => y.2.groups) = [] := List.length_eq_zero_iff.1 (by omega)
    rw [List.flatMap_eq_nil_iff] at hbefore hafter
    exact List.forall_mem_append.2 ⟨hbefore, hafter⟩
  · intro h
    obtain ⟨hbefore, hafter⟩ := List.forall_mem_append.1 h
    rw [List.flatMap_eq_nil_iff.2 hbefore, List.flatMap_eq_nil_iff.2 hafter, List.append_nil,
      List.nil_append]

/-- The entry with the stages is all that is read of an endpoint. -/
theorem decode_stages (f : Format) (v : Value) :
    decode f (.record [("stages", v)]) = EndpointPlan.mk <$> decodeStages f v := by
  have hread : decode f (.record [("stages", v)]) =
      (some <$> decodeStages f v >>= fun draft =>
        EndpointPlan.mk <$> (draft.elim (.ok ∅) .ok : Except DecodeError (Table Stage StagePlan))) := by
    simp [decode, reader, RecordReader.decode, RecordReader.readEntries, RecordReader.withDefault,
      RecordReader.field, RecordReader.map, RecordReader.takeEntry]
  rw [hread]
  cases decodeStages f v <;> rfl

/-- **The stages of an endpoint are read** just if every key denotes a stage and every value stands for
what runs at one. -/
theorem exists_decodeStages_iff {f : Format} {es : List (String × Value)} :
    (∃ stages, decodeStages f (.record es) = .ok stages) ↔
      ∀ e ∈ es, (∃ stage, Stage.ofText? e.1 = some stage) ∧
        ∃ plan, StagePlan.decode f e.2 = .ok plan := by
  simp only [decodeStages_eq_ok_iff]
  constructor
  · rintro ⟨stages, l, hl, hstages⟩ e he
    obtain ⟨x, hx, hkey, hplan⟩ := exists_of_mem_right hl.flip he
    have hkeys := (exists_stagesAlong_iff_of_covers (Table.covers_toList _)).1 ⟨stages, hstages⟩
    rw [hkey]
    exact ⟨hkeys x.1 (Table.mem_keys_ofList_iff.2 (List.mem_map_of_mem hx)), x.2, hplan⟩
  · intro h
    obtain ⟨l, hl⟩ : ∃ l, StagePlan.decode.EntriesAre f es l := by
      refine exists_forall₂_iff.2 fun e he => ?_
      obtain ⟨-, plan, hplan⟩ := h e he
      exact ⟨(e.1, plan), rfl, hplan⟩
    have hkeys : ∀ key ∈ (Table.ofList l).keys, ∃ stage, Stage.ofText? key = some stage := by
      intro key hkey
      obtain ⟨x, hx, rfl⟩ := List.mem_map.1 (Table.mem_keys_ofList_iff.1 hkey)
      obtain ⟨e, he, hsame, -⟩ := exists_of_mem_right hl hx
      rw [← hsame]
      exact (h e he).1
    obtain ⟨stages, hstages⟩ := (exists_stagesAlong_iff_of_covers (Table.covers_toList _)).2 hkeys
    exact ⟨stages, l, hl, hstages⟩

/-- That a list holds the stages that the keys of a record denote, with what its values stand for. -/
def StagesAre (f : Format) (es : List (String × Value)) (m : List (Stage × StagePlan)) : Prop :=
  List.Forall₂ (fun e x => Stage.ofText? e.1 = some x.1 ∧ StagePlan.decode f e.2 = .ok x.2) es m

/-- **Entries that denote different stages do not meet**: each of them is there, for the stage that its
key denotes, and nothing else is. -/
theorem exists_toList_perm {f : Format} {es : List (String × Value)}
    {stages : Table Stage StagePlan} (h : decodeStages f (.record es) = .ok stages)
    (hnodup : (es.map fun e => Stage.ofText? e.1).Nodup) :
    ∃ m, StagesAre f es m ∧ stages.toList.Perm m := by
  obtain ⟨l, hl, hstages⟩ := decodeStages_eq_ok_iff.1 h
  obtain ⟨m, hm, rfl⟩ := stagesAlong_eq_ok_iff.1 hstages
  have hkeys : (l.map Prod.fst).Nodup := by
    have hnames : es.map Prod.fst = l.map Prod.fst :=
      map_eq_map_of_forall₂ hl fun _ _ hx => hx.1
    rw [← hnames]
    refine List.Nodup.of_map Stage.ofText? ?_
    rwa [List.map_map]
  -- The stages are taken in the order of the first table, and can be put in that of the document.
  obtain ⟨m', hm', hperm⟩ := List.perm_comp_forall₂ (Table.toList_ofList_perm hkeys).symm hm
  have hall : StagesAre f es m' := by
    refine (forall₂_trans hl hm').imp ?_
    rintro e x ⟨y, ⟨hkey, hplan⟩, hstage, hsame⟩
    rw [hkey, hplan, hsame]
    exact ⟨hstage, rfl⟩
  have hstagesNodup : (m.map Prod.fst).Nodup := by
    have hnames : es.map (fun e => Stage.ofText? e.1) = m'.map fun x => some x.1 :=
      map_eq_map_of_forall₂ hall fun _ _ hx => hx.1
    rw [hnames] at hnodup
    refine (hperm.map Prod.fst).nodup_iff.1 (List.Nodup.of_map some ?_)
    rwa [List.map_map]
  exact ⟨m', hall, (Table.toList_ofList_perm hstagesNodup).trans hperm.symm⟩

/-! ## What the order decides -/

/-- **Any key that denotes no stage can be the one that is blamed**, and no other can. -/
theorem exists_covers_blaming_iff {t : Table String StagePlan} {err : DecodeError} :
    (∃ way, t.Covers way ∧ stagesAlong way = .error err) ↔
      ∃ key ∈ t.keys, Stage.ofText? key = none ∧ err = .unknownStage key := by
  constructor
  · rintro ⟨way, hcovers, h⟩
    obtain ⟨before, x, after, rfl, -, hnone, rfl⟩ := stagesAlong_eq_error_iff.1 h
    exact ⟨x.1, hcovers.mem_keys_iff.1 (List.mem_map_of_mem (by simp)), hnone, rfl⟩
  · rintro ⟨key, hkey, hnone, rfl⟩
    obtain ⟨x, hx, rfl⟩ := List.mem_map.1 hkey
    -- The way begins with the key that is to be blamed.
    refine ⟨x :: t.toList.erase x, Table.covers_iff_perm.2 (List.perm_cons_erase hx).symm, ?_⟩
    exact stagesAlong_eq_error_iff.2 ⟨[], x, _, rfl, nofun, hnone, rfl⟩

/-- **Any entry for a stage can be the one that counts**, and no other can. -/
theorem exists_covers_keeping_iff {t : Table String StagePlan}
    (h : ∀ key ∈ t.keys, ∃ stage, Stage.ofText? key = some stage) {stage : Stage} {plan : StagePlan} :
    (∃ way stages, t.Covers way ∧ stagesAlong way = .ok stages ∧ stages.get? stage = some plan) ↔
      ∃ key, t.get? key = some plan ∧ Stage.ofText? key = some stage := by
  constructor
  · rintro ⟨way, stages, hcovers, htaken, hget⟩
    rw [get?_of_stagesAlong htaken, Option.map_eq_some_iff] at hget
    obtain ⟨⟨key, _⟩, hlast, rfl⟩ := hget
    obtain ⟨hx, hstage⟩ := List.mem_filter.1 (List.mem_of_getLast? hlast)
    exact ⟨key, (hcovers.mem_iff key _).1 hx, of_decide_eq_true hstage⟩
  · rintro ⟨key, hget, hstage⟩
    have hx := Table.mem_toList_iff.2 hget
    -- The way ends with the entry that is to count.
    have hcovers : t.Covers (t.toList.erase (key, plan) ++ [(key, plan)]) :=
      Table.covers_iff_perm.2 ((List.perm_append_singleton _ _).trans (List.perm_cons_erase hx).symm)
    obtain ⟨stages, htaken⟩ := (exists_stagesAlong_iff_of_covers hcovers).2 h
    refine ⟨_, stages, hcovers, htaken, ?_⟩
    rw [get?_of_stagesAlong htaken, entriesFor, List.filter_append]
    simp [hstage]

/-- What at most one member of a list answers to is found the same in every order. -/
theorem filter_eq_of_perm {α β : Type} [DecidableEq β] {f : α → β} {l l' : List α} (h : l.Perm l')
    (hnodup : (l'.map f).Nodup) (b : β) : (l.filter (f · = b)) = l'.filter (f · = b) := by
  have hperm := h.filter (f · = b)
  have hcount : (l'.filter (f · = b)).length ≤ 1 := by
    have hle := List.nodup_iff_count_le_one.1 hnodup b
    rwa [List.count_eq_countP, List.countP_map, List.countP_eq_length_filter] at hle
  match hfound : l'.filter (f · = b), hcount with
  | [], _ => exact List.perm_nil.1 (hfound ▸ hperm)
  | [x], _ => exact List.perm_singleton.1 (hfound ▸ hperm)

/-- **The order decides nothing** where no two keys denote one stage and at most one denotes none. -/
theorem stagesAlong_eq_stagesOfKeys {t : Table String StagePlan} {way : List (String × StagePlan)}
    (hcovers : t.Covers way) (hnodup : (t.keys.map Stage.ofText?).Nodup) :
    stagesAlong way = stagesOfKeys t := by
  have hread := (exists_stagesAlong_iff_of_covers hcovers).trans
    (exists_stagesAlong_iff_of_covers t.covers_toList).symm
  have hentries : ∀ stage, entriesFor way stage = entriesFor t.toList stage := fun stage =>
    filter_eq_of_perm (f := fun e : String × StagePlan => Stage.ofText? e.1)
      (Table.covers_iff_perm.1 hcovers) (by rwa [Table.keys, List.map_map] at hnodup) (some stage)
  rw [stagesOfKeys]
  cases hway : stagesAlong way with
  | ok stages =>
    obtain ⟨stages', hown⟩ := hread.1 ⟨stages, hway⟩
    rw [hown]
    refine congrArg Except.ok (Table.ext_get? fun stage => ?_)
    rw [get?_of_stagesAlong hway, get?_of_stagesAlong hown, hentries]
  | error err =>
    cases hown : stagesAlong t.toList with
    | ok stages =>
      obtain ⟨stages', htaken⟩ := hread.2 ⟨stages, hown⟩
      cases hway.symm.trans htaken
    | error err' =>
      obtain ⟨key, hkey, hnone, rfl⟩ := exists_covers_blaming_iff.1 ⟨way, hcovers, hway⟩
      obtain ⟨key', hkey', hnone', rfl⟩ :=
        exists_covers_blaming_iff.1 ⟨_, t.covers_toList, hown⟩
      rw [List.inj_on_of_nodup_map hnodup hkey hkey' (hnone.trans hnone'.symm)]

/-! ## Whether groups are lost -/

/-- What becomes of the groups that are written for a stage: those of one entry are kept, and this is
the last entry with its key; and none is lost just if the other entries for the stage hold none. -/
inductive KeepsOne (l : List (String × StagePlan)) (plan : EndpointPlan) (stage : Stage) : Prop
  | nothing (hentries : entriesFor l stage = []) (hgroups : plan.groupsFor stage = [])
  | entry {before after : List (String × StagePlan)} {x : String × StagePlan}
    (hentries : entriesFor l stage = before ++ x :: after) (hlast : ∀ y ∈ after, y.1 ≠ x.1)
    (hgroups : plan.groupsFor stage = x.2.groups)
    (hlost : (groupsWritten l stage).Subperm (plan.groupsFor stage) ↔
      ∀ y ∈ before ++ after, y.2.groups = [])

theorem keepsOne_of_stagesAlong {l way : List (String × StagePlan)} {stages : Table Stage StagePlan}
    (hcovers : (Table.ofList l).Covers way) (h : stagesAlong way = .ok stages) (stage : Stage) :
    KeepsOne l ⟨stages⟩ stage := by
  rcases kept_of_stagesAlong hcovers h stage with ⟨hentries, hget⟩ |
    ⟨before, x, after, hentries, hlast, hget⟩
  · refine .nothing hentries ?_
    simp [groupsFor, hget]
  · have hgroups : (EndpointPlan.mk stages).groupsFor stage = x.2.groups := by
      simp [groupsFor, hget]
    refine .entry hentries hlast hgroups ?_
    rw [hgroups, groupsWritten, hentries]
    exact subperm_flatMap_iff

/-- **Of the entries that denote a stage one is kept, and the groups of the others are lost.**  Where
every key denotes a stage and every value stands for what runs at one, the endpoint is read; and for
each stage it has the groups of one of the entries whose keys denote it.  So no group is lost if no two
keys denote one stage, and some group is lost wherever two entries for one stage hold groups.  All this
is so in whatever order the entries are visited. -/
theorem exists_decode_kept {es : List (String × Value)}
    (h : ∀ e ∈ es, (∃ stage, Stage.ofText? e.1 = some stage) ∧
      ∃ plan, StagePlan.decode .json e.2 = .ok plan) :
    ∃ l plan, StagePlan.decode.EntriesAre .json es l ∧
      decode .json (.record [("stages", .record es)]) = .ok plan ∧
      (∀ stage, KeepsOne l plan stage) ∧
      ∀ way, (Table.ofList l).Covers way →
        ∃ stages, stagesAlong way = .ok stages ∧ ∀ stage, KeepsOne l ⟨stages⟩ stage := by
  obtain ⟨stages, hstages⟩ := exists_decodeStages_iff.2 h
  obtain ⟨l, hl, htaken⟩ := decodeStages_eq_ok_iff.1 hstages
  have hcovers := Table.covers_toList (Table.ofList l)
  refine ⟨l, ⟨stages⟩, hl, ?_, keepsOne_of_stagesAlong hcovers htaken, fun way hway => ?_⟩
  · rw [decode_stages, hstages]
    rfl
  · have hkeys := (exists_stagesAlong_iff_of_covers hcovers).1 ⟨stages, htaken⟩
    obtain ⟨stages', htaken'⟩ := (exists_stagesAlong_iff_of_covers hway).2 hkeys
    exact ⟨stages', htaken', keepsOne_of_stagesAlong hway htaken'⟩

/-- What runs at a stage where a single hook does. -/
def soleGroup : Value := .record [("groups", .list [(HookGroup.mk 10 [⟨"m", "h"⟩]).toValue])]

/-- Two stages, of which the first is written in two ways, and without groups the second time. -/
def spelledTwice : List (String × Value) :=
  [("bidder-request", soleGroup), ("exitpoint", soleGroup), (" Bidder_Request", .record [])]

theorem exists_decode_kept_spelledTwice :
    (∀ e ∈ spelledTwice, (∃ stage, Stage.ofText? e.1 = some stage) ∧
      ∃ plan, StagePlan.decode .json e.2 = .ok plan) ∧
    ∃ l plan, StagePlan.decode.EntriesAre .json spelledTwice l ∧
      decode .json (.record [("stages", .record spelledTwice)]) = .ok plan ∧
      (∀ stage, KeepsOne l plan stage) ∧
      ∀ way, (Table.ofList l).Covers way →
        ∃ stages, stagesAlong way = .ok stages ∧ ∀ stage, KeepsOne l ⟨stages⟩ stage := by
  have h : ∀ e ∈ spelledTwice, (∃ stage, Stage.ofText? e.1 = some stage) ∧
      ∃ plan, StagePlan.decode .json e.2 = .ok plan := by
    intro e he
    simp only [spelledTwice, List.mem_cons, List.not_mem_nil, or_false] at he
    rcases he with rfl | rfl | rfl
    · exact ⟨⟨.bidderRequest, by decide⟩, _, rfl⟩
    · exact ⟨⟨.exitpoint, by decide⟩, _, rfl⟩
    · exact ⟨⟨.bidderRequest, by decide⟩, _, rfl⟩
  exact ⟨h, exists_decode_kept h⟩

/-- The same group, written for one stage under two keys. -/
def writtenTwice : List (String × Value) :=
  [("entrypoint", soleGroup), ("ENTRYPOINT", soleGroup)]

/-- **A group can be lost**: both keys denote a stage, both values stand for what runs at one, and the
stage has one group fewer than are written for it. -/
theorem exists_decode_losing :
    (∀ e ∈ writtenTwice, Stage.ofText? e.1 = some .entrypoint) ∧
    ∃ l plan, StagePlan.decode.EntriesAre .json writtenTwice l ∧
      decode .json (.record [("stages", .record writtenTwice)]) = .ok plan ∧
      groupsWritten l .entrypoint = [⟨10, [⟨"m", "h"⟩]⟩, ⟨10, [⟨"m", "h"⟩]⟩] ∧
      plan.groupsFor .entrypoint = [⟨10, [⟨"m", "h"⟩]⟩] ∧
      ¬(groupsWritten l .entrypoint).Subperm (plan.groupsFor .entrypoint) := by
  have hkeys : ∀ e ∈ writtenTwice, Stage.ofText? e.1 = some .entrypoint := by
    intro e he
    simp only [writtenTwice, List.mem_cons, List.not_mem_nil, or_false] at he
    rcases he with rfl | rfl <;> decide
  have hwritten : groupsWritten [("entrypoint", ⟨[⟨10, [⟨"m", "h"⟩]⟩]⟩),
      ("ENTRYPOINT", ⟨[⟨10, [⟨"m", "h"⟩]⟩]⟩)] .entrypoint =
      [⟨10, [⟨"m", "h"⟩]⟩, ⟨10, [⟨"m", "h"⟩]⟩] := by decide
  refine ⟨hkeys, _, ⟨Table.ofList [(.entrypoint, ⟨[⟨10, [⟨"m", "h"⟩]⟩]⟩)]⟩,
    .cons ⟨rfl, rfl⟩ (.cons ⟨rfl, rfl⟩ .nil), rfl, hwritten, by decide, fun hsubperm => ?_⟩
  have hlength := hsubperm.length_le
  rw [hwritten] at hlength
  exact absurd hlength (by decide)

end EndpointPlan

end AuctionHooks
