import AuctionHooks.Document.Decoder
import AuctionHooks.Proofs.Arrangement
import Mathlib.Data.List.Nodup

/-!
# Reading records field by field

A record is read entry by entry, and each entry goes to the field that it names.  What is read is best
told field by field, though, for this is how readers are put together.

`RecordReader.and` puts two readers side by side.  An entry that one of them has a use for is nothing to
the other one, so each of the two reads the record as if it were alone (`readEntries_and_iff`); and a
reader of a single field reads the entry with the name of the field, or nothing if there is none
(`readEntries_field`).  Both take it that the names of the fields differ, that no name stands twice in
the record, and that every entry can be skipped over.
-/

namespace AuctionHooks

open Value (Hold)

/-! ## Looking up names -/

theorem lookup_eq_none_iff {γ : Type} {k : String} {l : List (String × γ)} :
    l.lookup k = none ↔ k ∉ l.map Prod.fst := by
  rw [List.lookup_eq_none_iff]
  constructor
  · intro h hmem
    obtain ⟨e, he, rfl⟩ := List.mem_map.1 hmem
    exact bne_iff_ne.1 (h e he) rfl
  · intro h e he
    refine bne_iff_ne.2 ?_
    rintro rfl
    exact h (List.mem_map_of_mem he)

/-- Where no name stands twice, that of an entry stands neither before it nor after it. -/
theorem notMem_of_nodup {γ : Type} {k : String} {v : γ} {before after : List (String × γ)}
    (h : ((before ++ (k, v) :: after).map Prod.fst).Nodup) :
    k ∉ before.map Prod.fst ∧ k ∉ after.map Prod.fst := by
  rw [List.map_append, List.map_cons, List.nodup_middle, List.nodup_cons, List.mem_append,
    not_or] at h
  exact h.1

/-- In entries in which no name stands twice, a name stands for what it stands with. -/
theorem lookup_of_mem {γ : Type} {k : String} {v : γ} {l : List (String × γ)}
    (hnodup : (l.map Prod.fst).Nodup) (h : (k, v) ∈ l) : l.lookup k = some v := by
  obtain ⟨before, after, rfl⟩ := List.append_of_mem h
  refine List.lookup_eq_some_iff.2 ⟨before, after, rfl, fun e he => bne_iff_ne.2 fun hname => ?_⟩
  have hmem : e.1 ∈ before.map Prod.fst := List.mem_map_of_mem he
  rw [← hname] at hmem
  exact (notMem_of_nodup hnodup).1 hmem

theorem lookup_map {γ δ : Type} (g : γ → δ) (k : String) (l : List (String × γ)) :
    (l.map fun e => (e.1, g e.2)).lookup k = (l.lookup k).map g := by
  induction l with
  | nil => rfl
  | cons e rest ih =>
    rw [List.map_cons, List.lookup_cons, List.lookup_cons, ih]
    cases k == e.1 <;> rfl

namespace RecordReader

variable {α β : Type}

def names (r : RecordReader α) : List String := r.fields.map Prod.fst

theorem names_and (r : RecordReader α) (s : RecordReader β) :
    (r.and s).names = r.names ++ s.names := by
  rw [names, RecordReader.and, List.map_append, List.map_map, List.map_map]
  rfl

/-! ## One entry at a time -/

/-- An entry that names no field adds nothing. -/
theorem takeEntry_of_notMem {r : RecordReader α} {e : String × Value} (h : e.1 ∉ r.names)
    (hpass : e.2.isPassable = true) (f : Format) (draft : r.Draft) :
    r.takeEntry f draft e = .ok draft := by
  rw [takeEntry, lookup_eq_none_iff.2 h]
  exact if_pos hpass

/-- What is known of the fields of two readers, side by side. -/
def pair (r : RecordReader α) (s : RecordReader β) (draft : r.Draft) (draft' : s.Draft) :
    (r.and s).Draft := (draft, draft')

/-- What an entry adds to what two readers know. -/
theorem takeEntry_and (r : RecordReader α) (s : RecordReader β) (f : Format) (draft : r.Draft)
    (draft' : s.Draft) (e : String × Value) :
    (r.and s).takeEntry f (r.pair s draft draft') e =
      match r.fields.lookup e.1 with
      | some take => (r.pair s · draft') <$> take f draft e.2
      | none => r.pair s draft <$> s.takeEntry f draft' e := by
  unfold takeEntry RecordReader.and pair
  dsimp only
  rw [List.lookup_append, lookup_map (fun take f (draft : r.Draft × s.Draft) v =>
    (·, draft.2) <$> take f draft.1 v) e.1 r.fields,
    lookup_map (fun take f (draft : r.Draft × s.Draft) v =>
      (draft.1, ·) <$> take f draft.2 v) e.1 s.fields]
  cases r.fields.lookup e.1 with
  | some take => rfl
  | none =>
    cases s.fields.lookup e.1 with
    | some take => rfl
    | none =>
      show (if _ then _ else _) = _ <$> (if _ then _ else _)
      split <;> rfl

/-! ## Whole records -/

/-- That the entries of a record can all be skipped over. -/
def Passable (es : List (String × Value)) : Prop := ∀ e ∈ es, e.2.isPassable = true

section Fold

variable {f : Format} {es : List (String × Value)}

theorem foldlM_takeEntry_of_notMem {r : RecordReader α} (hpass : Passable es)
    (h : ∀ e ∈ es, e.1 ∉ r.names) (draft : r.Draft) :
    es.foldlM (r.takeEntry f) draft = .ok draft := by
  induction es with
  | nil => rfl
  | cons e rest ih =>
    obtain ⟨hfirst, hrest⟩ := List.forall_mem_cons.1 hpass
    obtain ⟨hname, hnames⟩ := List.forall_mem_cons.1 h
    rw [List.foldlM_cons, takeEntry_of_notMem hname hfirst]
    exact ih hrest hnames

/-- **Two readers side by side read a record as if each were alone.** -/
theorem foldlM_takeEntry_and_iff {r : RecordReader α} {s : RecordReader β}
    (hdisjoint : r.names.Disjoint s.names) (hpass : Passable es) {draft new : r.Draft}
    {draft' new' : s.Draft} :
    es.foldlM ((r.and s).takeEntry f) (r.pair s draft draft') = .ok (r.pair s new new') ↔
      es.foldlM (r.takeEntry f) draft = .ok new ∧ es.foldlM (s.takeEntry f) draft' = .ok new' := by
  induction es generalizing draft draft' with
  | nil =>
    show Except.ok (draft, draft') = .ok (new, new') ↔ Except.ok draft = .ok new ∧
      Except.ok draft' = .ok new'
    simp
  | cons e rest ih =>
    obtain ⟨hfirst, hrest⟩ := List.forall_mem_cons.1 hpass
    rw [List.foldlM_cons, List.foldlM_cons, List.foldlM_cons, takeEntry_and]
    cases hname : r.fields.lookup e.1 with
    | none =>
      have hnone : r.takeEntry f draft e = .ok draft := by
        rw [takeEntry, hname]
        exact if_pos hfirst
      rw [hnone]
      cases s.takeEntry f draft' e with
      | error _ => exact ⟨nofun, fun h => nomatch h.2⟩
      | ok draft' => exact ih hrest
    | some take =>
      have hother : e.1 ∉ s.names := by
        intro h
        refine hdisjoint (Classical.byContradiction fun hnot => ?_) h
        cases hname.symm.trans (lookup_eq_none_iff.2 hnot)
      have htake : r.takeEntry f draft e = take f draft e.2 := by
        rw [takeEntry, hname]
      rw [takeEntry_of_notMem hother hfirst, htake]
      show ((r.pair s · draft') <$> take f draft e.2 >>= _) = _ ↔ _
      cases take f draft e.2 with
      | error _ => exact ⟨nofun, fun h => nomatch h.1⟩
      | ok draft => exact ih hrest

/-- What a reader reads from a record, once it has gone through all of it. -/
theorem readEntries_eq_ok_iff {r : RecordReader α} {a : α} :
    r.readEntries f es = .ok a ↔
      ∃ draft, es.foldlM (r.takeEntry f) r.blank = .ok draft ∧ r.finish .named draft = .ok a := by
  rw [readEntries]
  cases es.foldlM (r.takeEntry f) r.blank with
  | error _ => exact ⟨nofun, fun ⟨_, h, _⟩ => nomatch h⟩
  | ok draft => exact ⟨fun h => ⟨draft, rfl, h⟩, fun ⟨_, hdraft, h⟩ => Except.ok.inj hdraft ▸ h⟩

theorem finish_and_iff {r : RecordReader α} {s : RecordReader β} {layout : RecordLayout}
    {draft : r.Draft} {draft' : s.Draft} {a : α} {b : β} :
    (r.and s).finish layout (r.pair s draft draft') = .ok (a, b) ↔
      r.finish layout draft = .ok a ∧ s.finish layout draft' = .ok b := by
  show (r.finish layout draft >>= fun a => s.finish layout draft' >>= fun b => .ok (a, b)) = _ ↔ _
  cases r.finish layout draft with
  | error _ => exact ⟨nofun, fun h => nomatch h.1⟩
  | ok a' =>
    cases s.finish layout draft' with
    | error _ => exact ⟨nofun, fun h => nomatch h.2⟩
    | ok b' =>
      show Except.ok (a', b') = .ok (a, b) ↔ Except.ok a' = .ok a ∧ Except.ok b' = .ok b
      simp

/-- **What two readers side by side read** from a record is what each of them reads. -/
theorem readEntries_and_iff {r : RecordReader α} {s : RecordReader β}
    (hdisjoint : r.names.Disjoint s.names) (hpass : Passable es) {a : α} {b : β} :
    (r.and s).readEntries f es = .ok (a, b) ↔
      r.readEntries f es = .ok a ∧ s.readEntries f es = .ok b := by
  rw [readEntries_eq_ok_iff, readEntries_eq_ok_iff, readEntries_eq_ok_iff]
  constructor
  · rintro ⟨draft, hfold, hfinish⟩
    have hpair : es.foldlM ((r.and s).takeEntry f) (r.pair s r.blank s.blank) =
        .ok (r.pair s draft.1 draft.2) := hfold
    obtain ⟨hr, hs⟩ := (foldlM_takeEntry_and_iff hdisjoint hpass).1 hpair
    obtain ⟨ha, hb⟩ := finish_and_iff.1 hfinish
    exact ⟨⟨_, hr, ha⟩, ⟨_, hs, hb⟩⟩
  · rintro ⟨⟨draft, hr, ha⟩, ⟨draft', hs, hb⟩⟩
    exact ⟨_, (foldlM_takeEntry_and_iff hdisjoint hpass).2 ⟨hr, hs⟩, finish_and_iff.2 ⟨ha, hb⟩⟩

theorem takeEntry_map (g : α → β) (r : RecordReader α) :
    (r.map g).takeEntry f = r.takeEntry f := by
  funext draft e
  unfold RecordReader.map takeEntry
  dsimp only
  cases r.fields.lookup e.1 <;> rfl

theorem readEntries_map (g : α → β) (r : RecordReader α) :
    (r.map g).readEntries f es = g <$> r.readEntries f es := by
  have hread : (r.map g).readEntries f es =
      (es.foldlM (r.takeEntry f) r.blank >>= fun draft => g <$> r.finish .named draft) :=
    congrArg (fun (take : r.Draft → String × Value → Except DecodeError r.Draft) =>
      es.foldlM take r.blank >>= fun draft => g <$> r.finish .named draft) (takeEntry_map g r)
  rw [hread, readEntries, map_bind]

/-- What a field reads from entries that do not name it. -/
theorem foldlM_takeEntry_field_of_notMem {name : String} (d : Decoder α)
    (absent : RecordLayout → Except DecodeError α) (hpass : Passable es)
    (h : name ∉ es.map Prod.fst) (draft : (field name d absent).Draft) :
    es.foldlM ((field name d absent).takeEntry f) draft = .ok draft := by
  refine foldlM_takeEntry_of_notMem hpass (fun e he hname => h ?_) draft
  have heq : e.1 = name := List.mem_singleton.1 hname
  rw [← heq]
  exact List.mem_map_of_mem he

/-- **A field reads the entry with its name**, or what stands in for it if there is none. -/
theorem readEntries_field (name : String) (d : Decoder α)
    (absent : RecordLayout → Except DecodeError α) (hpass : Passable es)
    (hnodup : (es.map Prod.fst).Nodup) :
    (field name d absent).readEntries f es =
      match es.lookup name with
      | some v => d f v
      | none => absent .named := by
  rw [readEntries]
  cases hlookup : es.lookup name with
  | none =>
    rw [foldlM_takeEntry_field_of_notMem d absent hpass (lookup_eq_none_iff.1 hlookup)]
    rfl
  | some v =>
    obtain ⟨before, after, rfl, -⟩ := List.lookup_eq_some_iff.1 hlookup
    obtain ⟨hpassBefore, hpassAfter⟩ := List.forall_mem_append.1 hpass
    obtain ⟨hbefore, hafter⟩ := notMem_of_nodup hnodup
    have hfirst : (field name d absent).takeEntry f (field name d absent).blank (name, v) =
        some <$> d f v := by
      simp [takeEntry, field]
    rw [List.foldlM_append, foldlM_takeEntry_field_of_notMem d absent hpassBefore hbefore]
    show (List.foldlM _ _ _ >>= _) = d f v
    rw [List.foldlM_cons, hfirst]
    cases d f v with
    | error _ => rfl
    | ok a =>
      have hrest := foldlM_takeEntry_field_of_notMem (f := f) d absent
        (List.forall_mem_cons.1 hpassAfter).2 hafter (some a)
      exact congrArg (· >>= (field name d absent).finish .named) hrest

/-! ## Two readers, one after the other -/

/-- The entries of a record that name no field of a reader. -/
def others (r : RecordReader α) (es : List (String × Value)) : List (String × Value) :=
  es.filter fun e => e.1 ∉ r.names

/-- What an entry adds if the entries without a field are set aside. -/
def setAside (r : RecordReader α) (f : Format) (known : r.Draft × List (String × Value))
    (e : String × Value) : Except DecodeError (r.Draft × List (String × Value)) :=
  match r.fields.lookup e.1 with
  | some take => (·, known.2) <$> take f known.1 e.2
  | none => if e.2.isReadable then .ok (known.1, known.2 ++ [e]) else .error .mismatch

/-- Setting entries aside does not change what is known of the fields. -/
theorem foldlM_setAside {r : RecordReader α} (hreadable : ∀ e ∈ es, e.2.isReadable = true)
    (hpass : Passable es) {draft new : r.Draft} (h : es.foldlM (r.takeEntry f) draft = .ok new)
    (kept : List (String × Value)) :
    es.foldlM (r.setAside f) (draft, kept) = .ok (new, kept ++ r.others es) := by
  induction es generalizing draft kept with
  | nil =>
    obtain rfl := Except.ok.inj h
    rw [others, List.filter_nil, List.append_nil]
    rfl
  | cons e rest ih =>
    obtain ⟨hfirst, hrest⟩ := List.forall_mem_cons.1 hpass
    obtain ⟨hread, hreads⟩ := List.forall_mem_cons.1 hreadable
    rw [List.foldlM_cons] at h ⊢
    cases hname : r.fields.lookup e.1 with
    | none =>
      have hnew : e.1 ∉ r.names := lookup_eq_none_iff.1 hname
      rw [takeEntry_of_notMem hnew hfirst] at h
      rw [setAside, hname, others, List.filter_cons_of_pos (by simpa using hnew)]
      show ((if _ then _ else _) >>= _) = _
      rw [if_pos hread]
      refine (ih hreads hrest h (kept ++ [e])).trans ?_
      rw [List.append_assoc, List.singleton_append, others]
    | some take =>
      have hnamed : ¬e.1 ∉ r.names := by
        intro hnot
        cases hname.symm.trans (lookup_eq_none_iff.2 hnot)
      have htake : r.takeEntry f draft e = take f draft e.2 := by
        rw [takeEntry, hname]
      rw [htake] at h
      rw [setAside, hname, others, List.filter_cons_of_neg (by simpa using hnamed)]
      show ((·, kept) <$> take f draft e.2 >>= _) = _
      cases htaken : take f draft e.2 with
      | error _ =>
        rw [htaken] at h
        cases h
      | ok draft =>
        rw [htaken] at h
        exact ih hreads hrest h kept

/-- **What is set aside for a second reader** are the entries that the first has no use for. -/
theorem decodeBeside_record {r : RecordReader α} {s : RecordReader β} {a : α} {b : β}
    (hreadable : ∀ e ∈ es, e.2.isReadable = true) (hpass : Passable es)
    (hr : r.readEntries f es = .ok a) (hs : s.readEntries f (r.others es) = .ok b) :
    r.decodeBeside s f (.record es) = .ok (a, b) := by
  obtain ⟨draft, hfold, hfinish⟩ := readEntries_eq_ok_iff.1 hr
  have haside := foldlM_setAside hreadable hpass hfold []
  show (es.foldlM (r.setAside f) (r.blank, []) >>= fun known => r.finish .named known.1 >>= fun a =>
    s.readEntries f known.2 >>= fun b => .ok (a, b)) = _
  rw [haside]
  show (r.finish .named draft >>= fun a => s.readEntries f (r.others es) >>= fun b => .ok (a, b)) = _
  rw [hfinish]
  show (s.readEntries f (r.others es) >>= fun b => .ok (a, b)) = _
  rw [hs]
  rfl

end Fold

end RecordReader

end AuctionHooks
