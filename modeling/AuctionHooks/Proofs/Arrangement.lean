import AuctionHooks.Proofs.JsonLaw
import AuctionHooks.Proofs.Sequence
import Mathlib.Data.List.Perm.Basic

/-!
# The same document in another order

Nothing in this library may depend on the order in which a map happens to be walked, and this includes
the order in which its entries are written.  What a map is written as is therefore not one document but
any of those that differ from each other in the order of entries only (`Value.Rearranges`).  The items
of a list keep their places, of course.

A record is rearranged from outside to inside: its entries are put in another order first, and then the
value of each is rearranged in its place.  What remains of the entries is said by
`Rearranges.exists_entries` once and for all.
-/

namespace AuctionHooks

namespace Value

/-- That a value is another one with the entries of its records, at any depth, in some other order. -/
inductive Rearranges : Value → Value → Prop
  | refl (v : Value) : Rearranges v v
  | list {items items' : List Value} (h : List.Forall₂ Rearranges items items') :
    Rearranges (.list items) (.list items')
  | record {entries middle entries' : List (String × Value)} (horder : entries.Perm middle)
    (hnames : middle.map Prod.fst = entries'.map Prod.fst)
    (h : List.Forall₂ Rearranges (middle.map Prod.snd) (entries'.map Prod.snd)) :
    Rearranges (.record entries) (.record entries')

/-- That two entries have one name, and that the value of the first is rearranged to that of the
second. -/
def EntryRearranges (e e' : String × Value) : Prop := e.1 = e'.1 ∧ e.2.Rearranges e'.2

namespace Rearranges

variable {items : List Value} {entries : List (String × Value)} {v w : Value}

theorem eq_null (h : v.Rearranges .null) : v = .null := by
  cases h
  rfl

theorem exists_items (h : (Value.list items).Rearranges w) :
    ∃ items', w = .list items' ∧ List.Forall₂ Rearranges items items' := by
  cases h with
  | refl => exact ⟨items, rfl, List.forall₂_same.2 fun v _ => .refl v⟩
  | list h => exact ⟨_, rfl, h⟩

/-- **A record is rearranged entry by entry**, after its entries have been put in another order. -/
theorem exists_entries (h : (Value.record entries).Rearranges w) :
    ∃ middle entries', w = .record entries' ∧ entries.Perm middle ∧
      List.Forall₂ EntryRearranges middle entries' := by
  cases h with
  | refl =>
    exact ⟨entries, entries, rfl, .refl entries, List.forall₂_same.2 fun e _ => ⟨rfl, .refl e.2⟩⟩
  | record horder hnames h =>
    rw [← List.forall₂_eq_eq_eq, List.forall₂_map_left_iff, List.forall₂_map_right_iff] at hnames
    rw [List.forall₂_map_left_iff, List.forall₂_map_right_iff] at h
    exact ⟨_, _, rfl, horder, hnames.mp (fun _ _ hname hvalue => ⟨hname, hvalue⟩) h⟩

end Rearranges

/-- What fits still does when it is rearranged. -/
theorem Fits.rearranged {n : Nat} {v w : Value} (h : v.Fits n) (hw : v.Rearranges w) :
    w.Fits n := by
  induction h generalizing w with
  | null =>
    cases hw
    exact .null
  | bool b =>
    cases hw
    exact .bool b
  | natural k =>
    cases hw
    exact .natural k
  | text s =>
    cases hw
    exact .text s
  | list _ ih =>
    obtain ⟨items', rfl, hitems⟩ := hw.exists_items
    refine .list fun w' hmem => ?_
    obtain ⟨v, hv, hrearranges⟩ := exists_of_mem_right hitems hmem
    exact ih v hv hrearranges
  | record _ ih =>
    obtain ⟨middle, entries', rfl, horder, hentries⟩ := hw.exists_entries
    refine .record fun e' hmem => ?_
    obtain ⟨e, he, -, hrearranges⟩ := exists_of_mem_right hentries hmem
    exact ih e (horder.mem_iff.2 he) hrearranges

/-- All leaves of a list have a property if those of its items do. -/
theorem everyLeaf_list {p : Value → Bool} {items : List Value}
    (h : ∀ v ∈ items, v.everyLeaf p = true) : (Value.list items).everyLeaf p = true := by
  show itemsEveryLeaf p items = true
  induction items with
  | nil => rfl
  | cons v rest ih =>
    obtain ⟨hfirst, hrest⟩ := List.forall_mem_cons.1 h
    rw [itemsEveryLeaf, hfirst]
    exact ih hrest

/-- All leaves of a record have a property if those of its values do. -/
theorem everyLeaf_record {p : Value → Bool} {entries : List (String × Value)}
    (h : ∀ e ∈ entries, e.2.everyLeaf p = true) : (Value.record entries).everyLeaf p = true := by
  show entriesEveryLeaf p entries = true
  induction entries with
  | nil => rfl
  | cons e rest ih =>
    obtain ⟨hfirst, hrest⟩ := List.forall_mem_cons.1 h
    rw [entriesEveryLeaf, hfirst]
    exact ih hrest

/-- What fits has the properties of its leaves, and these are values that fit without any level. -/
theorem Fits.everyLeaf {p : Value → Bool} (hp : ∀ v : Value, v.Fits 0 → p v = true) {n : Nat}
    {v : Value} (h : v.Fits n) : v.everyLeaf p = true := by
  induction h with
  | null => exact hp _ .null
  | bool b => exact hp _ (.bool b)
  | natural k => exact hp _ (.natural k)
  | text s => exact hp _ (.text s)
  | list _ ih => exact everyLeaf_list ih
  | record _ ih => exact everyLeaf_record ih

theorem Fits.isReadable {n : Nat} {v : Value} (h : v.Fits n) : v.isReadable = true := by
  refine h.everyLeaf fun v hv => ?_
  cases hv <;> rfl

theorem Fits.isPassable {n : Nat} {v : Value} (h : v.Fits n) : v.isPassable = true := by
  refine h.everyLeaf fun v hv => ?_
  cases hv <;> rfl

/-! ## What entries hold -/

/-- That entries hold others: each of those under its name, and rearranged. -/
def Hold (es entries : List (String × Value)) : Prop :=
  ∀ e ∈ entries, ∃ w, (e.1, w) ∈ es ∧ e.2.Rearranges w

/-- The entries of a rearranged record hold those of the record, and they have the same names. -/
theorem Rearranges.exists_hold {entries : List (String × Value)} {w : Value}
    (h : (Value.record entries).Rearranges w) :
    ∃ es, w = .record es ∧ Hold es entries ∧
      (es.map Prod.fst).Perm (entries.map Prod.fst) := by
  obtain ⟨middle, es, rfl, horder, hentries⟩ := h.exists_entries
  refine ⟨es, rfl, fun e he => ?_, ?_⟩
  · obtain ⟨e', he', hname, hvalue⟩ := exists_of_mem_right hentries.flip (horder.mem_iff.1 he)
    exact ⟨e'.2, by rw [hname]; exact he', hvalue⟩
  · have hnames : middle.map Prod.fst = es.map Prod.fst :=
      map_eq_map_of_forall₂ hentries fun _ _ h => h.1
    rw [← hnames]
    exact (horder.map Prod.fst).symm

end Value

end AuctionHooks
