/-!
# Tables

Plans, module switches, module states and hook statistics are all finite maps, and nothing in this
library may depend on the order in which a map happens to be walked.  A `Table` therefore keeps its
entries in ascending order of the keys, with the order as part of the type.

## Why the order is in the type

Two tables that answer every look-up alike are then *equal* (`Table.ext_get?`), so a law such as
"merging is associative" can be stated as an equation between whole tables, keys without content
included, and proved look-up by look-up.  The one operation that changes a table is `alter`; the
others are instances of it, and `get?_alter` says all there is to say about it.
-/

namespace AuctionHooks

open Std (TransOrd LawfulEqOrd)

/-- A finite map whose entries stand in strictly ascending order of their keys. -/
structure Table (κ α : Type) [Ord κ] where
  entries : List (κ × α)
  /-- The keys ascend strictly, hence no key stands twice. -/
  ascending : entries.Pairwise fun a b => compare a.1 b.1 = .lt

namespace Table

variable {κ α β : Type} [Ord κ]

def empty : Table κ α := ⟨[], List.Pairwise.nil⟩

instance : Inhabited (Table κ α) := ⟨empty⟩

instance : EmptyCollection (Table κ α) := ⟨empty⟩

theorem ext {s t : Table κ α} (h : s.entries = t.entries) : s = t := by
  cases s; cases t; cases h; rfl

instance [DecidableEq κ] [DecidableEq α] : DecidableEq (Table κ α) := fun s t =>
  if h : s.entries = t.entries then isTrue (ext h) else isFalse fun e => h (e ▸ rfl)

/-- The value kept under a key, in a list of entries. -/
def find [DecidableEq κ] (k : κ) : List (κ × α) → Option α
  | [] => none
  | (k', v) :: rest => if k = k' then some v else find k rest

def get? [DecidableEq κ] (t : Table κ α) (k : κ) : Option α := find k t.entries

def contains [DecidableEq κ] (t : Table κ α) (k : κ) : Bool := (t.get? k).isSome

def size (t : Table κ α) : Nat := t.entries.length

def isEmpty (t : Table κ α) : Bool := t.entries.isEmpty

def toList (t : Table κ α) : List (κ × α) := t.entries

def keys (t : Table κ α) : List κ := t.entries.map (·.1)

def values (t : Table κ α) : List α := t.entries.map (·.2)

def consIf (k : κ) (v : Option α) (rest : List (κ × α)) : List (κ × α) :=
  match v with
  | some v => (k, v) :: rest
  | none => rest

/-- Rewrites what an ascending list keeps under one key, keeping the order. -/
def alterEntries (k : κ) (f : Option α → Option α) : List (κ × α) → List (κ × α)
  | [] => consIf k (f none) []
  | (k', v) :: rest =>
    match compare k k' with
    | .lt => consIf k (f none) ((k', v) :: rest)
    | .eq => consIf k' (f (some v)) rest
    | .gt => (k', v) :: alterEntries k f rest

omit [Ord κ] in
theorem find_consIf [DecidableEq κ] (k k₀ : κ) (v : Option α) (rest : List (κ × α)) :
    find k (consIf k₀ v rest) = if k = k₀ then v.or (find k rest) else find k rest := by
  cases v <;> by_cases h : k = k₀ <;> simp [consIf, find, h]

omit [Ord κ] in
theorem mem_consIf {k : κ} {v : Option α} {rest : List (κ × α)} {e : κ × α}
    (h : e ∈ consIf k v rest) : e.1 = k ∨ e ∈ rest := by
  cases v with
  | none => exact .inr h
  | some v =>
    rcases List.mem_cons.1 h with rfl | h
    · exact .inl rfl
    · exact .inr h

theorem mem_alterEntries {k : κ} {f : Option α → Option α} {l : List (κ × α)} {e : κ × α}
    (h : e ∈ alterEntries k f l) : e.1 = k ∨ ∃ e' ∈ l, e.1 = e'.1 := by
  induction l with
  | nil =>
    rcases mem_consIf h with h | h
    · exact .inl h
    · cases h
  | cons head rest ih =>
    obtain ⟨k', v⟩ := head
    rw [alterEntries] at h
    split at h
    · rcases mem_consIf h with h | h
      · exact .inl h
      · exact .inr ⟨e, h, rfl⟩
    · rcases mem_consIf h with h | h
      · exact .inr ⟨(k', v), List.mem_cons_self, h⟩
      · exact .inr ⟨e, List.mem_cons_of_mem _ h, rfl⟩
    · rcases List.mem_cons.1 h with rfl | h
      · exact .inr ⟨(k', v), List.mem_cons_self, rfl⟩
      · rcases ih h with h | ⟨e', he', h⟩
        · exact .inl h
        · exact .inr ⟨e', List.mem_cons_of_mem _ he', h⟩

theorem consIf_ascending {k : κ} {v : Option α} {rest : List (κ × α)}
    (below : ∀ e ∈ rest, compare k e.1 = .lt)
    (h : rest.Pairwise fun a b => compare a.1 b.1 = .lt) :
    (consIf k v rest).Pairwise fun a b => compare a.1 b.1 = .lt := by
  cases v with
  | none => exact h
  | some v => exact h.cons below

theorem alterEntries_ascending [TransOrd κ] (k : κ) (f : Option α → Option α)
    {l : List (κ × α)} (h : l.Pairwise fun a b => compare a.1 b.1 = .lt) :
    (alterEntries k f l).Pairwise fun a b => compare a.1 b.1 = .lt := by
  induction l with
  | nil => exact consIf_ascending (by simp) List.Pairwise.nil
  | cons head rest ih =>
    obtain ⟨k', v⟩ := head
    obtain ⟨above, hrest⟩ := List.pairwise_cons.1 h
    rw [alterEntries]
    split
    · next hlt =>
      refine consIf_ascending (fun e he => ?_) h
      rcases List.mem_cons.1 he with rfl | he
      · exact hlt
      · exact Std.TransCmp.lt_trans hlt (above e he)
    · exact consIf_ascending above hrest
    · next hgt =>
      refine (ih hrest).cons fun e he => ?_
      have hlt : compare k' k = .lt := Std.OrientedCmp.lt_of_gt hgt
      rcases mem_alterEntries he with h | ⟨e', he', h⟩
      · rw [h]; exact hlt
      · rw [h]; exact above e' he'

section Operations

variable [TransOrd κ]

/-- Replaces what is kept under `k` by `f` of it; `none` stands for "no entry", before and after. -/
def alter (t : Table κ α) (k : κ) (f : Option α → Option α) : Table κ α :=
  ⟨alterEntries k f t.entries, alterEntries_ascending k f t.ascending⟩

/-- Keeps `v` under `k`, replacing what was there. -/
def insert (t : Table κ α) (k : κ) (v : α) : Table κ α := t.alter k fun _ => some v

def erase (t : Table κ α) (k : κ) : Table κ α := t.alter k fun _ => none

/-- Keeps `v` under `k`, or drops the entry when there is no value. -/
def put (t : Table κ α) (k : κ) (v : Option α) : Table κ α := t.alter k fun _ => v

/-- Adds the entries of a list in turn: of two with one key the later wins. -/
def insertAll (t : Table κ α) (l : List (κ × α)) : Table κ α :=
  l.foldl (fun t e => t.insert e.1 e.2) t

/-- The table of a list of entries: of two with one key the later wins. -/
def ofList (l : List (κ × α)) : Table κ α := insertAll empty l

/-- Adds every entry of `s` to `t`; where both have one, `f` joins the two. -/
def mergeWith (f : α → α → α) (t s : Table κ α) : Table κ α :=
  s.entries.foldl (fun t e => t.alter e.1 fun v => some (v.elim e.2 (f · e.2))) t

/-- The entries of `s` laid over those of `t`. -/
def override (t s : Table κ α) : Table κ α := t.insertAll s.entries

end Operations

def map (f : α → β) (t : Table κ α) : Table κ β :=
  ⟨t.entries.map fun e => (e.1, f e.2), t.ascending.map _ fun _ _ h => h⟩

/-! ## Look-up -/

theorem find_eq_none_of_lt [DecidableEq κ] [TransOrd κ] {k : κ} {l : List (κ × α)}
    (h : ∀ e ∈ l, compare k e.1 = .lt) : find k l = none := by
  induction l with
  | nil => rfl
  | cons e rest ih =>
    have hne : k ≠ e.1 := by
      intro heq
      have := h e List.mem_cons_self
      rw [heq, Std.ReflOrd.compare_self] at this
      cases this
    rw [find, if_neg hne]
    exact ih fun e' he' => h e' (List.mem_cons_of_mem _ he')

theorem find_alterEntries [DecidableEq κ] [TransOrd κ] [LawfulEqOrd κ] (k k' : κ)
    (f : Option α → Option α) {l : List (κ × α)}
    (h : l.Pairwise fun a b => compare a.1 b.1 = .lt) :
    find k' (alterEntries k f l) = if k' = k then f (find k l) else find k' l := by
  induction l with
  | nil => by_cases hk : k' = k <;> simp [alterEntries, find_consIf, find, hk]
  | cons head rest ih =>
    obtain ⟨k₀, v⟩ := head
    obtain ⟨above, hrest⟩ := List.pairwise_cons.1 h
    rw [alterEntries]
    split
    · next hlt =>
      have hnone : find k ((k₀, v) :: rest) = none := by
        refine find_eq_none_of_lt fun e he => ?_
        rcases List.mem_cons.1 he with rfl | he
        · exact hlt
        · exact Std.TransCmp.lt_trans hlt (above e he)
      rw [find_consIf]
      by_cases hk : k' = k
      · subst hk; simp [hnone]
      · simp [hk]
    · next heq =>
      have heq' : k = k₀ := Std.LawfulEqOrd.eq_of_compare heq
      subst heq'
      have hnone : find k rest = none := find_eq_none_of_lt above
      rw [find_consIf]
      by_cases hk : k' = k
      · subst hk; simp [hnone, find]
      · simp [hk, find]
    · next hgt =>
      have hne : k ≠ k₀ := by
        intro heq
        rw [heq, Std.ReflOrd.compare_self] at hgt
        cases hgt
      rw [find, ih hrest]
      by_cases hk : k' = k
      · subst hk; simp [find, hne]
      · simp [hk, find]

theorem eq_of_find_eq [DecidableEq κ] [TransOrd κ] [LawfulEqOrd κ] {l m : List (κ × α)}
    (hl : l.Pairwise fun a b => compare a.1 b.1 = .lt)
    (hm : m.Pairwise fun a b => compare a.1 b.1 = .lt) (h : ∀ k, find k l = find k m) : l = m := by
  induction l generalizing m with
  | nil =>
    cases m with
    | nil => rfl
    | cons e rest => exact absurd (h e.1) (by simp [find])
  | cons e rest ih =>
    cases m with
    | nil => exact absurd (h e.1) (by simp [find])
    | cons e' rest' =>
      obtain ⟨above, hrest⟩ := List.pairwise_cons.1 hl
      obtain ⟨above', hrest'⟩ := List.pairwise_cons.1 hm
      have hkey : e.1 = e'.1 := by
        cases hc : compare e.1 e'.1 with
        | eq => exact Std.LawfulEqOrd.eq_of_compare hc
        | lt =>
          have hnone : find e.1 (e' :: rest') = none := find_eq_none_of_lt fun x hx => by
            rcases List.mem_cons.1 hx with rfl | hx
            · exact hc
            · exact Std.TransCmp.lt_trans hc (above' x hx)
          exact absurd ((h e.1).trans hnone) (by simp [find])
        | gt =>
          have hc' : compare e'.1 e.1 = .lt := Std.OrientedCmp.lt_of_gt hc
          have hnone : find e'.1 (e :: rest) = none := find_eq_none_of_lt fun x hx => by
            rcases List.mem_cons.1 hx with rfl | hx
            · exact hc'
            · exact Std.TransCmp.lt_trans hc' (above x hx)
          exact absurd ((h e'.1).symm.trans hnone) (by simp [find])
      have hval : e.2 = e'.2 := by
        have := h e.1
        rw [find, find, if_pos rfl, if_pos hkey] at this
        exact Option.some.inj this
      have htail : rest = rest' := by
        refine ih hrest hrest' fun k => ?_
        by_cases hk : k = e.1
        · rw [find_eq_none_of_lt (l := rest) fun x hx => hk ▸ above x hx,
            find_eq_none_of_lt (l := rest') fun x hx => (hk.trans hkey) ▸ above' x hx]
        · have := h k
          rwa [find, find, if_neg hk, if_neg (hkey ▸ hk)] at this
      rw [htail, show e = e' from Prod.ext hkey hval]

section Lookup

variable [DecidableEq κ] [TransOrd κ] [LawfulEqOrd κ]

omit [TransOrd κ] [LawfulEqOrd κ] in
@[simp] theorem get?_empty (k : κ) : (empty : Table κ α).get? k = none := rfl

/-- Tables that answer every look-up alike are equal. -/
theorem ext_get? {s t : Table κ α} (h : ∀ k, s.get? k = t.get? k) : s = t :=
  ext (eq_of_find_eq s.ascending t.ascending h)

/-- All there is to say about `alter`. -/
theorem get?_alter (t : Table κ α) (k k' : κ) (f : Option α → Option α) :
    (t.alter k f).get? k' = if k' = k then f (t.get? k) else t.get? k' :=
  find_alterEntries k k' f t.ascending

@[simp] theorem get?_insert (t : Table κ α) (k k' : κ) (v : α) :
    (t.insert k v).get? k' = if k' = k then some v else t.get? k' :=
  get?_alter t k k' _

@[simp] theorem get?_erase (t : Table κ α) (k k' : κ) :
    (t.erase k).get? k' = if k' = k then none else t.get? k' :=
  get?_alter t k k' _

@[simp] theorem get?_put (t : Table κ α) (k k' : κ) (v : Option α) :
    (t.put k v).get? k' = if k' = k then v else t.get? k' :=
  get?_alter t k k' _

end Lookup

end Table

/-- A finite set of keys: a table that keeps nothing under them. -/
abbrev KeySet (κ : Type) [Ord κ] := Table κ Unit

def KeySet.ofList {κ : Type} [Ord κ] [TransOrd κ] (l : List κ) : KeySet κ :=
  Table.ofList (l.map fun k => (k, ()))

end AuctionHooks
