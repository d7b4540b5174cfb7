import AuctionHooks.Table
import Mathlib.Data.List.Perm.Lattice

/-!
# Tables and the lists that they are made of

A table keeps its entries in order, and what is put into it comes in any order whatever.  As long as no
key stands twice, the order does not matter: what a list of entries leaves under a key is the entry that
it has for it.  So a table is what becomes of its entries in any order (`Table.ofList_eq_of_perm`), and
what is put into a table is what it then holds (`Table.toList_ofList_perm`).

Whatever else a table tells of its entries can therefore be said by looking them up: its values
(`Table.mem_values_iff`), whether there are any (`Table.isEmpty_iff`), and, for a table that is a set,
its members (`KeySet.contains_ofList`).

Where entries are visited one after the other and the result may depend on the order, the order is a list
of its own.  What is said of all lists that cover the table (`Table.Covers`) is said of all orders.
-/

namespace AuctionHooks

open Std (TransOrd LawfulEqOrd)

namespace Table

variable {κ α : Type}

section Find

variable [DecidableEq κ]

theorem find_eq_none_of_notMem {k : κ} {l : List (κ × α)} (h : k ∉ l.map Prod.fst) :
    find k l = none := by
  induction l with
  | nil => rfl
  | cons e rest ih =>
    obtain ⟨hne, hrest⟩ := not_or.1 (mt List.mem_cons.2 h)
    rw [find, if_neg hne]
    exact ih hrest

/-- In a list in which no key stands twice, what is found is what is there. -/
theorem find_eq_some_iff {l : List (κ × α)} (h : (l.map Prod.fst).Nodup) {k : κ} {v : α} :
    find k l = some v ↔ (k, v) ∈ l := by
  induction l with
  | nil => exact ⟨nofun, nofun⟩
  | cons e rest ih =>
    obtain ⟨hnew, hrest⟩ := List.nodup_cons.1 h
    rw [find, List.mem_cons]
    by_cases hk : k = e.1
    · rw [if_pos hk]
      constructor
      · intro he
        exact .inl (Prod.ext hk (Option.some.inj he).symm)
      · rintro (rfl | hmem)
        · rfl
        · exact absurd (hk ▸ List.mem_map_of_mem hmem) hnew
    · rw [if_neg hk, ih hrest]
      constructor
      · exact .inr
      · rintro (rfl | hmem)
        · exact absurd rfl hk
        · exact hmem

end Find

variable [Ord κ] [DecidableEq κ] [TransOrd κ] [LawfulEqOrd κ]

omit [DecidableEq κ] [TransOrd κ] in
theorem nodup_keys (t : Table κ α) : (t.toList.map Prod.fst).Nodup := by
  refine List.pairwise_map.2 (t.ascending.imp fun {a b} hlt heq => ?_)
  rw [heq, Std.ReflOrd.compare_self] at hlt
  cases hlt

/-- **Folding the entries of a list into a table** in which no key stands twice alters each key once,
by its own entry. -/
theorem get?_foldl_alter (f : α → Option α → Option α) {l : List (κ × α)}
    (h : (l.map Prod.fst).Nodup) (t : Table κ α) (k : κ) :
    (l.foldl (fun t e => t.alter e.1 (f e.2)) t).get? k =
      (find k l).elim (t.get? k) (f · (t.get? k)) := by
  induction l generalizing t with
  | nil => rfl
  | cons e rest ih =>
    obtain ⟨hnew, hrest⟩ := List.nodup_cons.1 h
    rw [List.foldl_cons, ih hrest, get?_alter, find]
    by_cases hk : k = e.1
    · -- The key of the first entry does not come again.
      rw [if_pos hk, if_pos hk, find_eq_none_of_notMem (hk ▸ hnew), hk]
      rfl
    · rw [if_neg hk, if_neg hk]

/-- What a table holds that was made of a list. -/
theorem get?_ofList {l : List (κ × α)} (h : (l.map Prod.fst).Nodup) (k : κ) :
    (ofList l).get? k = find k l := by
  refine (get?_foldl_alter (fun v _ => some v) h empty k).trans ?_
  cases find k l <;> rfl

/-- **What is put into a table is what it holds**, if no key stands twice. -/
theorem toList_ofList_perm {l : List (κ × α)} (h : (l.map Prod.fst).Nodup) :
    (ofList l).toList.Perm l := by
  refine (List.perm_ext_iff_of_nodup (nodup_keys _).of_map h.of_map).2 fun ⟨k, v⟩ => ?_
  rw [← find_eq_some_iff (nodup_keys _), ← find_eq_some_iff h, ← get?_ofList h k]
  rfl

/-- **A table is what becomes of its entries**, in whatever order they are put together. -/
theorem ofList_eq_of_perm {l : List (κ × α)} {t : Table κ α} (h : t.toList.Perm l) : ofList l = t := by
  have hnodup : (l.map Prod.fst).Nodup := (h.map Prod.fst).nodup_iff.1 t.nodup_keys
  refine ext_get? fun k => Option.ext fun v => ?_
  rw [get?_ofList hnodup, find_eq_some_iff hnodup, ← h.mem_iff, ← find_eq_some_iff t.nodup_keys]
  rfl

omit [TransOrd κ] in
/-- The entries of a table are what is looked up in it. -/
theorem mem_toList_iff {t : Table κ α} {k : κ} {v : α} : (k, v) ∈ t.toList ↔ t.get? k = some v :=
  (find_eq_some_iff t.nodup_keys).symm

omit [TransOrd κ] in
/-- So are its values. -/
theorem mem_values_iff {t : Table κ α} {v : α} : v ∈ t.values ↔ ∃ k, t.get? k = some v := by
  constructor
  · intro h
    obtain ⟨⟨k, v'⟩, hmem, rfl⟩ := List.mem_map.1 h
    exact ⟨k, mem_toList_iff.1 hmem⟩
  · rintro ⟨k, hk⟩
    exact List.mem_map.2 ⟨(k, v), mem_toList_iff.2 hk, rfl⟩

omit [TransOrd κ] in
/-- And its keys. -/
theorem mem_keys_iff {t : Table κ α} {k : κ} : k ∈ t.keys ↔ t.contains k = true := by
  rw [contains, Option.isSome_iff_exists]
  constructor
  · intro h
    obtain ⟨⟨k, v⟩, hmem, rfl⟩ := List.mem_map.1 h
    exact ⟨v, mem_toList_iff.1 hmem⟩
  · rintro ⟨v, hv⟩
    exact List.mem_map.2 ⟨(k, v), mem_toList_iff.2 hv, rfl⟩

/-- That a list comes upon every entry of a table, and upon each key once. -/
structure Covers (t : Table κ α) (way : List (κ × α)) : Prop where
  nodup : (way.map Prod.fst).Nodup
  mem_iff : ∀ k v, (k, v) ∈ way ↔ t.get? k = some v

omit [TransOrd κ] in
/-- What covers a table differs from its own order in the order and in nothing else. -/
theorem covers_iff_perm {t : Table κ α} {way : List (κ × α)} : t.Covers way ↔ way.Perm t.toList := by
  constructor
  · intro h
    refine (List.perm_ext_iff_of_nodup h.nodup.of_map t.nodup_keys.of_map).2 fun e => ?_
    exact (h.mem_iff e.1 e.2).trans mem_toList_iff.symm
  · intro h
    refine ⟨(h.map Prod.fst).nodup_iff.2 t.nodup_keys, fun k v => ?_⟩
    exact h.mem_iff.trans mem_toList_iff

omit [TransOrd κ] in
theorem covers_toList (t : Table κ α) : t.Covers t.toList := covers_iff_perm.2 (List.Perm.refl _)

omit [TransOrd κ] in
/-- The keys that are come upon are those of the table. -/
theorem Covers.mem_keys_iff {t : Table κ α} {way : List (κ × α)} (h : t.Covers way) {k : κ} :
    k ∈ way.map Prod.fst ↔ k ∈ t.keys :=
  ((covers_iff_perm.1 h).map Prod.fst).mem_iff

theorem isEmpty_iff {t : Table κ α} : t.isEmpty = true ↔ ∀ k, t.get? k = none := by
  constructor
  · intro h k
    rw [get?, List.isEmpty_iff.1 h]
    rfl
  · intro h
    have hempty : t = empty := ext_get? fun k => (h k).trans (get?_empty k).symm
    rw [hempty]
    rfl

/-- The keys of what is put into a table come to those that it has. -/
theorem contains_insertAll {t : Table κ α} {l : List (κ × α)} {k : κ} :
    (t.insertAll l).contains k = true ↔ t.contains k = true ∨ k ∈ l.map Prod.fst := by
  induction l generalizing t with
  | nil => simp [insertAll]
  | cons e rest ih =>
    have hfirst : (t.insert e.1 e.2).contains k = true ↔ k = e.1 ∨ t.contains k = true := by
      rw [contains, get?_insert]
      by_cases hk : k = e.1
      · simp [hk]
      · simp [hk, contains]
    have hstep : t.insertAll (e :: rest) = (t.insert e.1 e.2).insertAll rest := rfl
    rw [hstep, ih, hfirst, List.map_cons, List.mem_cons]
    tauto

/-- The keys of a list are those of the table that is made of it. -/
theorem mem_keys_ofList_iff {l : List (κ × α)} {k : κ} : k ∈ (ofList l).keys ↔ k ∈ l.map Prod.fst := by
  rw [mem_keys_iff, ofList, contains_insertAll]
  simp [contains]

/-- **Of several entries with one key the last counts.** -/
theorem get?_insertAll (t : Table κ α) (l : List (κ × α)) (k : κ) :
    (t.insertAll l).get? k =
      ((l.filter fun e => e.1 = k).getLast?.map Prod.snd).or (t.get? k) := by
  induction l generalizing t with
  | nil => rfl
  | cons e rest ih =>
    have hstep : t.insertAll (e :: rest) = (t.insert e.1 e.2).insertAll rest := rfl
    rw [hstep, ih, get?_insert]
    by_cases hk : e.1 = k
    · have hfirst : ((e :: rest).filter fun e => e.1 = k) = e :: rest.filter fun e => e.1 = k := by
        simp [hk]
      rw [if_pos hk.symm, hfirst, List.getLast?_cons]
      cases (rest.filter fun e => e.1 = k).getLast? <;> simp
    · have hfirst : ((e :: rest).filter fun e => e.1 = k) = rest.filter fun e => e.1 = k := by
        simp [hk]
      rw [if_neg (Ne.symm hk), hfirst]

/-- What a table holds that was made of a list with keys that come again. -/
theorem get?_ofList_eq_some_iff {l : List (κ × α)} {k : κ} {v : α} :
    (ofList l).get? k = some v ↔ (l.filter fun e => e.1 = k).getLast? = some (k, v) := by
  rw [ofList, get?_insertAll, get?_empty, Option.or_none, Option.map_eq_some_iff]
  constructor
  · rintro ⟨e, he, rfl⟩
    have hmem := List.mem_filter.1 (List.mem_of_getLast? he)
    have hk : e.1 = k := of_decide_eq_true hmem.2
    rw [he, ← hk]
  · intro h
    exact ⟨(k, v), h, rfl⟩

end Table

/-- The set of the members of a list has just these members, however often each stands there. -/
theorem KeySet.contains_ofList {κ : Type} [Ord κ] [DecidableEq κ] [TransOrd κ] [LawfulEqOrd κ]
    {l : List κ} {k : κ} :
    (KeySet.ofList l).contains k = true ↔ k ∈ l := by
  rw [KeySet.ofList, Table.ofList, Table.contains_insertAll, List.map_map]
  simp [Table.contains, Function.comp_def]

end AuctionHooks
