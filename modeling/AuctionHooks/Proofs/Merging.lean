import AuctionHooks.Config.Basic
import AuctionHooks.Proofs.TableLaw

/-!
# Looking up in what was merged

Plans and module switches are merged entry by entry, and each merge is one fold over the entries of
the second table.  What such a fold leaves under a key depends on the key alone, since no key stands
twice (`Table.get?_foldl_alter`).  Hence each way of merging has one equation for its look-ups, and
groups are looked up in a merged plan by appending.

Since tables are equal as soon as all look-ups are, the same equations make a monoid of either way of
merging.  Nothing is gained or lost by merging with what is empty, so the merge of a list of
configurations, which begins with the empty one, begins with the first of them
(`EngineConfig.merge_cons`).  And of three tables it does not matter which two are merged first, provided
that this is so for what they hold (`Table.mergeWith_assoc`, `Table.override_assoc`).
-/

namespace AuctionHooks

open Std (TransOrd LawfulEqOrd)

namespace Table

variable {κ α : Type} [Ord κ] [DecidableEq κ] [TransOrd κ] [LawfulEqOrd κ]

/-- Where two tables both have an entry, the merged one has both joined; else it has the one that
there is. -/
theorem get?_mergeWith (f : α → α → α) (t s : Table κ α) (k : κ) :
    (t.mergeWith f s).get? k = (t.get? k).merge f (s.get? k) := by
  rw [mergeWith]
  refine (get?_foldl_alter (fun v o => some (o.elim v (f · v))) s.nodup_keys t k).trans ?_
  show (s.get? k).elim _ _ = _
  cases s.get? k with
  | none => cases t.get? k <;> rfl
  | some v => cases t.get? k <;> rfl

/-- Of two tables laid one over the other, the upper one is looked up first. -/
theorem get?_override (t s : Table κ α) (k : κ) :
    (t.override s).get? k = (s.get? k).or (t.get? k) := by
  rw [override, insertAll]
  refine (get?_foldl_alter (fun v _ => some v) s.nodup_keys t k).trans ?_
  show (s.get? k).elim _ _ = _
  cases s.get? k <;> rfl

theorem empty_mergeWith (f : α → α → α) (t : Table κ α) : (empty : Table κ α).mergeWith f t = t := by
  refine ext_get? fun k => ?_
  rw [get?_mergeWith, get?_empty]
  cases t.get? k <;> rfl

omit [DecidableEq κ] [LawfulEqOrd κ] in
theorem mergeWith_empty (f : α → α → α) (t : Table κ α) : t.mergeWith f empty = t := rfl

/-- Of three tables it does not matter which two are merged first, if it does not matter for what they
hold. -/
theorem mergeWith_assoc (f : α → α → α) [Std.Associative f] (t s u : Table κ α) :
    (t.mergeWith f s).mergeWith f u = t.mergeWith f (s.mergeWith f u) := by
  refine ext_get? fun k => ?_
  rw [get?_mergeWith, get?_mergeWith, get?_mergeWith, get?_mergeWith]
  exact Std.Associative.assoc (t.get? k) (s.get? k) (u.get? k)

/-- Nothing is lost by merging, so what is merged is empty just if both are. -/
theorem isEmpty_mergeWith (f : α → α → α) (t s : Table κ α) :
    (t.mergeWith f s).isEmpty = (t.isEmpty && s.isEmpty) := by
  rw [Bool.eq_iff_iff, Bool.and_eq_true, isEmpty_iff, isEmpty_iff, isEmpty_iff, ← forall_and]
  refine forall_congr' fun k => ?_
  rw [get?_mergeWith]
  cases t.get? k <;> cases s.get? k <;> simp

theorem empty_override (t : Table κ α) : (empty : Table κ α).override t = t := by
  refine ext_get? fun k => ?_
  rw [get?_override, get?_empty, Option.or_none]

omit [DecidableEq κ] [LawfulEqOrd κ] in
theorem override_empty (t : Table κ α) : t.override empty = t := rfl

/-- Of three tables laid one over the other it does not matter which two are laid first. -/
theorem override_assoc (t s u : Table κ α) :
    (t.override s).override u = t.override (s.override u) := by
  refine ext_get? fun k => ?_
  rw [get?_override, get?_override, get?_override, get?_override, Option.or_assoc]

end Table

/-- Lists that are read off joined values one after the other may be read off the values. -/
theorem getD_map_merge {α β : Type} {f : α → α → α} {g : α → List β}
    (h : ∀ a b, g (f a b) = g a ++ g b) (o o' : Option α) :
    ((o.merge f o').map g).getD [] = (o.map g).getD [] ++ (o'.map g).getD [] := by
  cases o with
  | none => cases o' <;> rfl
  | some a =>
    cases o' with
    | none => exact (List.append_nil _).symm
    | some b => exact h a b

/-- The groups of a merged endpoint plan are those of both plans. -/
theorem EndpointPlan.groupsFor_mergedWith (a b : EndpointPlan) (stage : Stage) :
    (a.mergedWith b).groupsFor stage = a.groupsFor stage ++ b.groupsFor stage := by
  rw [mergedWith, groupsFor, Table.get?_mergeWith]
  exact getD_map_merge (fun _ _ => rfl) _ _

/-- **The groups of a merged plan are those of both plans**, those of the first in front. -/
theorem Plan.groupsFor_mergedWith (a b : Plan) (endpoint : String) (stage : Stage) :
    (a.mergedWith b).groupsFor endpoint stage =
      a.groupsFor endpoint stage ++ b.groupsFor endpoint stage := by
  rw [mergedWith, groupsFor, Table.get?_mergeWith]
  exact getD_map_merge (fun p q => p.groupsFor_mergedWith q stage) _ _

theorem Plan.empty_mergedWith (p : Plan) : Plan.empty.mergedWith p = p :=
  congrArg Plan.mk (Table.empty_mergeWith _ p.endpoints)

namespace EngineConfig

theorem empty_overlay (c : EngineConfig) : ({} : EngineConfig).overlay c = c := by
  have hplan : ({} : Plan).mergedWith c.hooks.hostPlan = c.hooks.hostPlan := Plan.empty_mergedWith _
  have hmodules : (∅ : ModuleSwitches).override c.hooks.modules = c.hooks.modules :=
    Table.empty_override _
  rw [overlay, Option.or_none, hplan, hmodules]

/-- **A merge begins with the first configuration**, over which the others are laid. -/
theorem merge_cons (c : EngineConfig) (configs : List EngineConfig) :
    merge (c :: configs) = configs.foldl overlay c := by
  rw [merge, List.foldl_cons, empty_overlay]

/-- A single configuration is its own merge. -/
theorem merge_singleton (c : EngineConfig) : merge [c] = c := merge_cons c []

/-- Two configurations are merged by laying the second over the first. -/
theorem merge_pair (a b : EngineConfig) : merge [a, b] = a.overlay b := merge_cons a [b]

end EngineConfig

end AuctionHooks
