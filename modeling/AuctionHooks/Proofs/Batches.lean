import AuctionHooks.Proofs.PlanLaw

/-!
# Merging in batches

A host may keep its configuration in one file or in many, and may merge the files of a directory first
and lay the result over what it has.  None of this shows in what comes out: configurations with
`EngineConfig.overlay` and the empty one are a monoid, and `EngineConfig.merge` is its product.

## Three rules, one law

The parts of a configuration are merged each by its own rule (see `EngineConfig.merge`).  All three
rules are associative and have the empty configuration as neutral element: of the log settings and of
the switches of a module the later count, which is `Option.or`, and plans are merged
(`Plan.mergedWith`).

A fold of an associative operation may be begun anywhere, so a merge is its first configuration with the
merge of the others laid over it (`merge_eq_overlay`).  This is the recursion by which everything else
is proved here.  It differs from `merge_cons`, where the fold still runs on from the first one.

## What a merge holds

Whatever can be read off an overlay from what is read off the two is read off a merge from what is read
off the list: what the later one decides is decided by the last that says anything
(`merge_decided_by_last`), and what is put in a row stands in the order of the list (`merge_in_order`).
-/

namespace AuctionHooks

/-- The last in a list to say something is the last behind its head that does, or else the head. -/
theorem getLast?_filterMap_cons {α β : Type} (said : α → Option β) (a : α) (l : List α) :
    ((a :: l).filterMap said).getLast? = (l.filterMap said).getLast?.or (said a) := by
  rw [List.filterMap_cons]
  cases said a with
  | none => exact Option.or_none.symm
  | some b =>
    show (b :: l.filterMap said).getLast? = (l.filterMap said).getLast?.or (some b)
    rw [List.getLast?_cons]
    cases (l.filterMap said).getLast? <;> rfl

namespace EngineConfig

/-! ## The monoid of configurations -/

theorem overlay_empty (c : EngineConfig) : c.overlay {} = c := by
  have hplan : c.hooks.hostPlan.mergedWith ({} : Plan) = c.hooks.hostPlan := Plan.mergedWith_empty _
  have hmodules : c.hooks.modules.override (∅ : ModuleSwitches) = c.hooks.modules :=
    Table.override_empty _
  rw [overlay, Option.none_or, hplan, hmodules]

/-- Of three configurations it does not matter which two are laid one over the other first. -/
theorem overlay_assoc (a b c : EngineConfig) :
    (a.overlay b).overlay c = a.overlay (b.overlay c) := by
  have hlogging : c.logging.or (b.logging.or a.logging) = (c.logging.or b.logging).or a.logging :=
    Option.or_assoc.symm
  have hmodules := Table.override_assoc a.hooks.modules b.hooks.modules c.hooks.modules
  have hplan : (a.hooks.hostPlan.mergedWith b.hooks.hostPlan).mergedWith c.hooks.hostPlan =
      a.hooks.hostPlan.mergedWith (b.hooks.hostPlan.mergedWith c.hooks.hostPlan) :=
    Std.Associative.assoc _ _ _
  simp only [overlay, hlogging, hmodules, hplan]

instance : Std.Associative overlay := ⟨overlay_assoc⟩

/-- **The merge of the others can be laid over the first.** -/
theorem merge_eq_overlay (c : EngineConfig) (configs : List EngineConfig) :
    merge (c :: configs) = c.overlay (merge configs) := by
  have hfold : configs.foldl overlay (c.overlay {}) = c.overlay (configs.foldl overlay {}) :=
    List.foldl_assoc
  rw [overlay_empty] at hfold
  rw [merge_cons, hfold, merge]

theorem merge_append (xs ys : List EngineConfig) :
    merge (xs ++ ys) = (merge xs).overlay (merge ys) := by
  induction xs with
  | nil => exact (empty_overlay (merge ys)).symm
  | cons c xs ih => rw [List.cons_append, merge_eq_overlay, merge_eq_overlay, ih, overlay_assoc]

/-- **Batches do not show.**  However a list of configurations is cut into batches, merging the merges
of the batches comes to the same as merging them all. -/
theorem merge_flatten (batches : List (List EngineConfig)) :
    merge batches.flatten = merge (batches.map merge) := by
  induction batches with
  | nil => rfl
  | cons batch rest ih => rw [List.flatten_cons, merge_append, ih, List.map_cons, merge_eq_overlay]

/-! ## What a merge holds -/

/-- What the later of two configurations decides, if it says anything about it, is decided in a list of
them by the last that says anything about it. -/
theorem merge_decided_by_last {α : Type} (said : EngineConfig → Option α) (hempty : said {} = none)
    (hlater : ∀ a b : EngineConfig, said (a.overlay b) = (said b).or (said a))
    (configs : List EngineConfig) : said (merge configs) = (configs.filterMap said).getLast? := by
  induction configs with
  | nil => exact hempty
  | cons c configs ih => rw [merge_eq_overlay, hlater, ih, getLast?_filterMap_cons]

/-- What two configurations have in a row, a list of them has in the order of the list. -/
theorem merge_in_order {α : Type} (listed : EngineConfig → List α) (hempty : listed {} = [])
    (hrow : ∀ a b : EngineConfig, listed (a.overlay b) = listed a ++ listed b)
    (configs : List EngineConfig) : listed (merge configs) = configs.flatMap listed := by
  induction configs with
  | nil => exact hempty
  | cons c configs ih => rw [merge_eq_overlay, hrow, ih, List.flatMap_cons]

/-- The switch of a module in an overlay is that of the later configuration, if that mentions it. -/
theorem switch_overlay (code : String) (a b : EngineConfig) :
    (a.overlay b).hooks.modules.get? code =
      (b.hooks.modules.get? code).or (a.hooks.modules.get? code) :=
  Table.get?_override a.hooks.modules b.hooks.modules code

/-- The groups in an overlay are those of both configurations. -/
theorem groupsFor_overlay (endpoint : String) (stage : Stage) (a b : EngineConfig) :
    (a.overlay b).hooks.hostPlan.groupsFor endpoint stage =
      a.hooks.hostPlan.groupsFor endpoint stage ++ b.hooks.hostPlan.groupsFor endpoint stage :=
  Plan.groupsFor_mergedWith a.hooks.hostPlan b.hooks.hostPlan endpoint stage

/-- **Merging does not depend on batches, and this is what it comes to.**  Two lists of configurations
may be merged each by itself and the results merged, and one configuration is its own merge, as whole
values.  The log settings of a merge are those of the last configuration that has any, the switch of a
module is that of the last configuration that mentions the module, and the groups for an endpoint and a
stage are those of all configurations, in their order. -/
theorem merge_batches (xs ys : List EngineConfig) (c : EngineConfig) :
    merge (xs ++ ys) = merge [merge xs, merge ys] ∧ merge [c] = c ∧
    (merge xs).logging = (xs.filterMap logging).getLast? ∧
    (∀ code, (merge xs).hooks.modules.get? code =
      (xs.filterMap fun config => config.hooks.modules.get? code).getLast?) ∧
    ∀ endpoint stage, (merge xs).hooks.hostPlan.groupsFor endpoint stage =
      xs.flatMap fun config => config.hooks.hostPlan.groupsFor endpoint stage := by
  refine ⟨?_, merge_singleton c, ?_, ?_, ?_⟩
  · simpa using merge_flatten [xs, ys]
  · exact merge_decided_by_last logging rfl (fun _ _ => rfl) xs
  · intro code
    exact merge_decided_by_last (fun config => config.hooks.modules.get? code) rfl
      (switch_overlay code) xs
  · intro endpoint stage
    exact merge_in_order (fun config => config.hooks.hostPlan.groupsFor endpoint stage) rfl
      (groupsFor_overlay endpoint stage) xs

end EngineConfig

end AuctionHooks
