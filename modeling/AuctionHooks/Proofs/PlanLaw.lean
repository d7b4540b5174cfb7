import AuctionHooks.Proofs.Merging

/-!
# The monoid of plans

Plans are merged wherever several parties have a say in what runs: the files of a directory, the host
and the account.  Who merges does not have to care in which steps it is done, nor whether one of the
parties has nothing to say, because plans with `Plan.mergedWith` and the empty plan are a monoid.

## Equal as plans

This is meant literally, as an equation between plans and not only between what runs.  A plan may
mention an endpoint for which it plans no stage, or a stage for which it plans no group; nothing runs
there, yet such a plan is not the empty one, and it is written to files and read back as it is.  So the
merge must neither drop such keys nor make them.  Since tables are equal as soon as all look-ups are
(`Table.ext_get?`), the laws are those of `Option.merge`, once for the endpoints and once for the stages
of an endpoint, and below these those of lists.

## What is read off a plan

The groups for an endpoint and a stage, the modules that a plan refers to, and whether it is empty, are
each read off a merged plan by putting together what is read off the two plans.  For the modules this
goes through the groups: a plan refers to a module just if one of the groups that can be looked up in it
has a hook of that module (`Plan.contains_moduleCodes_iff`).
-/

namespace AuctionHooks

/-! ## Merging is associative -/

instance : Std.Associative StagePlan.append :=
  ⟨fun a b c => congrArg StagePlan.mk (List.append_assoc a.groups b.groups c.groups)⟩

instance : Std.Associative EndpointPlan.mergedWith :=
  ⟨fun a b c => congrArg EndpointPlan.mk
    (Table.mergeWith_assoc StagePlan.append a.stages b.stages c.stages)⟩

instance : Std.Associative Plan.mergedWith :=
  ⟨fun a b c => congrArg Plan.mk
    (Table.mergeWith_assoc EndpointPlan.mergedWith a.endpoints b.endpoints c.endpoints)⟩

theorem Plan.mergedWith_empty (p : Plan) : p.mergedWith Plan.empty = p :=
  congrArg Plan.mk (Table.mergeWith_empty _ p.endpoints)

/-! ## The modules of a plan -/

/-- What stands in a list that is looked up stands in the list of a value that is found. -/
theorem mem_getD_map_iff {α β : Type} {f : α → List β} {o : Option α} {b : β} :
    b ∈ (o.map f).getD [] ↔ ∃ a, o = some a ∧ b ∈ f a := by
  cases o with
  | none => simp
  | some a => simp

/-- The groups of an endpoint plan are those that it has for some stage. -/
theorem EndpointPlan.mem_groupsFor_iff {p : EndpointPlan} {group : HookGroup} :
    group ∈ p.stages.values.flatMap StagePlan.groups ↔ ∃ stage, group ∈ p.groupsFor stage := by
  rw [List.mem_flatMap]
  constructor
  · rintro ⟨plan, hplan, hgroup⟩
    obtain ⟨stage, hstage⟩ := Table.mem_values_iff.1 hplan
    exact ⟨stage, mem_getD_map_iff.2 ⟨plan, hstage, hgroup⟩⟩
  · rintro ⟨stage, hgroup⟩
    obtain ⟨plan, hstage, hgroup⟩ := mem_getD_map_iff.1 hgroup
    exact ⟨plan, Table.mem_values_iff.2 ⟨stage, hstage⟩, hgroup⟩

namespace Plan

/-- The groups of a plan are those that it has for some endpoint and stage. -/
theorem mem_groups_iff {p : Plan} {group : HookGroup} :
    group ∈ p.groups ↔ ∃ endpoint stage, group ∈ p.groupsFor endpoint stage := by
  rw [groups, List.mem_flatMap]
  constructor
  · rintro ⟨plan, hplan, hgroup⟩
    obtain ⟨endpoint, hendpoint⟩ := Table.mem_values_iff.1 hplan
    obtain ⟨stage, hgroup⟩ := EndpointPlan.mem_groupsFor_iff.1 hgroup
    exact ⟨endpoint, stage, mem_getD_map_iff.2 ⟨plan, hendpoint, hgroup⟩⟩
  · rintro ⟨endpoint, stage, hgroup⟩
    obtain ⟨plan, hendpoint, hgroup⟩ := mem_getD_map_iff.1 hgroup
    exact ⟨plan, Table.mem_values_iff.2 ⟨endpoint, hendpoint⟩,
      EndpointPlan.mem_groupsFor_iff.2 ⟨stage, hgroup⟩⟩

/-- **A plan refers to the modules of the hooks that it has anywhere.** -/
theorem contains_moduleCodes_iff {p : Plan} {code : String} :
    p.moduleCodes.contains code = true ↔
      ∃ endpoint stage, ∃ group ∈ p.groupsFor endpoint stage, ∃ hook ∈ group.hooks,
        hook.moduleCode = code := by
  rw [moduleCodes, KeySet.contains_ofList, List.mem_flatMap]
  constructor
  · rintro ⟨group, hgroup, hcode⟩
    obtain ⟨endpoint, stage, hmem⟩ := mem_groups_iff.1 hgroup
    exact ⟨endpoint, stage, group, hmem, List.mem_map.1 hcode⟩
  · rintro ⟨endpoint, stage, group, hmem, hhook⟩
    exact ⟨group, mem_groups_iff.2 ⟨endpoint, stage, hmem⟩, List.mem_map.2 hhook⟩

/-- A merged plan refers to the modules of both plans. -/
theorem contains_moduleCodes_mergedWith (a b : Plan) (code : String) :
    (a.mergedWith b).moduleCodes.contains code =
      (a.moduleCodes.contains code || b.moduleCodes.contains code) := by
  rw [Bool.eq_iff_iff, Bool.or_eq_true, contains_moduleCodes_iff, contains_moduleCodes_iff,
    contains_moduleCodes_iff]
  constructor
  · rintro ⟨endpoint, stage, group, hgroup, hhook⟩
    rw [groupsFor_mergedWith, List.mem_append] at hgroup
    rcases hgroup with hgroup | hgroup
    · exact .inl ⟨endpoint, stage, group, hgroup, hhook⟩
    · exact .inr ⟨endpoint, stage, group, hgroup, hhook⟩
  · rintro (⟨endpoint, stage, group, hgroup, hhook⟩ | ⟨endpoint, stage, group, hgroup, hhook⟩)
    · refine ⟨endpoint, stage, group, ?_, hhook⟩
      rw [groupsFor_mergedWith]
      exact List.mem_append_left _ hgroup
    · refine ⟨endpoint, stage, group, ?_, hhook⟩
      rw [groupsFor_mergedWith]
      exact List.mem_append_right _ hgroup

/-! ## The laws -/

/-- **Plans are a monoid, and what is read off them respects it.**  The empty plan is neutral on both
sides, and of three plans it does not matter which two are merged first, as whole plans.  The groups for
an endpoint and a stage are those of the first plan followed by those of the second, the modules are
those of either, and the merged plan is empty just if both are; and the empty plan has no groups, refers
to no module and is empty. -/
theorem mergedWith_monoid (a b c : Plan) :
    Plan.empty.mergedWith a = a ∧ a.mergedWith Plan.empty = a ∧
    (a.mergedWith b).mergedWith c = a.mergedWith (b.mergedWith c) ∧
    (∀ endpoint stage, (a.mergedWith b).groupsFor endpoint stage =
      a.groupsFor endpoint stage ++ b.groupsFor endpoint stage) ∧
    (∀ code, (a.mergedWith b).moduleCodes.contains code =
      (a.moduleCodes.contains code || b.moduleCodes.contains code)) ∧
    (a.mergedWith b).isEmpty = (a.isEmpty && b.isEmpty) ∧
    (∀ endpoint stage, Plan.empty.groupsFor endpoint stage = []) ∧
    (∀ code, Plan.empty.moduleCodes.contains code = false) ∧ Plan.empty.isEmpty = true := by
  refine ⟨empty_mergedWith a, mergedWith_empty a, ?_, groupsFor_mergedWith a b,
    contains_moduleCodes_mergedWith a b, ?_, fun _ _ => rfl, fun _ => rfl, rfl⟩
  · exact Std.Associative.assoc a b c
  · exact Table.isEmpty_mergeWith EndpointPlan.mergedWith a.endpoints b.endpoints

end Plan

end AuctionHooks
