import AuctionHooks.Proofs.Batches
import AuctionHooks.Proofs.ValidityLaw

/-!
# The validity of what is merged

The files of a directory are merged before anything is validated, so it is the merge that is accepted or
refused.  That comes to the same as validating the files one by one: what is merged is valid just if all
that went into it is.  A file can therefore not hide the fault of one before it, and files that are
valid can not be put together to a configuration that is not.

This is because validity asks something of every name and every group, and of nothing else, and merging
neither loses nor changes any of these.  The switch of a module may be overruled by a later file, yet
its name stays (`Table.contains_override`).  Endpoints and stages may be there in several files, and
then their groups stand in a row (`Plan.groupsFor_mergedWith`).  Only the place of a group in its stage
becomes another one, and validity does not depend on it.
-/

namespace AuctionHooks

open Std (TransOrd LawfulEqOrd)

namespace Table

variable {κ α : Type} [Ord κ] [DecidableEq κ] [TransOrd κ] [LawfulEqOrd κ]

/-- The keys of a merged table are those of both. -/
theorem contains_mergeWith (f : α → α → α) (t s : Table κ α) (k : κ) :
    (t.mergeWith f s).contains k = (t.contains k || s.contains k) := by
  simp only [contains, get?_mergeWith]
  cases t.get? k <;> cases s.get? k <;> rfl

theorem contains_override (t s : Table κ α) (k : κ) :
    (t.override s).contains k = (t.contains k || s.contains k) := by
  simp only [contains, get?_override]
  cases t.get? k <;> cases s.get? k <;> rfl

end Table

/-- What is asked of all keys that are in one set or another is asked of those of each. -/
theorem forall_contains_or_iff {κ : Type} {asked : κ → Prop} {inFirst inSecond : κ → Bool} :
    (∀ k, (inFirst k || inSecond k) = true → asked k) ↔
      (∀ k, inFirst k = true → asked k) ∧ ∀ k, inSecond k = true → asked k := by
  simp only [Bool.or_eq_true, or_imp, forall_and]

namespace Plan

/-- What is asked of all groups of a merged plan is asked of those of both. -/
theorem forall_groups_mergedWith_iff {asked : HookGroup → Prop} {a b : Plan} :
    (∀ endpoint stage, ∀ g ∈ (a.mergedWith b).groupsFor endpoint stage, asked g) ↔
      (∀ endpoint stage, ∀ g ∈ a.groupsFor endpoint stage, asked g) ∧
      ∀ endpoint stage, ∀ g ∈ b.groupsFor endpoint stage, asked g := by
  simp only [groupsFor_mergedWith, List.forall_mem_append, forall_and]

/-- **A merged plan is valid just if both plans are.** -/
theorem isValid_mergedWith_iff {a b : Plan} :
    (a.mergedWith b).IsValid ↔ a.IsValid ∧ b.IsValid := by
  have hkeys : ∀ endpoint, (a.mergedWith b).endpoints.contains endpoint =
      (a.endpoints.contains endpoint || b.endpoints.contains endpoint) :=
    Table.contains_mergeWith EndpointPlan.mergedWith a.endpoints b.endpoints
  constructor
  · rintro ⟨hnamed, hgroups⟩
    simp only [hkeys] at hnamed
    obtain ⟨hnamedA, hnamedB⟩ := forall_contains_or_iff.1 hnamed
    obtain ⟨hgroupsA, hgroupsB⟩ := forall_groups_mergedWith_iff.1 hgroups
    exact ⟨⟨hnamedA, hgroupsA⟩, ⟨hnamedB, hgroupsB⟩⟩
  · rintro ⟨ha, hb⟩
    refine ⟨?_, forall_groups_mergedWith_iff.2 ⟨ha.groups, hb.groups⟩⟩
    simp only [hkeys]
    exact forall_contains_or_iff.2 ⟨ha.named, hb.named⟩

end Plan

namespace EngineConfig

/-- **One configuration laid over another is valid just if both are.** -/
theorem isValid_overlay_iff {a b : EngineConfig} :
    (a.overlay b).IsValid ↔ a.IsValid ∧ b.IsValid := by
  have hkeys : ∀ code, (a.overlay b).hooks.modules.contains code =
      (a.hooks.modules.contains code || b.hooks.modules.contains code) :=
    Table.contains_override a.hooks.modules b.hooks.modules
  have hplan : (a.overlay b).hooks.hostPlan = a.hooks.hostPlan.mergedWith b.hooks.hostPlan := rfl
  constructor
  · rintro ⟨hnamed, hvalid, htimeouts⟩
    simp only [hkeys] at hnamed
    rw [hplan] at hvalid htimeouts
    obtain ⟨hnamedA, hnamedB⟩ := forall_contains_or_iff.1 hnamed
    obtain ⟨hvalidA, hvalidB⟩ := Plan.isValid_mergedWith_iff.1 hvalid
    obtain ⟨htimeoutsA, htimeoutsB⟩ := Plan.forall_groups_mergedWith_iff.1 htimeouts
    exact ⟨⟨hnamedA, hvalidA, htimeoutsA⟩, ⟨hnamedB, hvalidB, htimeoutsB⟩⟩
  · rintro ⟨ha, hb⟩
    refine ⟨?_, ?_, ?_⟩
    · simp only [hkeys]
      exact forall_contains_or_iff.2 ⟨ha.named, hb.named⟩
    · rw [hplan]
      exact Plan.isValid_mergedWith_iff.2 ⟨ha.plan, hb.plan⟩
    · rw [hplan]
      exact Plan.forall_groups_mergedWith_iff.2 ⟨ha.timeouts, hb.timeouts⟩

theorem isValid_empty : ({} : EngineConfig).IsValid :=
  validate_eq_ok_iff_isValid.1 rfl

/-- **A merge is valid just if everything is that was merged.** -/
theorem isValid_merge_iff {configs : List EngineConfig} :
    (merge configs).IsValid ↔ ∀ c ∈ configs, c.IsValid := by
  induction configs with
  | nil =>
    have hempty : (merge []).IsValid := isValid_empty
    simp [hempty]
  | cons c configs ih => rw [merge_eq_overlay, isValid_overlay_iff, ih, List.forall_mem_cons]

/-- **Merging hides no fault and makes none.**  A merge of configurations is accepted just if each of
them is, and a merge of two plans just if both are. -/
theorem validate_merge :
    (∀ configs : List EngineConfig,
      (merge configs).validate = .ok () ↔ ∀ c ∈ configs, c.validate = .ok ()) ∧
    ∀ a b : Plan, (a.mergedWith b).validate = .ok () ↔ a.validate = .ok () ∧ b.validate = .ok () := by
  constructor
  · intro configs
    simp only [validate_eq_ok_iff_isValid]
    exact isValid_merge_iff
  · intro a b
    simp only [Plan.validate_eq_ok_iff_isValid]
    exact Plan.isValid_mergedWith_iff

end EngineConfig

end AuctionHooks
