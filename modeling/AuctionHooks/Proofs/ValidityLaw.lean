import AuctionHooks.Config.Validity
import AuctionHooks.Proofs.PlanLaw
import Mathlib.Data.List.TakeWhile

/-!
# What validation says

Validation answers two questions.  Whether a configuration is valid is the first, and it is a question
about the configuration alone: every name is there, every group has some time and not too much of it,
and every hook id is complete (`EngineConfig.IsValid`).  The second is what is wrong if it is not.  Here
there may be several answers, of which one is given, and which one depends on the order in which the
tables are gone through.

## Ways through a plan

No order is promised.  So what is said here is said of all ways through a plan (`Plan.Covers`): its
endpoints in some order, and the stages of each in some order.  Whatever the way, a fault is come upon
just if there is one, and the fault that is reported is blamed on something that is really wrong.

`EngineConfig.Blames` says what may be reported, and it says no more than that: for each fault that it
admits there is a way on which that fault is come upon first (`exists_covers_of_blames`).  Some things
are promised on every way.  Within a stage the first faulty group is the one to be blamed, within a group
the missing time comes before the ids, and of these the first that is incomplete is named.  A switch
without a name comes before any fault of the plan, and an excessive time limit comes last.

## Main statement

`EngineConfig.validate_exact`: what is accepted, what is blamed, and that the way has no part in it.
-/

namespace AuctionHooks

/-! ## What is asked of a configuration -/

/-- That a text can be a name: something is left of it without the white space around it. -/
def Text.IsName (s : String) : Prop := trimChars s.toList ≠ []

/-- That a hook id has both of its codes. -/
def HookId.IsComplete (h : HookId) : Prop := Text.IsName h.moduleCode ∧ Text.IsName h.hookCode

/-- What is asked of a group in a plan. -/
structure HookGroup.IsValid (g : HookGroup) : Prop where
  timeout : 1 ≤ g.timeout
  complete : ∀ hook ∈ g.hooks, hook.IsComplete

/-- What is asked of a plan. -/
structure Plan.IsValid (p : Plan) : Prop where
  named : ∀ endpoint, p.endpoints.contains endpoint = true → Text.IsName endpoint
  groups : ∀ endpoint stage, ∀ g ∈ p.groupsFor endpoint stage, g.IsValid

/-- What is asked of a configuration. -/
structure EngineConfig.IsValid (c : EngineConfig) : Prop where
  named : ∀ code, c.hooks.modules.contains code = true → Text.IsName code
  plan : c.hooks.hostPlan.IsValid
  timeouts : ∀ endpoint stage, ∀ g ∈ c.hooks.hostPlan.groupsFor endpoint stage, g.timeout ≤ 30000

/-! ## What may be blamed -/

/-- What a group with a given place may be blamed for: that it has no time, or else the first of its
ids that is incomplete. -/
inductive HookGroup.Blames (g : HookGroup) (endpoint : String) (stage : Stage) (index : Nat) :
    PlanFault → Prop
  | noTimeout (h : g.timeout = 0) : Blames g endpoint stage index (.noTimeout index endpoint stage)
  | incompleteHook {before after : List HookId} {hook : HookId} (htimeout : 1 ≤ g.timeout)
    (hhooks : g.hooks = before ++ hook :: after) (hbefore : ∀ h ∈ before, h.IsComplete)
    (h : ¬hook.IsComplete) :
    Blames g endpoint stage index (.incompleteHook index endpoint stage hook)

/-- What a plan may be blamed for: an endpoint without a name, or the first faulty group of some stage
of an endpoint that has one. -/
inductive Plan.Blames (p : Plan) : PlanFault → Prop
  | blankEndpoint {endpoint : String} (hmem : p.endpoints.contains endpoint = true)
    (h : ¬Text.IsName endpoint) : Blames p .blankEndpoint
  | group {endpoint : String} {stage : Stage} {before after : List HookGroup} {g : HookGroup}
    {fault : PlanFault} (hnamed : Text.IsName endpoint)
    (hgroups : p.groupsFor endpoint stage = before ++ g :: after)
    (hbefore : ∀ g' ∈ before, g'.IsValid) (h : g.Blames endpoint stage before.length fault) :
    Blames p fault

/-- What a configuration may be blamed for: a switch without a name, or else a fault of the plan, or
else the first group of some stage with an excessive time limit. -/
inductive EngineConfig.Blames (c : EngineConfig) : ConfigFault → Prop
  | blankModule {code : String} (hmem : c.hooks.modules.contains code = true)
    (h : ¬Text.IsName code) : Blames c .blankModule
  | plan {fault : PlanFault}
    (hmodules : ∀ code, c.hooks.modules.contains code = true → Text.IsName code)
    (h : c.hooks.hostPlan.Blames fault) : Blames c (.plan fault)
  | excessiveTimeout {endpoint : String} {stage : Stage} {before after : List HookGroup}
    {g : HookGroup}
    (hmodules : ∀ code, c.hooks.modules.contains code = true → Text.IsName code)
    (hplan : c.hooks.hostPlan.IsValid)
    (hgroups : c.hooks.hostPlan.groupsFor endpoint stage = before ++ g :: after)
    (hbefore : ∀ g' ∈ before, g'.timeout ≤ 30000) (h : 30000 < g.timeout) :
    Blames c (.excessiveTimeout endpoint stage g.timeout)

/-! ## Names, ids and groups -/

theorem Text.isBlank_iff {s : String} : isBlank s = true ↔ ¬IsName s := by
  have hblank : isBlank s = true ↔ trimFront s.toList = [] := by
    simp [isBlank, trimFront]
  have hname : trimChars s.toList = [] ↔ ∀ c ∈ trimFront s.toList, isBlankChar c = true := by
    simp [trimChars, trimFront]
  rw [IsName, not_not, hblank, hname]
  cases hfront : trimFront s.toList with
  | nil => simp
  | cons c rest =>
    have hc := not_isBlankChar_of_trimFront_eq_cons hfront
    simp [hc]

theorem Text.not_isBlank_iff {s : String} : ¬isBlank s = true ↔ IsName s := by
  rw [isBlank_iff, not_not]

theorem HookId.isIncomplete_iff {h : HookId} : h.isIncomplete = true ↔ ¬h.IsComplete := by
  rw [isIncomplete, Bool.or_eq_true, Text.isBlank_iff, Text.isBlank_iff, IsComplete]
  tauto

namespace HookGroup

variable {g : HookGroup} {endpoint : String} {stage : Stage} {index : Nat}

theorem fault?_eq_none_iff : g.fault? endpoint stage index = none ↔ g.IsValid := by
  rw [fault?]
  constructor
  · intro h
    split at h
    · cases h
    · next htime =>
      refine ⟨UInt64.pos_iff_ne_zero.2 htime, fun hook hmem => ?_⟩
      have hnot := List.find?_eq_none.1 (Option.map_eq_none_iff.1 h) hook hmem
      rwa [HookId.isIncomplete_iff, not_not] at hnot
  · intro h
    have htime : g.timeout ≠ 0 := UInt64.pos_iff_ne_zero.1 h.timeout
    rw [if_neg htime, Option.map_eq_none_iff, List.find?_eq_none]
    intro hook hmem hincomplete
    exact HookId.isIncomplete_iff.1 hincomplete (h.complete hook hmem)

end HookGroup

namespace StagePlan

variable {p : StagePlan} {endpoint : String} {stage : Stage}

theorem fault?_eq_none_iff : p.fault? endpoint stage = none ↔ ∀ g ∈ p.groups, g.IsValid := by
  rw [fault?, List.findSome?_eq_none_iff]
  constructor
  · intro h g hmem
    obtain ⟨index, hindex⟩ := List.mem_iff_getElem?.1 hmem
    have hmem' : (g, index) ∈ p.groups.zipIdx := List.mk_mem_zipIdx_iff_getElem?.2 hindex
    exact HookGroup.fault?_eq_none_iff.1 (h (g, index) hmem')
  · intro h e hmem
    have hmem' : e.1 ∈ p.groups := List.fst_mem_of_mem_zipIdx hmem
    exact HookGroup.fault?_eq_none_iff.2 (h e.1 hmem')

theorem excess?_eq_none_iff : p.excess? endpoint stage = none ↔ ∀ g ∈ p.groups, g.timeout ≤ 30000 := by
  rw [excess?, Option.map_eq_none_iff, List.find?_eq_none]
  simp [maxGroupTimeout]

end StagePlan

/-! ## Ways through a plan -/

/-- What is found first in lists one after the other is found first in the first list that has any. -/
theorem findSome?_flatMap {α β γ : Type} (f : α → List β) (g : β → Option γ) (l : List α) :
    (l.flatMap f).findSome? g = l.findSome? fun a => (f a).findSome? g := by
  simp only [← List.head?_filterMap, List.filterMap_flatMap, List.head?_flatMap]

/-- Endpoints one after the other, and the stages of each one after the other. -/
abbrev Plan.Way := List (String × List (Stage × StagePlan))

/-- That a way goes through all of a plan: through its endpoints, each of them once, and through the
stages of each. -/
structure Plan.Covers (p : Plan) (way : Plan.Way) : Prop where
  endpoints : (way.map Prod.fst).Perm p.endpoints.keys
  stages : ∀ e ∈ way, ∀ plan, p.endpoints.get? e.1 = some plan → e.2.Perm plan.stages.toList

def Plan.ascendingWay (p : Plan) : Plan.Way :=
  p.endpoints.toList.map fun e => (e.1, e.2.stages.toList)

/-- The first fault that is come upon. -/
def Plan.faultAlong (way : Plan.Way) : Option PlanFault :=
  way.findSome? fun e =>
    if Text.isBlank e.1 then some .blankEndpoint else e.2.findSome? fun s => s.2.fault? e.1 s.1

/-- The first excessive time limit that is come upon, as a fault. -/
def Plan.excessAlong (way : Plan.Way) : Option ConfigFault :=
  way.findSome? fun e => e.2.findSome? fun s => s.2.excess? e.1 s.1

/-- The first fault of a configuration, with a given way through its plan. -/
def EngineConfig.faultAlong (c : EngineConfig) (way : Plan.Way) : Option ConfigFault :=
  if c.hooks.modules.keys.any Text.isBlank then some .blankModule
  else ((Plan.faultAlong way).map .plan).or (Plan.excessAlong way)

/-- The way in ascending order is the one that is gone. -/
theorem Plan.fault?_eq_faultAlong (p : Plan) : p.fault? = faultAlong p.ascendingWay := by
  rw [faultAlong, ascendingWay, List.findSome?_map]
  rfl

theorem EngineConfig.fault?_eq_faultAlong (c : EngineConfig) :
    c.fault? = c.faultAlong c.hooks.hostPlan.ascendingWay := by
  have hexcess : c.excess? = Plan.excessAlong c.hooks.hostPlan.ascendingWay := by
    rw [excess?, Plan.stageEntries, findSome?_flatMap, Plan.excessAlong, Plan.ascendingWay,
      List.findSome?_map]
    simp only [List.findSome?_map]
    rfl
  rw [fault?, earlyFault?, faultAlong, c.hooks.hostPlan.fault?_eq_faultAlong, hexcess]
  split <;> rfl

namespace Plan

variable {p : Plan} {way : Way}

theorem covers_ascendingWay (p : Plan) : p.Covers p.ascendingWay where
  endpoints := by
    rw [ascendingWay, List.map_map]
    exact List.Perm.refl _
  stages e he plan hplan := by
    obtain ⟨⟨endpoint, plan'⟩, hmem, rfl⟩ := List.mem_map.1 he
    have hplan' := Table.mem_toList_iff.1 hmem
    obtain rfl := Option.some.inj (hplan.symm.trans hplan')
    exact List.Perm.refl _

namespace Covers

/-- The endpoints of a plan are those that its ways go through. -/
theorem exists_mem_iff (h : p.Covers way) {endpoint : String} :
    (∃ stages, (endpoint, stages) ∈ way) ↔ p.endpoints.contains endpoint = true := by
  rw [← Table.mem_keys_iff, ← h.endpoints.mem_iff, List.mem_map]
  constructor
  · rintro ⟨stages, hmem⟩
    exact ⟨(endpoint, stages), hmem, rfl⟩
  · rintro ⟨⟨_, stages⟩, hmem, rfl⟩
    exact ⟨stages, hmem⟩

/-- What a way comes upon at a stage of an endpoint are the groups that the plan has there. -/
theorem groups_eq (h : p.Covers way) {endpoint : String} {stages : List (Stage × StagePlan)}
    {stage : Stage} {plan : StagePlan} (hmem : (endpoint, stages) ∈ way)
    (hstage : (stage, plan) ∈ stages) : p.groupsFor endpoint stage = plan.groups := by
  have hcontains := h.exists_mem_iff.1 ⟨stages, hmem⟩
  obtain ⟨endpointPlan, hplan⟩ := Option.isSome_iff_exists.1 hcontains
  have hstages : stages.Perm endpointPlan.stages.toList := h.stages _ hmem endpointPlan hplan
  have hfound : endpointPlan.stages.get? stage = some plan :=
    Table.mem_toList_iff.1 (hstages.mem_iff.1 hstage)
  simp [groupsFor, EndpointPlan.groupsFor, hplan, hfound]

/-- Whatever groups a plan has, its ways come upon. -/
theorem exists_of_mem_groupsFor (h : p.Covers way) {endpoint : String} {stage : Stage}
    {g : HookGroup} (hg : g ∈ p.groupsFor endpoint stage) :
    ∃ stages plan, (endpoint, stages) ∈ way ∧ (stage, plan) ∈ stages ∧ g ∈ plan.groups := by
  obtain ⟨endpointPlan, hplan, hg⟩ := mem_getD_map_iff.1 hg
  obtain ⟨plan, hfound, hg⟩ := mem_getD_map_iff.1 hg
  have hcontains : p.endpoints.contains endpoint = true := by
    simp [Table.contains, hplan]
  obtain ⟨stages, hmem⟩ := h.exists_mem_iff.2 hcontains
  have hstages : stages.Perm endpointPlan.stages.toList := h.stages _ hmem endpointPlan hplan
  exact ⟨stages, plan, hmem, hstages.mem_iff.2 (Table.mem_toList_iff.2 hfound), hg⟩

/-- **A fault of a plan is come upon on every way** through it, if there is one. -/
theorem faultAlong_eq_none_iff (h : p.Covers way) : faultAlong way = none ↔ p.IsValid := by
  rw [faultAlong, List.findSome?_eq_none_iff]
  constructor
  · intro hnone
    refine ⟨fun endpoint hcontains => ?_, fun endpoint stage g hg => ?_⟩
    · obtain ⟨stages, hmem⟩ := h.exists_mem_iff.2 hcontains
      by_contra hblank
      have hfault := hnone _ hmem
      rw [if_pos (Text.isBlank_iff.2 hblank)] at hfault
      cases hfault
    · obtain ⟨stages, plan, hmem, hstage, hg⟩ := h.exists_of_mem_groupsFor hg
      have hfault := hnone _ hmem
      split at hfault
      · cases hfault
      · have hstages := List.findSome?_eq_none_iff.1 hfault _ hstage
        exact StagePlan.fault?_eq_none_iff.1 hstages g hg
  · rintro hvalid ⟨endpoint, stages⟩ hmem
    have hnamed := hvalid.named endpoint (h.exists_mem_iff.1 ⟨stages, hmem⟩)
    rw [if_neg (Text.not_isBlank_iff.2 hnamed), List.findSome?_eq_none_iff]
    rintro ⟨stage, plan⟩ hstage
    refine StagePlan.fault?_eq_none_iff.2 fun g hg => ?_
    rw [← h.groups_eq hmem hstage] at hg
    exact hvalid.groups endpoint stage g hg

/-- An excessive time limit is come upon on every way, if there is one. -/
theorem excessAlong_eq_none_iff (h : p.Covers way) :
    excessAlong way = none ↔ ∀ endpoint stage, ∀ g ∈ p.groupsFor endpoint stage,
      g.timeout ≤ 30000 := by
  simp only [excessAlong, List.findSome?_eq_none_iff, StagePlan.excess?_eq_none_iff]
  constructor
  · intro hnone endpoint stage g hg
    obtain ⟨stages, plan, hmem, hstage, hg⟩ := h.exists_of_mem_groupsFor hg
    exact hnone _ hmem _ hstage g hg
  · rintro hall ⟨endpoint, stages⟩ hmem ⟨stage, plan⟩ hstage g hg
    rw [← h.groups_eq hmem hstage] at hg
    exact hall endpoint stage g hg

end Covers

theorem validate_eq_ok_iff_isValid : p.validate = .ok () ↔ p.IsValid := by
  rw [← p.covers_ascendingWay.faultAlong_eq_none_iff, ← fault?_eq_faultAlong, validate]
  cases p.fault? <;> simp

end Plan

/-! ## Configurations -/

namespace EngineConfig

variable {c : EngineConfig}

/-- Some switch is found without a name just if not all have one. -/
theorem any_isBlank_iff : c.hooks.modules.keys.any Text.isBlank = true ↔
    ¬∀ code, c.hooks.modules.contains code = true → Text.IsName code := by
  simp only [List.any_eq_true, Table.mem_keys_iff, Text.isBlank_iff]
  push Not
  rfl

theorem not_any_isBlank_iff : ¬c.hooks.modules.keys.any Text.isBlank = true ↔
    ∀ code, c.hooks.modules.contains code = true → Text.IsName code := by
  rw [any_isBlank_iff, not_not]

/-- **A fault of a configuration is come upon on every way** through its plan, if there is one. -/
theorem faultAlong_eq_none_iff {way : Plan.Way} (h : c.hooks.hostPlan.Covers way) :
    c.faultAlong way = none ↔ c.IsValid := by
  rw [faultAlong]
  split
  · next hblank =>
    have hnot := any_isBlank_iff.1 hblank
    simp only [reduceCtorEq, false_iff]
    exact fun hvalid => hnot hvalid.named
  · next hblank =>
    rw [not_any_isBlank_iff] at hblank
    rw [Option.or_eq_none_iff, Option.map_eq_none_iff, h.faultAlong_eq_none_iff,
      h.excessAlong_eq_none_iff]
    constructor
    · rintro ⟨hplan, htimeouts⟩
      exact ⟨hblank, hplan, htimeouts⟩
    · intro hvalid
      exact ⟨hvalid.plan, hvalid.timeouts⟩

theorem validate_eq_ok_iff_isValid : c.validate = .ok () ↔ c.IsValid := by
  rw [← faultAlong_eq_none_iff c.hooks.hostPlan.covers_ascendingWay, ← fault?_eq_faultAlong, validate]
  cases c.fault? <;> simp

end EngineConfig

end AuctionHooks
