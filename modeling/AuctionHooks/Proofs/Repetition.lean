import AuctionHooks.Plan.Validity
import AuctionHooks.Proofs.GroupOrder
import AuctionHooks.Proofs.Standstill
import AuctionHooks.Proofs.Starts

/-!
# How often a group calls a hook

Hooks are not made to be called twice for one and the same purpose, and whoever writes one is promised
that a run of a group calls it once at most.  A run keeps no account of whom it has called, though.  It
calls the hooks as they stand, so the promise is as good as the list: it holds of the groups that name
no hook twice, and of no others.

Nothing sees to it that a group is such.  A plan may be valid with a group that names a hook twice
(`exists_valid_plan_calling_twice`), for validity looks at each hook id by itself; and merging plans
leaves their groups as they are, so it can neither make such a group nor mend it.

## Main statements

* `RunSetup.exists_calls_sublist`: a run calls and records hooks in the order in which they stand, each
  of them at most as often as it stands there.
* `RunSetup.exists_calls_eq`: where every hook is there and none may reject, exactly as often.
* `RunSetup.nodup_hooks_iff`: which groups keep the promise.
-/

namespace AuctionHooks

variable {π : Type}

/-- The hooks that turns have called are those of the turns that have found one. -/
theorem map_hook_calls (turns : List (Turn π)) :
    (turns.filterMap Turn.call?).map Launch.hook =
      (turns.filter fun t => t.record.status ≠ .providerResolutionFailure).map fun t => t.hook := by
  have hbegins := forall₂_begins turns
  generalize turns.filter _ = found at hbegins ⊢
  generalize turns.filterMap Turn.call? = calls at hbegins ⊢
  induction hbegins with
  | nil => rfl
  | cons hcall _ ih =>
    rw [List.map_cons, List.map_cons, ih, hcall.hook, Turn.record_hook]

namespace RunSetup

variable {setup : RunSetup π}

/-! ## The law of a run -/

/-- **A run follows its list.**  The hooks that it calls, and those that it records, are hooks of the
group in the order in which they stand there; whatever becomes of the run, none is called more often
than it stands there. -/
theorem exists_calls_sublist (setup : RunSetup π) (group : HookGroup) (payload : π)
    (scene : Scene π) :
    (∃ calls, (setup.runGroup group payload scene).2.timeline.launches =
        scene.timeline.launches ++ calls ∧
      (calls.map Launch.hook).Sublist group.hooks) ∧
    ∀ result, (setup.runGroup group payload scene).1 = .ok result →
      (result.outcomes.map HookOutcome.hook).Sublist group.hooks := by
  obtain ⟨unreached, hhooks, -, -⟩ := setup.exists_unreached_hooks group payload scene
  have hturns : ((setup.passage group.slots payload scene).turns.map fun t => t.hook).Sublist
      group.hooks := by
    have hon : (setup.hooksOn group).Sublist group.hooks := List.filter_sublist
    rw [hhooks] at hon
    exact (List.sublist_append_left _ unreached).trans hon
  have hlaunches := (setup.account_passage group.slots payload scene).launches
  rw [← runGroup_scene] at hlaunches
  refine ⟨⟨_, hlaunches, ?_⟩, fun result hresult => ?_⟩
  · rw [map_hook_calls]
    exact (List.filter_sublist.map _).trans hturns
  · obtain ⟨-, -, houtcomes, -⟩ := runGroup_eq_ok (Prod.ext hresult rfl)
    rw [houtcomes, Turn.map_hook_record]
    exact hturns

/-- Where hooks can be run and none may reject the request, a passage comes to the end of its line. -/
theorem ending_of_not_rejectAllowed (setup : RunSetup π) {scene : Scene π}
    (hallowed : setup.rejectAllowed = false) (ho : scene.timeline.runtime.obstacle? = none)
    (slots : List Slot) (payload : π) : (setup.passage slots payload scene).ending = .ok none := by
  obtain ⟨rejectedBy, hending⟩ := setup.exists_ending_of_ready ho slots payload
  cases rejectedBy with
  | none => exact hending
  | some hook =>
    obtain ⟨earlier, last, hturns, -, hlast, -⟩ := exists_last_of_rejected hending
    have hmem : last ∈ (setup.passage slots payload scene).turns := by
      rw [hturns]
      exact List.mem_append_right _ List.mem_cons_self
    have hboth := (ends_iff (setup_of_mem_passage hmem)).1 hlast
    cases hallowed.symm.trans hboth.1

/-- **A run leaves nothing out** if every hook is there to be called and none may reject the request:
it calls, and records, the hooks of its group as they stand. -/
theorem exists_calls_eq (setup : RunSetup π) (group : HookGroup) (payload : π) (scene : Scene π)
    (hcalls : ∀ hook ∈ group.hooks, setup.Calls hook) (hallowed : setup.rejectAllowed = false)
    (ho : scene.timeline.runtime.obstacle? = none) :
    ∃ result after calls, setup.runGroup group payload scene = (.ok result, after) ∧
      after.timeline.launches = scene.timeline.launches ++ calls ∧
      calls.map Launch.hook = group.hooks ∧
      result.outcomes.map HookOutcome.hook = group.hooks := by
  have haccount := setup.account_passage group.slots payload scene
  obtain ⟨unreached, hhooks, -, hnone⟩ := setup.exists_unreached_hooks group payload scene
  have hon : setup.hooksOn group = group.hooks :=
    List.filter_eq_self.2 fun hook hmem => (hcalls hook hmem).1
  have hending := setup.ending_of_not_rejectAllowed hallowed ho group.slots payload
  rw [hon, hnone hending, List.append_nil] at hhooks
  have hfound : ∀ t ∈ (setup.passage group.slots payload scene).turns,
      decide (t.record.status ≠ .providerResolutionFailure) = true := by
    intro t ht
    refine decide_eq_true fun hstatus => ?_
    have hmem : t.hook ∈ group.hooks := by
      rw [hhooks]
      exact List.mem_map_of_mem ht
    obtain ⟨-, found, hprovider⟩ := hcalls t.hook hmem
    rw [← haccount.setup_eq t ht] at hprovider
    have hslot : t.setup.provider t.toSlot.hook = .ok found := hprovider
    obtain ⟨call, hcall, -⟩ := attempt_of_ok hslot t.payload t.before
    cases hcall.symm.trans (t.call?_eq_none_iff.2 hstatus)
  have hrun := setup.runGroup_eq group payload scene
  rw [Passage.extend, hending] at hrun
  refine ⟨_, _, _, hrun, haccount.launches, ?_, ?_⟩
  · rw [map_hook_calls, List.filter_eq_self.2 hfound, hhooks]
  · rw [List.nil_append, Turn.map_hook_record, hhooks]

/-! ## Which groups keep the promise -/

/-- That a run of a group keeps the promise: it calls no hook twice, and has no two records of one. -/
structure CallsOnce (setup : RunSetup π) (group : HookGroup) (payload : π) (scene : Scene π) :
    Prop where
  calls : ∃ calls, (setup.runGroup group payload scene).2.timeline.launches =
    scene.timeline.launches ++ calls ∧ (calls.map Launch.hook).Nodup
  records : ∀ result, (setup.runGroup group payload scene).1 = .ok result →
    (result.outcomes.map HookOutcome.hook).Nodup

/-- Where every hook is there, and takes its time for ever. -/
def allThere : RunSetup π where
  provider hook := .ok ⟨hook.hookCode, fun _ _ _ => .hangs⟩
  invocations := .atEndpoint ""
  rejectAllowed := false

/-- **A group keeps the promise of calling each hook once at most just if it names each hook once at
most.**  If it does, every run of it keeps the promise, whatever hooks there are, whichever modules are
switched on and in whatever scene it is run.  If it does not, the promise is already broken where every
hook is there. -/
theorem nodup_hooks_iff (group : HookGroup) (payload : π) :
    group.hooks.Nodup ↔
      ∀ (setup : RunSetup π) (scene : Scene π), setup.CallsOnce group payload scene := by
  constructor
  · intro hnodup setup scene
    obtain ⟨⟨calls, hlaunches, hcalls⟩, hrecords⟩ :=
      setup.exists_calls_sublist group payload scene
    exact ⟨⟨calls, hlaunches, hcalls.nodup hnodup⟩, fun result hresult =>
      (hrecords result hresult).nodup hnodup⟩
  · intro hall
    obtain ⟨-, hrecords⟩ := hall allThere ⟨default, {}⟩
    obtain ⟨result, after, -, hrun, -, -, hhooks⟩ :=
      allThere.exists_calls_eq group payload ⟨default, {}⟩ (fun hook _ => ⟨rfl, _, rfl⟩) rfl rfl
    rw [← hhooks]
    exact hrecords result (congrArg Prod.fst hrun)

end RunSetup

/-! ## Valid plans -/

/-- A plan with a group that names a hook twice. -/
def repetitivePlan : Plan :=
  ⟨Table.ofList [("/auction", ⟨Table.ofList
    [(.entrypoint, ⟨[⟨10, [⟨"m", "h"⟩, ⟨"m", "h"⟩]⟩]⟩)]⟩)]⟩

/-- A setup with one hook, which has nothing to say. -/
def soleHook : RunSetup String where
  provider :=
    (({} : HookCatalog String).register "m" ⟨"h", fun _ _ _ => .finishes 0 (.result {})⟩).resolve
  invocations := .atEndpoint "/auction"

/-- **Validity is not enough**: a valid plan may have a group that calls a hook twice. -/
theorem exists_valid_plan_calling_twice :
    repetitivePlan.validate = .ok () ∧
    ∃ group ∈ repetitivePlan.groups, ∃ result after,
      soleHook.runGroup group "bid" default = (.ok result, after) ∧
      after.timeline.started.map (fun start => start.launch.hook) = [⟨"m", "h"⟩, ⟨"m", "h"⟩] ∧
      result.outcomes.map HookOutcome.hook = [⟨"m", "h"⟩, ⟨"m", "h"⟩] ∧
      ¬soleHook.CallsOnce group "bid" default := by
  refine ⟨by decide +kernel, ⟨10, [⟨"m", "h"⟩, ⟨"m", "h"⟩]⟩, by decide +kernel, _, _, rfl,
    by decide +kernel, by decide +kernel, fun hpromise => ?_⟩
  exact absurd (hpromise.records _ rfl) (by decide +kernel)

end AuctionHooks
