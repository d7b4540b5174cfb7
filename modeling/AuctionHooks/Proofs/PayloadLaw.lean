import AuctionHooks.Proofs.Loops

/-!
# Which payload a hook sees

The payload of a stage goes through all of its groups.  A hook replaces it by finishing in time with
a successful result that carries another one, and in no other way: a hook that fails, that answers
nothing, or that answers too late may carry or compute what it likes.

## Main statement

`runStage_payload_of_ok` says what this amounts to, for whole runs: each started hook is given the
replacement that was made latest before it, in whatever group, or else the payload of the stage; and
the stage leaves the one that was made latest of all, that of the rejecting hook included.
-/

namespace AuctionHooks

variable {π : Type}

namespace RunSetup

variable {setup : RunSetup π}

/-- **A started hook sees the latest replacement that was made before it.**  The turns account for
the run: they have its records, and their calls are the calls that the run has added to the
timeline. -/
theorem runStage_payload_of_ok {stage : Stage} {entity : String} {groups : List HookGroup}
    {payload : π} {scene after : Scene π} {result : StageResult π}
    (h : setup.runStage stage entity groups payload scene = (.ok result, after)) :
    ∃ (turns : List (Turn π)) (scene' : Scene π),
      (setup.atStage stage).Account turns payload result.payload scene scene' ∧
      result.outcome.hookOutcomes = turns.map Turn.record ∧
      after.timeline.launches = scene.timeline.launches ++ turns.filterMap Turn.call? ∧
      (∀ t ∈ turns, ∀ p, t.replacement? = some p ↔
        ∃ r elapsed, t.attempt = .finished (.result r) elapsed ∧ r.status = .success ∧
          r.payload = some p) ∧
      (∀ earlier t later, turns = earlier ++ t :: later → ∀ call, t.call? = some call →
        call.hook = t.hook ∧ call.payload = latest Turn.replacement? payload earlier) ∧
      result.payload = latest Turn.replacement? payload turns := by
  obtain ⟨-, hpayload, hrecords, htimeline, -⟩ := runStage_eq_ok h
  have haccount := setup.account_stagePassage stage groups payload scene
  have hleft : ∀ t : Turn π, t.payloadAfter = t.replacement?.getD t.payload := fun _ => rfl
  rw [← hpayload] at haccount
  refine ⟨_, _, haccount, hrecords, ?_, ?_, ?_, ?_⟩
  · rw [htimeline]
    exact haccount.launches
  · intro t _ p
    exact Attempt.replacement?_eq_some_iff
  · intro earlier t later hturns call hcall
    obtain ⟨hhook, hcalled, -⟩ := eq_of_call? hcall
    have hthreads : Threads Turn.payload Turn.payloadAfter payload (earlier ++ t :: later) _ :=
      hturns ▸ haccount.payloads
    exact ⟨hhook, hcalled.trans (hthreads.found_eq_latest hleft)⟩
  · exact haccount.payloads.eq_latest hleft

/-- A setup in which the code of a module says what its hooks do with the bid: one raises it, one
fails with a bid of its own, one is too late with another, one rejects and raises the bid. -/
def bidders : RunSetup Nat where
  provider hook :=
    .ok ⟨hook.hookCode, fun _ bid _ =>
      if hook.moduleCode = "raise" then .finishes 1 (.result { payload := some (bid + 10) })
      else if hook.moduleCode = "sour" then
        .finishes 1 (.result { status := .failure, payload := some 999 })
      else if hook.moduleCode = "late" then .finishes 5 (.result { payload := some 888 })
      else if hook.moduleCode = "stern" then
        .finishes 0 (.result { payload := some (bid + 1), reject := true })
      else .finishes 0 (.result {})⟩
  invocations := .atEndpoint "/auction"

/-- Two groups, of which the second rejects. -/
def bidderGroups : List HookGroup :=
  [⟨5, [⟨"raise", "a"⟩, ⟨"sour", "a"⟩]⟩,
   ⟨5, [⟨"late", "a"⟩, ⟨"idle", "a"⟩, ⟨"stern", "a"⟩, ⟨"raise", "a"⟩]⟩]

/-- What the rejecting hook of the second group has raised is what the bid of the first group had
become; the failed and the late bid have left no trace. -/
theorem runStage_payload_bidders :
    ∃ result after,
      bidders.runStage .entrypoint "auction" bidderGroups 100 default = (.ok result, after) ∧
      result.payload = 111 ∧
      ∃ turns : List (Turn Nat),
        result.outcome.hookOutcomes = turns.map Turn.record ∧
        result.payload = latest Turn.replacement? 100 turns := by
  obtain ⟨result, after, hrun, hbid⟩ : ∃ result after,
      bidders.runStage .entrypoint "auction" bidderGroups 100 default = (.ok result, after) ∧
      result.payload = 111 :=
    ⟨_, _, rfl, rfl⟩
  obtain ⟨turns, -, -, hrecords, -, -, -, hpayload⟩ := runStage_payload_of_ok hrun
  exact ⟨result, after, hrun, hbid, turns, hrecords, hpayload⟩

end RunSetup

end AuctionHooks
