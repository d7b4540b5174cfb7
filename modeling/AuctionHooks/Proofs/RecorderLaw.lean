import AuctionHooks.Proofs.MonitorLaw

/-!
# What a recorder answers

A recorder is fed and asked in turns, and between any two questions more records may come in and older
ones be given up.  What it answers is a matter of what it was ever given: of the latest records, as many
as it has room for, it lists those of the hook in question, newest first, and stops at the limit.  Room
comes before the hook, and the hook before the limit.  So the records of a busy hook may drive out those
of a quiet one, which then are gone for good, and a limit never hides a record that another would have
shown in its place.

## Main statement

`Recorder.answers_of_pushed`: every answer that a recorder gives, whatever it was asked before, is the
one that the records pushed so far give.
-/

namespace AuctionHooks

namespace Recorder

/-- What a recorder may be called for. -/
inductive Call where
  | record (r : HookRecord)
  | recordStage (stage : Stage) (time : Timestamp) (o : StageOutcome)
  | query (hook : Option HookId) (limit : Nat)
  | size

inductive Reply where
  | done
  | records (found : List HookRecord)
  | size (n : Nat)

def answer (r : Recorder) : Call → Reply × Recorder
  | .record new => (.done, r.record new)
  | .recordStage stage time o => (.done, r.recordStage stage time o)
  | .query hook limit => (.records (r.query hook limit), r)
  | .size => (.size r.size, r)

/-- Answers calls one after the other and collects the answers. -/
def answers (r : Recorder) : List Call → List Reply × Recorder
  | [] => ([], r)
  | first :: rest =>
    let others := answers (r.answer first).2 rest
    ((r.answer first).1 :: others.1, others.2)

/-! ## What is pushed -/

/-- The records that a call pushes: those of a stage group by group. -/
def Call.pushed : Call → List HookRecord
  | .record r => [r]
  | .recordStage stage time o =>
    o.groups.flatMap fun g => g.hooks.map (HookRecord.ofOutcome stage time)
  | .query _ _ | .size => []

/-- The records that calls push, oldest first. -/
def pushedBy (calls : List Call) : List HookRecord := calls.flatMap Call.pushed

/-- The answer to a call by one who knows all records that were ever pushed. -/
def Call.replyKnowing (capacity : Nat) (pushed : List HookRecord) : Call → Reply
  | .record _ | .recordStage _ _ _ => .done
  | .query none limit => .records ((pushed.reverse.take capacity).take limit)
  | .query (some hook) limit =>
    .records (((pushed.reverse.take capacity).filter fun r => r.hook = hook).take limit)
  | .size => .size (min capacity pushed.length)

/-! ## What is left of it -/

/-- The records of a stage are taken one by one. -/
theorem recordStage_eq (r : Recorder) (stage : Stage) (time : Timestamp) (o : StageOutcome) :
    r.recordStage stage time o =
      (o.groups.flatMap fun g => g.hooks.map (HookRecord.ofOutcome stage time)).foldl record r := by
  rw [recordStage, StageOutcome.hookOutcomes, List.map_flatMap]

/-- A call leaves the recorder with what it pushes, and a question leaves it as it was. -/
theorem answer_snd (r : Recorder) (call : Call) :
    (r.answer call).2 = call.pushed.foldl record r := by
  cases call with
  | record new => rfl
  | recordStage stage time o => exact r.recordStage_eq stage time o
  | query hook limit => rfl
  | size => rfl

theorem answers_snd (r : Recorder) (calls : List Call) :
    (r.answers calls).2 = (pushedBy calls).foldl record r := by
  induction calls generalizing r with
  | nil => rfl
  | cons first rest ih =>
    rw [pushedBy, List.flatMap_cons, List.foldl_append, ← answer_snd]
    exact ih (r.answer first).2

/-- **A recorder is left with the latest of what was pushed.** -/
theorem answers_fresh (capacity : Nat) (calls : List Call) :
    ((Recorder.mk capacity []).answers calls).2 = ⟨capacity, latest capacity (pushedBy calls)⟩ := by
  have hfresh : latest capacity [] = [] := List.drop_nil
  have hfold := foldl_record capacity (pushedBy calls) []
  rw [hfresh, List.nil_append] at hfold
  rw [answers_snd, hfold]

theorem length_latest (capacity : Nat) (pushed : List HookRecord) :
    (latest capacity pushed).length = min capacity pushed.length := by
  rw [latest, List.length_drop]
  omega

theorem reverse_latest (capacity : Nat) (pushed : List HookRecord) :
    (latest capacity pushed).reverse = pushed.reverse.take capacity := by
  rw [latest, List.reverse_drop, List.take_eq_take_iff, List.length_reverse]
  omega

/-- **A call is answered as by one who knows everything.** -/
theorem answer_fst (capacity : Nat) (pushed : List HookRecord) (call : Call) :
    ((Recorder.mk capacity (latest capacity pushed)).answer call).1 =
      call.replyKnowing capacity pushed := by
  cases call with
  | record new => rfl
  | recordStage stage time o => rfl
  | query hook limit =>
    rw [answer, query, reverse_latest]
    cases hook with
    | none =>
      have hall : ((pushed.reverse.take capacity).filter fun _ => true) =
          pushed.reverse.take capacity := List.filter_eq_self.2 fun _ _ => rfl
      exact congrArg (fun l => Reply.records (List.take limit l)) hall
    | some hook => rfl
  | size => exact congrArg Reply.size (length_latest capacity pushed)

theorem answers_append (r : Recorder) (earlier later : List Call) :
    r.answers (earlier ++ later) =
      ((r.answers earlier).1 ++ ((r.answers earlier).2.answers later).1,
        ((r.answers earlier).2.answers later).2) := by
  induction earlier generalizing r with
  | nil => rfl
  | cons first rest ih =>
    rw [List.cons_append, answers, answers, ih]
    rfl

theorem length_answers (r : Recorder) (calls : List Call) :
    (r.answers calls).1.length = calls.length := by
  induction calls generalizing r with
  | nil => rfl
  | cons first rest ih => exact congrArg (· + 1) (ih (r.answer first).2)

/-- **A recorder answers by what was pushed.**  Let a recorder of any capacity, zero included, be called
for records and questions in any order.  A call that comes behind `earlier` ones is answered from the
records that these have pushed: of the latest of them, as many as the capacity allows, newest first,
with those of the hook in question, and of these with as many as the limit allows; the number of records
is the number of those pushed, up to the capacity.  So the recorder never holds more than its capacity.
What it holds later is an end of what it held before and of what has been pushed since, so that a record
once given up does not come back.  And the records of a stage are taken one by one, group by group. -/
theorem answers_of_pushed (capacity : Nat) (earlier later : List Call) (call : Call) :
    let fresh : Recorder := { capacity }
    let before := (fresh.answers earlier).2
    let after := (fresh.answers (earlier ++ call :: later)).2
    (fresh.answers (earlier ++ call :: later)).1[earlier.length]? =
      some (call.replyKnowing capacity (pushedBy earlier)) ∧
    before.size ≤ capacity ∧
    after.records <:+ before.records ++ pushedBy (call :: later) ∧
    ∀ stage time o, before.recordStage stage time o =
      (o.groups.flatMap fun g => g.hooks.map (HookRecord.ofOutcome stage time)).foldl record
        before := by
  intro fresh before after
  have hbefore : before = ⟨capacity, latest capacity (pushedBy earlier)⟩ :=
    answers_fresh capacity earlier
  have hafter : after = ⟨capacity, latest capacity (pushedBy earlier ++ pushedBy (call :: later))⟩ := by
    rw [pushedBy, pushedBy, ← List.flatMap_append]
    exact answers_fresh capacity (earlier ++ call :: later)
  refine ⟨?_, ?_, ?_, before.recordStage_eq⟩
  · have hlength : (fresh.answers earlier).1.length = earlier.length := fresh.length_answers earlier
    rw [answers_append, List.getElem?_append_right (Nat.le_of_eq hlength), hlength, Nat.sub_self,
      ← answer_fst, ← hbefore]
    rfl
  · rw [hbefore, size, length_latest]
    exact Nat.min_le_left _ _
  · rw [hafter, hbefore, ← latest_append]
    exact List.drop_suffix _ _

end Recorder

end AuctionHooks
