import AuctionHooks.Run.Group

/-!
# What an attempt comes to

`RunSetup.attempt` decides how an attempt ends and `GroupResult.note` decides what becomes of the
ending.  Everything that later proofs need of the two is said here once.

## The result is all that counts

An attempt has a *result* (`Attempt.result?`) or it has none, and it has none for five different
reasons.  `GroupResult.note_eq` says that apart from the record nothing depends on the reason: an
attempt without a result adds its record and leaves the rest alone.  With a result, three things
are read off it: the payload that it puts in place of the current one (`Attempt.replacement?`),
whether it wants to reject the request (`Attempt.rejects`), and what its module keeps from now on
(`Attempt.returned?`).  A result that reports failure counts for the last of these only.

## What an attempt leaves behind

`RunSetup.attempt_cases` lists the three ways of an attempt: there is no hook, there is nothing to
run it on, or it is called.  Only in the last does the scene change, and then by one call on the
timeline and by what the module keeps.
-/

namespace AuctionHooks

variable {π : Type}

namespace Attempt

/-- The result of an attempt, if the hook has finished with one in time. -/
def result? : Attempt π → Option (InvocationResult π)
  | .finished (.result r) _ => some r
  | _ => none

/-- The payload that an attempt puts in place of the current one. -/
def replacement? (a : Attempt π) : Option π :=
  a.result?.bind fun r => if r.isSuccess then r.payload else none

def rejects (a : Attempt π) : Bool := a.result?.any fun r => r.isSuccess && r.reject

/-- What the module of the hook keeps after an attempt; the outer `none` stands for "what it has
kept before". -/
def returned? (a : Attempt π) : Option (Option ModuleContext) :=
  a.result?.map InvocationResult.moduleContext

def record (rejectAllowed : Bool) (hook : HookId) : Attempt π → HookOutcome
  | .unresolved e => ⟨hook, .providerResolutionFailure, none, 0, { message := some e.message }⟩
  | .finished (.result r) elapsed =>
    match r.status with
    | .failure => ⟨hook, .failure, none, elapsed, r.messages⟩
    | .success =>
      ⟨hook, .success, some r.action, elapsed,
        if r.reject && !rejectAllowed then (r.withWarning rejectNotAllowed).messages
        else r.messages⟩
  | .finished .nothing elapsed =>
    ⟨hook, .nullResult, none, elapsed, { message := some "hook returned no result" }⟩
  | .finished (.error e) elapsed =>
    ⟨hook, .invocationFault, none, elapsed, { message := some e.message }⟩
  | .finished (.panic message) elapsed =>
    ⟨hook, .invocationFault, none, elapsed, { message := some (panicText message) }⟩
  | .timedOut timeout elapsed =>
    ⟨hook, .timeout, none, elapsed, { message := some s!"timed out after {timeout}ms" }⟩

theorem result?_eq_some_iff {a : Attempt π} {r : InvocationResult π} :
    a.result? = some r ↔ ∃ elapsed, a = .finished (.result r) elapsed := by
  constructor
  · intro h
    match a with
    | .finished (.result r') elapsed =>
      have hr : r' = r := Option.some.inj h
      exact ⟨elapsed, by rw [hr]⟩
  · rintro ⟨elapsed, rfl⟩
    rfl

theorem replacement?_eq_some_iff {a : Attempt π} {p : π} :
    a.replacement? = some p ↔
      ∃ r elapsed, a = .finished (.result r) elapsed ∧ r.status = .success ∧
        r.payload = some p := by
  rw [replacement?, Option.bind_eq_some_iff]
  constructor
  · rintro ⟨r, hr, hp⟩
    obtain ⟨elapsed, rfl⟩ := result?_eq_some_iff.1 hr
    by_cases hs : r.isSuccess = true
    · rw [if_pos hs] at hp
      exact ⟨r, elapsed, rfl, by simpa [InvocationResult.isSuccess] using hs, hp⟩
    · rw [if_neg hs] at hp
      cases hp
  · rintro ⟨r, elapsed, rfl, hs, hp⟩
    exact ⟨r, rfl, by rw [if_pos (by simp [InvocationResult.isSuccess, hs]), hp]⟩

theorem rejects_iff {a : Attempt π} :
    a.rejects = true ↔
      ∃ r elapsed, a = .finished (.result r) elapsed ∧ r.status = .success ∧
        r.reject = true := by
  rw [rejects, Option.any_eq_true]
  constructor
  · rintro ⟨r, hr, h⟩
    obtain ⟨elapsed, rfl⟩ := result?_eq_some_iff.1 hr
    rw [Bool.and_eq_true] at h
    exact ⟨r, elapsed, rfl, by simpa [InvocationResult.isSuccess] using h.1, h.2⟩
  · rintro ⟨r, elapsed, rfl, hs, hr⟩
    exact ⟨r, rfl, by simp [InvocationResult.isSuccess, hs, hr]⟩

@[simp] theorem record_hook (rejectAllowed : Bool) (hook : HookId) (a : Attempt π) :
    (a.record rejectAllowed hook).hook = hook := by
  unfold record
  split
  · rfl
  · split <;> rfl
  all_goals rfl

end Attempt

/-! ## What becomes of an ending -/

namespace GroupResult

/-- An attempt without a result is recorded, and that is all. -/
theorem note_of_result?_eq_none {a : Attempt π} (h : a.result? = none) (r : GroupResult π)
    (hook : HookId) :
    r.note hook a = { r with outcomes := r.outcomes ++ [a.record r.rejectAllowed hook] } := by
  match a with
  | .finished (.result result) elapsed => cases h
  | .unresolved e => rfl
  | .finished .nothing elapsed => rfl
  | .finished (.error e) elapsed => rfl
  | .finished (.panic message) elapsed => rfl
  | .timedOut timeout elapsed => rfl

/-- **All that an ending does to a group.**  Its record is added; the rest depends on the result
alone. -/
theorem note_eq (r : GroupResult π) (hook : HookId) (a : Attempt π) :
    r.note hook a =
      { r with
        payload := a.replacement?.getD r.payload
        rejectedBy := r.rejectedBy.or (if r.rejectAllowed && a.rejects then some hook else none)
        outcomes := r.outcomes ++ [a.record r.rejectAllowed hook] } := by
  cases ha : a.result? with
  | none =>
    rw [note_of_result?_eq_none ha]
    simp [Attempt.replacement?, Attempt.rejects, ha]
  | some result =>
    obtain ⟨elapsed, rfl⟩ := Attempt.result?_eq_some_iff.1 ha
    cases hs : result.status <;>
      simp [note, applyResult, push, hs, Attempt.replacement?, Attempt.rejects, Attempt.result?,
        Attempt.record, InvocationResult.isSuccess, Bool.and_comm]

end GroupResult

/-! ## The calls of a timeline -/

namespace Timeline

@[simp] theorem launches_letRun (t : Timeline π) : t.letRun.launches = t.launches := by
  simp [letRun, launches, Function.comp_def]

@[simp] theorem launches_wait (t : Timeline π) (ms : Nat) : (t.wait ms).launches = t.launches :=
  t.launches_letRun

@[simp] theorem launches_handOver (t : Timeline π) (l : Launch π) :
    (t.handOver l).launches = t.launches ++ [l] := by
  rw [launches, handOver, ← List.append_assoc]
  rfl

theorem run_of_obstacle {t : Timeline π} {e : EngineError} (h : t.runtime.obstacle? = some e)
    (timeout : UInt64) (l : Launch π) : t.run timeout l = (.error e, t) := by
  rw [run, h]

/-- Where calls can be run, a call is handed over and the race alone decides what comes of it. -/
theorem run_of_ready {t : Timeline π} (h : t.runtime.obstacle? = none) (timeout : UInt64)
    (l : Launch π) :
    (t.run timeout l).1 = .ok (l.course.race timeout) ∧
      (t.run timeout l).2.launches = t.launches ++ [l] ∧
      (t.run timeout l).2.runtime = t.runtime := by
  rw [run, h]
  refine ⟨rfl, ?_, ?_⟩
  · show Timeline.launches (if timeout = 0 then _ else _) = _
    split
    · exact t.launches_handOver l
    · rw [launches_wait, launches_handOver]
  · show Timeline.runtime (if timeout = 0 then _ else _) = _
    split <;> rfl

end Timeline

/-! ## The ways of an attempt -/

/-- A place in line: a hook, and the time limit of the group that it stands in. -/
structure Slot where
  timeout : UInt64
  hook : HookId
  deriving DecidableEq, Inhabited, Repr

def HookGroup.slots (g : HookGroup) : List Slot := g.hooks.map (Slot.mk g.timeout)

/-- How an attempt under a time limit ends, from how the race ends. -/
def Attempt.ofRace (timeout : UInt64) : Option (Answer π) × UInt64 → Attempt π
  | (some answer, elapsed) => .finished answer elapsed
  | (none, elapsed) => .timedOut timeout elapsed

/-- A request after an attempt: what the module of the hook keeps is replaced if the attempt has
returned something. -/
def Request.afterAttempt (r : Request) (hook : HookId) (a : Attempt π) : Request :=
  a.returned?.elim r (r.putModuleContext hook.moduleCode)

/-- An attempt changes nothing in a request but what the modules keep. -/
theorem Request.afterAttempt_but_kept (r : Request) (hook : HookId) (a : Attempt π)
    (kept : Table String ModuleContext) :
    { r.afterAttempt hook a with kept } = { r with kept } := by
  rw [afterAttempt]
  cases a.returned? <;> rfl

namespace RunSetup

variable {setup : RunSetup π} {slot : Slot} {payload : π} {scene after : Scene π}

/-- The call that an attempt makes, if there is a hook to call. -/
def call? (setup : RunSetup π) (slot : Slot) (payload : π) (scene : Scene π) :
    Option (Launch π) :=
  match setup.provider slot.hook with
  | .error _ => none
  | .ok found =>
    let kept := scene.request.moduleContext slot.hook.moduleCode
    let invocation := setup.invocations slot.timeout slot.hook kept
    let course := found.course (scene.timeline.callsOf slot.hook) payload invocation
    some ⟨slot.hook, payload, invocation, course⟩

/-- What a call is given: the payload, and circumstances that hold what its module keeps. -/
theorem eq_of_call? {call : Launch π} (h : setup.call? slot payload scene = some call) :
    call.hook = slot.hook ∧ call.payload = payload ∧
      call.invocation = setup.invocations slot.timeout slot.hook
        (scene.request.moduleContext slot.hook.moduleCode) := by
  rw [call?] at h
  split at h
  · cases h
  · cases h
    exact ⟨rfl, rfl, rfl⟩

/-- Where there is no hook, nothing happens. -/
theorem attempt_of_error {e : EngineError} (h : setup.provider slot.hook = .error e) :
    setup.call? slot payload scene = none ∧
      setup.attempt slot.timeout slot.hook payload scene = (.ok (.unresolved e), scene) := by
  rw [call?, attempt, h]
  exact ⟨rfl, rfl⟩

/-- Where there is a hook, it is called, and what is made of the call is for the timeline to say. -/
theorem attempt_of_ok {found : Hook π} (h : setup.provider slot.hook = .ok found) (payload : π)
    (scene : Scene π) :
    ∃ call, setup.call? slot payload scene = some call ∧
      setup.attempt slot.timeout slot.hook payload scene =
        match scene.timeline.run slot.timeout call with
        | (.error e, timeline) => (.error e, { scene with timeline })
        | (.ok (some answer, elapsed), timeline) =>
          (.ok (.finished answer elapsed), ⟨scene.request.settle slot.hook answer, timeline⟩)
        | (.ok (none, elapsed), timeline) =>
          (.ok (.timedOut slot.timeout elapsed), { scene with timeline }) := by
  rw [call?, attempt, h]
  exact ⟨_, rfl, rfl⟩

/-- A hook that there is nothing to run on stops the attempt. -/
theorem attempt_of_obstacle {found : Hook π} {e : EngineError}
    (h : setup.provider slot.hook = .ok found)
    (ho : scene.timeline.runtime.obstacle? = some e) :
    setup.attempt slot.timeout slot.hook payload scene = (.error e, scene) := by
  obtain ⟨call, -, ha⟩ := attempt_of_ok h payload scene
  rw [ha, Timeline.run_of_obstacle ho]

/-- A hook that can be run is called, and the race decides. -/
theorem attempt_of_ready {call : Launch π} (hc : setup.call? slot payload scene = some call)
    (ho : scene.timeline.runtime.obstacle? = none) :
    setup.attempt slot.timeout slot.hook payload scene =
      (let a := Attempt.ofRace slot.timeout (call.course.race slot.timeout)
       (.ok a, ⟨scene.request.afterAttempt slot.hook a,
        (scene.timeline.run slot.timeout call).2⟩)) := by
  cases h : setup.provider slot.hook with
  | error e =>
    rw [(attempt_of_error h).1] at hc
    cases hc
  | ok found =>
    obtain ⟨call', hc', ha⟩ := attempt_of_ok h payload scene
    obtain rfl : call' = call := Option.some.inj (hc'.symm.trans hc)
    have hrun : scene.timeline.run slot.timeout call' =
        (.ok (call'.course.race slot.timeout), (scene.timeline.run slot.timeout call').2) :=
      Prod.ext (Timeline.run_of_ready ho slot.timeout call').1 rfl
    rw [ha, hrun]
    rcases call'.course.race slot.timeout with ⟨_ | answer, elapsed⟩
    · rfl
    · cases answer <;> rfl

/-- **The three ways of an attempt.**  There is no hook; there is one but nothing to run it on; or
it is called, and the race decides. -/
theorem attempt_cases (setup : RunSetup π) (slot : Slot) (payload : π) (scene : Scene π) :
    (∃ e, setup.provider slot.hook = .error e ∧ setup.call? slot payload scene = none ∧
      setup.attempt slot.timeout slot.hook payload scene = (.ok (.unresolved e), scene)) ∨
    (∃ call e, setup.call? slot payload scene = some call ∧
      scene.timeline.runtime.obstacle? = some e ∧
      setup.attempt slot.timeout slot.hook payload scene = (.error e, scene)) ∨
    (∃ call, setup.call? slot payload scene = some call ∧
      scene.timeline.runtime.obstacle? = none ∧
      setup.attempt slot.timeout slot.hook payload scene =
        (let a := Attempt.ofRace slot.timeout (call.course.race slot.timeout)
         (.ok a, ⟨scene.request.afterAttempt slot.hook a,
          (scene.timeline.run slot.timeout call).2⟩))) := by
  cases h : setup.provider slot.hook with
  | error e => exact Or.inl ⟨e, rfl, attempt_of_error h⟩
  | ok found =>
    obtain ⟨call, hc, -⟩ := attempt_of_ok h payload scene
    cases ho : scene.timeline.runtime.obstacle? with
    | some e => exact Or.inr (Or.inl ⟨call, e, hc, rfl, attempt_of_obstacle h ho⟩)
    | none => exact Or.inr (Or.inr ⟨call, hc, rfl, attempt_of_ready hc ho⟩)

theorem attempt_of_call?_of_obstacle {call : Launch π} {e : EngineError}
    (hc : setup.call? slot payload scene = some call)
    (ho : scene.timeline.runtime.obstacle? = some e) :
    setup.attempt slot.timeout slot.hook payload scene = (.error e, scene) := by
  rcases setup.attempt_cases slot payload scene with
    ⟨_, -, hnone, -⟩ | ⟨_, e', -, ho', ha⟩ | ⟨_, -, ho', -⟩
  · cases hc.symm.trans hnone
  · cases ho.symm.trans ho'
    exact ha
  · cases ho.symm.trans ho'

end RunSetup

end AuctionHooks
