import AuctionHooks.Proofs.Race

/-!
# What shows of a call

A timeline holds, with every call, what the call is going to do.  This is there for the race, and once
the race is over it is not looked at again: what shows of a call is when it began, which hook it was
for, and what the hook was given.  `Timeline.muted` leaves of a timeline just that, by putting calls
that never finish in the place of all others, and `Scene.muted` does so for a scene.

Whatever is done to a timeline is done to what shows of it, so two scenes that show the same go on
showing the same as long as the races end alike (`Timeline.muted_run`).  For an attempt that is made in
two such scenes, maybe by two setups, there are two lemmas.  If it is stopped in one of them, it is
stopped in the other (`RunSetup.takeTurn_error_of_muted`), and if it is made in both and returns the same
at the same time, then they show the same afterwards (`Turn.muted_after`).
-/

namespace AuctionHooks

variable {π : Type}

/-- A call, whatever it is going to do. -/
def Launch.muted (l : Launch π) : Launch π := { l with course := .hangs }

def Start.muted (s : Start π) : Start π := { s with launch := s.launch.muted }

namespace Timeline

/-- What shows of a timeline. -/
def muted (t : Timeline π) : Timeline π :=
  { t with started := t.started.map Start.muted, waiting := t.waiting.map Launch.muted }

@[simp] theorem muted_letRun (t : Timeline π) : t.letRun.muted = t.muted.letRun := by
  simp only [letRun, muted, List.map_append, List.map_map, List.map_nil]
  rfl

@[simp] theorem muted_wait (t : Timeline π) (ms : Nat) : (t.wait ms).muted = t.muted.wait ms := by
  rw [wait, wait, ← muted_letRun]
  rfl

@[simp] theorem muted_handOver (t : Timeline π) (l : Launch π) :
    (t.handOver l).muted = t.muted.handOver l.muted := by
  simp only [handOver, muted, List.map_append, List.map_singleton]

@[simp] theorem launches_muted (t : Timeline π) :
    t.muted.launches = t.launches.map Launch.muted := by
  simp only [launches, muted, List.map_append, List.map_map]
  rfl

/-- How often a hook was called shows. -/
@[simp] theorem callsOf_muted (t : Timeline π) (hook : HookId) :
    t.muted.callsOf hook = t.callsOf hook := by
  rw [callsOf, launches_muted, List.countP_map]
  rfl

/-- **What a call does to what shows of a timeline** is up to what shows of the call, and to the time
that the race takes. -/
theorem muted_run {t : Timeline π} (h : t.runtime.obstacle? = none) (timeout : UInt64)
    (l : Launch π) :
    (t.run timeout l).2.muted =
      if timeout = 0 then t.muted.handOver l.muted
      else (t.muted.handOver l.muted).wait (l.course.race timeout).2.toNat := by
  rw [run, h, ← muted_handOver, ← muted_wait]
  exact apply_ite muted _ _ _

end Timeline

def Scene.muted (s : Scene π) : Scene π := { s with timeline := s.timeline.muted }

namespace Scene

variable {s s' : Scene π}

/-- Scenes show the same if all of their requests and what shows of their timelines is the same. -/
theorem muted_eq_iff :
    s'.muted = s.muted ↔ s'.request = s.request ∧ s'.timeline.muted = s.timeline.muted := by
  rw [muted, muted, mk.injEq]

theorem request_eq_of_muted (h : s'.muted = s.muted) : s'.request = s.request :=
  (muted_eq_iff.1 h).1

theorem runtime_eq_of_muted (h : s'.muted = s.muted) :
    s'.timeline.runtime = s.timeline.runtime := by
  have hruntime := congrArg Timeline.runtime (muted_eq_iff.1 h).2
  exact hruntime

theorem now_eq_of_muted (h : s'.muted = s.muted) : s'.timeline.now = s.timeline.now := by
  have hnow := congrArg Timeline.now (muted_eq_iff.1 h).2
  exact hnow

theorem callsOf_eq_of_muted (h : s'.muted = s.muted) (hook : HookId) :
    s'.timeline.callsOf hook = s.timeline.callsOf hook := by
  rw [← Timeline.callsOf_muted, (muted_eq_iff.1 h).2, Timeline.callsOf_muted]

theorem muted_recordStage {stage : Stage} (o : StageOutcome) (h : s'.muted = s.muted) :
    { s' with request := s'.request.recordStage stage o }.muted =
      { s with request := s.request.recordStage stage o }.muted := by
  obtain ⟨hrequest, htimeline⟩ := muted_eq_iff.1 h
  exact muted_eq_iff.2 ⟨by rw [hrequest], htimeline⟩

end Scene

/-- A call in a scene that shows the same is the same call. -/
theorem RunSetup.call?_eq_of_muted {s s' : Scene π} (h : s'.muted = s.muted) (setup : RunSetup π)
    (slot : Slot) (payload : π) : setup.call? slot payload s' = setup.call? slot payload s := by
  rw [call?, call?, Scene.request_eq_of_muted h, Scene.callsOf_eq_of_muted h]

/-- A hook that is not called since there is nothing to run it on is not called in a scene that shows the
same, either, nor is what stands for it in another setup. -/
theorem RunSetup.takeTurn_error_of_muted {setup setup' : RunSetup π} {slot : Slot} {payload : π}
    {scene scene' : Scene π} {e : EngineError} (hscene : scene'.muted = scene.muted)
    (hcalls : (setup'.call? slot payload scene').isSome = (setup.call? slot payload scene').isSome)
    (h : setup.takeTurn slot payload scene = .error e) :
    setup'.takeTurn slot payload scene' = .error e := by
  have hstopped := attempt_of_takeTurn_eq_error h
  rcases setup.attempt_cases slot payload scene with
    ⟨_, -, -, ha⟩ | ⟨call, e', hc, ho, ha⟩ | ⟨_, -, -, ha⟩
  · cases hstopped.symm.trans ha
  · obtain rfl : e = e' := Except.error.inj (Prod.ext_iff.1 (hstopped.symm.trans ha)).1
    rw [call?_eq_of_muted hscene setup, hc, Option.isSome_some] at hcalls
    obtain ⟨call', hc'⟩ := Option.isSome_iff_exists.1 hcalls
    rw [← Scene.runtime_eq_of_muted hscene] at ho
    exact takeTurn_eq_error (attempt_of_call?_of_obstacle hc' ho)
  · cases hstopped.symm.trans ha

/-- **Calls that show the same, take the same time and return the same** leave scenes that show the
same. -/
theorem Turn.muted_after {t : Turn π} {call call' : Launch π} {scene' : Scene π} {a' : Attempt π}
    (hscene : scene'.muted = t.before.muted) (hc : t.call? = some call)
    (hcall : call'.muted = call.muted)
    (htime : (call'.course.race t.timeout).2 = (call.course.race t.timeout).2)
    (hreturned : a'.returned? = t.attempt.returned?) :
    (⟨scene'.request.afterAttempt t.hook a', (scene'.timeline.run t.timeout call').2⟩ :
      Scene π).muted = t.after.muted := by
  obtain ⟨hrequest, htimeline⟩ := Scene.muted_eq_iff.1 hscene
  rcases t.cases_call? with ⟨-, -, hnone, -, -⟩ | ⟨found, hfound, ho, -, hafter⟩
  · cases hc.symm.trans hnone
  · obtain rfl : call = found := Option.some.inj (hc.symm.trans hfound)
    have ho' : scene'.timeline.runtime.obstacle? = none := by
      rw [Scene.runtime_eq_of_muted hscene]
      exact ho
    rw [hafter]
    refine Scene.muted_eq_iff.2 ⟨?_, ?_⟩
    · rw [Request.afterAttempt, Request.afterAttempt, hreturned, hrequest]
    · rw [Timeline.muted_run ho', Timeline.muted_run ho, hcall, htime, htimeline]

end AuctionHooks
