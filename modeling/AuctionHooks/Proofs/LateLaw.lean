import AuctionHooks.Proofs.History
import AuctionHooks.Proofs.Mirror
import AuctionHooks.Proofs.Muted
import AuctionHooks.Proofs.TimeLaw

/-!
# Calls that are late

A call that has not finished when its limit is over is given up but not stopped.  It runs on while
the next hooks are run, and it may finish in the midst of them, or in a later step, with a result that
asks for a new payload or for the request to be rejected.  Nothing of this must be found out by
anyone: whoever is called later, and whoever looks at the session afterwards, sees what would have
been seen if the call had never finished.

## Two sessions

To say so, one session is compared with another in which late calls do something else.  A call is
named by its hook and by how often the hook was called before, so within a session no two calls have
one name, and a set of calls with what each of them does instead is a function (`Changes`).  The calls
that are changed must have been late, and must be late with the change (`Turn.ChangedLate`); beyond
this a change may be anything, be it another result, an error or a breakdown after at least the limit
(`Course.outlasts_finishes`), or no end at all (`Course.outlasts_hangs`).

## Why nothing is found out

What shows of a call (`Launch.muted`) is not changed, and of what does not show only the race is ever
asked.  A call that is late loses its race, and it loses it at the same time whatever it does
(`RunSetup.race_changed`).  So each attempt ends as it did and leaves a scene that shows the same
(`RunSetup.exists_attempt_changed`), and this goes on from attempts to runs
(`RunSetup.follows_changed`), to steps and to whole sessions (`Session.step_changed`,
`Session.steps_changed`).
-/

namespace AuctionHooks

variable {π : Type}

/-! ## Changing what calls do -/

/-- What some calls do instead of what they would have done.  A call is named by its hook and by how
often the hook was called before. -/
abbrev Changes (π : Type) := HookId → Nat → Option (Course π)

/-- A table with another value in every entry. -/
def Table.mapEntries {κ α β : Type} [Ord κ] (f : κ → α → β) (t : Table κ α) : Table κ β :=
  ⟨t.entries.map fun e => (e.1, f e.1 e.2), t.ascending.map _ fun _ _ h => h⟩

theorem Table.get?_mapEntries {κ α β : Type} [Ord κ] [DecidableEq κ] (f : κ → α → β)
    (t : Table κ α) (k : κ) : (t.mapEntries f).get? k = (t.get? k).map (f k) := by
  obtain ⟨entries, ascending⟩ := t
  show find k (entries.map fun e => (e.1, f e.1 e.2)) = (find k entries).map (f k)
  clear ascending
  induction entries with
  | nil => rfl
  | cons e rest ih =>
    rw [List.map_cons, find, find, ih]
    by_cases h : k = e.1
    · rw [if_pos h, if_pos h, h]
      rfl
    · rw [if_neg h, if_neg h]

section Changed

variable (changes : Changes π)

/-- A call with the changes, when the hook was called a number of times before. -/
def Launch.changed (n : Nat) (l : Launch π) : Launch π :=
  { l with course := (changes l.hook n).getD l.course }

def Hook.changed (id : HookId) (hook : Hook π) : Hook π :=
  { hook with
    course := fun n payload invocation =>
      (changes id n).getD (hook.course n payload invocation) }

def HookProvider.changed (provider : HookProvider π) : HookProvider π :=
  fun id => (provider id).map (Hook.changed changes id)

def RunSetup.changed (setup : RunSetup π) : RunSetup π :=
  { setup with provider := setup.provider.changed changes }

def Engine.changed (e : Engine π) : Engine π :=
  { e with catalog := ⟨e.catalog.hooks.mapEntries (Hook.changed changes)⟩ }

/-- A step with the changed hooks; the hooks of an engine step are those of the engine. -/
def SessionStep.changed : SessionStep π → SessionStep π
  | .group setup g => .group (setup.changed changes) g
  | .stage setup s entity groups => .stage (setup.changed changes) s entity groups
  | .engine s entity account invocations => .engine s entity account invocations
  | .wait ms => .wait ms

def Session.changed (s : Session π) : Session π := { s with engine := s.engine.changed changes }

/-- That a turn was late if there is a change to its call, and is late with the change. -/
def Turn.ChangedLate (t : Turn π) : Prop :=
  ∀ call ∈ t.call?, ∀ course ∈ changes t.hook (t.before.timeline.callsOf t.hook),
    t.record.status = .timeout ∧ course.Outlasts t.timeout

instance (t : Turn π) : Decidable (t.ChangedLate changes) :=
  inferInstanceAs (Decidable (∀ call ∈ t.call?, _))

end Changed

variable {changes : Changes π}

theorem Engine.resolve_changed (e : Engine π) :
    (e.changed changes).catalog.resolve = HookProvider.changed changes e.catalog.resolve := by
  funext id
  rw [HookProvider.changed, HookCatalog.resolve, HookCatalog.resolve, changed,
    Table.get?_mapEntries]
  cases e.catalog.hooks.get? id <;> rfl

theorem Engine.setupFor_changed (e : Engine π) (account : Option AccountConfig)
    (invocations : InvocationProvider) :
    (e.changed changes).setupFor account invocations =
      (e.setupFor account invocations).changed changes := by
  rw [setupFor, resolve_changed]
  rfl

/-! ## An attempt with the changes -/

namespace RunSetup

variable {scene' : Scene π}

theorem provider_changed (setup : RunSetup π) (changes : Changes π) (id : HookId) :
    (setup.changed changes).provider id = (setup.provider id).map (Hook.changed changes id) := rfl

theorem call?_changed (setup : RunSetup π) (slot : Slot) (payload : π) (scene : Scene π) :
    (setup.changed changes).call? slot payload scene =
      (setup.call? slot payload scene).map
        (Launch.changed changes (scene.timeline.callsOf slot.hook)) := by
  rw [call?, call?, provider_changed]
  cases setup.provider slot.hook <;> rfl

/-- A call that is late with and without the changes ends its race alike. -/
theorem race_changed {t : Turn π} {call : Launch π} (h : t.ChangedLate changes)
    (hc : t.call? = some call) :
    (call.changed changes (t.before.timeline.callsOf t.hook)).course.race t.timeout =
      call.course.race t.timeout := by
  have hhook : call.hook = t.hook := (eq_of_call? hc).1
  rw [Launch.changed, hhook]
  cases hchange : changes t.hook (t.before.timeline.callsOf t.hook) with
  | none => rfl
  | some course =>
    obtain ⟨hstatus, hlate⟩ := h call hc course hchange
    have hlate' : call.course.Outlasts t.timeout := (t.keepsTime.timeout_iff call hc).1 hstatus
    exact (Course.race_of_outlasts hlate).trans (Course.race_of_outlasts hlate').symm

/-- An attempt ends with the changes as it ended without them, if the change to its call, should
there be one, leaves the call late; and it leaves a scene that shows the same. -/
theorem exists_attempt_changed {t : Turn π} (hlate : t.ChangedLate changes)
    (hscene : scene'.muted = t.before.muted) :
    ∃ after', (t.setup.changed changes).attempt t.timeout t.hook t.payload scene' =
        (.ok t.attempt, after') ∧ after'.muted = t.after.muted := by
  rcases t.cases_call? with ⟨e, hp, -, hattempt, hafter⟩ | ⟨call, hc, ho, hattempt, -⟩
  · -- Where there was no hook there is none to change.
    have hp' : (t.setup.changed changes).provider t.hook = .error e := by
      rw [provider_changed, hp]
      rfl
    rw [hattempt, hafter]
    exact ⟨scene', (attempt_of_error hp').2, hscene⟩
  · have hc' : (t.setup.changed changes).call? t.toSlot t.payload scene' =
        some (call.changed changes (t.before.timeline.callsOf t.hook)) := by
      rw [call?_changed, call?_eq_of_muted hscene, Scene.callsOf_eq_of_muted hscene]
      exact congrArg (Option.map _) hc
    have ho' : scene'.timeline.runtime.obstacle? = none := by
      rw [Scene.runtime_eq_of_muted hscene]
      exact ho
    -- The race is all that the changed call could have an influence on.
    have hrace := race_changed hlate hc
    have hmade := attempt_of_ready hc' ho'
    rw [hrace, ← hattempt] at hmade
    exact ⟨_, hmade, Turn.muted_after hscene hc rfl (congrArg Prod.snd hrace) rfl⟩

/-- **With late calls changed, every attempt ends as it did**, and leaves a scene that shows the
same. -/
theorem follows_changed (setup : RunSetup π) (changes : Changes π) :
    setup.Follows (fun s s' => s'.muted = s.muted) (Turn.ChangedLate changes)
      (setup.changed changes) where
  rejectAllowed := rfl
  isOn _ := rfl
  stopped hscene h := by
    refine takeTurn_error_of_muted hscene ?_ h
    rw [call?_changed, Option.isSome_map]
  taken := by
    rintro t scene' rfl hlate hscene
    obtain ⟨after', hmade, hafter⟩ := exists_attempt_changed hlate hscene
    obtain ⟨t', ht', hattempt, rfl⟩ := exists_takeTurn hmade
    exact ⟨t', ht', hattempt, hafter⟩

end RunSetup

/-! ## Sessions with the changes -/

namespace Session

/-- That a session echoes another one in an engine with changed hooks: nothing that shows is
different. -/
structure Echoes (changes : Changes π) (s s' : Session π) : Prop where
  engine : s'.engine = s.engine.changed changes
  scene : s'.scene.muted = s.scene.muted
  monitor : s'.monitor = s.monitor
  payload : s'.payload = s.payload

variable {s s' : Session π}

/-- **A step with late calls changed gives the same answer** and leaves a session that shows the
same. -/
theorem step_changed {step : SessionStep π} (h : s.Echoes changes s')
    (hlate : ∀ t ∈ s.turnsOfStep step, t.ChangedLate changes) :
    (s'.step (step.changed changes)).1 = (s.step step).1 ∧
      (s.step step).2.Echoes changes (s'.step (step.changed changes)).2 := by
  obtain ⟨hengine, hscene, hmonitor, hpayload⟩ := h
  cases step with
  | group setup group =>
    rw [SessionStep.changed, Session.step, Session.step, hpayload]
    rcases ((setup.follows_changed changes).runGroup group hscene hlate).cases with
      ⟨e, after, after', hrun, hrun', hafter⟩ | ⟨result, after, after', hrun, hrun', hafter⟩
    · rw [hrun, hrun']
      exact ⟨rfl, hengine, hafter, hmonitor, rfl⟩
    · rw [hrun, hrun']
      exact ⟨rfl, hengine, hafter, hmonitor, rfl⟩
  | stage setup stage entity groups =>
    have hfollows : (setup.atStage stage).Follows (fun s s' => s'.muted = s.muted)
        (Turn.ChangedLate changes) ((setup.changed changes).atStage stage) :=
      (setup.atStage stage).follows_changed changes
    rw [SessionStep.changed, Session.step, Session.step, hpayload]
    rcases (hfollows.runStage Scene.muted_recordStage entity groups hscene hlate).cases with
      ⟨e, after, after', hrun, hrun', hafter⟩ | ⟨result, after, after', hrun, hrun', hafter⟩
    · rw [hrun, hrun']
      exact ⟨rfl, hengine, hafter, hmonitor, rfl⟩
    · rw [hrun, hrun']
      exact ⟨rfl, hengine, hafter, hmonitor, rfl⟩
  | engine stage entity account invocations =>
    have hfollows : ((s.engine.setupFor account invocations).atStage stage).Follows
        (fun s s' => s'.muted = s.muted) (Turn.ChangedLate changes)
        ((s'.engine.setupFor account invocations).atStage stage) := by
      rw [hengine, Engine.setupFor_changed]
      exact ((s.engine.setupFor account invocations).atStage stage).follows_changed changes
    have hgroups : (s'.engine.planFor account).groupsFor s'.scene.request.endpoint stage =
        (s.engine.planFor account).groupsFor s.scene.request.endpoint stage := by
      rw [hengine, Scene.request_eq_of_muted hscene]
      rfl
    rw [SessionStep.changed, Session.step, Session.step, hpayload, hmonitor]
    rcases (hfollows.runStage Scene.muted_recordStage entity _ hscene hlate).cases with
      ⟨e, after, after', hrun, hrun', hafter⟩ | ⟨result, after, after', hrun, hrun', hafter⟩
    · rw [← hgroups] at hrun'
      rw [Engine.executeStage_of_error hrun, Engine.executeStage_of_error hrun']
      exact ⟨rfl, hengine, hafter, rfl, rfl⟩
    · rw [← hgroups] at hrun'
      rw [Engine.executeStage_of_ok hrun, Engine.executeStage_of_ok hrun',
        Scene.now_eq_of_muted hafter]
      exact ⟨rfl, hengine, hafter, rfl, rfl⟩
  | wait ms =>
    obtain ⟨hrequest, htimeline⟩ := Scene.muted_eq_iff.1 hscene
    have hwaited : (s'.scene.timeline.wait ms).muted = (s.scene.timeline.wait ms).muted := by
      rw [Timeline.muted_wait, Timeline.muted_wait, htimeline]
    exact ⟨rfl, hengine, Scene.muted_eq_iff.2 ⟨hrequest, hwaited⟩, hmonitor, hpayload⟩

/-- **Steps with late calls changed** give the same answers. -/
theorem steps_changed {steps : List (SessionStep π)} (h : s.Echoes changes s')
    (hlate : ∀ t ∈ s.turns steps, t.ChangedLate changes) :
    (s'.steps (steps.map (SessionStep.changed changes))).1 = (s.steps steps).1 ∧
      (s.steps steps).2.Echoes changes (s'.steps (steps.map (SessionStep.changed changes))).2 := by
  induction steps generalizing s s' with
  | nil => exact ⟨rfl, h⟩
  | cons first rest ih =>
    obtain ⟨hanswer, hfirst⟩ := step_changed h fun t ht => hlate t (List.mem_append_left _ ht)
    obtain ⟨hanswers, hrest⟩ := ih hfirst fun t ht => hlate t (List.mem_append_right _ ht)
    exact ⟨List.cons_eq_cons.2 ⟨hanswer, hanswers⟩, hrest⟩

/-- **What a late call does is never found out.**  Let some of the calls of a session be changed that
have timed out, in any way that leaves them late.  Then all steps give the same answers and leave the
same payload, the same request with all that the modules keep and with its log, the same statistics
and the same recorder, and they take the same time; and the same calls begin, in the same order, at
the same times, with the same payloads and circumstances. -/
theorem steps_of_changed_late (s : Session π) (steps : List (SessionStep π)) (changes : Changes π)
    (h : ∀ t ∈ s.turns steps, t.ChangedLate changes) :
    let after := (s.steps steps).2
    let after' := ((s.changed changes).steps (steps.map (SessionStep.changed changes))).2
    ((s.changed changes).steps (steps.map (SessionStep.changed changes))).1 = (s.steps steps).1 ∧
      after'.payload = after.payload ∧ after'.scene.request = after.scene.request ∧
      after'.monitor = after.monitor ∧ after'.scene.timeline.now = after.scene.timeline.now ∧
      after'.drained.scene.timeline.started.map Start.muted =
        after.drained.scene.timeline.started.map Start.muted := by
  intro after after'
  have hbegin : s.Echoes changes (s.changed changes) := ⟨rfl, rfl, rfl, rfl⟩
  obtain ⟨hanswers, -, hscene, hmonitor, hpayload⟩ := steps_changed hbegin h
  obtain ⟨hrequest, htimeline⟩ := Scene.muted_eq_iff.1 hscene
  have hdrained : after'.scene.timeline.letRun.muted = after.scene.timeline.letRun.muted := by
    rw [Timeline.muted_letRun, Timeline.muted_letRun, htimeline]
  exact ⟨hanswers, hpayload, hrequest, hmonitor, Scene.now_eq_of_muted hscene,
    congrArg Timeline.started hdrained⟩

/-- A session in an engine whose only hook takes ten milliseconds of which it has five. -/
def drowsy : Session Nat where
  engine :=
    { config :=
        { hostPlan := ⟨Table.ofList [("/auction", ⟨Table.ofList
            [(.entrypoint, ⟨[⟨5, [⟨"slow", "a"⟩]⟩]⟩)]⟩)]⟩ }
      catalog := ({} : HookCatalog Nat).register "slow" ⟨"a", fun _ _ _ => .finishes 10 .nothing⟩ }
  scene := ⟨⟨default, "/auction", default, ∅, ∅⟩, default⟩
  monitor := { recorder := some {} }
  payload := 0

/-- The slow hook is called by itself and through the engine, and another one without any time. -/
def drowsySteps : List (SessionStep Nat) :=
  [.group dawdlers ⟨5, [⟨"slow", "a"⟩, ⟨"quick", "a"⟩]⟩,
    .engine .entrypoint "auction" none (.atEndpoint "/auction"),
    .stage dawdlers .entrypoint "auction" [⟨0, [⟨"quick", "b"⟩]⟩, ⟨5, [⟨"quick", "a"⟩]⟩],
    .wait 1]

/-- The slow hook is done while the next one runs, with a result that rejects the request; called
again it never finishes; and the hook without time breaks down. -/
def drowsyChanges : Changes Nat := fun hook n =>
  if hook = ⟨"slow", "a"⟩ then
    if n = 0 then some (.finishes 6 (.result { payload := some 7, reject := true })) else some .hangs
  else if hook = ⟨"quick", "b"⟩ then some (.collapses none)
  else none

/-- Three of the five calls are changed, and nothing comes of it. -/
theorem steps_of_changed_late_drowsy :
    (∀ t ∈ drowsy.turns drowsySteps, t.ChangedLate drowsyChanges) ∧
    ((drowsy.changed drowsyChanges).steps
        (drowsySteps.map (SessionStep.changed drowsyChanges))).1 =
      (drowsy.steps drowsySteps).1 ∧
    ((drowsy.steps drowsySteps).1.flatMap SessionAnswer.groupOutcomes).map
        (fun g => g.hooks.map HookOutcome.status) =
      [[.timeout, .success], [.timeout], [.timeout], [.success]] := by
  have hlate : ∀ t ∈ drowsy.turns drowsySteps, t.ChangedLate drowsyChanges := by decide
  exact ⟨hlate, (steps_of_changed_late drowsy drowsySteps drowsyChanges hlate).1, rfl⟩

end Session

end AuctionHooks
