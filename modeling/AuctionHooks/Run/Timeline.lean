import AuctionHooks.Invocation

/-!
# Time, and the calls that are under way

Every hook runs as a task of its own, and whoever runs it waits for the task or for the time limit,
whichever comes first.  A `Timeline` is what such a run needs to know of the world outside the
request: the time, the calls that have begun, and the calls that were handed over but have not
begun yet.

## Timers

Time is waited for by setting a timer, and a timer takes thirty years of 365 days at most
(`Timer.longest`).  One that is set to more goes off after thirty years, be it the timer of a limit,
of a call or of a session that waits.

## Who wins the race

A call that takes `d` milliseconds under a limit of `T` finishes if its timer goes off before that
of the limit; if a timer takes both times, this means `d < T`, and at `d = T` the limit wins
(`Course.race`).  A call that loses is not stopped.  It runs on in the background, but no one
listens any more, so the timeline does not follow it further.

## Calls that wait

A task begins when the one who handed it over waits for something.  Under a limit of zero nobody
waits: the race is lost at once, and the task begins when the session waits the next time, at the
same point in time, because time passes only while the session waits.  `Timeline.waiting` holds
such calls, and `Timeline.letRun` lets them begin in the order in which they were handed over.

## What is left out

A runtime does not change while hooks run on it.  In particular none shuts down, so no task is
cancelled under those who wait for it; whoever waited would record a fault, with a text of the
runtime's own.
-/

namespace AuctionHooks

/-- What there is to run hooks on.  What a runtime says of itself is not fixed here. -/
inductive Runtime where
  | ready
  /-- Tasks can be run, but whoever sets a timer breaks down, with a message or without one. -/
  | withoutTimers (message : Option String := none)
  /-- There is nothing to run a task on, and whoever asks for it is told so. -/
  | absent (complaint : String := "")
  deriving DecidableEq, Inhabited, Repr

/-- What is shown of a breakdown: what it has come to, and its message if it has one. -/
def breakdownText (effect : String) : Option String → String
  | some message => effect ++ ": " ++ message
  | none => effect

/-- Why the runtime cannot run a hook under a time limit, if it cannot. -/
def Runtime.obstacle? : Runtime → Option EngineError
  | ready => none
  | withoutTimers message => some (.scheduling (breakdownText "timer unavailable" message))
  | absent complaint => some (.scheduling complaint)

/-- The most milliseconds that a timer takes: thirty years of 365 days. -/
def Timer.longest : Nat := 946080000000

def Timer.span (ms : Nat) : Nat := min ms longest

/-- A timer that is set to what it takes is exact. -/
theorem Timer.span_eq_self {ms : Nat} (h : ms ≤ longest) : span ms = ms := Nat.min_eq_left h

/-- The race of a call against its time limit: the answer, if the call finishes in time, and the
milliseconds that the race takes. -/
def Course.race {π : Type} (timeout : UInt64) (course : Course π) : Option (Answer π) × UInt64 :=
  let limit := Timer.span timeout.toNat
  match course with
  | finishes delay answer =>
    let span := Timer.span delay
    if span < limit then (some answer, span.toUInt64) else (none, limit.toUInt64)
  -- It breaks down at once, but a limit of zero is over before the call begins.
  | collapses message => if 0 < limit then (some (.panic message), 0) else (none, 0)
  | hangs => (none, limit.toUInt64)

/-- A call that is handed over to be run. -/
structure Launch (π : Type) where
  hook : HookId
  payload : π
  invocation : Invocation
  course : Course π
  deriving DecidableEq

/-- A call that has begun. -/
structure Start (π : Type) where
  /-- When it began, in milliseconds. -/
  time : Nat
  launch : Launch π
  deriving DecidableEq

/-- When a call finishes, if it does, whether anyone listens or not. -/
def Start.finishTime? {π : Type} (s : Start π) : Option Nat :=
  match s.launch.course with
  | .finishes delay _ => some (s.time + Timer.span delay)
  | .collapses _ | .hangs => none

/-- The time and the calls that are under way. -/
structure Timeline (π : Type) where
  runtime : Runtime := .ready
  now : Nat := 0
  /-- The calls that have begun, in the order in which they did. -/
  started : List (Start π) := []
  /-- The calls that begin when the session waits the next time. -/
  waiting : List (Launch π) := []
  deriving DecidableEq, Inhabited

namespace Timeline

variable {π : Type}

/-- The calls that were handed over so far, in the order in which they were. -/
def launches (t : Timeline π) : List (Launch π) := t.started.map Start.launch ++ t.waiting

def callsOf (t : Timeline π) (hook : HookId) : Nat := t.launches.countP (·.hook = hook)

def letRun (t : Timeline π) : Timeline π :=
  { t with started := t.started ++ t.waiting.map fun l => ⟨t.now, l⟩, waiting := [] }

def wait (t : Timeline π) (ms : Nat) : Timeline π := { t.letRun with now := t.now + Timer.span ms }

def handOver (t : Timeline π) (l : Launch π) : Timeline π := { t with waiting := t.waiting ++ [l] }

/-- Runs a call under a time limit: the answer, if there is one in time, and the milliseconds that
went by.  Under a limit of zero nobody waits for the call. -/
def run (t : Timeline π) (timeout : UInt64) (l : Launch π) :
    Except EngineError (Option (Answer π) × UInt64) × Timeline π :=
  match t.runtime.obstacle? with
  | some e => (.error e, t)
  | none =>
    let verdict := l.course.race timeout
    let t := t.handOver l
    (.ok verdict, if timeout = 0 then t else t.wait verdict.2.toNat)

end Timeline

end AuctionHooks
