import AuctionHooks.Request
import AuctionHooks.Run.Timeline

/-!
# What a run works on

A run of hooks changes two things: the context of the request, and the timeline.  Together they are
a `Scene`.  A run either succeeds or is stopped by an `EngineError`, and in both cases it leaves a
scene behind, for what was done before the error stays done.
-/

namespace AuctionHooks

/-- The request and the timeline that a run works on. -/
structure Scene (π : Type) where
  request : Request
  timeline : Timeline π
  deriving DecidableEq, Inhabited

/-- How a run ended, and what it left behind. -/
abbrev Ended (σ α : Type) := Except EngineError α × σ

namespace Ended

variable {σ α β : Type}

/-- Goes on after a success; after an error there is nothing to go on with. -/
def andThen (r : Ended σ α) (next : α → σ → Ended σ β) : Ended σ β :=
  match r with
  | (.ok a, s) => next a s
  | (.error e, s) => (.error e, s)

@[simp] theorem andThen_ok (a : α) (s : σ) (next : α → σ → Ended σ β) :
    andThen (.ok a, s) next = next a s := rfl

@[simp] theorem andThen_error (e : EngineError) (s : σ) (next : α → σ → Ended σ β) :
    andThen (.error e, s) next = (.error e, s) := rfl

/-- A chain succeeds just if its first part does and what goes on from there does. -/
theorem andThen_eq_ok_iff {r : Ended σ α} {next : α → σ → Ended σ β} {b : β} {t : σ} :
    r.andThen next = (.ok b, t) ↔ ∃ a s, r = (.ok a, s) ∧ next a s = (.ok b, t) := by
  obtain ⟨_ | a, s⟩ := r
  · simp
  · constructor
    · intro h
      exact ⟨a, s, rfl, h⟩
    · rintro ⟨a', s', h, h'⟩
      obtain ⟨rfl, rfl⟩ : a = a' ∧ s = s' := by simpa using h
      exact h'

end Ended

end AuctionHooks
