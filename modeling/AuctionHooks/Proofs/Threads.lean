/-!
# Quantities that are handed on

A run is a list of turns, and much of what is to be said about it has one form: some quantity, say
the payload or what a module keeps, is *found* by each turn as the turn before it has *left* it.
`Threads found left b ts c` says so of a whole list, from what the first turn finds to what the last
one leaves.

## Main statements

* `Threads.append`, `Threads.upTo`: quantities are handed on across a cut.
* `Threads.eq_of_unchanged`: what no turn changes stays as it is.
* `Threads.found_eq_latest`, `Threads.eq_latest`: if a turn either supplies a new value or leaves
  the old one, then what is found is the latest value that was supplied.
* `Threads.eq_append`: if each turn adds something at the end, all of it is there at the end.
-/

namespace AuctionHooks

variable {τ β γ : Type}

/-- Each turn finds what the turn before it has left: the first of them `b`, and the last of them
leaves `c`. -/
inductive Threads (found left : τ → β) : β → List τ → β → Prop where
  | nil (b : β) : Threads found left b [] b
  | cons {b c : β} {t : τ} {ts : List τ} (finds : found t = b)
      (rest : Threads found left (left t) ts c) : Threads found left b (t :: ts) c

/-- The latest value that a list of turns has supplied, or else the one at the beginning. -/
def latest (supplied? : τ → Option β) (initial : β) (ts : List τ) : β :=
  (ts.filterMap supplied?).getLastD initial

theorem latest_cons (supplied? : τ → Option β) (initial : β) (t : τ) (ts : List τ) :
    latest supplied? initial (t :: ts) =
      latest supplied? ((supplied? t).getD initial) ts := by
  cases ht : supplied? t with
  | none => rw [latest, List.filterMap_cons_none ht, Option.getD_none, latest]
  | some v => rw [latest, List.filterMap_cons_some ht, List.getLastD_cons, Option.getD_some, latest]

namespace Threads

variable {found left : τ → β} {b c d : β} {ts us : List τ}

theorem append (h : Threads found left b ts c) (h' : Threads found left c us d) :
    Threads found left b (ts ++ us) d := by
  induction h with
  | nil => exact h'
  | cons finds _ ih => exact cons finds (ih h')

/-- What a turn in the middle finds is what the turns before it have left. -/
theorem upTo {t : τ} (h : Threads found left b (ts ++ t :: us) d) :
    Threads found left b ts (found t) := by
  induction ts generalizing b with
  | nil =>
    cases h with
    | cons finds _ =>
      rw [finds]
      exact nil b
  | cons t' ts ih =>
    cases h with
    | cons finds rest => exact cons finds (ih rest)

/-- What is read off a quantity that is handed on is handed on as well. -/
theorem map (g : β → γ) (h : Threads found left b ts c) :
    Threads (fun t => g (found t)) (fun t => g (left t)) (g b) ts (g c) := by
  induction h with
  | nil b => exact nil (g b)
  | cons finds _ ih => exact cons (congrArg g finds) ih

/-- What no turn changes is left as it was found. -/
theorem eq_of_unchanged (hleft : ∀ t, left t = found t) (h : Threads found left b ts c) :
    c = b := by
  induction h with
  | nil => rfl
  | @cons b c t ts finds _ ih => rw [ih, hleft t, finds]

/-- **What is left is the latest value supplied.** -/
theorem eq_latest {supplied? : τ → Option β}
    (hleft : ∀ t, left t = (supplied? t).getD (found t)) (h : Threads found left b ts c) :
    c = latest supplied? b ts := by
  induction h with
  | nil => rfl
  | cons finds _ ih => rw [ih, latest_cons, hleft, finds]

/-- **What a turn finds is the latest value supplied before it.** -/
theorem found_eq_latest {supplied? : τ → Option β} {t : τ}
    (hleft : ∀ t, left t = (supplied? t).getD (found t))
    (h : Threads found left b (ts ++ t :: us) d) : found t = latest supplied? b ts :=
  h.upTo.eq_latest hleft

/-- Of turns that each add something at the end, all additions are there at the end. -/
theorem eq_append {found left : τ → List β} {b c : List β} {added? : τ → Option β}
    (hleft : ∀ t, left t = found t ++ (added? t).toList) (h : Threads found left b ts c) :
    c = b ++ ts.filterMap added? := by
  induction h with
  | nil b => rw [List.filterMap_nil, List.append_nil]
  | @cons b c t ts finds _ ih =>
    rw [ih, hleft, finds, List.append_assoc]
    cases ht : added? t with
    | none => rw [List.filterMap_cons_none ht, Option.toList_none, List.nil_append]
    | some v => rw [List.filterMap_cons_some ht, Option.toList_some, List.singleton_append]

end Threads

end AuctionHooks
