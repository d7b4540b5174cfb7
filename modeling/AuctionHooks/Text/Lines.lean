/-!
# Lines of a text

A text that goes to a stream arrives there as lines.  Every line ends with a line feed, in front of
which a carriage return may stand, and a further line feed stands behind the text.  So a text has
one line more than line feeds, and the last one may be empty.
-/

namespace AuctionHooks.Text

/-- The lines of a text, without the signs that end them. -/
def splitLines : List Char → List (List Char)
  | [] | ['\r'] => [[]]
  | '\n' :: rest | '\r' :: '\n' :: rest => [] :: splitLines rest
  | c :: rest =>
    match splitLines rest with
    | [] => [[c]]
    | line :: more => (c :: line) :: more

def lines (s : String) : List String := (splitLines s.toList).map String.ofList

/-- A text without line feeds is one line, unless a carriage return ends it. -/
theorem splitLines_eq_singleton {cs : List Char} (h : '\n' ∉ cs) (hr : cs.getLast? ≠ some '\r') :
    splitLines cs = [cs] := by
  induction cs with
  | nil => rfl
  | cons c rest ih =>
    have hn : '\n' ∉ rest := fun m => h (List.mem_cons_of_mem _ m)
    have hl : rest.getLast? ≠ some '\r' := by
      cases rest with
      | nil => simp
      | cons d more => rwa [List.getLast?_cons_cons] at hr
    rw [splitLines.eq_def]
    split
    · simp_all
    · simp_all
    · simp_all
    · simp_all
    · next d more _ _ _ e =>
      obtain ⟨rfl, rfl⟩ := List.cons.inj e
      rw [ih hn hl]

end AuctionHooks.Text
