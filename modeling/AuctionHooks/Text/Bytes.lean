/-!
# Places in a text, counted in bytes

A place in a text may be given by the number of bytes in front of it, where every character takes as
many bytes as its encoding in UTF-8 has.  A text can be parted at a place unless the place lies
within a character or beyond the end, and the parts are then those whose sizes fit
(`splitAt?_eq_some_iff`).
-/

namespace AuctionHooks.Text

/-- The number of bytes that characters take. -/
def size : List Char → Nat
  | [] => 0
  | c :: rest => c.utf8Size + size rest

@[simp] theorem size_nil : size [] = 0 := rfl

@[simp] theorem size_cons (c : Char) (cs : List Char) : size (c :: cs) = c.utf8Size + size cs := rfl

/-- The characters in front of a place and those behind it. -/
def splitAt? : Nat → List Char → Option (List Char × List Char)
  | 0, cs => some ([], cs)
  | _ + 1, [] => none
  | n + 1, c :: rest => do
    if n + 1 < c.utf8Size then none
    else
      let (front, back) ← splitAt? (n + 1 - c.utf8Size) rest
      some (c :: front, back)

/-- What follows a place. -/
def behind? (place : Nat) (cs : List Char) : Option (List Char) := (·.2) <$> splitAt? place cs

/-- What stands between two places. -/
def between? (start stop : Nat) (cs : List Char) : Option (List Char) := do
  let (_, rest) ← splitAt? start cs
  let (part, _) ← splitAt? (stop - start) rest
  some part

theorem splitAt?_size_append (front back : List Char) :
    splitAt? (size front) (front ++ back) = some (front, back) := by
  induction front with
  | nil => simp [splitAt?]
  | cons c front ih =>
    obtain ⟨n, hn⟩ : ∃ n, size (c :: front) = n + 1 :=
      ⟨c.utf8Size + size front - 1, by have := c.utf8Size_pos; simp only [size_cons]; omega⟩
    have hsize : n + 1 - c.utf8Size = size front := by simp only [size_cons] at hn; omega
    have hfit : ¬ n + 1 < c.utf8Size := by simp only [size_cons] at hn; omega
    rw [hn, List.cons_append, splitAt?, if_neg hfit, hsize, ih]
    rfl

theorem eq_append_of_splitAt? {n : Nat} {cs front back : List Char}
    (h : splitAt? n cs = some (front, back)) : cs = front ++ back ∧ size front = n := by
  induction cs generalizing n front back with
  | nil =>
    cases n with
    | zero => simp_all [splitAt?]
    | succ n => simp [splitAt?] at h
  | cons c rest ih =>
    cases n with
    | zero => simp_all [splitAt?]
    | succ n =>
      rw [splitAt?] at h
      split at h
      · simp at h
      · next hfit =>
        cases hs : splitAt? (n + 1 - c.utf8Size) rest with
        | none => simp [hs] at h
        | some e =>
          obtain ⟨front', back'⟩ := e
          obtain ⟨rfl, hsize⟩ := ih hs
          simp only [hs, Option.bind_eq_bind, Option.bind_some, Option.some.injEq,
            Prod.mk.injEq] at h
          obtain ⟨rfl, rfl⟩ := h
          exact ⟨rfl, by simp only [size_cons, hsize]; omega⟩

/-- A text is parted at a place into the two parts of which the first has the size of the place. -/
theorem splitAt?_eq_some_iff {n : Nat} {cs front back : List Char} :
    splitAt? n cs = some (front, back) ↔ cs = front ++ back ∧ size front = n :=
  ⟨eq_append_of_splitAt?, fun ⟨hcs, hn⟩ => by rw [hcs, ← hn, splitAt?_size_append]⟩

end AuctionHooks.Text
