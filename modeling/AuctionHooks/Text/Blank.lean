/-!
# White space

Names in a configuration are read with the white space around them taken away, and a name that is
nothing but white space counts as missing.  White space means the Unicode property `White_Space`:
twenty-five characters, among them the line separators and the ideographic space, but neither the
zero-width space nor the byte-order mark.
-/

namespace AuctionHooks.Text

/-- The white-space characters, as ranges of code points, both ends included. -/
def blankRanges : List (Nat × Nat) :=
  [(0x9, 0xD), (0x20, 0x20), (0x85, 0x85), (0xA0, 0xA0), (0x1680, 0x1680), (0x2000, 0x200A),
    (0x2028, 0x2029), (0x202F, 0x202F), (0x205F, 0x205F), (0x3000, 0x3000)]

def isBlankChar (c : Char) : Bool :=
  blankRanges.any fun r => r.1 ≤ c.toNat && c.toNat ≤ r.2

def trimFront (cs : List Char) : List Char := cs.dropWhile isBlankChar

def trimChars (cs : List Char) : List Char :=
  (trimFront (trimFront cs).reverse).reverse

/-- Whether a text holds nothing but white space. -/
def isBlank (s : String) : Bool := s.toList.all isBlankChar

/-- There are twenty-five white-space characters. -/
example : (blankRanges.map fun r => r.2 + 1 - r.1).sum = 25 := rfl

/-- What is left after trimming begins with no white space. -/
theorem not_isBlankChar_of_trimFront_eq_cons {cs rest : List Char} {c : Char}
    (h : trimFront cs = c :: rest) : isBlankChar c = false := by
  induction cs with
  | nil => simp [trimFront] at h
  | cons d cs ih =>
    rw [trimFront, List.dropWhile_cons] at h
    split at h
    · exact ih h
    · next hd =>
      obtain ⟨rfl, -⟩ := List.cons.inj h
      simpa using hd

end AuctionHooks.Text
