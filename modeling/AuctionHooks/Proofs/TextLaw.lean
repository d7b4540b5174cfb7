import AuctionHooks.Document.Json.Printer
import AuctionHooks.Document.Json.Reader
import Mathlib.Data.Nat.Digits.Defs

/-!
# Texts and numbers are read as they were written

The leaves of a JSON document are texts and natural numbers, and the two are read in different ways.
Where a text ends is said by the text itself, so `readText` takes what was written of one from the front
of any list of characters.  A number ends where something else begins, so it depends on what follows it;
in the documents that this library writes, that is a comma, a closing bracket or nothing (`Closes`).

## Characters, one by one

`escape` writes a character in one of three ways, and `readTokens` meets all three with a token of its
own.  Nothing later depends on which it is: a character has *a* token that is read where the character
was written and denotes it (`exists_token`).

## Main statements

* `readText_flatMap_escape`: a text is read as it was written.
* `readNumeral_writeNatural`, `value_of_gather`: so is a natural number.
-/

namespace AuctionHooks.Json

/-! ## Texts -/

theorem hexValue?_hexDigit {n : Nat} (h : n < 16) : hexValue? (hexDigit n) = some n := by
  have hall : ∀ m : Fin 16, hexValue? (hexDigit m.val) = some m.val := by decide
  exact hall ⟨n, h⟩

theorem unitOfHex?_hexDigit {n : Nat} (h : n < 32) :
    unitOfHex? '0' '0' (hexDigit (n / 16)) (hexDigit (n % 16)) = some n := by
  have hzero : hexValue? '0' = some 0 := by decide
  rw [unitOfHex?, hzero, hexValue?_hexDigit (by omega), hexValue?_hexDigit (by omega)]
  show some (((0 * 16 + 0) * 16 + n / 16) * 16 + n % 16) = some n
  congr 1
  omega

/-- A unit that is no half of a surrogate pair denotes a character by itself. -/
theorem joinTokens_unit {n : Nat} (h : n < 0xD800) (ts : List TextToken) :
    joinTokens (.unit n :: ts) = (Char.ofNat n :: ·) <$> joinTokens ts := by
  have hhigh : isHighSurrogate n = false := by
    rw [isHighSurrogate, Bool.and_eq_false_iff]
    exact .inl (decide_eq_false (by omega))
  have hlow : isLowSurrogate n = false := by
    rw [isLowSurrogate, Bool.and_eq_false_iff]
    exact .inl (decide_eq_false (by omega))
  match ts with
  | [] | .char _ :: _ | .unit _ :: _ => simp [joinTokens, hhigh, hlow]

/-- A short escape is read as the character that it denotes. -/
theorem readTokens_short {e c : Char} (h : shortEscape? e = some c) (rest : List Char) :
    readTokens ('\\' :: e :: rest) = consToken (.char c) <$> readTokens rest := by
  have hne : e ≠ 'u' := by
    rintro rfl
    cases h
  rw [readTokens, h]
  · rfl
  · intro _ _ _ _ _ he _
    exact hne he

theorem readTokens_plain {c : Char} (hquote : c ≠ '"') (hback : c ≠ '\\') (hcontrol : ¬c < ' ')
    (rest : List Char) : readTokens (c :: rest) = consToken (.char c) <$> readTokens rest := by
  rw [readTokens, if_neg (not_or.2 ⟨hcontrol, hback⟩)]
  · exact hquote
  · intro _ _ _ _ _ hc
    exact absurd hc hback
  · intro _ _ hc
    exact absurd hc hback

/-- The three ways in which a character is written. -/
theorem escape_cases (c : Char) :
    (∃ e, escape c = ['\\', e] ∧ shortEscape? e = some c) ∨
    (c < ' ' ∧
      escape c = ['\\', 'u', '0', '0', hexDigit (c.toNat / 16), hexDigit (c.toNat % 16)]) ∨
    (escape c = [c] ∧ c ≠ '"' ∧ c ≠ '\\' ∧ ¬c < ' ') := by
  unfold escape
  split_ifs with hquote hback
  all_goals first
    | subst_vars; exact .inl ⟨_, rfl, rfl⟩
    | exact .inr (.inl ⟨‹_›, rfl⟩)
    | exact .inr (.inr ⟨rfl, hquote, hback, ‹_›⟩)

/-- That a token stands for a character: it is read where the character was written, whatever follows,
and denotes it. -/
structure TextToken.StandsFor (t : TextToken) (c : Char) : Prop where
  read : ∀ rest, readTokens (escape c ++ rest) = consToken t <$> readTokens rest
  denotes : ∀ ts, joinTokens (t :: ts) = (c :: ·) <$> joinTokens ts

/-- **Each character has a token.** -/
theorem exists_token (c : Char) : ∃ t : TextToken, t.StandsFor c := by
  rcases escape_cases c with ⟨e, hescape, hshort⟩ | ⟨hcontrol, hescape⟩ | ⟨hescape, hplain⟩
  · refine ⟨.char c, fun rest => ?_, fun ts => rfl⟩
    rw [hescape]
    exact readTokens_short hshort rest
  · have hlt : c.toNat < 32 := hcontrol
    refine ⟨.unit c.toNat, fun rest => ?_, fun ts => ?_⟩
    · rw [hescape]
      show ((unitOfHex? _ _ _ _).bind fun n => consToken (.unit n) <$> readTokens rest) = _
      rw [unitOfHex?_hexDigit hlt, Option.bind_some]
    · rw [joinTokens_unit (by omega), Char.ofNat_toNat]
  · refine ⟨.char c, fun rest => ?_, fun ts => rfl⟩
    rw [hescape]
    exact readTokens_plain hplain.1 hplain.2.1 hplain.2.2 rest

/-- The characters of a text are read up to the closing quotation mark. -/
theorem exists_tokens (cs rest : List Char) :
    ∃ ts, readTokens (cs.flatMap escape ++ '"' :: rest) = some (ts, rest) ∧
      joinTokens ts = some cs := by
  induction cs with
  | nil => exact ⟨[], rfl, rfl⟩
  | cons c cs ih =>
    obtain ⟨ts, hread, hjoin⟩ := ih
    obtain ⟨t, ht⟩ := exists_token c
    refine ⟨t :: ts, ?_, ?_⟩
    · rw [List.flatMap_cons, List.append_assoc, ht.read, hread]
      rfl
    · rw [ht.denotes, hjoin]
      rfl

/-- **A text is read as it was written**, whatever follows it. -/
theorem readText_flatMap_escape (s : String) (rest : List Char) :
    readText (s.toList.flatMap escape ++ '"' :: rest) = some (some s, rest) := by
  obtain ⟨ts, hread, hjoin⟩ := exists_tokens s.toList rest
  rw [readText, hread]
  show some (String.ofList <$> joinTokens ts, rest) = _
  rw [hjoin]
  show some (some (String.ofList s.toList), rest) = _
  rw [String.ofList_toList]

/-! ## Numbers -/

namespace Numeral

/-- Digits raise what they are appended to. -/
theorem le_ofDigitChars (cs : List Char) (n : Nat) : n ≤ Nat.ofDigitChars 10 cs n := by
  induction cs generalizing n with
  | nil => exact Nat.le_refl n
  | cons c cs ih => exact Nat.le_trans (by omega) (ih (10 * n + (c.toNat - '0'.toNat)))

/-- Digits are gathered without loss if the number that they denote is small enough. -/
theorem gather_map_digitValue {cs : List Char} {n : Nat}
    (h : Nat.ofDigitChars 10 cs n < 2 ^ 64) :
    gather n (cs.map digitValue) = (Nat.ofDigitChars 10 cs n, 0) := by
  induction cs generalizing n with
  | nil => rfl
  | cons c cs ih =>
    have hnext : n * 10 + digitValue c = 10 * n + (c.toNat - '0'.toNat) := by
      rw [Nat.mul_comm, digitValue]
    have hlt : n * 10 + digitValue c < 2 ^ 64 := by
      rw [hnext]
      exact Nat.lt_of_le_of_lt (le_ofDigitChars cs _) h
    -- So the digit is taken up, and the count of digits left out stays at zero.
    refine (if_pos hlt).trans ?_
    rw [hnext]
    exact ih h

/-- The digits of a natural number, and nothing besides, stand for that number. -/
theorem value_toDigits (n : UInt64) :
    value ⟨false, (Nat.toDigits 10 n.toNat).map digitValue, none, none⟩ = .natural n := by
  have hdigits : Nat.ofDigitChars 10 (Nat.toDigits 10 n.toNat) 0 = n.toNat :=
    Nat.ofDigitChars_toDigits (by decide) (by decide)
  have hlt : Nat.ofDigitChars 10 (Nat.toDigits 10 n.toNat) 0 < 2 ^ 64 := by
    rw [hdigits]
    exact n.toNat_lt
  rw [value, gather_map_digitValue hlt, hdigits]
  show Value.natural n.toNat.toUInt64 = _
  rw [show n.toNat.toUInt64 = n from UInt64.ofNat_toNat]

end Numeral

/-- That nothing more belongs to a value: what follows is a comma, a closing bracket, or nothing. -/
def Closes (rest : List Char) : Prop := ∀ c ∈ rest.head?, c = ',' ∨ c = ']' ∨ c = '\x7d'

/-- What may follow a value, one by one. -/
theorem Closes.cases {rest : List Char} (h : Closes rest) :
    rest = [] ∨ (∃ tail, rest = ',' :: tail) ∨ (∃ tail, rest = ']' :: tail) ∨
      ∃ tail, rest = '\x7d' :: tail := by
  match rest with
  | [] => exact .inl rfl
  | c :: tail =>
    rcases h c rfl with rfl | rfl | rfl
    · exact .inr (.inl ⟨tail, rfl⟩)
    · exact .inr (.inr (.inl ⟨tail, rfl⟩))
    · exact .inr (.inr (.inr ⟨tail, rfl⟩))

/-- What follows a value has neither digits nor decimals nor a power of ten to add to it. -/
theorem Closes.read_eq {rest : List Char} (h : Closes rest) :
    rest.takeWhile Char.isDigit = [] ∧ rest.dropWhile Char.isDigit = rest ∧
      readDecimals rest = some (none, rest) ∧ readExponent rest = some (none, rest) := by
  rcases h.cases with rfl | ⟨tail, rfl⟩ | ⟨tail, rfl⟩ | ⟨tail, rfl⟩
  all_goals exact ⟨rfl, rfl, rfl, rfl⟩

/-- No number goes on behind its end. -/
theorem Closes.readDigits_append {rest : List Char} (h : Closes rest) {cs : List Char}
    (hcs : ∀ c ∈ cs, c.isDigit = true) :
    readDigits (cs ++ rest) = (cs.map digitValue, rest) := by
  obtain ⟨htake, hdrop, -, -⟩ := h.read_eq
  rw [readDigits, List.takeWhile_append_of_pos hcs, List.dropWhile_append_of_pos hcs, htake, hdrop,
    List.append_nil]

theorem isDigit_of_mem_toDigits {n : Nat} {c : Char} (h : c ∈ Nat.toDigits 10 n) :
    c.isDigit = true :=
  Nat.isDigit_of_mem_toDigits (by decide) (by decide) h

/-- The digits of a number begin with a zero only if there are no more. -/
theorem exists_toDigits_cons (n : Nat) :
    ∃ c cs, Nat.toDigits 10 n = c :: cs ∧ (c = '0' → cs = []) := by
  induction n using Nat.strong_induction_on with
  | _ n ih =>
    by_cases hn : n < 10
    · exact ⟨_, [], Nat.toDigits_of_lt_base hn, fun _ => rfl⟩
    · obtain ⟨c, cs, hdigits, hzero⟩ := ih (n / 10) (by omega)
      rw [Nat.toDigits_of_base_le (by decide) (by omega), hdigits]
      refine ⟨c, cs ++ _, rfl, fun hc => ?_⟩
      -- A leading zero would be all of `n / 10`, which is positive.
      have hvalue := Nat.ofDigitChars_toDigits (b := 10) (n := n / 10) (by decide) (by decide)
      rw [hdigits, hzero hc, hc] at hvalue
      have hpos : 0 = n / 10 := hvalue
      omega

/-- The whole part of a number is read as its digits were written. -/
theorem Closes.readWhole_toDigits {rest : List Char} (h : Closes rest) (n : Nat) :
    readWhole (Nat.toDigits 10 n ++ rest) = some ((Nat.toDigits 10 n).map digitValue, rest) := by
  have hread : readDigits (Nat.toDigits 10 n ++ rest) = _ :=
    h.readDigits_append fun c => isDigit_of_mem_toDigits
  obtain ⟨c, cs, hdigits, hzero⟩ := exists_toDigits_cons n
  rw [hdigits] at hread ⊢
  by_cases hc : c = '0'
  · rw [hc, hzero hc]
    rfl
  · rw [List.cons_append, readWhole, ← List.cons_append, hread]
    · rfl
    · intro _ hcons
      exact hc (List.cons.inj hcons).1

/-- What is written of a number begins with a digit. -/
theorem exists_writeNatural_cons (n : UInt64) :
    ∃ c cs, writeNatural n = c :: cs ∧ c.isDigit = true := by
  obtain ⟨c, cs, hdigits, -⟩ := exists_toDigits_cons n.toNat
  refine ⟨c, cs, hdigits, isDigit_of_mem_toDigits (n := n.toNat) ?_⟩
  rw [hdigits]
  exact List.mem_cons_self

/-- **A natural number is read as it was written** where nothing more belongs to it. -/
theorem Closes.readNumeral_writeNatural {rest : List Char} (h : Closes rest) (n : UInt64) :
    ∃ m, readNumeral (writeNatural n ++ rest) = some (m, rest) ∧ m.value = .natural n := by
  refine ⟨_, ?_, Numeral.value_toDigits n⟩
  obtain ⟨-, -, hdecimals, hexponent⟩ := h.read_eq
  rw [writeNatural, readNumeral]
  · show ((readWhole _).bind fun x => (readDecimals x.2).bind fun y =>
      (readExponent y.2).bind fun z => some ((⟨false, x.1, y.1, z.1⟩ : Numeral), z.2)) = _
    rw [h.readWhole_toDigits, Option.bind_some, hdecimals, Option.bind_some, hexponent,
      Option.bind_some]
  · -- No digit is a minus sign.
    intro tail hminus
    obtain ⟨c, cs, hdigits, hdigit⟩ := exists_writeNatural_cons n
    rw [writeNatural] at hdigits
    rw [hdigits] at hminus
    rw [(List.cons.inj hminus).1] at hdigit
    cases hdigit

end AuctionHooks.Json
