import AuctionHooks.Stage
import Mathlib.Data.List.TakeWhile
import Mathlib.Logic.Function.Basic

/-!
# Which texts name a stage

A stage is recognised however its name is spelled: in capitals, with underscores, with white space
around it.  What counts as a spelling can be said with the letters of ASCII alone (`Stage.Spells`).
Reading a name is done otherwise: the text is put into lower case as Unicode has it, and letters from
all over the world take part in that.

## Why nothing else gets in

Two letters from beyond ASCII lower to something that begins in ASCII.  The capital `I` with a dot
leaves its dot behind, which is not in any name.  The Kelvin sign leaves nothing behind and becomes a
plain `k`; but no name of a stage has a `k` in it (`isNameChar`).  So every character of a text that
names a stage is one of ASCII, and lower case is what it is there.

## Main statement

`Stage.ofText_exact`: reading the name of a stage accepts the spellings of the name and nothing else.
-/

namespace AuctionHooks

namespace Text

/-! ## What lowers into ASCII -/

/-- The small letters of a row lie beyond ASCII, and are characters. -/
def CapitalRow.StaysBeyond (r : CapitalRow) : Prop :=
  128 ≤ r.small ∧ (r.small + (r.last - r.first) < 0xD800 ∨
    0xE000 ≤ r.small ∧ r.small + (r.last - r.first) < 0x110000)

instance (r : CapitalRow) : Decidable r.StaysBeyond := inferInstanceAs (Decidable (_ ∧ _))

/-- All rows of the table but one stay beyond ASCII; the one is that of the Kelvin sign alone. -/
theorem staysBeyond_of_mem_capitalRows :
    ∀ r ∈ capitalRows, r.StaysBeyond ∨ r = ⟨0x212A, 0x212A, 1, 0x6B⟩ := by
  decide +kernel

theorem CapitalRow.of_lower?_eq_some {r : CapitalRow} {c d : Char} (h : r.lower? c = some d) :
    r.first ≤ c.toNat ∧ c.toNat ≤ r.last ∧ d = Char.ofNat (r.small + (c.toNat - r.first)) := by
  rw [CapitalRow.lower?] at h
  split at h
  · next hmem => exact ⟨hmem.1, hmem.2.1, (Option.some.inj h).symm⟩
  · cases h

theorem CapitalRow.StaysBeyond.le_of_lower? {r : CapitalRow} {c d : Char} (h : r.StaysBeyond)
    (hlower : r.lower? c = some d) : 128 ≤ d.toNat := by
  obtain ⟨hlow, hvalid⟩ := h
  obtain ⟨hfirst, hlast, rfl⟩ := CapitalRow.of_lower?_eq_some hlower
  have hchar : (r.small + (c.toNat - r.first)).isValidChar := by
    rw [Nat.isValidChar]
    omega
  have hsmall : (Char.ofNat (r.small + (c.toNat - r.first))).toNat =
      r.small + (c.toNat - r.first) := by
    rw [Char.ofNat, dif_pos hchar]
    rfl
  omega

/-- **Only the Kelvin sign lowers from beyond ASCII to a text of ASCII.** -/
theorem lt_or_eq_kelvinSign_of_lowerChar {c : Char} (h : ∀ d ∈ lowerChar c, d.toNat < 128) :
    c.toNat < 128 ∨ c = kelvinSign := by
  by_cases hc : c.toNat < 128
  · exact .inl hc
  rw [lowerChar, if_neg hc] at h
  split at h
  · exact absurd (h '\u0307' (by simp)) (by decide)
  · have hd := h _ List.mem_cons_self
    cases hfound : capitalRows.findSome? (·.lower? c) with
    | none =>
      rw [hfound] at hd
      exact absurd hd hc
    | some d =>
      rw [hfound] at hd
      obtain ⟨r, hr, hlower⟩ := List.exists_of_findSome?_eq_some hfound
      rcases staysBeyond_of_mem_capitalRows r hr with hbeyond | rfl
      · exact absurd hd (Nat.not_lt.2 (hbeyond.le_of_lower? hlower))
      · obtain ⟨hfirst, hlast, -⟩ := CapitalRow.of_lower?_eq_some hlower
        exact .inr (Char.toNat_inj.1 (Nat.le_antisymm hlast hfirst))

/-- In ASCII, lower case is as ever. -/
theorem lowerChars_eq_map {cs : List Char} (h : ∀ c ∈ cs, c.toNat < 128) :
    lowerChars cs = cs.map Char.toLower := by
  induction cs with
  | nil => rfl
  | cons c rest ih =>
    have hfirst : lowerChar c = [c.toLower] := if_pos (h c List.mem_cons_self)
    rw [lowerChars, List.flatMap_cons, hfirst, ← lowerChars,
      ih fun d hd => h d (List.mem_cons_of_mem c hd)]
    rfl

/-! ## White space around a text -/

/-- What is trimmed off a text is white space. -/
theorem exists_eq_append_trimChars (cs : List Char) :
    ∃ before after, cs = before ++ trimChars cs ++ after ∧
      (∀ c ∈ before, isBlankChar c = true) ∧ ∀ c ∈ after, isBlankChar c = true := by
  have hfront (ds : List Char) : ds = ds.takeWhile isBlankChar ++ trimFront ds :=
    List.takeWhile_append_dropWhile.symm
  refine ⟨cs.takeWhile isBlankChar, ((trimFront cs).reverse.takeWhile isBlankChar).reverse, ?_,
    fun c hc => List.mem_takeWhile_imp hc,
    fun c hc => List.mem_takeWhile_imp (List.mem_reverse.1 hc)⟩
  have hback := congrArg List.reverse (hfront (trimFront cs).reverse)
  rw [List.reverse_reverse, List.reverse_append] at hback
  rw [List.append_assoc, trimChars, ← hback]
  exact hfront cs

/-- A text without white space is what is left when it is trimmed, whatever white space is around it. -/
theorem trimChars_append {before word after : List Char}
    (hbefore : ∀ c ∈ before, isBlankChar c = true) (hafter : ∀ c ∈ after, isBlankChar c = true)
    (hword : ∀ c ∈ word, isBlankChar c = false) :
    trimChars (before ++ word ++ after) = word := by
  have hself {ds : List Char} (h : ∀ c ∈ ds, isBlankChar c = false) : trimFront ds = ds := by
    cases ds with
    | nil => rfl
    | cons d rest => exact List.dropWhile_cons_of_neg (by simp [h d List.mem_cons_self])
  have hback : trimFront (after.reverse ++ word.reverse) = word.reverse := by
    have hblank : ∀ c ∈ after.reverse, isBlankChar c = true := fun c hc =>
      hafter c (List.mem_reverse.1 hc)
    rw [trimFront, List.dropWhile_append_of_pos hblank]
    exact hself fun c hc => hword c (List.mem_reverse.1 hc)
  have hfront : trimFront (before ++ (word ++ after)) = trimFront (word ++ after) :=
    List.dropWhile_append_of_pos hbefore
  rw [trimChars, List.append_assoc, hfront]
  cases word with
  | nil =>
    have hnothing : trimFront after = [] := List.dropWhile_eq_nil_iff.2 hafter
    rw [List.nil_append, hnothing]
    rfl
  | cons c rest =>
    have hfirst : trimFront (c :: rest ++ after) = c :: rest ++ after :=
      List.dropWhile_cons_of_neg (by simp [hword c List.mem_cons_self])
    rw [hfirst, List.reverse_append, hback, List.reverse_reverse]

end Text

namespace Stage

/-! ## How the names of stages are spelled -/

/-- A letter of a text as a name would have it: small, and a hyphen for an underscore. -/
def plainChar (c : Char) : Char :=
  let c := c.toLower
  if c = '_' then '-' else c

/-- That a text spells the name of a stage: white space aside, it is the name but for capitals and
underscores, both of them of ASCII. -/
def Spells (text : String) (s : Stage) : Prop :=
  ∃ before word after, text.toList = before ++ word ++ after ∧
    (∀ c ∈ before, Text.isBlankChar c = true) ∧ (∀ c ∈ after, Text.isBlankChar c = true) ∧
    word.map plainChar = s.name.toList

/-- The characters that names are made of: hyphens, and small letters of ASCII other than `k`. -/
def isNameChar (c : Char) : Bool := c = '-' || 'a' ≤ c && c ≤ 'z' && c ≠ 'k'

theorem isNameChar_of_mem_name (s : Stage) : ∀ c ∈ s.name.toList, isNameChar c = true := by
  have hall : s.name.toList.all isNameChar = true := by
    cases s <;> decide
  exact List.all_eq_true.1 hall

theorem lt_of_isNameChar {c : Char} (h : isNameChar c = true) : c.toNat < 128 := by
  simp only [isNameChar, Bool.or_eq_true, Bool.and_eq_true, decide_eq_true_eq] at h
  rcases h with rfl | ⟨⟨-, hle⟩, -⟩
  · decide
  · have hz : c.toNat ≤ 122 := hle
    omega

/-- What is spelled as part of a name is of ASCII, and no white space. -/
theorem of_isNameChar_plainChar {c : Char} (h : isNameChar (plainChar c) = true) :
    c.toNat < 128 ∧ Text.isBlankChar c = false := by
  have hascii : c.toNat < 128 := by
    by_contra hc
    have hsame : c.toLower = c := by
      refine dif_neg ?_
      rintro ⟨-, hle⟩
      have hz : c.toNat ≤ 90 := hle
      omega
    have hne : c ≠ '_' := by
      rintro rfl
      exact hc (by decide)
    rw [plainChar, hsame, if_neg hne] at h
    exact hc (lt_of_isNameChar h)
  have hall : ∀ n < 128, isNameChar (plainChar (Char.ofNat n)) = true →
      Text.isBlankChar (Char.ofNat n) = false := by
    decide
  have hc := hall c.toNat hascii
  rw [Char.ofNat_toNat] at hc
  exact ⟨hascii, hc h⟩

theorem of_map_plainChar {s : Stage} {word : List Char} (h : word.map plainChar = s.name.toList) :
    ∀ c ∈ word, c.toNat < 128 ∧ Text.isBlankChar c = false := by
  intro c hc
  refine of_isNameChar_plainChar (isNameChar_of_mem_name s _ ?_)
  rw [← h]
  exact List.mem_map_of_mem hc

/-- In ASCII, a text is compared with the names as it is spelled. -/
theorem map_lowerChars {word : List Char} (h : ∀ c ∈ word, c.toNat < 128) :
    ((Text.lowerChars word).map fun c => if c = '_' then '-' else c) = word.map plainChar := by
  rw [Text.lowerChars_eq_map h, List.map_map]
  rfl

/-- What lowers to a name is of ASCII. -/
theorem lt_of_map_lowerChars {s : Stage} {word : List Char}
    (h : ((Text.lowerChars word).map fun c => if c = '_' then '-' else c) = s.name.toList) :
    ∀ c ∈ word, c.toNat < 128 := by
  intro c hc
  have hname : ∀ d ∈ Text.lowerChar c, isNameChar (if d = '_' then '-' else d) = true := by
    intro d hd
    refine isNameChar_of_mem_name s _ ?_
    rw [← h]
    exact List.mem_map_of_mem (List.mem_flatMap_of_mem hc hd)
  have hlower : ∀ d ∈ Text.lowerChar c, d.toNat < 128 := by
    intro d hd
    have hd := hname d hd
    split at hd
    · next hunderscore =>
      rw [hunderscore]
      decide
    · exact lt_of_isNameChar hd
  rcases Text.lt_or_eq_kelvinSign_of_lowerChar hlower with hc | rfl
  · exact hc
  · -- The Kelvin sign becomes a `k`, and names have none.
    exact absurd (hname 'k' (by decide)) (by decide)

/-- **A text is taken for the name that it spells.** -/
theorem normalize_eq_name_iff {text : String} {s : Stage} :
    normalize text.toList = s.name.toList ↔ Spells text s := by
  rw [normalize]
  constructor
  · intro h
    obtain ⟨before, after, htext, hbefore, hafter⟩ := Text.exists_eq_append_trimChars text.toList
    rw [map_lowerChars (lt_of_map_lowerChars h)] at h
    exact ⟨before, _, after, htext, hbefore, hafter, h⟩
  · rintro ⟨before, word, after, htext, hbefore, hafter, h⟩
    have hword := of_map_plainChar h
    rw [htext, Text.trimChars_append hbefore hafter fun c hc => (hword c hc).2,
      map_lowerChars fun c hc => (hword c hc).1, h]

/-! ## Reading a name -/

theorem ofText?_name (s : Stage) : ofText? s.name = some s := by
  cases s <;> decide

theorem name_injective : Function.Injective name := fun s s' h => by
  have hnames := congrArg ofText? h
  rw [ofText?_name, ofText?_name] at hnames
  exact Option.some.inj hnames

theorem ofText?_eq_some_iff {text : String} {s : Stage} : ofText? text = some s ↔ Spells text s := by
  rw [← normalize_eq_name_iff, ofText?]
  constructor
  · intro h
    have hname := List.find?_some h
    exact (eq_of_beq hname).symm
  · intro h
    obtain ⟨s', hs'⟩ : ∃ s', all.find? (fun s => s.name.toList == normalize text.toList) = some s' := by
      rw [← Option.isSome_iff_exists, List.find?_isSome]
      exact ⟨s, mem_all s, beq_iff_eq.2 h.symm⟩
    have hname := List.find?_some hs'
    rw [hs', name_injective (String.toList_injective ((eq_of_beq hname).trans h))]

/-- **Reading a stage's name accepts its spellings and nothing else.**  A text is read as a stage just
if it spells the name of the stage.  Then the text is of ASCII and without white space, but for white
space around it.  No text spells two names; one that spells none is refused with an error that quotes
it as it was written; and the name itself is read. -/
theorem ofText_exact (text : String) :
    (∀ s, ofText text = .ok s ↔ Spells text s) ∧
    (∀ s, ofText text = .ok s → ∀ c ∈ Text.trimChars text.toList,
      c.toNat < 128 ∧ Text.isBlankChar c = false) ∧
    (∀ s s', Spells text s → Spells text s' → s = s') ∧
    (ofText text = .error (.configuration ("unknown hook stage: " ++ text) none) ↔
      ∀ s, ¬Spells text s) ∧
    ∀ s, ofText (toString s) = .ok s := by
  have hok {text : String} (s : Stage) : ofText text = .ok s ↔ Spells text s := by
    rw [← ofText?_eq_some_iff, ofText]
    cases ofText? text <;> simp
  refine ⟨hok, fun s h => ?_, fun s s' h h' => ?_, ?_, fun s => ?_⟩
  · obtain ⟨before, word, after, htext, hbefore, hafter, hname⟩ := (hok s).1 h
    have hword := of_map_plainChar hname
    rw [htext, Text.trimChars_append hbefore hafter fun c hc => (hword c hc).2]
    exact hword
  · exact Except.ok.inj (((hok s).2 h).symm.trans ((hok s').2 h'))
  · constructor
    · intro herror s hs
      cases herror.symm.trans ((hok s).2 hs)
    · intro hnone
      have hunknown : ofText? text = none :=
        Option.eq_none_iff_forall_ne_some.2 fun s hs => hnone s (ofText?_eq_some_iff.1 hs)
      rw [ofText, hunknown, EngineError.unknownStage]
  · have hname : ofText? (toString s) = some s := ofText?_name s
    rw [ofText, hname]

example : ofText "\u3000Bidder_REQUEST\t" = .ok .bidderRequest := by decide

end Stage

end AuctionHooks
