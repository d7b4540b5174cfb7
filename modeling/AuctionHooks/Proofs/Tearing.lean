import AuctionHooks.Logging.Filter
import AuctionHooks.Proofs.Sequence
import Mathlib.Data.List.TakeWhile

/-!
# Which directives tear a character

The parts of a directive are found in one text and cut out of another: in the directive without the
white space around it, and out of the directive as it is written, at the same distances from the front.
A cut tears a character where the second text cannot be parted at a place of the first.

If it always can, there is no fault of this kind (`Text.Fits`).  So it is with a directive that does not
begin with white space, for then both texts have the same front; and so it is with one whose characters
all take one byte, for then any place will do that is not behind the end.  A directive that tears a
character has both, white space at its front and a character of several bytes
(`LogDirective.of_isTorn`).
-/

namespace AuctionHooks

namespace Text

/-! ## Places of two texts -/

theorem size_append (cs ds : List Char) : size (cs ++ ds) = size cs + size ds := by
  induction cs with
  | nil => rw [List.nil_append, size_nil, Nat.zero_add]
  | cons c cs ih => rw [List.cons_append, size_cons, size_cons, ih, Nat.add_assoc]

/-- That one text can be parted at all places of another. -/
def Fits (written shown : List Char) : Prop :=
  ∀ front back, shown = front ++ back → ∃ e, splitAt? (size front) written = some e

/-- A text can be parted at all places of its front. -/
theorem fits_of_isPrefix {written shown : List Char} (h : shown <+: written) : Fits written shown := by
  rintro front back rfl
  obtain ⟨behind, rfl⟩ := h
  exact ⟨_, by rw [List.append_assoc, splitAt?_size_append]⟩

/-- If all characters take one byte, places are numbers of characters. -/
theorem size_eq_length {cs : List Char} (h : ∀ c ∈ cs, c.utf8Size = 1) : size cs = cs.length := by
  induction cs with
  | nil => rfl
  | cons c cs ih =>
    rw [size_cons, ih fun d hd => h d (List.mem_cons_of_mem _ hd), h c List.mem_cons_self,
      List.length_cons, Nat.add_comm]

/-- A text whose characters all take one byte can be parted at all places of a part of it. -/
theorem fits_of_sublist {written shown : List Char} (h : ∀ c ∈ written, c.utf8Size = 1)
    (hsub : shown.Sublist written) : Fits written shown := by
  rintro front back rfl
  have hfront : size front = front.length :=
    size_eq_length fun c hc => h c (hsub.subset (List.mem_append_left _ hc))
  have htake : size (written.take front.length) = front.length := by
    rw [size_eq_length fun c hc => h c (List.mem_of_mem_take hc), List.length_take]
    have hlength := hsub.length_le
    rw [List.length_append] at hlength
    omega
  refine ⟨(written.take front.length, written.drop front.length), ?_⟩
  rw [splitAt?_eq_some_iff]
  exact ⟨(List.take_append_drop ..).symm, htake.trans hfront.symm⟩

/-- What is left of a text after trimming begins where the white space at its front ends. -/
theorem trimChars_isPrefix (cs : List Char) : trimChars cs <+: trimFront cs := by
  rw [trimChars, ← List.reverse_suffix, List.reverse_reverse]
  exact List.dropWhile_suffix _

/-- What stands between two places of one text can be cut out of the other. -/
theorem Fits.exists_between? {written front part back : List Char}
    (h : Fits written (front ++ (part ++ back))) :
    ∃ cut, between? (size front) (size front + size part) written = some cut := by
  obtain ⟨⟨a, b⟩, hstart⟩ := h front (part ++ back) rfl
  obtain ⟨⟨a', b'⟩, hstop⟩ := h (front ++ part) back (List.append_assoc ..).symm
  obtain ⟨hwritten, ha⟩ := splitAt?_eq_some_iff.1 hstart
  obtain ⟨hwritten', ha'⟩ := splitAt?_eq_some_iff.1 hstop
  rw [size_append] at ha'
  have hsize : size front + size part - size front = size part := Nat.add_sub_cancel_left ..
  rw [between?, hstart, hsize]
  rcases List.append_eq_append_iff.1 (hwritten.symm.trans hwritten') with
    ⟨cut, rfl, rfl⟩ | ⟨cut, rfl, rfl⟩
  · rw [size_append, ha] at ha'
    have hcut : size part = size cut := by omega
    refine ⟨cut, ?_⟩
    rw [hcut]
    simp [splitAt?_size_append]
  · rw [size_append] at ha
    have hnone : size part = 0 := by omega
    exact ⟨[], by simp [hnone, splitAt?]⟩

/-- What follows a place of one text follows a place of the other. -/
theorem Fits.exists_behind? {written front back : List Char} (h : Fits written (front ++ back)) :
    ∃ cut, behind? (size front) written = some cut := by
  obtain ⟨e, he⟩ := h front back rfl
  exact ⟨e.2, by rw [behind?, he]; rfl⟩

/-- What is read up to a sign is followed by that sign. -/
theorem of_drop_takeWhile {p : Char → Bool} {cs rest : List Char} {sign : Char}
    (h : cs.drop (cs.takeWhile p).length = sign :: rest) :
    cs = cs.takeWhile p ++ sign :: rest ∧ p sign = false := by
  induction cs with
  | nil => cases h
  | cons c cs ih =>
    by_cases hc : p c = true
    · rw [List.takeWhile_cons, if_pos hc] at h ⊢
      obtain ⟨hcs, hsign⟩ := ih h
      exact ⟨congrArg (c :: ·) hcs, hsign⟩
    · rw [List.takeWhile_cons, if_neg hc] at h ⊢
      cases h
      exact ⟨rfl, Bool.eq_false_iff.2 hc⟩

end Text

namespace LogDirective

open Text (Fits size size_append)

variable {written front text : List Char}

/-! ## Readers that cut where the text can be parted -/

theorem isTorn_withThreshold (d : LogDirective) (text : List Char) :
    isTorn (d.withThreshold text) = false := by
  rw [withThreshold]
  split
  · rfl
  · split <;> rfl

theorem isTorn_withField (d : LogDirective) (text : List Char) :
    isTorn (d.withField text) = false := by
  unfold withField
  dsimp only
  split
  · rfl
  · split <;> rfl

/-- The end of a directive is read without tearing anything. -/
theorem isTorn_readEnd (d : LogDirective) (h : Fits written (front ++ text)) :
    isTorn (d.readEnd written (size front) text) = false := by
  unfold readEnd
  split
  · rfl
  · next rest =>
    rw [← List.singleton_append, ← List.append_assoc] at h
    obtain ⟨cut, hcut⟩ := h.exists_behind?
    rw [size_append] at hcut
    have hplace : size ['='] = 1 := rfl
    rw [hplace] at hcut
    rw [hcut]
    exact d.isTorn_withThreshold cut
  · rfl

theorem isTorn_readBrace (d : LogDirective) (h : Fits written (front ++ text)) :
    isTorn (d.readBrace written (size front) text) = false := by
  unfold readBrace
  dsimp only
  split
  · rfl
  · next sign rest hdrop =>
    obtain ⟨htext, hsign⟩ := Text.of_drop_takeWhile hdrop
    obtain rfl : sign = '\x7d' := by simpa using hsign
    generalize text.takeWhile _ = field at htext
    rw [htext] at h
    obtain ⟨cut, hcut⟩ := h.exists_between?
    rw [hcut]
    show isTorn (if cut.isEmpty = true then .error .malformed
      else (d.withField cut).bind fun d => _) = false
    split
    · rfl
    · cases hfield : d.withField cut with
      | error fault =>
        have hwhole := d.isTorn_withField cut
        rw [hfield] at hwhole
        exact hwhole
      | ok d =>
        simp only [Except.bind]
        split
        · next rest =>
          have hplace : size (front ++ (field ++ ['\x7d', ']'])) = size front + size field + 2 := by
            rw [size_append, size_append, Nat.add_assoc]
            rfl
          rw [← hplace]
          exact d.isTorn_readEnd (by simpa using h)
        · rfl

theorem isTorn_readBracket (d : LogDirective) (h : Fits written (front ++ text)) :
    isTorn (d.readBracket written (size front) text) = false := by
  unfold readBracket
  dsimp only
  split
  · rfl
  · next sign rest hdrop =>
    obtain ⟨htext, hsign⟩ := Text.of_drop_takeWhile hdrop
    generalize text.takeWhile _ = span at htext
    rw [htext] at h
    obtain ⟨cut, hcut⟩ := h.exists_between?
    have hone : sign.utf8Size = 1 := by
      have hcases : sign = ']' ∨ sign = '\x7b' := by
        simpa [Classical.or_iff_not_imp_left] using hsign
      rcases hcases with rfl | rfl <;> rfl
    have hplace : size (front ++ (span ++ [sign])) = size front + size span + 1 := by
      rw [size_append, size_append, Text.size_cons, hone, Nat.add_assoc]
      rfl
    rw [hcut, ← hplace]
    show isTorn (if sign = ']' then readEnd _ _ _ _ else readBrace _ _ _ _) = false
    split
    · exact isTorn_readEnd _ (by simpa using h)
    · exact isTorn_readBrace _ (by simpa using h)

/-! ## Directives -/

/-- **A directive tears nothing** if what it is written in can be parted at all places of what is
read. -/
theorem isTorn_of_fits {text : String} (h : Fits text.toList (Text.trimChars text.toList)) :
    isTorn (ofText text) = false := by
  unfold ofText
  dsimp only
  split
  · rfl
  · next rest hshown =>
    rw [hshown] at h
    have hfits : Fits text.toList (['['] ++ rest) := h
    exact isTorn_readBracket _ hfits
  · next c rest hbracket hshown =>
    rw [hshown] at h
    split
    · rfl
    · split
      · split <;> rfl
      · next sign rest' hdrop =>
        obtain ⟨htext, hsign⟩ := Text.of_drop_takeWhile hdrop
        generalize (c :: rest).takeWhile _ = word at htext
        rw [htext] at h
        have hfits : Fits text.toList ([] ++ (word ++ sign :: rest')) := h
        obtain ⟨cut, hcut⟩ := hfits.exists_between?
        rw [Text.size_nil, Nat.zero_add] at hcut
        rw [hcut]
        show isTorn (if sign = '=' then readEnd _ _ _ _ else readBracket _ _ _ _) = false
        split
        · exact isTorn_readEnd _ h
        · next hne =>
          obtain rfl : sign = '[' := by simpa [hne] using hsign
          have hplace : size (word ++ ['[']) = size word + 1 := size_append word ['[']
          rw [← hplace]
          exact isTorn_readBracket _ (by simpa using h)

theorem isTorn_iff {r : Except DirectiveFault LogDirective} :
    isTorn r = true ↔ r = .error .tornCharacter := by
  unfold isTorn
  split
  · simp
  · next hne => simpa using hne

/-- **A directive that tears a character** begins with white space and has a character of several
bytes. -/
theorem of_isTorn {text : String} (h : isTorn (ofText text) = true) :
    (∃ c rest, text.toList = c :: rest ∧ Text.isBlankChar c = true) ∧
      ∃ c ∈ text.toList, c.utf8Size ≠ 1 := by
  have hfits : ¬Fits text.toList (Text.trimChars text.toList) := by
    intro hfits
    cases h.symm.trans (isTorn_of_fits hfits)
  have hbegins := Text.trimChars_isPrefix text.toList
  constructor
  · cases htext : text.toList with
    | nil =>
      rw [htext] at hfits hbegins
      exact absurd (Text.fits_of_isPrefix hbegins) hfits
    | cons c rest =>
      refine ⟨c, rest, rfl, ?_⟩
      cases hc : Text.isBlankChar c with
      | true => rfl
      | false =>
        have hfront : Text.trimFront text.toList = text.toList := by
          rw [htext, Text.trimFront, List.dropWhile_cons_of_neg (Bool.eq_false_iff.1 hc)]
        rw [hfront] at hbegins
        exact absurd (Text.fits_of_isPrefix hbegins) hfits
  · refine Classical.byContradiction fun hnone => hfits ?_
    refine Text.fits_of_sublist (fun c hc => ?_)
      (hbegins.sublist.trans (List.dropWhile_sublist _))
    exact Classical.byContradiction fun hne => hnone ⟨c, hc, hne⟩

end LogDirective

namespace LogFilter

/-- That a directive of a filter tears a character. -/
def HasTorn (text : String) : Prop :=
  ∃ part ∈ parts text, LogDirective.ofText part = .error .tornCharacter

/-- Reading stops early just if there is something to stop at. -/
theorem length_takeWhile_lt_iff {α : Type} {p : α → Bool} {l : List α} :
    (l.takeWhile p).length < l.length ↔ ∃ a ∈ l, p a = false := by
  have hbegins : l.takeWhile p <+: l := List.takeWhile_prefix p
  rw [← not_iff_not, Nat.not_lt]
  constructor
  · intro hle
    have hall := List.takeWhile_eq_self_iff.1 (hbegins.eq_of_length_le hle)
    rintro ⟨a, ha, hfalse⟩
    cases (hall a ha).symm.trans hfalse
  · intro hnone
    rw [List.takeWhile_eq_self_iff.2 fun a ha => ?_]
    exact Bool.of_not_eq_false fun hfalse => hnone ⟨a, ha, hfalse⟩

/-- No filter comes of a text that is read leniently just if one of its directives tears a
character. -/
theorem ofTextLeniently_eq_none_iff {text : String} :
    (ofTextLeniently text).1 = none ↔ HasTorn text := by
  have hread : HasTorn text ↔
      ∃ e ∈ (parts text).map fun p => (p, LogDirective.ofText p),
        (!LogDirective.isTorn e.2) = false := by
    simp [HasTorn, LogDirective.isTorn_iff]
  rw [hread, ← length_takeWhile_lt_iff]
  unfold ofTextLeniently
  dsimp only
  split
  · next hlt => exact iff_of_true rfl hlt
  · next hle => exact iff_of_false nofun hle

/-- A text that is read strictly tears a character only if one of its directives does. -/
theorem hasTorn_of_ofText {text : String} (h : ofText text = .error .tornCharacter) :
    HasTorn text := by
  rw [ofText] at h
  rcases hread : (parts text).mapM LogDirective.ofText with fault | directives
  · rw [hread] at h
    cases h
    obtain ⟨before, part, after, hparts, -, htorn⟩ := mapM_eq_error_iff.1 hread
    exact ⟨part, hparts ▸ List.mem_append_right _ List.mem_cons_self, htorn⟩
  · rw [hread] at h
    cases h

end LogFilter

end AuctionHooks
