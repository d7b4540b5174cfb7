import AuctionHooks.Proofs.TextLaw

/-!
# Documents are read as they were written

A value is written without regard to where it stands, but it is not read so: what follows a number may
be taken for a part of it, what is nested too deep is not read at all, and the readers carry fuel along.
`ReadsBack` says of a single value that it is read as it was written wherever none of this gets in the
way.  A list or a record is then read back if its parts are, and this makes an induction over the value.

## How much fuel

A value takes one step more than its items or entries do, an item or an entry one step more than its
value, and each of them has a character of its own: a bracket, a comma, a brace.  The innermost values
have one anyway.  So twice the number of characters is fuel enough for a value, and one more than that
for what stands between brackets.

## Main statement

`parse_compact`: a value that fits, which means that it holds nothing but what JSON has a form for, in no
more levels than are read, is what its compact form is read as.
-/

namespace AuctionHooks

/-- That a value can be written and read again: it holds nothing but what has a JSON form of its own,
in no more than so many levels. -/
inductive Value.Fits : Nat → Value → Prop
  | null {n : Nat} : Fits n .null
  | bool {n : Nat} (b : Bool) : Fits n (.bool b)
  | natural {n : Nat} (k : UInt64) : Fits n (.natural k)
  | text {n : Nat} (s : String) : Fits n (.text s)
  | list {n : Nat} {items : List Value} (h : ∀ v ∈ items, Fits n v) : Fits (n + 1) (.list items)
  | record {n : Nat} {entries : List (String × Value)} (h : ∀ e ∈ entries, Fits n e.2) :
    Fits (n + 1) (.record entries)

namespace Json

variable {n : Nat}

/-- That a value of so many levels is read as it was written, with enough fuel and enough levels left,
wherever nothing more belongs to it. -/
def ReadsBack (n : Nat) (v : Value) : Prop :=
  ∀ fuel depth rest, 2 * (write v).length ≤ fuel → n < depth → Closes rest →
    readValue fuel depth (write v ++ rest) = some (v, rest)

/-! ## Leaves -/

theorem isSpace_of_isDigit {c : Char} (h : c.isDigit = true) : isSpace c = false := by
  rw [Bool.eq_false_iff]
  intro hspace
  simp only [isSpace, Bool.or_eq_true, decide_eq_true_eq] at hspace
  rcases hspace with ((rfl | rfl) | rfl) | rfl <;> cases h

theorem skipSpace_cons {c : Char} (h : isSpace c = false) (cs : List Char) :
    skipSpace (c :: cs) = c :: cs :=
  List.dropWhile_cons_of_neg (Bool.eq_false_iff.1 h)

/-- What is written of a value begins neither with white space nor with the end of a list. -/
theorem exists_write_cons (v : Value) :
    ∃ c cs, write v = c :: cs ∧ isSpace c = false ∧ c ≠ ']' := by
  cases v with
  | natural k =>
    obtain ⟨c, cs, hdigits, hdigit⟩ := exists_writeNatural_cons k
    refine ⟨c, cs, hdigits, ?_, ?_⟩
    · exact isSpace_of_isDigit hdigit
    · rintro rfl
      cases hdigit
  | bool b => cases b <;> exact ⟨_, _, rfl, by decide, by decide⟩
  | _ => exact ⟨_, _, rfl, by decide, by decide⟩

/-- Reading a value takes a step. -/
theorem readsBack_of_step {v : Value}
    (h : ∀ fuel depth rest, 2 * (write v).length ≤ fuel + 1 → n < depth → Closes rest →
      readValue (fuel + 1) depth (write v ++ rest) = some (v, rest)) : ReadsBack n v := by
  intro fuel depth rest hfuel hdepth hrest
  obtain ⟨c, cs, hwrite, -⟩ := exists_write_cons v
  match fuel with
  | 0 =>
    rw [hwrite] at hfuel
    exact absurd hfuel (Nat.not_succ_le_zero _)
  | fuel + 1 => exact h fuel depth rest hfuel hdepth hrest

theorem readsBack_null (n : Nat) : ReadsBack n .null :=
  readsBack_of_step fun _ _ _ _ _ _ => rfl

theorem readsBack_bool (n : Nat) (b : Bool) : ReadsBack n (.bool b) := by
  refine readsBack_of_step fun _ _ _ _ _ _ => ?_
  cases b <;> rfl

theorem readsBack_text (n : Nat) (s : String) : ReadsBack n (.text s) := by
  refine readsBack_of_step fun fuel depth rest _ _ _ => ?_
  show (readText (s.toList.flatMap escape ++ ['"'] ++ rest)).bind _ = _
  rw [List.append_assoc, List.singleton_append, readText_flatMap_escape]
  rfl

/-- A value that begins with a digit is a number. -/
theorem readValue_of_isDigit {c : Char} (h : c.isDigit = true) (fuel depth : Nat) (cs : List Char) :
    readValue (fuel + 1) depth (c :: cs) =
      (readNumeral (c :: cs)).map fun x => (x.1.value, x.2) := by
  rw [readValue, skipSpace_cons (isSpace_of_isDigit h)]
  split
  case h_7 =>
    rcases readNumeral (c :: cs) with _ | ⟨m, rest⟩ <;> rfl
  all_goals
    rename_i heq
    rw [(List.cons.inj heq).1] at h
    cases h

theorem readsBack_natural (n : Nat) (k : UInt64) : ReadsBack n (.natural k) := by
  refine readsBack_of_step fun fuel depth rest _ _ hrest => ?_
  obtain ⟨m, hread, hvalue⟩ := hrest.readNumeral_writeNatural k
  obtain ⟨c, cs, hdigits, hdigit⟩ := exists_writeNatural_cons k
  rw [write]
  rw [hdigits, List.cons_append] at hread ⊢
  rw [readValue_of_isDigit hdigit, hread, Option.map_some, hvalue]

/-! ## Lists and records -/

theorem closes_comma (rest : List Char) : Closes (',' :: rest) := by
  intro c hc
  exact .inl (Option.some.inj hc).symm

theorem closes_bracket (rest : List Char) : Closes (']' :: rest) := by
  intro c hc
  exact .inr (.inl (Option.some.inj hc).symm)

theorem closes_brace (rest : List Char) : Closes ('\x7d' :: rest) := by
  intro c hc
  exact .inr (.inr (Option.some.inj hc).symm)

theorem writeItems_cons_cons (v w : Value) (items : List Value) :
    writeItems (v :: w :: items) = write v ++ ',' :: writeItems (w :: items) := by
  rw [writeItems]
  exact nofun

theorem writeEntries_cons_cons (e e' : String × Value) (entries : List (String × Value)) :
    writeEntries (e :: e' :: entries) =
      writeText e.1 ++ ':' :: write e.2 ++ ',' :: writeEntries (e' :: entries) := by
  rw [writeEntries]
  exact nofun

/-- Items are read as they were written. -/
theorem readItems_writeItems {items : List Value} (h : ∀ v ∈ items, ReadsBack n v)
    (hne : items ≠ []) (fuel depth : Nat) (hfuel : 2 * (writeItems items).length + 1 ≤ fuel)
    (hdepth : n < depth) (rest : List Char) :
    readItems fuel depth (writeItems items ++ ']' :: rest) = some (items, rest) := by
  induction items generalizing fuel with
  | nil => exact absurd rfl hne
  | cons v items ih =>
    obtain ⟨hv, hitems⟩ := List.forall_mem_cons.1 h
    match fuel, items with
    | fuel + 1, [] =>
      rw [writeItems] at hfuel ⊢
      rw [readItems, hv fuel depth _ (by omega) hdepth (closes_bracket rest)]
      rfl
    | fuel + 1, w :: items =>
      rw [writeItems_cons_cons] at hfuel ⊢
      rw [List.length_append, List.length_cons] at hfuel
      rw [List.append_assoc, List.cons_append, readItems,
        hv fuel depth _ (by omega) hdepth (closes_comma _)]
      show (readItems fuel depth (writeItems (w :: items) ++ ']' :: rest)).bind _ = _
      rw [ih hitems (List.cons_ne_nil w items) fuel (by omega)]
      rfl

/-- The name of an entry is read up to the colon. -/
theorem readEntries_writeText (k : String) (fuel depth : Nat) (cs : List Char) :
    readEntries (fuel + 1) depth (writeText k ++ ':' :: cs) =
      (readValue fuel depth cs).bind fun x =>
        match skipSpace x.2 with
        | '\x7d' :: rest => some (entry k x.1 (some []), rest)
        | ',' :: rest => (readEntries fuel depth rest).bind fun y => some (entry k x.1 y.1, y.2)
        | _ => none := by
  rw [readEntries]
  show ((readText (k.toList.flatMap escape ++ ['"'] ++ ':' :: cs)).bind _) = _
  rw [List.append_assoc, List.singleton_append, readText_flatMap_escape]
  rfl

theorem readEntries_writeEntries {entries : List (String × Value)}
    (h : ∀ e ∈ entries, ReadsBack n e.2) (hne : entries ≠ []) (fuel depth : Nat)
    (hfuel : 2 * (writeEntries entries).length + 1 ≤ fuel) (hdepth : n < depth) (rest : List Char) :
    readEntries fuel depth (writeEntries entries ++ '\x7d' :: rest) = some (some entries, rest) := by
  induction entries generalizing fuel with
  | nil => exact absurd rfl hne
  | cons e entries ih =>
    obtain ⟨hv, hentries⟩ := List.forall_mem_cons.1 h
    match fuel, entries with
    | fuel + 1, [] =>
      rw [writeEntries] at hfuel ⊢
      rw [List.length_append, List.length_cons] at hfuel
      rw [List.append_assoc, List.cons_append, readEntries_writeText,
        hv fuel depth _ (by omega) hdepth (closes_brace rest)]
      rfl
    | fuel + 1, e' :: entries =>
      rw [writeEntries_cons_cons] at hfuel ⊢
      simp only [List.length_append, List.length_cons] at hfuel
      rw [List.append_assoc, List.append_assoc, List.cons_append, List.cons_append,
        readEntries_writeText, hv fuel depth _ (by omega) hdepth (closes_comma _)]
      show (readEntries fuel depth (writeEntries (e' :: entries) ++ '\x7d' :: rest)).bind _ = _
      rw [ih hentries (List.cons_ne_nil e' entries) fuel (by omega)]
      rfl

/-- What is written of items begins as the first of them does. -/
theorem exists_writeItems_cons (v : Value) (items : List Value) :
    ∃ c cs, writeItems (v :: items) = c :: cs ∧ isSpace c = false ∧ c ≠ ']' := by
  obtain ⟨c, cs, hwrite, hbegins⟩ := exists_write_cons v
  cases items with
  | nil =>
    rw [writeItems, hwrite]
    exact ⟨c, cs, rfl, hbegins⟩
  | cons w items =>
    rw [writeItems_cons_cons, hwrite]
    exact ⟨c, _, rfl, hbegins⟩

/-- What is written of entries begins with a name. -/
theorem exists_writeEntries_cons (e : String × Value) (entries : List (String × Value)) :
    ∃ cs, writeEntries (e :: entries) = '"' :: cs := by
  cases entries with
  | nil =>
    rw [writeEntries]
    exact ⟨_, rfl⟩
  | cons e' entries =>
    rw [writeEntries_cons_cons]
    exact ⟨_, rfl⟩

/-- A bracket that is not closed at once opens a list of items. -/
theorem readValue_bracket {c : Char} (hspace : isSpace c = false) (hne : c ≠ ']')
    (fuel depth : Nat) (cs : List Char) :
    readValue (fuel + 1) depth ('[' :: c :: cs) =
      (readItems fuel (depth - 1) (c :: cs)).bind fun x =>
        some (atDepth depth (.list x.1), x.2) := by
  rw [readValue, skipSpace_cons (by decide)]
  simp only [skipSpace_cons hspace]
  split
  · next heq => exact absurd (List.cons.inj heq).1 hne
  · rfl

theorem readsBack_list {items : List Value} (h : ∀ v ∈ items, ReadsBack n v) :
    ReadsBack (n + 1) (.list items) := by
  refine readsBack_of_step fun fuel depth rest hfuel hdepth _ => ?_
  have hdepth' : atDepth depth (.list items) = .list items := if_neg (by omega)
  rw [write] at hfuel ⊢
  match items with
  | [] =>
    show some (atDepth depth (.list []), rest) = _
    rw [hdepth']
  | v :: items =>
    simp only [List.length_append, List.length_cons, List.length_nil] at hfuel
    have hitems := readItems_writeItems h (List.cons_ne_nil v items) fuel (depth - 1) (by omega)
      (by omega) rest
    obtain ⟨c, cs, hwrite, hspace, hne⟩ := exists_writeItems_cons v items
    rw [List.cons_append, List.cons_append, List.append_assoc, List.singleton_append]
    rw [hwrite, List.cons_append] at hitems ⊢
    rw [readValue_bracket hspace hne, hitems, Option.bind_some, hdepth']

theorem readsBack_record {entries : List (String × Value)} (h : ∀ e ∈ entries, ReadsBack n e.2) :
    ReadsBack (n + 1) (.record entries) := by
  refine readsBack_of_step fun fuel depth rest hfuel hdepth _ => ?_
  have hdepth' : atDepth depth (.record entries) = .record entries := if_neg (by omega)
  rw [write] at hfuel ⊢
  match entries with
  | [] =>
    show some (atDepth depth (.record []), rest) = _
    rw [hdepth']
  | e :: entries =>
    simp only [List.length_append, List.length_cons, List.length_nil] at hfuel
    have hentries := readEntries_writeEntries h (List.cons_ne_nil e entries) fuel (depth - 1)
      (by omega) (by omega) rest
    obtain ⟨cs, hwrite⟩ := exists_writeEntries_cons e entries
    rw [List.cons_append, List.cons_append, List.append_assoc, List.singleton_append]
    rw [hwrite, List.cons_append] at hentries ⊢
    show (readEntries fuel (depth - 1) ('"' :: (cs ++ '\x7d' :: rest))).bind _ = _
    rw [hentries]
    show some (atDepth depth (.record (e :: entries)), rest) = _
    rw [hdepth']

/-- **A value that fits is read as it was written.** -/
theorem readsBack_of_fits {v : Value} (h : v.Fits n) : ReadsBack n v := by
  induction h with
  | null => exact readsBack_null _
  | bool b => exact readsBack_bool _ b
  | natural k => exact readsBack_natural _ k
  | text s => exact readsBack_text _ s
  | list _ ih => exact readsBack_list ih
  | record _ ih => exact readsBack_record ih

/-- **A document is read as it was written** if it is within the levels that are read. -/
theorem parse_compact {v : Value} (h : v.Fits n) (hn : n < maxDepth) : parse (compact v) = some v := by
  have hread := readsBack_of_fits h (2 * (write v).length + 1) maxDepth [] (by omega) hn
    (by intro c hc; cases hc)
  rw [List.append_nil] at hread
  rw [parse, compact, String.toList_ofList, hread]
  rfl

end Json

end AuctionHooks
