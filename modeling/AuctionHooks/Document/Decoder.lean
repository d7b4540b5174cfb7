import AuctionHooks.Document.Value
import AuctionHooks.Table

/-!
# Decoders

A decoder says what a value tree stands for, or why it stands for nothing.  It goes through the
tree from front to back and reports the first thing that is wrong.

## Records

What is read from a record is put together from `RecordReader`s, one for each field and in the
order in which the fields are declared.  Every field has a place for its value, its *draft*; an
entry fills the place of the field that it names, an entry that names no field is passed over, and
a second entry for a field is an error.  Only at the end of the record is it known which fields are
missing, and the first that is missing without a substitute is the error.

A record may also be written as a list of its fields in the order of their declaration.  Then
fields may be missing at the end only, and only those that have a substitute.

## What depends on the format

Two rules do.  A list that stands for a record must not be longer than the record in JSON, and may
be in TOML, where nobody looks at the items beyond the fields.  And a variant, which is usually
written as a text, may also be written as a record with one entry that is named for it: the entry
then holds `null` in JSON, and an empty list or table in TOML.
-/

namespace AuctionHooks

inductive DecodeError where
  | missingField (name : String)
  | duplicateField (name : String)
  | unknownVariant (name : String) (expected : List String)
  /-- A text in the place of a stage names no stage. -/
  | unknownStage (text : String)
  /-- A value of the wrong kind or out of range. -/
  | mismatch
  deriving DecidableEq, Inhabited, Repr

namespace DecodeError

def quoted (name : String) : String := "`" ++ name ++ "`"

def expectation : List String → String
  | [] => "there are no variants"
  | [a] => "expected " ++ quoted a
  | [a, b] => "expected " ++ quoted a ++ " or " ++ quoted b
  | names => "expected one of " ++ ", ".intercalate (names.map quoted)

/-- What is shown to people, where the wording is settled. -/
def message? : DecodeError → Option String
  | missingField name => some ("missing field " ++ quoted name)
  | duplicateField name => some ("duplicate field " ++ quoted name)
  | unknownVariant name expected =>
    some ("unknown variant " ++ quoted name ++ ", " ++ expectation expected)
  | unknownStage text => some ("configuration error: unknown hook stage: " ++ text)
  | mismatch => none

end DecodeError

/-- What is read from a value tree. -/
abbrev Decoder (α : Type) := Format → Value → Except DecodeError α

namespace Decoder

variable {α : Type}

def bool : Decoder Bool
  | _, .bool b => .ok b
  | _, _ => .error .mismatch

/-- A natural number below two to the sixty-fourth. -/
def natural : Decoder UInt64
  | _, .natural n => .ok n
  | _, _ => .error .mismatch

/-- Any number, in double precision. -/
def real : Decoder Float
  | _, .natural n => .ok n.toFloat
  | _, .real x => .ok x
  | _, _ => .error .mismatch

def text : Decoder String
  | _, .text s => .ok s
  | _, _ => .error .mismatch

/-- A value that may be absent, which is written as `null`. -/
def optional (d : Decoder α) : Decoder (Option α)
  | _, .null => .ok none
  | f, v => some <$> d f v

def list (d : Decoder α) : Decoder (List α)
  | f, .list items => items.mapM (d f)
  | _, _ => .error .mismatch

/-- A table; of entries with the same name the last counts. -/
def table (d : Decoder α) : Decoder (Table String α)
  | f, .record entries => entries.foldlM (fun t e => t.insert e.1 <$> d f e.2) ∅
  | _, _ => .error .mismatch

/-- The member of an enumeration with a given name. -/
def member (all : List α) (name : α → String) (text : String) : Except DecodeError α :=
  match all.find? fun a => name a = text with
  | some a => .ok a
  | none => .error (.unknownVariant text (all.map name))

/-- Whether a value is what stands beside the name of a variant that holds nothing. -/
def isUnit : Format → Value → Bool
  | .json, .null => true
  | .toml, .list [] => true
  | .toml, .record [] => true
  | _, _ => false

/-- A member of an enumeration, by its name. -/
def variant (all : List α) (name : α → String) : Decoder α
  | _, .text s => member all name s
  | f, .record ((key, v) :: rest) =>
    if f = .toml ∧ rest ≠ [] then .error .mismatch
    else do
      let a ← member all name key
      if isUnit f v ∧ rest = [] then .ok a else .error .mismatch
  | _, _ => .error .mismatch

end Decoder

/-- The two ways in which a record is written. -/
inductive RecordLayout where
  | named
  /-- As a list of the fields in the order of their declaration. -/
  | positional
  deriving DecidableEq, Inhabited, Repr

/-- What is read from a record. -/
structure RecordReader (α : Type) where
  /-- What is known of the fields while the record is read. -/
  Draft : Type
  /-- What is known at the beginning. -/
  blank : Draft
  /-- The fields in the order of their declaration, each with what its value adds. -/
  fields : List (String × (Format → Draft → Value → Except DecodeError Draft))
  /-- What the record stands for, once all of it is known. -/
  finish : RecordLayout → Draft → Except DecodeError α

namespace RecordReader

variable {α β : Type}

/-- A single field, and what stands in for it if it is absent. -/
def field (name : String) (d : Decoder α) (absent : RecordLayout → Except DecodeError α) :
    RecordReader α where
  Draft := Option α
  blank := none
  fields :=
    [(name, fun f draft v =>
      if draft.isSome then .error (.duplicateField name) else some <$> d f v)]
  finish layout draft :=
    match draft with
    | some a => .ok a
    | none => absent layout

def required (name : String) (d : Decoder α) : RecordReader α :=
  field name d fun
    | .named => .error (.missingField name)
    | .positional => .error .mismatch

/-- A field that may be absent from named entries. -/
def optional (name : String) (d : Decoder α) : RecordReader (Option α) :=
  field name d.optional fun
    | .named => .ok none
    | .positional => .error .mismatch

/-- A field with a substitute. -/
def withDefault (name : String) (d : Decoder α) (default : α) : RecordReader α :=
  field name d fun _ => .ok default

def map (f : α → β) (r : RecordReader α) : RecordReader β :=
  { r with finish := fun layout draft => f <$> r.finish layout draft }

/-- Reads two things from one record, the fields of the first in front. -/
def and (r : RecordReader α) (s : RecordReader β) : RecordReader (α × β) where
  Draft := r.Draft × s.Draft
  blank := (r.blank, s.blank)
  fields :=
    r.fields.map (fun e => (e.1, fun f draft v => (·, draft.2) <$> e.2 f draft.1 v)) ++
      s.fields.map (fun e => (e.1, fun f draft v => (draft.1, ·) <$> e.2 f draft.2 v))
  finish layout draft := do
    let a ← r.finish layout draft.1
    let b ← s.finish layout draft.2
    .ok (a, b)

/-- What one entry adds.  An entry that names no field adds nothing, but has to be skipped over. -/
def takeEntry (r : RecordReader α) (f : Format) (draft : r.Draft) (e : String × Value) :
    Except DecodeError r.Draft :=
  match r.fields.lookup e.1 with
  | some take => take f draft e.2
  | none => if e.2.isPassable then .ok draft else .error .mismatch

def readEntries (r : RecordReader α) (f : Format) (entries : List (String × Value)) :
    Except DecodeError α := do
  let draft ← entries.foldlM (r.takeEntry f) r.blank
  r.finish .named draft

def readItems (r : RecordReader α) (f : Format) (items : List Value) : Except DecodeError α := do
  let draft ← (r.fields.zip items).foldlM (fun draft e => e.1.2 f draft e.2) r.blank
  let a ← r.finish .positional draft
  if f = .json ∧ r.fields.length < items.length then .error .mismatch else .ok a

/-- Reads a record in either way of writing.  A date has none of the fields that a record could
ask for. -/
def decode (r : RecordReader α) : Decoder α
  | f, .record entries => r.readEntries f entries
  | f, .moment => r.readEntries f []
  | f, .list items => r.readItems f items
  | _, _ => .error .mismatch

/-- Reads two things from one record, where the second is read from the entries that the first has
no use for, after all of the record has been gone through.  Those entries are set aside until then
and have to be readable. -/
def decodeBeside (r : RecordReader α) (s : RecordReader β) : Decoder (α × β) := fun f v => do
  let entries ← match v with
    | .record entries => .ok entries
    | .moment => .ok []
    | _ => .error .mismatch
  let (draft, others) ← entries.foldlM (fun (draft, others) e =>
    match r.fields.lookup e.1 with
    | some take => (·, others) <$> take f draft e.2
    | none => if e.2.isReadable then .ok (draft, others ++ [e]) else .error .mismatch)
    (r.blank, [])
  let a ← r.finish .named draft
  let b ← s.readEntries f others
  .ok (a, b)

end RecordReader

end AuctionHooks
