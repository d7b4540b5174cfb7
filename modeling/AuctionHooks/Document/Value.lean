/-!
# Value trees

A configuration text is read in two steps.  The reader of its format turns the text into a tree of
values, and the decoders turn the tree into what it stands for.  The tree keeps everything that a
decoder could want to complain about: the order of the entries of a record, entries that repeat a
name, and values that are written correctly but stand for nothing.

## Values that cannot be read

Some values are written correctly but cannot be read: in JSON a number beyond the range of double
precision, a text with half of a surrogate pair, and a nesting beyond all measure; in TOML an
integer beyond sixty-four bits.  A tree holds `Value.unreadable` in their place.  An unknown entry
may hold one; a decoder that has to read it fails.

A TOML number that no type of numbers holds cannot even be skipped over.  A tree holds
`Value.impassable` in its place, and an unknown entry must not hold one either.  It does no harm
where a decoder does not come to it at all.
-/

namespace AuctionHooks

/-- What a document holds. -/
inductive Value where
  | null
  | bool (b : Bool)
  /-- A natural number below two to the sixty-fourth. -/
  | natural (n : UInt64)
  | real (x : Float)
  | text (s : String)
  | list (items : List Value)
  /-- Named values, in the order of the document; a name may stand more than once. -/
  | record (entries : List (String × Value))
  /-- A date or a time, for formats that have them. -/
  | moment
  /-- A value that can be skipped over but not read. -/
  | unreadable
  /-- A value that can neither be read nor skipped over. -/
  | impassable
  deriving Inhabited

namespace Value

mutual

/-- Whether all leaves of a value, that is the parts that hold no others, have a property. -/
def everyLeaf (p : Value → Bool) : Value → Bool
  | list items => itemsEveryLeaf p items
  | record entries => entriesEveryLeaf p entries
  | leaf => p leaf

def itemsEveryLeaf (p : Value → Bool) : List Value → Bool
  | [] => true
  | v :: rest => everyLeaf p v && itemsEveryLeaf p rest

def entriesEveryLeaf (p : Value → Bool) : List (String × Value) → Bool
  | [] => true
  | (_, v) :: rest => everyLeaf p v && entriesEveryLeaf p rest

end

def isReadable : Value → Bool :=
  everyLeaf fun
    | unreadable | impassable => false
    | _ => true

/-- Whether a value can be skipped over, which takes going through all its parts. -/
def isPassable : Value → Bool :=
  everyLeaf fun
    | impassable => false
    | _ => true

end Value

inductive Format where
  | json
  | toml
  deriving DecidableEq, Inhabited, Repr

def Format.name : Format → String
  | .json => "json"
  | .toml => "toml"

end AuctionHooks
