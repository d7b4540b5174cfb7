import AuctionHooks.Document.Value
import AuctionHooks.Table

/-!
# TOML trees

A TOML document builds up one table by statements: a line that gives a key a value, and headers
that say which table the lines after them belong to.  A table may only be written in one way, and
how it came about decides what may still be added to it; so a TOML tree remembers that
(`TableKind`), while the value tree that it stands for does not.

## What may be added

* A table that a header only passes through, or that a dotted key passes through, is *open*: its
  own header may follow, but only if no dotted key made it.
* A table with a header of its own takes the lines below that header, and headers may pass through
  it later, but dotted keys from elsewhere may not.
* Into an array of tables headers pass through its latest table.
* Anything that is written as a value is closed.
-/

namespace AuctionHooks.Toml

/-- How a table came about. -/
inductive TableKind where
  | headed
  /-- A header has passed through it. -/
  | passed
  /-- A dotted key has passed through it. -/
  | dotted
  deriving DecidableEq, Inhabited, Repr

inductive Node where
  | bool (b : Bool)
  | integer (n : Int)
  | float (x : Float)
  /-- A number that is too large for any type of numbers. -/
  | oversized
  | text (s : String)
  | moment
  | array (items : List Node)
  /-- A table that is written as a value. -/
  | inlineTable (entries : List (String × Node))
  /-- A table that headers and dotted keys build up. -/
  | table (kind : TableKind) (entries : List (String × Node))
  /-- Tables that headers in double brackets build up, in the order in which they begin. -/
  | tables (items : List (List (String × Node)))
  deriving Inhabited

abbrev Entries := List (String × Node)

namespace Entries

/-- Replaces the value of a key that has one. -/
def replace (entries : Entries) (key : String) (v : Node) : Entries :=
  entries.map fun e => if e.1 = key then (key, v) else e

def rewriteLast {α : Type} (f : α → Option α) : List α → Option (List α)
  | [] => none
  | [a] => (fun b => [b]) <$> f a
  | a :: rest => (a :: ·) <$> rewriteLast f rest

/-- Rewrites the table at the end of a path, by what it holds and how it came about.  Tables that
are missing on the way are made; `viaDots` says whether a dotted key or a header asks. -/
def rewriteAt (viaDots : Bool) (kind : TableKind) (f : TableKind → Entries → Option Entries) :
    List String → Entries → Option Entries
  | [], entries => f kind entries
  | key :: path, entries =>
    let made : TableKind := if viaDots then .dotted else .passed
    match entries.lookup key with
    | none => do
      let inner ← rewriteAt viaDots made f path []
      some (entries ++ [(key, .table made inner)])
    | some (.table kind inner) =>
      if viaDots ∧ kind = .headed then none
      else do
        let inner ← rewriteAt viaDots kind f path inner
        some (entries.replace key (.table kind inner))
    | some (.tables items) => do
      let items ← rewriteLast (rewriteAt viaDots .headed f path) items
      some (entries.replace key (.tables items))
    | some _ => none

def addNew (entries : Entries) (key : String) (v : Node) : Option Entries :=
  if (entries.lookup key).isSome then none else some (entries ++ [(key, v)])

/-- Gives a dotted key a value.  The table that takes it must be one that dotted keys make, unless
the key has no dots. -/
def assign (entries : Entries) (path : List String) (key : String) (v : Node) : Option Entries :=
  let viaDots := !path.isEmpty
  rewriteAt viaDots .headed
    (fun kind inner => if (kind == .dotted) == viaDots then inner.addNew key v else none)
    path entries

end Entries

inductive Statement where
  | assign (path : List String) (key : String) (v : Node)
  | openTable (path : List String) (key : String)
  /-- Opens a further table of an array. -/
  | openItem (path : List String) (key : String)
  deriving Inhabited

/-- A header with the lines that belong to it. -/
structure Section where
  path : List String
  key : String
  /-- Whether the table is one of an array. -/
  isItem : Bool
  lines : List (List String × String × Node)
  deriving Inhabited

def assignAll (entries : Entries) (lines : List (List String × String × Node)) : Option Entries :=
  lines.foldlM (fun entries (path, key, v) => entries.assign path key v) entries

/-- Adds a section to the table of the document. -/
def Section.addTo (s : Section) (root : Entries) : Option Entries :=
  Entries.rewriteAt false .headed (fun _ parent =>
    if s.isItem then do
      let entries ← assignAll [] s.lines
      match parent.lookup s.key with
      | none => some (parent ++ [(s.key, .tables [entries])])
      | some (.tables items) => some (parent.replace s.key (.tables (items ++ [entries])))
      | some _ => none
    else
      match parent.lookup s.key with
      | none => do
        let entries ← assignAll [] s.lines
        some (parent ++ [(s.key, .table .headed entries)])
      | some (.table .passed begun) => do
        let entries ← assignAll begun s.lines
        some (parent.replace s.key (.table .headed entries))
      | some _ => none) s.path root

/-- The lines in front of the first header, and the sections. -/
def sections : List Statement → List (List String × String × Node) × List Section
  | [] => ([], [])
  | .assign path key v :: rest =>
    let (lines, ss) := sections rest
    ((path, key, v) :: lines, ss)
  | .openTable path key :: rest =>
    let (lines, ss) := sections rest
    ([], ⟨path, key, false, lines⟩ :: ss)
  | .openItem path key :: rest =>
    let (lines, ss) := sections rest
    ([], ⟨path, key, true, lines⟩ :: ss)

/-- The table that the statements of a document build up. -/
def build (statements : List Statement) : Option Entries := do
  let (lines, ss) := sections statements
  let root ← assignAll [] lines
  ss.foldlM (fun root s => s.addTo root) root

/-! ## The value tree -/

/-- An integer as a value: exact if it is natural and below two to the sixty-fourth, in double
precision if it is negative and not below minus two to the sixty-third. -/
def integerValue (n : Int) : Value :=
  if 0 ≤ n ∧ n < 0x10000000000000000 then .natural n.toNat.toUInt64
  else if -0x8000000000000000 ≤ n ∧ n < 0 then .real (Float.ofInt n)
  else .unreadable

def sorted (entries : List (String × Value)) : List (String × Value) :=
  (Table.ofList entries).toList

mutual

/-- The value tree that a TOML tree stands for, with the entries of tables in ascending order. -/
def Node.toValue : Node → Value
  | .bool b => .bool b
  | .integer n => integerValue n
  | .float x => .real x
  | .oversized => .impassable
  | .text s => .text s
  | .moment => .moment
  | .array items => .list (itemsToValues items)
  | .inlineTable entries => .record (sorted (entriesToValues entries))
  | .table _ entries => .record (sorted (entriesToValues entries))
  | .tables items => .list (tablesToValues items)

def itemsToValues : List Node → List Value
  | [] => []
  | v :: rest => v.toValue :: itemsToValues rest

def entriesToValues : List (String × Node) → List (String × Value)
  | [] => []
  | (k, v) :: rest => (k, v.toValue) :: entriesToValues rest

def tablesToValues : List (List (String × Node)) → List Value
  | [] => []
  | t :: rest => .record (sorted (entriesToValues t)) :: tablesToValues rest

end

/-! ## Numbers beyond the usual range -/

/-- Whether a leaf is a number that no double and no word of sixty-four bits with a sign holds. -/
def Node.isWide : Node → Bool
  | .oversized => true
  | .integer n => n < -0x8000000000000000 || 0x8000000000000000 ≤ n
  | _ => false

mutual

/-- Whether a leaf of a tree, that is a node that holds no others, has a property. -/
def Node.anyLeaf (p : Node → Bool) : Node → Bool
  | .array items => itemsAnyLeaf p items
  | .inlineTable entries => entriesAnyLeaf p entries
  | .table _ entries => entriesAnyLeaf p entries
  | .tables items => tablesAnyLeaf p items
  | leaf => p leaf

def itemsAnyLeaf (p : Node → Bool) : List Node → Bool
  | [] => false
  | v :: rest => v.anyLeaf p || itemsAnyLeaf p rest

def entriesAnyLeaf (p : Node → Bool) : List (String × Node) → Bool
  | [] => false
  | (_, v) :: rest => v.anyLeaf p || entriesAnyLeaf p rest

def tablesAnyLeaf (p : Node → Bool) : List (List (String × Node)) → Bool
  | [] => false
  | t :: rest => entriesAnyLeaf p t || tablesAnyLeaf p rest

end

end AuctionHooks.Toml
