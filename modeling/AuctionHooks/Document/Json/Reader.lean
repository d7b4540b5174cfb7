import AuctionHooks.Document.Json.Number
import AuctionHooks.Document.Json.Text

/-!
# Reading JSON

`Json.parse` turns a text into a value tree, or fails if the text is no JSON document.  The three
readers of this module call each other and use up at least one character for each step they take,
so the number of characters bounds the steps; they carry that bound along as `fuel`.

## Depth

A tree is at most one hundred and twenty-seven levels deep.  A list or an object beyond that is
gone through, since it may stand in an entry that nobody asks for, but it is `Value.unreadable`, and
so is everything that it holds.  An object with a name that denotes no text is unreadable as well.
-/

namespace AuctionHooks.Json

def isSpace (c : Char) : Bool := c = ' ' || c = '\n' || c = '\t' || c = '\r'

def skipSpace (cs : List Char) : List Char := cs.dropWhile isSpace

/-- How many levels may be opened: one more than a tree may have. -/
def maxDepth : Nat := 128

/-- A list or an object at a given number of levels that are left, itself included. -/
def atDepth (depth : Nat) (v : Value) : Value := if depth ≤ 1 then .unreadable else v

def dropWord : List Char → List Char → Option (List Char)
  | [], cs => some cs
  | w :: word, c :: cs => if w = c then dropWord word cs else none
  | _ :: _, [] => none

/-- An entry of an object, unless its name denotes no text. -/
def entry (name : Option String) (v : Value) (rest : Option (List (String × Value))) :
    Option (List (String × Value)) := do
  let name ← name
  let rest ← rest
  some ((name, v) :: rest)

mutual

/-- A value, and what follows it.  `depth` is the number of levels that may still be opened. -/
def readValue (fuel depth : Nat) (cs : List Char) : Option (Value × List Char) :=
  match fuel with
  | 0 => none
  | fuel + 1 =>
    match skipSpace cs with
    | '"' :: rest => do
      let (s, rest) ← readText rest
      some ((s.map Value.text).getD .unreadable, rest)
    | '[' :: rest =>
      match skipSpace rest with
      | ']' :: rest => some (atDepth depth (.list []), rest)
      | _ => do
        let (items, rest) ← readItems fuel (depth - 1) rest
        some (atDepth depth (.list items), rest)
    | '\x7b' :: rest =>
      match skipSpace rest with
      | '\x7d' :: rest => some (atDepth depth (.record []), rest)
      | _ => do
        let (entries, rest) ← readEntries fuel (depth - 1) rest
        some (atDepth depth ((entries.map Value.record).getD .unreadable), rest)
    | 'n' :: rest => (.null, ·) <$> dropWord "ull".toList rest
    | 't' :: rest => (.bool true, ·) <$> dropWord "rue".toList rest
    | 'f' :: rest => (.bool false, ·) <$> dropWord "alse".toList rest
    | rest => do
      let (n, rest) ← readNumeral rest
      some (n.value, rest)

def readItems (fuel depth : Nat) (cs : List Char) : Option (List Value × List Char) :=
  match fuel with
  | 0 => none
  | fuel + 1 => do
    let (v, rest) ← readValue fuel depth cs
    match skipSpace rest with
    | ']' :: rest => some ([v], rest)
    | ',' :: rest => do
      let (vs, rest) ← readItems fuel depth rest
      some (v :: vs, rest)
    | _ => none

/-- The entries of an object up to its closing brace, and what follows that; no entries if a name
denotes no text. -/
def readEntries (fuel depth : Nat) (cs : List Char) :
    Option (Option (List (String × Value)) × List Char) :=
  match fuel with
  | 0 => none
  | fuel + 1 =>
    match skipSpace cs with
    | '"' :: rest => do
      let (name, rest) ← readText rest
      match skipSpace rest with
      | ':' :: rest => do
        let (v, rest) ← readValue fuel depth rest
        match skipSpace rest with
        | '\x7d' :: rest => some (entry name v (some []), rest)
        | ',' :: rest => do
          let (others, rest) ← readEntries fuel depth rest
          some (entry name v others, rest)
        | _ => none
      | _ => none
    | _ => none

end

/-- The document that a text holds, if it holds one and nothing besides. -/
def parse (s : String) : Option Value := do
  let cs := s.toList
  let (v, rest) ← readValue (2 * cs.length + 1) maxDepth cs
  if (skipSpace rest).isEmpty then some v else none

end AuctionHooks.Json
