import AuctionHooks.Logging.Pattern.Atom
import AuctionHooks.Logging.Pattern.Nesting

/-!
# Brackets of a pattern

Brackets hold the characters that may stand at a place: single ones, ranges, classes that are given
by name, and further brackets, which may be intersected (`&&`), subtracted (`--`) and combined to
what is in one of two only (`~~`).  A circumflex behind the opening bracket asks for all other
characters.  A closing bracket right behind the opening one stands for itself, and so do hyphens
there and a hyphen that is no part of a range.  A hyphen behind a member is no part of a range if a
closing bracket or a further hyphen follows it (`PatternMode.peek?` says what counts as following).

What is read comes with its depth, for which see `PatternNesting`.
-/

namespace AuctionHooks.PatternBracket

open PatternNesting (MemberDepths)

def classNames : List String :=
  ["alnum", "alpha", "ascii", "blank", "cntrl", "digit", "graph", "lower", "print", "punct",
    "space", "upper", "word", "xdigit"]

/-- What stands in front of a reader inside brackets. -/
inductive Front where
  | opening
  | hyphens
  | member
  deriving DecidableEq, Inhabited, Repr

/-- A class that is given by its name, behind its opening bracket: whether its complement is meant,
and what follows it. -/
def readNamed (cs : List Char) : Option (Bool × List Char) :=
  match cs with
  | ':' :: rest =>
    let (complement, rest) := match rest with
      | '^' :: rest => (true, rest)
      | _ => (false, rest)
    let name := rest.takeWhile (· ≠ ':')
    match rest.drop name.length with
    | ':' :: ']' :: rest =>
      if classNames.contains (String.ofList name) then some (complement, rest) else none
    | _ => none
  | _ => none

/-- Whether a mode admits a class that is given by its name. -/
def admitsNamed (m : PatternMode) (complement : Bool) : Bool :=
  if m.unicode then !m.foldsCase else !complement

/-- What follows the opening bracket and the circumflex behind it, if there is one. -/
def readOpening (m : PatternMode) (cs : List Char) : Option (List Char) :=
  match m.skip cs with
  | '^' :: rest => if m.unicode then some rest else none
  | cs => some cs

def readAtom (m : PatternMode) : List Char → Option (PatternAtom × List Char)
  | [] => none
  | '\\' :: rest => PatternAtom.readEscaped m rest
  | c :: rest => some (.character c false, rest)

/-- What follows a member: a range, or an atom. -/
def readMember (m : PatternMode) (cs : List Char) : Option (List Char) := do
  let (first, rest) ← readAtom m cs
  let alone := if first.isMember m then some rest else none
  match m.skip rest with
  | '-' :: rest =>
    match m.peek? rest with
    | some ']' | some '-' => alone
    | _ => do
      let (last, rest) ← readAtom m (m.skip rest)
      match first, last with
      | .character a _, .character b _ =>
        if first.isMember m && last.isMember m && a.toNat ≤ b.toNat then some rest else none
      | _, _ => none
  | _ => alone

/-- The depth of brackets, and what follows them.  `depths` belongs to the innermost brackets, and
`outer` to the brackets around them. -/
def readMembers (m : PatternMode) :
    Nat → MemberDepths → List MemberDepths → Front → List Char → Option (Nat × List Char)
  | 0, _, _, _, _ => none
  | fuel + 1, depths, outer, front, cs =>
    let literal (front : Front) (rest : List Char) : Option (Nat × List Char) :=
      if (PatternAtom.character '-' false).isMember m then
        readMembers m fuel (depths.add 0) outer front rest
      else none
    match front, m.skip cs with
    | _, [] => none
    | .opening, ']' :: rest => literal .member rest
    | .opening, '-' :: rest | .hyphens, '-' :: rest => literal .hyphens rest
    | _, ']' :: rest =>
      match outer with
      | [] => some (depths.depth + 1, rest)
      | around :: outer => readMembers m fuel (around.add (depths.depth + 1)) outer .member rest
    | _, '[' :: rest =>
      match readNamed rest with
      | some (complement, rest) =>
        if admitsNamed m complement then readMembers m fuel (depths.add 0) outer .member rest
        else none
      | none => do
        let rest ← readOpening m rest
        readMembers m fuel {} (depths :: outer) .opening rest
    | _, '&' :: '&' :: rest | _, '-' :: '-' :: rest | _, '~' :: '~' :: rest =>
      readMembers m fuel depths.addOperator outer .member rest
    | _, cs => do
      let rest ← readMember m cs
      readMembers m fuel (depths.add 0) outer .member rest

/-- The depth of brackets, and what follows them; the opening bracket is in front of the text. -/
def read (m : PatternMode) (cs : List Char) : Option (Nat × List Char) := do
  let rest ← readOpening m cs
  readMembers m (rest.length + 1) {} [] .opening rest

end AuctionHooks.PatternBracket
