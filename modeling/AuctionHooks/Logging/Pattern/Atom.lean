import AuctionHooks.Document.Json.Text
import AuctionHooks.Logging.Pattern.Mode

/-!
# Atoms of a pattern

The smallest parts of a pattern: a character that stands for itself, the class of digits, blanks or
word characters, and a condition on the place where the pattern has come to.  Most are written with
a backslash.

Patterns know classes for ASCII only, so in a pattern about characters those three are refused, and
so is every letter that is to stand for both of its cases.  A pattern about bytes may only match
what is text, so it admits no complements and no single bytes beyond ASCII.
-/

namespace AuctionHooks

inductive PatternAtom where
  /-- A character that stands for itself; `asByte` if it is written as a byte. -/
  | character (c : Char) (asByte : Bool)
  /-- The digits, the blanks or the word characters. -/
  | named (complement : Bool)
  /-- The beginning or the end of a line or of the text. -/
  | edge
  /-- The beginning or the end of a word, or a place where there is none. -/
  | wordEdge
  deriving DecidableEq, Inhabited, Repr

namespace PatternAtom

def readDigits (m : PatternMode) : Nat → Nat → List Char → Option (Nat × List Char)
  | 0, n, cs => some (n, cs)
  | count + 1, n, cs =>
    match m.skip cs with
    | [] => none
    | c :: rest => do
      let d ← Json.hexValue? c
      readDigits m count (n * 16 + d) rest

/-- The character whose number a count of hexadecimal digits gives, and what follows them. -/
def readNumbered (m : PatternMode) (count : Nat) (cs : List Char) :
    Option (PatternAtom × List Char) := do
  let (n, rest) ← readDigits m count 0 cs
  if n.isValidChar then some (.character (Char.ofNat n) (count = 2), rest) else none

/-- The atom that follows a backslash, and what follows the atom.  Signs stand for themselves. -/
def readEscaped (m : PatternMode) : List Char → Option (PatternAtom × List Char)
  | [] => none
  | c :: rest =>
    match c with
    | 'x' => readNumbered m 2 rest
    | 'u' => readNumbered m 4 rest
    | 'U' => readNumbered m 8 rest
    | 'd' | 's' | 'w' => some (.named false, rest)
    | 'D' | 'S' | 'W' => some (.named true, rest)
    | 'a' => some (.character '\x07' false, rest)
    | 'f' => some (.character '\x0c' false, rest)
    | 't' => some (.character '\t' false, rest)
    | 'n' => some (.character '\n' false, rest)
    | 'r' => some (.character '\r' false, rest)
    | 'v' => some (.character '\x0b' false, rest)
    | 'A' | 'z' => some (.edge, rest)
    | 'b' | 'B' | '<' | '>' => some (.wordEdge, rest)
    | _ => if c.toNat < 0x80 && !c.isAlphanum then some (.character c false, rest) else none

def isAdmitted (m : PatternMode) : PatternAtom → Bool
  | .character c asByte =>
    if m.unicode then !m.foldsCase else !asByte || c.toNat < 0x80
  | .named complement => !m.unicode && !complement
  | .edge | .wordEdge => true

def isMember (m : PatternMode) : PatternAtom → Bool
  | .character c _ => if m.unicode then !m.foldsCase else c.toNat < 0x80
  | .named complement => !m.unicode && !complement
  | .edge | .wordEdge => false

end PatternAtom

end AuctionHooks
