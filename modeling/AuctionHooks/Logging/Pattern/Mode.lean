import AuctionHooks.Text.Blank

/-!
# Modes of a pattern

Groups of a pattern may change how what follows is read: whether letters stand for both of their
cases, whether the pattern is about characters or about bytes, and whether white space and comments
may stand between its parts.  The change is written as letters, each for itself or, behind a hyphen,
taken back.
-/

namespace AuctionHooks

structure PatternMode where
  /-- Whether letters stand for both of their cases. -/
  foldsCase : Bool := false
  /-- Whether the pattern is about characters rather than about bytes. -/
  unicode : Bool := true
  /-- Whether white space and comments between the parts are passed over. -/
  spaced : Bool := false
  deriving DecidableEq, Inhabited, Repr

namespace PatternMode

/-- What follows white space and comments at the front; a comment runs from a number sign to the end
of its line. -/
def dropRemarks (inComment : Bool) : List Char → List Char
  | [] => []
  | c :: rest =>
    if inComment then dropRemarks (c ≠ '\n') rest
    else if Text.isBlankChar c then dropRemarks false rest
    else if c = '#' then dropRemarks true rest
    else c :: rest

def skip (m : PatternMode) (cs : List Char) : List Char :=
  if m.spaced then dropRemarks false cs else cs

/-- What follows white space and at most one number sign among it. -/
def dropOneSign (cs : List Char) : List Char :=
  match cs.dropWhile Text.isBlankChar with
  | '#' :: rest => rest.dropWhile Text.isBlankChar
  | rest => rest

/-- The character that decides whether a hyphen in front of it is part of a range.  Of what the mode
passes over, white space and one number sign are passed over here, but not the rest of a comment. -/
def peek? (m : PatternMode) (cs : List Char) : Option Char :=
  (if m.spaced then dropOneSign cs else cs).head?

/-- The letters of a change of mode.  `m`, `s`, `U` and `R` concern only what a pattern matches. -/
def letters : List Char := ['i', 'u', 'x', 'm', 's', 'U', 'R']

/-- Whether characters are a change of mode: letters without repetition, and perhaps one hyphen that
something follows. -/
def isChange (cs : List Char) : Bool :=
  (cs.all fun c => c = '-' || letters.contains c) && cs.Nodup && cs.getLast? ≠ some '-'

def change (m : PatternMode) (cs : List Char) : PatternMode :=
  let on := cs.takeWhile (· ≠ '-')
  let off := cs.dropWhile (· ≠ '-')
  let after (letter : Char) (before : Bool) : Bool :=
    on.contains letter || (!off.contains letter && before)
  { foldsCase := after 'i' m.foldsCase
    unicode := after 'u' m.unicode
    spaced := after 'x' m.spaced }

end PatternMode

end AuctionHooks
