import AuctionHooks.Document.Value

/-!
# JSON texts

A text stands between quotation marks.  Within it a backslash announces an escape, and control
characters may only stand as escapes.

## Reading in two steps

An escape with four hexadecimal digits denotes a *unit* of sixteen bits, and two units that form a
surrogate pair denote one character.  `readTokens` therefore takes the text apart into characters
and units, and `joinTokens` puts the units together.  It fails for half a surrogate pair: such a
text is written correctly, but no text is meant by it.
-/

namespace AuctionHooks.Json

inductive TextToken where
  /-- A character that stands for itself, or a short escape. -/
  | char (c : Char)
  /-- Sixteen bits, given by four hexadecimal digits. -/
  | unit (n : Nat)
  deriving DecidableEq, Inhabited, Repr

def hexValue? (c : Char) : Option Nat :=
  if '0' ≤ c ∧ c ≤ '9' then some (c.toNat - '0'.toNat)
  else if 'a' ≤ c ∧ c ≤ 'f' then some (c.toNat - 'a'.toNat + 10)
  else if 'A' ≤ c ∧ c ≤ 'F' then some (c.toNat - 'A'.toNat + 10)
  else none

def unitOfHex? (a b c d : Char) : Option Nat := do
  let a ← hexValue? a
  let b ← hexValue? b
  let c ← hexValue? c
  let d ← hexValue? d
  some (((a * 16 + b) * 16 + c) * 16 + d)

/-- The character that a short escape denotes, by the letter after the backslash. -/
def shortEscape? : Char → Option Char
  | '"' => some '"'
  | '\\' => some '\\'
  | '/' => some '/'
  | 'b' => some '\x08'
  | 'f' => some '\x0c'
  | 'n' => some '\n'
  | 'r' => some '\r'
  | 't' => some '\t'
  | _ => none

def consToken (t : TextToken) : List TextToken × List Char → List TextToken × List Char
  | (ts, rest) => (t :: ts, rest)

/-- The pieces of a text up to its closing quotation mark, and what follows that. -/
def readTokens : List Char → Option (List TextToken × List Char)
  | [] => none
  | '"' :: rest => some ([], rest)
  | '\\' :: 'u' :: a :: b :: c :: d :: rest => do
    let n ← unitOfHex? a b c d
    consToken (.unit n) <$> readTokens rest
  | '\\' :: e :: rest => do
    let c ← shortEscape? e
    consToken (.char c) <$> readTokens rest
  | c :: rest => if c < ' ' ∨ c = '\\' then none else consToken (.char c) <$> readTokens rest

def isHighSurrogate (n : Nat) : Bool := 0xD800 ≤ n && n < 0xDC00

def isLowSurrogate (n : Nat) : Bool := 0xDC00 ≤ n && n < 0xE000

def pairChar (high low : Nat) : Char :=
  Char.ofNat (0x10000 + (high - 0xD800) * 0x400 + (low - 0xDC00))

/-- The characters that the pieces of a text denote, unless half a surrogate pair is among them. -/
def joinTokens : List TextToken → Option (List Char)
  | [] => some []
  | .char c :: rest => (c :: ·) <$> joinTokens rest
  | .unit n :: .unit m :: rest =>
    if isHighSurrogate n then
      if isLowSurrogate m then (pairChar n m :: ·) <$> joinTokens rest else none
    else if isLowSurrogate n then none
    else (Char.ofNat n :: ·) <$> joinTokens (.unit m :: rest)
  | .unit n :: rest =>
    if isHighSurrogate n ∨ isLowSurrogate n then none else (Char.ofNat n :: ·) <$> joinTokens rest

/-- A text after its opening quotation mark, and what follows it; no characters for a text with
half a surrogate pair. -/
def readText (cs : List Char) : Option (Option String × List Char) := do
  let (tokens, rest) ← readTokens cs
  some (String.ofList <$> joinTokens tokens, rest)

/-! ## Writing -/

def hexDigit (n : Nat) : Char := if n < 10 then Char.ofNat (48 + n) else Char.ofNat (87 + n)

/-- A character as it is written within a text: quotation marks, backslashes and control characters
as escapes, with a short escape where there is one, and all others as they are. -/
def escape (c : Char) : List Char :=
  if c = '"' then ['\\', '"']
  else if c = '\\' then ['\\', '\\']
  else if c = '\x08' then ['\\', 'b']
  else if c = '\t' then ['\\', 't']
  else if c = '\n' then ['\\', 'n']
  else if c = '\x0c' then ['\\', 'f']
  else if c = '\r' then ['\\', 'r']
  else if c < ' ' then ['\\', 'u', '0', '0', hexDigit (c.toNat / 16), hexDigit (c.toNat % 16)]
  else [c]

def writeText (s : String) : List Char := '"' :: s.toList.flatMap escape ++ ['"']

end AuctionHooks.Json
