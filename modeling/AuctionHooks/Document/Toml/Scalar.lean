import AuctionHooks.Document.Toml.Node
import AuctionHooks.Time.Timestamp

/-!
# TOML scalars

Truth values, numbers, dates and times are written without quotation marks, as one word.  Of dates
and times only that they are well formed matters here.

## Numbers

Digits may be separated by single underscores.  An integer may be written in base sixteen, eight or
two, and then without a sign; a decimal number has no superfluous zero in front.  A number with
decimals or a power of ten is a floating-point number, rounded to the nearest double, and so are
`inf` and `nan`.
-/

namespace AuctionHooks.Toml

/-- Digits with single underscores between some of them, without the underscores. -/
def withoutUnderscores (isDigit : Char → Bool) : List Char → Option (List Char)
  | [] => none
  | [c] => if isDigit c then some [c] else none
  | c :: '_' :: rest =>
    if isDigit c then (c :: ·) <$> withoutUnderscores isDigit rest else none
  | c :: rest => if isDigit c then (c :: ·) <$> withoutUnderscores isDigit rest else none

def digitValue (c : Char) : Nat :=
  if c.isDigit then c.toNat - 48 else if 'a' ≤ c then c.toNat - 87 else c.toNat - 55

def isHexDigit (c : Char) : Bool :=
  c.isDigit || ('a' ≤ c && c ≤ 'f') || ('A' ≤ c && c ≤ 'F')

/-- The number that digits denote in a base. -/
def digitsValue (base : Nat) (ds : List Char) : Nat :=
  ds.foldl (fun n c => n * base + digitValue c) 0

/-- An integer as a node: one that fits into one hundred and twenty-eight bits, with or without a
sign, is read. -/
def integerNode (n : Int) : Node :=
  if -0x80000000000000000000000000000000 ≤ n ∧ n < 0x100000000000000000000000000000000 then
    .integer n
  else .oversized

/-- An integer in a base other than ten. -/
def readInBase (base : Nat) (isDigit : Char → Bool) (cs : List Char) : Option Node :=
  (fun ds => integerNode (digitsValue base ds)) <$> withoutUnderscores isDigit cs

def readSign : List Char → Bool × List Char
  | '-' :: rest => (true, rest)
  | '+' :: rest => (false, rest)
  | cs => (false, cs)

/-- The digits of a decimal whole part, without a superfluous zero in front. -/
def readWhole (cs : List Char) : Option (List Char) :=
  match withoutUnderscores Char.isDigit cs with
  | some ('0' :: _ :: _) => none
  | found => found

def readDecimal (cs : List Char) : Option Node := do
  let (negative, cs) := readSign cs
  let ds ← readWhole cs
  let n : Int := digitsValue 10 ds
  some (integerNode (if negative then -n else n))

/-- The double nearest to a significand times a power of ten; a number beyond the range of doubles
is too large. -/
def floatNode (negative : Bool) (digits : List Char) (exponent : Int) : Node :=
  let significand := digitsValue 10 digits
  let magnitude := exponent + digits.length
  let x :=
    if significand = 0 ∨ magnitude < -400 then 0.0
    else if magnitude > 800 then (1.0 : Float) / 0.0
    else Float.ofScientific significand (exponent < 0) exponent.natAbs
  if x.isInf then .oversized else .float (if negative then -x else x)

def readFloat (cs : List Char) : Option Node := do
  let (negative, cs) := readSign cs
  if cs = "inf".toList then
    some (.float (if negative then -1.0 / 0.0 else 1.0 / 0.0))
  else if cs = "nan".toList then some (.float (0.0 / 0.0))
  else
    let isMark (c : Char) : Bool := c = 'e' || c = 'E'
    let mantissa := cs.takeWhile fun c => !isMark c
    let power := cs.dropWhile fun c => !isMark c
    let whole := mantissa.takeWhile (· ≠ '.')
    let decimals := mantissa.dropWhile (· ≠ '.')
    if power.isEmpty ∧ decimals.isEmpty then none
    let ws ← readWhole whole
    let ds ← match decimals with
      | [] => some []
      | _ :: rest => withoutUnderscores Char.isDigit rest
    let e : Int ← match power with
      | [] => some 0
      | _ :: rest => do
        let (negative, rest) := readSign rest
        let es ← withoutUnderscores Char.isDigit rest
        let e : Int := digitsValue 10 es
        some (if negative then -e else e)
    some (floatNode negative (ws ++ ds) (e - ds.length))

/-! ## Dates and times -/

/-- A number of exactly `count` digits within bounds, and what follows it. -/
def readFixed (count least most : Nat) (cs : List Char) : Option (Nat × List Char) :=
  let ds := cs.take count
  let n := digitsValue 10 ds
  if ds.length = count ∧ ds.all Char.isDigit ∧ least ≤ n ∧ n ≤ most then some (n, cs.drop count)
  else none

/-- What follows a character, if the character stands at the front. -/
def dropChar (c : Char) : List Char → Option (List Char)
  | c' :: rest => if c = c' then some rest else none
  | [] => none

def dropDate (cs : List Char) : Option (List Char) := do
  let (year, cs) ← readFixed 4 0 9999 cs
  let cs ← dropChar '-' cs
  let (month, cs) ← readFixed 2 1 12 cs
  let cs ← dropChar '-' cs
  let (_, cs) ← readFixed 2 1 (CalendarDay.daysInMonth year month) cs
  some cs

/-- The seconds of a time, with decimals: what follows them. -/
def dropSeconds (cs : List Char) : Option (List Char) := do
  let (_, cs) ← readFixed 2 0 60 cs
  match cs with
  | '.' :: rest => if rest.head?.any Char.isDigit then some (rest.dropWhile Char.isDigit) else none
  | _ => some cs

/-- A time, whose seconds may be missing: what follows it. -/
def dropTime (cs : List Char) : Option (List Char) := do
  let (_, cs) ← readFixed 2 0 23 cs
  let cs ← dropChar ':' cs
  let (_, cs) ← readFixed 2 0 59 cs
  match cs with
  | ':' :: rest => dropSeconds rest
  | _ => some cs

def isOffset (cs : List Char) : Bool :=
  match cs with
  | [] | ['Z'] | ['z'] => true
  | sign :: rest =>
    (sign = '+' || sign = '-') &&
      ((do
        let (_, cs) ← readFixed 2 0 23 rest
        let cs ← dropChar ':' cs
        let (_, cs) ← readFixed 2 0 59 cs
        some cs.isEmpty) : Option Bool).getD false

/-- Whether a word is a time with an optional distance from universal time. -/
def isTimeOfDate (cs : List Char) : Bool := ((isOffset ·) <$> dropTime cs).getD false

def isDate (cs : List Char) : Bool := (List.isEmpty <$> dropDate cs).getD false

def isTime (cs : List Char) : Bool := (List.isEmpty <$> dropTime cs).getD false

/-- Whether a word is a date and a time with a `T` between them. -/
def isDateTime (cs : List Char) : Bool :=
  match dropDate cs with
  | some ('T' :: rest) | some ('t' :: rest) => isTimeOfDate rest
  | _ => false

def readScalar (word : List Char) : Option Node :=
  match word with
  | ['t', 'r', 'u', 'e'] => some (.bool true)
  | ['f', 'a', 'l', 's', 'e'] => some (.bool false)
  | '0' :: 'x' :: rest => readInBase 16 isHexDigit rest
  | '0' :: 'o' :: rest => readInBase 8 (fun c => '0' ≤ c && c ≤ '7') rest
  | '0' :: 'b' :: rest => readInBase 2 (fun c => c = '0' || c = '1') rest
  | _ =>
    if isDate word || isTime word || isDateTime word then some .moment
    else (readDecimal word).or (readFloat word)

end AuctionHooks.Toml
