import AuctionHooks.Document.Value

/-!
# JSON numbers

A number is written as an optional minus sign, the digits of its whole part, and optionally
decimals and a power of ten.  A natural number below two to the sixty-fourth is read exactly; every
other number is read in double precision.

## How a double is found

The digits are gathered into a significand below two to the sixty-fourth, whole part and decimals
alike.  As soon as one more digit would exceed that, the rest of the whole part only raises the
power of ten, and the rest of the decimals is dropped.  The significand is then rounded to a double
and multiplied or divided by the power of ten, which rounds a second time.  The double may
therefore differ from the nearest one in its last bits, and that is what is specified here.  A
number beyond the range of doubles has no value.
-/

namespace AuctionHooks.Json

structure Numeral where
  negative : Bool
  whole : List Nat
  /-- The decimals, if there is a decimal point. -/
  decimals : Option (List Nat)
  /-- The power of ten, if it is given. -/
  exponent : Option Int
  deriving DecidableEq, Inhabited, Repr

namespace Numeral

/-- Appends digits to a significand for as long as it stays below two to the sixty-fourth, and
counts the digits that are left over. -/
def gather (significand : Nat) : List Nat → Nat × Nat
  | [] => (significand, 0)
  | d :: rest =>
    if significand * 10 + d < 2 ^ 64 then gather (significand * 10 + d) rest
    else (significand, rest.length + 1)

def powerOfTen (e : Nat) : Float := Float.ofScientific 1 false e

/-- A significand times a power of ten, rounded after each step; nothing beyond the range of
doubles. -/
def scale (significand : Nat) (exponent : Int) : Option Float :=
  let x := significand.toUInt64.toFloat
  if 308 < exponent then if significand = 0 then some x else none
  else if 0 ≤ exponent then
    let y := x * powerOfTen exponent.toNat
    if y.isInf then none else some y
  else if -308 ≤ exponent then some (x / powerOfTen (-exponent).toNat)
  else if -616 ≤ exponent then some (x / powerOfTen 308 / powerOfTen (-exponent - 308).toNat)
  else some 0.0

def value (n : Numeral) : Value :=
  let (significand, raised) := gather 0 n.whole
  if n.decimals.isNone ∧ n.exponent.isNone ∧ raised = 0 ∧ ¬ n.negative then
    .natural significand.toUInt64
  else
    let decimals := n.decimals.getD []
    let (significand, dropped) := gather significand decimals
    let exponent := (raised : Int) - ((decimals.length - dropped : Nat) : Int) + n.exponent.getD 0
    match scale significand exponent with
    | some x => .real (if n.negative then -x else x)
    | none => .unreadable

end Numeral

def digitValue (c : Char) : Nat := c.toNat - '0'.toNat

/-- The digits at the front, and what follows them. -/
def readDigits (cs : List Char) : List Nat × List Char :=
  ((cs.takeWhile Char.isDigit).map digitValue, cs.dropWhile Char.isDigit)

def digitsValue (ds : List Nat) : Nat := ds.foldl (fun n d => n * 10 + d) 0

/-- A whole part: a zero that stands alone, or digits that begin with another one. -/
def readWhole (cs : List Char) : Option (List Nat × List Char) :=
  match cs with
  | '0' :: rest => some ([0], rest)
  | _ =>
    match readDigits cs with
    | ([], _) => none
    | found => some found

/-- Decimals, if there is a decimal point; then there is at least one. -/
def readDecimals (cs : List Char) : Option (Option (List Nat) × List Char) :=
  match cs with
  | '.' :: rest =>
    match readDigits rest with
    | ([], _) => none
    | (ds, rest) => some (some ds, rest)
  | _ => some (none, cs)

def readPower (negative : Bool) (cs : List Char) : Option (Option Int × List Char) :=
  match readDigits cs with
  | ([], _) => none
  | (ds, rest) =>
    let n : Int := digitsValue ds
    some (some (if negative then -n else n), rest)

def readExponent (cs : List Char) : Option (Option Int × List Char) :=
  match cs with
  | 'e' :: '+' :: rest | 'E' :: '+' :: rest => readPower false rest
  | 'e' :: '-' :: rest | 'E' :: '-' :: rest => readPower true rest
  | 'e' :: rest | 'E' :: rest => readPower false rest
  | _ => some (none, cs)

def readNumeral (cs : List Char) : Option (Numeral × List Char) := do
  let (negative, cs) := match cs with
    | '-' :: rest => (true, rest)
    | _ => (false, cs)
  let (whole, cs) ← readWhole cs
  let (decimals, cs) ← readDecimals cs
  let (exponent, cs) ← readExponent cs
  some (⟨negative, whole, decimals, exponent⟩, cs)

end AuctionHooks.Json
