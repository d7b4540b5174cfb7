import AuctionHooks.Text.Blank

/-!
# Points in time

Records carry the time at which they were made.  A `Timestamp` counts seconds from the beginning of
1970 in universal time, and nanoseconds beyond them; from ten to the ninth nanoseconds on it stands
within a leap second, which belongs to the second before it.

## Written form

A timestamp is written in universal time, with a `Z` at the end and as many decimals as it needs:
none, three, six or nine.  Reading is more lenient (`Timestamp.ofText?`).  Date, time and offset
stand in this order, but a blank may stand for the `T`, blanks may surround the separators, a part
may have fewer digits than usual, a year with a sign may have more, and decimals beyond the ninth
are ignored.
-/

namespace AuctionHooks

structure Timestamp where
  /-- Seconds since the beginning of 1970, in universal time. -/
  seconds : Int
  /-- Nanoseconds beyond them; from ten to the ninth on they lie within a leap second. -/
  nanos : Nat := 0
  deriving DecidableEq, Inhabited, Repr

/-- A day of the calendar. -/
structure CalendarDay where
  year : Int
  month : Nat
  day : Nat
  deriving DecidableEq, Inhabited, Repr

namespace CalendarDay

/-- Whether a year has a twenty-ninth of February. -/
def isLeapYear (year : Int) : Bool :=
  year % 4 = 0 && (year % 100 ≠ 0 || year % 400 = 0)

def daysInMonth (year : Int) (month : Nat) : Nat :=
  if month = 2 then if isLeapYear year then 29 else 28
  else if month = 4 ∨ month = 6 ∨ month = 9 ∨ month = 11 then 30 else 31

/-- The first and the last year in which there are days. -/
def yearRange : Int × Int := (-262143, 262142)

def exists? (d : CalendarDay) : Bool :=
  yearRange.1 ≤ d.year && d.year ≤ yearRange.2 && 1 ≤ d.month && d.month ≤ 12 && 1 ≤ d.day &&
    d.day ≤ daysInMonth d.year d.month

/-- The days from the first of January 1970 to this day.  Years are counted from March on, so that
the leap day comes last, and in eras of four hundred years. -/
def toDayNumber (d : CalendarDay) : Int :=
  let year := if d.month ≤ 2 then d.year - 1 else d.year
  let era := year / 400
  let yearOfEra := year % 400
  let dayOfYear : Int := ((153 * ((d.month + 9) % 12) + 2) / 5 + d.day : Nat) - 1
  era * 146097 + (yearOfEra * 365 + yearOfEra / 4 - yearOfEra / 100 + dayOfYear) - 719468

/-- The day that lies a number of days after the first of January 1970. -/
def ofDayNumber (n : Int) : CalendarDay :=
  let n := n + 719468
  let era := n / 146097
  let dayOfEra := n % 146097
  let yearOfEra := (dayOfEra - dayOfEra / 1460 + dayOfEra / 36524 - dayOfEra / 146096) / 365
  let dayOfYear := dayOfEra - (365 * yearOfEra + yearOfEra / 4 - yearOfEra / 100)
  let monthFromMarch := (5 * dayOfYear + 2) / 153
  let day := dayOfYear - (153 * monthFromMarch + 2) / 5 + 1
  let month := if monthFromMarch < 10 then monthFromMarch + 3 else monthFromMarch - 9
  let year := yearOfEra + era * 400 + (if month ≤ 2 then 1 else 0)
  ⟨year, month.toNat, day.toNat⟩

end CalendarDay

namespace Timestamp

def secondsPerDay : Int := 86400

/-- From here on nanoseconds lie within a leap second. -/
def nanosPerSecond : Nat := 1000000000

/-- The point in time a number of milliseconds after the beginning of 1970. -/
def ofMillis (ms : Nat) : Timestamp := ⟨ms / 1000, ms % 1000 * 1000000⟩

/-! ## Writing -/

/-- A number in decimal digits, filled up with zeros in front to a width. -/
def padded (width n : Nat) : String :=
  let digits := toString n
  String.ofList (List.replicate (width - digits.length) '0') ++ digits

/-- A year: four digits, and a sign where four digits do not suffice. -/
def yearText (year : Int) : String :=
  if 0 ≤ year ∧ year ≤ 9999 then padded 4 year.toNat
  else (if year < 0 then "-" else "+") ++ padded 4 year.natAbs

/-- The decimals of a second, in groups of three. -/
def fractionText (nanos : Nat) : String :=
  if nanos = 0 then ""
  else if nanos % 1000000 = 0 then "." ++ padded 3 (nanos / 1000000)
  else if nanos % 1000 = 0 then "." ++ padded 6 (nanos / 1000)
  else "." ++ padded 9 nanos

def text (t : Timestamp) : String :=
  let day := CalendarDay.ofDayNumber (t.seconds / secondsPerDay)
  let rest := (t.seconds % secondsPerDay).toNat
  let isLeap := nanosPerSecond ≤ t.nanos
  let second := rest % 60 + if isLeap then 1 else 0
  yearText day.year ++ "-" ++ padded 2 day.month ++ "-" ++ padded 2 day.day ++ "T" ++
    padded 2 (rest / 3600) ++ ":" ++ padded 2 (rest / 60 % 60) ++ ":" ++ padded 2 second ++
    fractionText (t.nanos % nanosPerSecond) ++ "Z"

/-! ## Reading -/

def digitsValue (cs : List Char) : Nat := cs.foldl (fun n c => n * 10 + (c.toNat - 48)) 0

/-- At least one and at most `most` digits, and what follows them. -/
def readDigits (most : Nat) (cs : List Char) : Option (List Char × List Char) :=
  let digits := (cs.take most).takeWhile Char.isDigit
  if digits.isEmpty then none else some (digits, cs.drop digits.length)

/-- A number of at most two digits within bounds, with blanks allowed in front. -/
def readPart (least most : Nat) (cs : List Char) : Option (Nat × List Char) := do
  let (digits, rest) ← readDigits 2 (Text.trimFront cs)
  let n := digitsValue digits
  if least ≤ n ∧ n ≤ most then some (n, rest) else none

/-- A year: at most four digits, or a sign and any number of digits. -/
def readYear (cs : List Char) : Option (Int × List Char) := do
  match Text.trimFront cs with
  | '-' :: rest => do
    let (digits, rest) ← readDigits rest.length rest
    some (-(digitsValue digits : Int), rest)
  | '+' :: rest => do
    let (digits, rest) ← readDigits rest.length rest
    some (digitsValue digits, rest)
  | rest => do
    let (digits, rest) ← readDigits 4 rest
    some (digitsValue digits, rest)

/-- A separator, with blanks allowed in front. -/
def readSeparator (c : Char) (cs : List Char) : Option (List Char) :=
  match Text.trimFront cs with
  | c' :: rest => if c = c' then some rest else none
  | [] => none

/-- The decimals of a second in nanoseconds; those beyond the ninth are dropped. -/
def readFraction (cs : List Char) : Option (Nat × List Char) :=
  match cs with
  | '.' :: rest => do
    let (digits, rest) ← readDigits 9 rest
    let filledUp := digits ++ List.replicate (9 - digits.length) '0'
    some (digitsValue filledUp, rest.dropWhile Char.isDigit)
  | _ => some (0, cs)

/-- The distance from universal time in seconds: `Z`, `UTC` in any case, or a sign, two digits of
hours and two of minutes, with colons and blanks between the two. -/
def readOffset (cs : List Char) : Option (Int × List Char) :=
  match cs with
  | 'Z' :: rest | 'z' :: rest => some (0, rest)
  | u :: t :: c :: rest =>
    if [u, t, c].map Char.toLower = ['u', 't', 'c'] then some (0, rest)
    else readSigned (u :: t :: c :: rest)
  | _ => none
where
  /-- The part after the sign. -/
  readHours (cs : List Char) : Option (Int × List Char) := do
    let h₁ :: h₂ :: rest := cs | none
    let m₁ :: m₂ :: rest := rest.dropWhile (fun c => c = ':' || Text.isBlankChar c) | none
    if [h₁, h₂, m₁, m₂].all Char.isDigit && m₁ ≤ '5' then
      some (digitsValue [h₁, h₂] * 3600 + digitsValue [m₁, m₂] * 60, rest)
    else none
  /-- An offset that begins with its sign. -/
  readSigned (cs : List Char) : Option (Int × List Char) := do
    match cs with
    | '+' :: rest => readHours rest
    | '-' :: rest | '\u2212' :: rest => do
      let (n, rest) ← readHours rest
      some (-n, rest)
    | _ => none

/-- The point in time that a text denotes, if it denotes one. -/
def ofText? (s : String) : Option Timestamp := do
  let (year, rest) ← readYear s.toList
  let rest ← readSeparator '-' rest
  let (month, rest) ← readPart 1 12 rest
  let rest ← readSeparator '-' rest
  let (day, rest) ← readPart 1 31 rest
  let t :: rest := rest | none
  if t ≠ 'T' ∧ t ≠ 't' ∧ t ≠ ' ' then none
  let (hour, rest) ← readPart 0 23 rest
  let rest ← readSeparator ':' rest
  let (minute, rest) ← readPart 0 59 rest
  let rest ← readSeparator ':' rest
  let (second, rest) ← readPart 0 60 rest
  let (nanos, rest) ← readFraction rest
  let (offset, rest) ← readOffset (Text.trimFront rest)
  let date : CalendarDay := ⟨year, month, day⟩
  if ¬ (Text.trimFront rest).isEmpty ∨ ¬ date.exists? ∨ secondsPerDay ≤ offset.natAbs then none
  let isLeap := second = 60
  let time := hour * 3600 + minute * 60 + (if isLeap then 59 else second)
  let seconds := date.toDayNumber * secondsPerDay + time - offset
  if ¬ (CalendarDay.ofDayNumber (seconds / secondsPerDay)).exists? then none
  some ⟨seconds, nanos + if isLeap then nanosPerSecond else 0⟩

end Timestamp

end AuctionHooks
