import AuctionHooks.Logging.Event
import AuctionHooks.Logging.Pattern
import AuctionHooks.Text.Blank
import AuctionHooks.Text.Bytes

/-!
# Log filters

A filter is written as directives with commas between them.  A directive names a level, or a target
and a level as in `target=level`, or a target alone, which lets everything from there through.  In
brackets behind the target it may name a span, and in braces a field that an event must have, with
a pattern for its value behind an equals sign.

## Where the parts of a directive are cut

The signs that separate the parts of a directive are looked for in the directive without the white
space around it.  The parts themselves are cut out of the directive as it is written, at the
distances from its front, in bytes, at which the signs were found.  So white space behind a
directive belongs to its last part, and white space in front of it shifts all of its parts.  A shift
may even tear a character apart; that is no fault to pass over, and no filter comes of it.

## Which directive decides

An event is decided by the most specific directive that applies to it: that with the longest target,
and among those with equal targets the one with more fields.  Of two directives that only differ in
their level the later counts.  An event to which no directive applies is not shown.

Directives about spans or about the values of fields only take effect within spans, and this program
opens none.  They still count as directives.

## Filters without directives

A filter that is read strictly and has no directive shows nothing.  One that is read leniently shows
errors if no directive of it can be read.
-/

namespace AuctionHooks

/-- Up to which level events are shown; `none` shows nothing. -/
abbrev LogThreshold := Option LogLevel

namespace LogThreshold

def allows (t : LogThreshold) (level : LogLevel) : Bool :=
  t.any fun most => level.verbosity ≤ most.verbosity

def ofNumber? : Nat → Option LogThreshold
  | 0 => some none
  | 1 => some (some .error)
  | 2 => some (some .warn)
  | 3 => some (some .info)
  | 4 => some (some .debug)
  | 5 => some (some .trace)
  | _ => none

def named : List (String × LogThreshold) :=
  [("", some .error), ("error", some .error), ("warn", some .warn), ("info", some .info),
    ("debug", some .debug), ("trace", some .trace), ("off", none)]

/-- The threshold that a text denotes: a number, or a name in any case. -/
def ofText? (text : List Char) : Option LogThreshold :=
  let digits := match text with
    | '+' :: rest => rest
    | cs => cs
  let number :=
    if digits.isEmpty ∨ ¬ digits.all Char.isDigit then none
    else ofNumber? (digits.foldl (fun n c => n * 10 + (c.toNat - 48)) 0)
  number.or (named.lookup (String.ofList (text.map Char.toLower)))

end LogThreshold

structure LogDirective where
  /-- How the target of an event must begin. -/
  target : Option String := none
  /-- The span in which an event must lie. -/
  inSpan : Option String := none
  /-- The fields that an event must have, each with the value that it must have, if that matters. -/
  fields : List (String × Option String) := []
  threshold : LogThreshold := some .trace
  deriving DecidableEq, Inhabited, Repr

inductive DirectiveFault where
  | malformed
  | noLevel
  /-- The value that it asks of a field is no pattern that can be used. -/
  | noPattern (fault : PatternFault)
  /-- A part of it begins or ends within a character. -/
  | tornCharacter
  deriving DecidableEq, Inhabited, Repr

def DirectiveFault.message : DirectiveFault → String
  | malformed => "invalid filter directive"
  | noLevel =>
    "error parsing level filter: expected one of \"off\", \"error\", \"warn\", \"info\", " ++
      "\"debug\", \"trace\", or a number 0-5"
  | noPattern fault => "invalid field filter: " ++ fault.message
  | tornCharacter => "a part of a log directive begins or ends within a character"

namespace LogDirective

/-- Whether a directive may begin with a character, other than with a bracket. -/
def mayBegin (c : Char) : Bool :=
  c = '-' || c = ':' || c = '_' || Text.isAlphanumeric c

/-- The threshold that stands at the end of a directive; an empty one shows everything. -/
def withThreshold (d : LogDirective) (text : List Char) : Except DirectiveFault LogDirective :=
  if text.isEmpty then .ok d
  else
    match LogThreshold.ofText? text with
    | some threshold => .ok { d with threshold }
    | none => .error .noLevel

/-- Reads a field, with a pattern behind an equals sign if one is given. -/
def withField (d : LogDirective) (text : List Char) : Except DirectiveFault LogDirective :=
  let name := text.takeWhile (· ≠ '=')
  match text.drop name.length with
  | [] => .ok { d with fields := [(String.ofList name, none)] }
  | _ :: rest =>
    let value := rest.takeWhile (· ≠ '=')
    match Pattern.fault? value with
    | some fault => .error (.noPattern fault)
    | none => .ok { d with fields := [(String.ofList name, some (String.ofList value))] }

/-- A part that was cut out, unless a character is torn. -/
def ofCut : Option (List Char) → Except DirectiveFault (List Char)
  | some part => .ok part
  | none => .error .tornCharacter

/-- Reads the end of a directive: nothing, or an equals sign and a level.  As in the readers below,
`written` is the directive as it is written, of which the text to read begins `place` bytes behind
the front. -/
def readEnd (d : LogDirective) (written : List Char) (place : Nat) :
    List Char → Except DirectiveFault LogDirective
  | [] => .ok d
  | '=' :: _ => do
    let level ← ofCut (Text.behind? (place + 1) written)
    d.withThreshold level
  | _ => .error .malformed

def readBrace (d : LogDirective) (written : List Char) (place : Nat) (text : List Char) :
    Except DirectiveFault LogDirective :=
  let field := text.takeWhile (· ≠ '\x7d')
  let stop := place + Text.size field
  match text.drop field.length with
  | [] => .error .malformed
  | _ :: rest => do
    let part ← ofCut (Text.between? place stop written)
    if part.isEmpty then .error .malformed
    else
      let d ← d.withField part
      match rest with
      | ']' :: rest => d.readEnd written (stop + 2) rest
      | _ => .error .malformed

def readBracket (d : LogDirective) (written : List Char) (place : Nat) (text : List Char) :
    Except DirectiveFault LogDirective :=
  let span := text.takeWhile fun c => c ≠ ']' ∧ c ≠ '\x7b'
  let stop := place + Text.size span
  match text.drop span.length with
  | [] => .error .malformed
  | sign :: rest => do
    let part ← ofCut (Text.between? place stop written)
    let named : LogDirective := { d with inSpan := some (String.ofList part) }
    if sign = ']' then named.readEnd written (stop + 1) rest
    else (if part.isEmpty then d else named).readBrace written (stop + 1) rest

def ofText (text : String) : Except DirectiveFault LogDirective :=
  let written := text.toList
  match Text.trimChars written with
  | [] => .error .malformed
  | '[' :: rest => ({} : LogDirective).readBracket written 1 rest
  | c :: rest =>
    if !mayBegin c then .error .malformed
    else
      let word := (c :: rest).takeWhile fun c => c ≠ '=' ∧ c ≠ '['
      let stop := Text.size word
      match (c :: rest).drop word.length with
      | [] =>
        match LogThreshold.ofText? written with
        | some threshold => .ok { threshold }
        | none => .ok { target := some text }
      | sign :: rest => do
        let part ← ofCut (Text.between? 0 stop written)
        let d : LogDirective := { target := some (String.ofList part) }
        if sign = '=' then d.readEnd written stop (sign :: rest)
        else d.readBracket written (stop + 1) rest

def isTorn : Except DirectiveFault LogDirective → Bool
  | .error .tornCharacter => true
  | _ => false

/-- Whether the directive can decide about an event outside of all spans. -/
def isStatic (d : LogDirective) : Bool := d.inSpan.isNone && d.fields.all (·.2.isNone)

/-- Whether the directive applies to an event; every event has a field for its message. -/
def appliesTo (d : LogDirective) (e : LogEvent) : Bool :=
  d.isStatic && (d.target.all fun t => t.isPrefixOf e.target) &&
    d.fields.all fun f => f.1 = "message" || e.fields.any (·.1 = f.1)

def specificity (d : LogDirective) : Nat × Nat :=
  ((d.target.map fun t => t.length + 1).getD 0, d.fields.length)

/-- Whether `d` decides rather than `c`, which stands before it. -/
def outranks (d c : LogDirective) : Bool :=
  let (t, n) := d.specificity
  let (t', n') := c.specificity
  let names := compare (c.fields.map (·.1)) (d.fields.map (·.1))
  t' < t || t' = t && (n' < n || n' = n && names.isLE)

end LogDirective

structure LogFilter where
  directives : List LogDirective
  deriving DecidableEq, Inhabited, Repr

namespace LogFilter

/-- The parts of a filter between its commas; empty parts do not count. -/
def parts (text : String) : List String :=
  ((text.toList.foldr split [[]]).filter fun p => !p.isEmpty).map String.ofList
where
  /-- Puts a character in front of the first part, or a new part in front of it. -/
  split (c : Char) : List (List Char) → List (List Char)
    | [] => [[c]]
    | part :: rest => if c = ',' then [] :: part :: rest else (c :: part) :: rest

/-- Reads a filter all of whose directives can be read. -/
def ofText (text : String) : Except DirectiveFault LogFilter := do
  let directives ← (parts text).mapM LogDirective.ofText
  .ok ⟨directives⟩

def errorsOnly : LogFilter := ⟨[{ threshold := some .error }]⟩

/-- Reads a filter and passes over the directives that cannot be read; for each of those there is a
complaint.  If none is left, errors are shown.  A torn character ends the reading without a
filter. -/
def ofTextLeniently (text : String) : Option LogFilter × List String :=
  let read := (parts text).map fun p => (p, LogDirective.ofText p)
  let whole := read.takeWhile fun e => !LogDirective.isTorn e.2
  let directives := whole.filterMap fun e => e.2.toOption
  let complaints := whole.filterMap fun e =>
    match e.2 with
    | .ok _ => none
    | .error fault => some ("ignoring `" ++ e.1 ++ "`: " ++ fault.message)
  if whole.length < read.length then (none, complaints)
  else (some (if directives.isEmpty then errorsOnly else ⟨directives⟩), complaints)

def decisive (f : LogFilter) (e : LogEvent) : Option LogDirective :=
  (f.directives.filter (·.appliesTo e)).foldl (fun best d =>
    match best with
    | none => some d
    | some c => if d.outranks c then some d else best) none

def shows (f : LogFilter) (e : LogEvent) : Bool :=
  (f.decisive e).any fun d => d.threshold.allows e.level

end LogFilter

end AuctionHooks
