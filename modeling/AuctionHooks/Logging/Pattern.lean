import AuctionHooks.Logging.Pattern.Bracket
import AuctionHooks.Text.Alphanumeric

/-!
# Patterns

A directive of a log filter may ask for a field whose value matches a pattern.  A number and a truth
value ask for themselves; any other text is a regular expression.  Such directives only take effect
within spans, and this program opens none, so of a pattern it only matters whether it can be used:
whether it is well formed and not too deep, and whether it can be matched in one pass over the
bytes of a value, which the edges of words of any script prevent.
-/

namespace AuctionHooks

inductive PatternFault where
  /-- It is no regular expression, one that goes too deep, or one that asks for tables of
  characters. -/
  | malformed
  /-- It asks where words of any script begin and end. -/
  | wordEdge
  deriving DecidableEq, Inhabited, Repr

def PatternFault.message : PatternFault → String
  | malformed => "error building NFA"
  | wordEdge =>
    "unsupported regex feature for DFAs: cannot build DFAs for regexes with Unicode word " ++
      "boundaries; switch to ASCII word boundaries, or heuristically enable Unicode word " ++
      "boundaries or use a different regex engine"

namespace Pattern

open PatternNesting (BranchDepths)

/-! ## Numbers -/

def dropSign : List Char → List Char
  | '+' :: rest | '-' :: rest => rest
  | cs => cs

/-- Whether characters are digits, at least one. -/
def isDigits (cs : List Char) : Bool := !cs.isEmpty && cs.all Char.isDigit

/-- Whether a text is a number: an optional sign, digits with an optional point among or around
them, and an optional power of ten; or the name of infinity or of no number, in any case. -/
def isNumber (cs : List Char) : Bool :=
  let cs := (dropSign cs).map Char.toLower
  let mantissa := cs.takeWhile (· ≠ 'e')
  let whole := mantissa.takeWhile (· ≠ '.')
  let decimals := (mantissa.drop whole.length).drop 1
  let isMantissa := isDigits (whole ++ decimals)
  let isPower := match cs.drop mantissa.length with
    | [] => true
    | _ :: power => isDigits (dropSign power)
  ["inf", "infinity", "nan"].contains (String.ofList cs) || (isMantissa && isPower)

/-! ## Groups -/

inductive Opening where
  /-- A group in a mode of its own, which may have a name. -/
  | group (m : PatternMode) (name : Option (List Char))
  /-- No group: the mode changes for the rest of the group around it. -/
  | change (m : PatternMode)
  deriving DecidableEq, Inhabited, Repr

def isGroupName : List Char → Bool
  | [] => false
  | c :: rest =>
    (c = '_' || Text.isLetter c) &&
      rest.all fun c => c = '_' || c = '.' || c = '[' || c = ']' || Text.isAlphanumeric c

/-- The name of a group up to the angle bracket that ends it, and what follows that. -/
def readGroupName (m : PatternMode) (cs : List Char) : Option (Opening × List Char) :=
  let name := cs.takeWhile (· ≠ '>')
  match cs.drop name.length with
  | _ :: rest => if isGroupName name then some (.group m (some name), rest) else none
  | [] => none

def readOpening (m : PatternMode) (cs : List Char) : Option (Opening × List Char) :=
  match m.skip cs with
  | '?' :: 'P' :: '<' :: rest | '?' :: '<' :: rest => readGroupName m rest
  | '?' :: rest =>
    let letters := rest.takeWhile fun c => c ≠ ':' ∧ c ≠ ')'
    if !PatternMode.isChange letters then none
    else
      match rest.drop letters.length with
      | ':' :: rest => some (.group (m.change letters) none, rest)
      | ')' :: rest => if letters.isEmpty then none else some (.change (m.change letters), rest)
      | _ => none
  | cs => some (.group m none, cs)

/-! ## Regular expressions -/

structure Progress where
  mode : PatternMode := {}
  /-- How deep the innermost group goes so far. -/
  depths : BranchDepths := {}
  /-- The modes to return to at the ends of the groups that are open, and how deep what stands in
  front of those groups goes, the innermost first. -/
  outer : List (PatternMode × BranchDepths) := []
  names : List (List Char) := []
  /-- Whether there is a part in front that may be repeated. -/
  repeatable : Bool := false
  asksWordEdge : Bool := false
  deriving DecidableEq, Inhabited, Repr

def Progress.withPart (p : Progress) (depth : Nat) : Progress :=
  { p with depths := p.depths.add depth, repeatable := true }

/-- The progress after an atom, if the mode admits it. -/
def Progress.withAtom (p : Progress) (a : PatternAtom) : Option Progress :=
  if a.isAdmitted p.mode then
    some { p.withPart 0 with
      asksWordEdge := p.asksWordEdge || (a = .wordEdge && p.mode.unicode) }
  else none

/-- The progress after an opening parenthesis, if the name of its group is new. -/
def Progress.withOpening (p : Progress) : Opening → Option Progress
  | .change m => some { p with mode := m, depths := p.depths.add 0, repeatable := false }
  | .group m name =>
    if name.any p.names.contains then none
    else
      some { p with
        mode := m
        depths := {}
        outer := (p.mode, p.depths) :: p.outer
        names := name.toList ++ p.names
        repeatable := false }

/-- What follows a question mark right behind a repetition, which asks for few rather than many. -/
def dropReluctance : List Char → List Char
  | '?' :: rest => rest
  | cs => cs

/-- The progress after one part, and what follows the part; the text is not empty. -/
def Progress.step (p : Progress) : List Char → Option (Progress × List Char)
  | [] => none
  | '(' :: rest => do
    let (opening, rest) ← readOpening p.mode rest
    let p ← p.withOpening opening
    some (p, rest)
  | ')' :: rest =>
    match p.outer with
    | [] => none
    | (mode, depths) :: outer =>
      some (({ p with mode, depths, outer } : Progress).withPart (p.depths.depth + 1), rest)
  | '|' :: rest => some ({ p with depths := p.depths.addBranch, repeatable := false }, rest)
  | '*' :: rest | '+' :: rest | '?' :: rest =>
    if p.repeatable then some ({ p with depths := p.depths.repeatLast }, dropReluctance rest)
    else none
  | '\x7b' :: _ => none
  | '[' :: rest => do
    let (depth, rest) ← PatternBracket.read p.mode rest
    some (p.withPart depth, rest)
  | '.' :: rest => if p.mode.unicode then some (p.withPart 0, rest) else none
  | '^' :: rest | '$' :: rest => (·, rest) <$> p.withAtom .edge
  | '\\' :: rest => do
    let (a, rest) ← PatternAtom.readEscaped p.mode rest
    (·, rest) <$> p.withAtom a
  | c :: rest => (·, rest) <$> p.withAtom (.character c false)

/-- How far the rest of a text takes the progress, if all of it can be read. -/
def Progress.run : Nat → Progress → List Char → Option Progress
  | 0, _, _ => none
  | fuel + 1, p, cs =>
    match p.mode.skip cs with
    | [] => if p.outer.isEmpty then some p else none
    | cs => do
      let (p, rest) ← p.step cs
      run fuel p rest

def fault? (text : List Char) : Option PatternFault :=
  if isNumber text then none
  else
    match ({} : Progress).run (text.length + 1) text with
    | none => some .malformed
    | some p =>
      if PatternNesting.limit < p.depths.depth then some .malformed
      else if p.asksWordEdge then some .wordEdge
      else none

end Pattern

end AuctionHooks
