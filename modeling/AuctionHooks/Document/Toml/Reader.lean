import AuctionHooks.Document.Read
import AuctionHooks.Document.Toml.Scalar
import AuctionHooks.Document.Toml.Text

/-!
# Reading TOML

`Toml.parse` reads the statements of a document and builds up its table, or fails if the text is no
TOML document, keys that are given twice included.

Values may hold each other to a depth of eighty, and a dotted key may have as many parts.  As in
`Json.parse` the readers that call each other carry a bound on their steps along, which the number
of characters provides.

Inside a table that is written as a value, lines may be broken wherever white space may stand, save
within a key.
-/

namespace AuctionHooks.Toml

def skipSpace (cs : List Char) : List Char := cs.dropWhile isSpace

/-- What follows a comment, if one begins at the front; a comment ends with its line and holds no
control characters. -/
def skipComment : List Char → List Char
  | '#' :: rest => rest.dropWhile isPlain
  | cs => cs

/-- Whether a line ends here, and what follows the line. -/
def readLineEnd (cs : List Char) : Option (List Char) :=
  match skipComment (skipSpace cs) with
  | [] => some []
  | '\n' :: rest | '\r' :: '\n' :: rest => some rest
  | _ => none

/-- What follows white space, comments and line breaks at the front. -/
def skipLines (fuel : Nat) (cs : List Char) : List Char :=
  match fuel with
  | 0 => cs
  | fuel + 1 =>
    match skipComment (skipSpace cs) with
    | '\n' :: rest | '\r' :: '\n' :: rest => skipLines fuel rest
    | rest => rest

def isBareKeyChar (c : Char) : Bool := c.isAlphanum || c = '_' || c = '-'

def readSimpleKey (cs : List Char) : Option (String × List Char) :=
  match cs with
  | '"' :: _ | '\'' :: _ => readShortText cs
  | _ =>
    let name := cs.takeWhile isBareKeyChar
    if name.isEmpty then none else some (String.ofList name, cs.dropWhile isBareKeyChar)

/-- A key of at most `parts` parts with dots between them, as the parts in front of the last dot and
the last part, and what follows it without the white space there. -/
def readParts (parts : Nat) (cs : List Char) : Option ((List String × String) × List Char) :=
  match parts with
  | 0 => none
  | parts + 1 => do
    let (key, rest) ← readSimpleKey (skipSpace cs)
    match skipSpace rest with
    | '.' :: rest => do
      let ((path, last), rest) ← readParts parts rest
      some ((key :: path, last), rest)
    | rest => some (([], key), rest)

/-- How deep values may hold each other, and how many parts a key may have. -/
def maxDepth : Nat := 80

def readKey : List Char → Option ((List String × String) × List Char) := readParts maxDepth

def endsWord (c : Char) : Bool :=
  isSpace c || c = '\n' || c = '\r' || c = ',' || c = ']' || c = '\x7d' || c = '#'

/-- A scalar, and what follows it.  A blank may stand between a date and a time. -/
def readWord (cs : List Char) : Option (Node × List Char) :=
  let word := cs.takeWhile fun c => !endsWord c
  let rest := cs.dropWhile fun c => !endsWord c
  let time := (rest.drop 1).takeWhile fun c => !endsWord c
  if isDate word && rest.head? = some ' ' && isTimeOfDate time then
    some (.moment, (rest.drop 1).drop time.length)
  else (·, rest) <$> readScalar word

mutual

/-- A value, and what follows it.  `depth` is the number of levels that may still be opened. -/
def readValue (fuel depth : Nat) (cs : List Char) : Option (Node × List Char) :=
  match fuel with
  | 0 => none
  | fuel + 1 =>
    match cs with
    | '"' :: _ | '\'' :: _ => (fun e => (.text e.1, e.2)) <$> readText cs
    | '[' :: rest =>
      if depth = 0 then none
      else (fun e => (.array e.1, e.2)) <$> readItems fuel (depth - 1) rest
    | '\x7b' :: rest =>
      if depth = 0 then none
      else (fun e => (.inlineTable e.1, e.2)) <$> readPairs fuel (depth - 1) [] rest
    | _ => readWord cs

/-- The items of an array up to its closing bracket, and what follows that.  A comma may stand
behind the last item. -/
def readItems (fuel depth : Nat) (cs : List Char) : Option (List Node × List Char) :=
  match fuel with
  | 0 => none
  | fuel + 1 =>
    match skipLines cs.length cs with
    | ']' :: rest => some ([], rest)
    | cs => do
      let (v, rest) ← readValue fuel depth cs
      match skipLines rest.length rest with
      | ']' :: rest => some ([v], rest)
      | ',' :: rest => do
        let (vs, rest) ← readItems fuel depth rest
        some (v :: vs, rest)
      | _ => none

/-- The entries of a table that is written as a value, up to its closing brace, and what follows
that.  A comma may stand behind the last entry. -/
def readPairs (fuel depth : Nat) (entries : Entries) (cs : List Char) :
    Option (Entries × List Char) :=
  match fuel with
  | 0 => none
  | fuel + 1 =>
    match skipLines cs.length cs with
    | '\x7d' :: rest => some (entries, rest)
    | cs => do
      let ((path, key), rest) ← readKey cs
      match skipLines rest.length rest with
      | '=' :: rest => do
        let (v, rest) ← readValue fuel depth (skipLines rest.length rest)
        let entries ← entries.assign path key v
        match skipLines rest.length rest with
        | '\x7d' :: rest => some (entries, rest)
        | ',' :: rest => readPairs fuel depth entries rest
        | _ => none
      | _ => none

end

def readStatement (cs : List Char) : Option (Statement × List Char) :=
  match cs with
  | '[' :: '[' :: rest => do
    let ((path, key), rest) ← readKey rest
    match rest with
    | ']' :: ']' :: rest => some (.openItem path key, rest)
    | _ => none
  | '[' :: rest => do
    let ((path, key), rest) ← readKey rest
    match rest with
    | ']' :: rest => some (.openTable path key, rest)
    | _ => none
  | _ => do
    let ((path, key), rest) ← readKey cs
    match rest with
    | '=' :: rest => do
      let rest := skipSpace rest
      let (v, rest) ← readValue (2 * rest.length + 1) maxDepth rest
      some (.assign path key v, rest)
    | _ => none

/-- The statements of a document, each on a line of its own. -/
def readStatements (fuel : Nat) (cs : List Char) : Option (List Statement) :=
  match fuel with
  | 0 => none
  | fuel + 1 =>
    match skipSpace (skipLines cs.length cs) with
    | [] => some []
    | cs => do
      let (s, rest) ← readStatement cs
      let rest ← readLineEnd rest
      (s :: ·) <$> readStatements fuel rest

def dropByteOrderMark : List Char → List Char
  | '\uFEFF' :: rest => rest
  | cs => cs

/-- The document that a text holds, if it holds one. -/
def parse (s : String) : Option Node := do
  let cs := dropByteOrderMark s.toList
  let statements ← readStatements (cs.length + 1) cs
  (.table .headed ·) <$> build statements

/-- Reads a TOML text with a decoder.  A document that does not fit counts as no document at all if
it holds a number that no double and no word of sixty-four bits with a sign holds. -/
def read {α : Type} (d : Decoder α) (s : String) : Except ParseFault α :=
  match parse s with
  | none => .error .syntactic
  | some node =>
    match d .toml node.toValue with
    | .ok a => .ok a
    | .error e => .error (if node.anyLeaf Node.isWide then .syntactic else .data e)

end AuctionHooks.Toml

namespace AuctionHooks

def Format.read {α : Type} : Format → Decoder α → String → Except ParseFault α
  | .json => Json.read
  | .toml => Toml.read

end AuctionHooks
