import AuctionHooks.Document.Json.Text

/-!
# TOML texts

A text stands between quotation marks or between apostrophes, and either between single ones or
between three of them.  Escapes count between quotation marks only; line breaks may stand between
triple marks only, and one that stands right at the beginning does not belong to the text.

Between three quotation marks a backslash at the end of a line takes away the line break and all
white space up to the next character.  Up to two marks of the kind that ends a text may stand right
in front of its end and then belong to it.
-/

namespace AuctionHooks.Toml

/-- Whether a character may stand for itself: no control character other than the tabulator. -/
def isPlain (c : Char) : Bool := c = '\t' || (' ' ≤ c && c ≠ '\x7f')

def isSpace (c : Char) : Bool := c = ' ' || c = '\t'

def hexValue? (cs : List Char) : Option Nat :=
  cs.foldlM (fun n c => (n * 16 + ·) <$> Json.hexValue? c) 0

/-- The character with a given number, unless the number is that of half a surrogate pair or beyond
all characters. -/
def charOf? (n : Nat) : Option Char := if n.isValidChar then some (Char.ofNat n) else none

/-- The character that a short escape denotes, by the letter after the backslash. -/
def shortEscape? : Char → Option Char
  | '"' => some '"'
  | '\\' => some '\\'
  | 'b' => some '\x08'
  | 'e' => some '\x1b'
  | 'f' => some '\x0c'
  | 'n' => some '\n'
  | 'r' => some '\r'
  | 't' => some '\t'
  | _ => none

def consChar (c : Char) : List Char × List Char → List Char × List Char
  | (cs, rest) => (c :: cs, rest)

/-- Whether nothing but white space stands between here and the end of the line. -/
def isLineEnd (cs : List Char) : Bool :=
  match cs.dropWhile isSpace with
  | '\n' :: _ | '\r' :: '\n' :: _ => true
  | _ => false

def skipBreak : List Char → List Char
  | '\n' :: rest | '\r' :: '\n' :: rest => rest
  | cs => cs

/-- A text with escapes after its opening mark, and what follows its end.  `long` says whether three
marks enclose it, and `skipping` whether white space is being taken away. -/
def readEscaped (long skipping : Bool) : List Char → Option (List Char × List Char)
  | [] => none
  | '"' :: '"' :: '"' :: '"' :: '"' :: rest =>
    if long then some (['"', '"'], rest) else some ([], '"' :: '"' :: '"' :: '"' :: rest)
  | '"' :: '"' :: '"' :: '"' :: rest =>
    if long then some (['"'], rest) else some ([], '"' :: '"' :: '"' :: rest)
  | '"' :: '"' :: '"' :: rest => if long then some ([], rest) else some ([], '"' :: '"' :: rest)
  | '"' :: rest => if long then consChar '"' <$> readEscaped long false rest else some ([], rest)
  | '\\' :: 'x' :: a :: b :: rest => do
    let c ← hexValue? [a, b] >>= charOf?
    consChar c <$> readEscaped long false rest
  | '\\' :: 'u' :: a :: b :: c :: d :: rest => do
    let c ← hexValue? [a, b, c, d] >>= charOf?
    consChar c <$> readEscaped long false rest
  | '\\' :: 'U' :: a :: b :: c :: d :: e :: f :: g :: h :: rest => do
    let c ← hexValue? [a, b, c, d, e, f, g, h] >>= charOf?
    consChar c <$> readEscaped long false rest
  | '\\' :: e :: rest =>
    if long && isLineEnd (e :: rest) then readEscaped long true (e :: rest)
    else do
      let c ← shortEscape? e
      consChar c <$> readEscaped long false rest
  | '\r' :: '\n' :: rest =>
    if !long then none
    else if skipping then readEscaped long true rest
    else (consChar '\r' ∘ consChar '\n') <$> readEscaped long false rest
  | c :: rest =>
    if c = '\n' then
      if !long then none
      else if skipping then readEscaped long true rest
      else consChar c <$> readEscaped long false rest
    else if !isPlain c || c = '\\' then none
    else if skipping && isSpace c then readEscaped long true rest
    else consChar c <$> readEscaped long false rest

/-- A text without escapes after its opening mark, and what follows its end.  `long` says whether
three marks enclose it. -/
def readLiteral (long : Bool) : List Char → Option (List Char × List Char)
  | [] => none
  | '\'' :: '\'' :: '\'' :: '\'' :: '\'' :: rest =>
    if long then some (['\'', '\''], rest) else some ([], '\'' :: '\'' :: '\'' :: '\'' :: rest)
  | '\'' :: '\'' :: '\'' :: '\'' :: rest =>
    if long then some (['\''], rest) else some ([], '\'' :: '\'' :: '\'' :: rest)
  | '\'' :: '\'' :: '\'' :: rest =>
    if long then some ([], rest) else some ([], '\'' :: '\'' :: rest)
  | '\'' :: rest => if long then consChar '\'' <$> readLiteral long rest else some ([], rest)
  | '\r' :: '\n' :: rest =>
    if long then (consChar '\r' ∘ consChar '\n') <$> readLiteral long rest else none
  | c :: rest =>
    if c = '\n' then if long then consChar c <$> readLiteral long rest else none
    else if isPlain c then consChar c <$> readLiteral long rest
    else none

def readText (cs : List Char) : Option (String × List Char) :=
  let found := match cs with
    | '"' :: '"' :: '"' :: rest => readEscaped true false (skipBreak rest)
    | '"' :: rest => readEscaped false false rest
    | '\'' :: '\'' :: '\'' :: rest => readLiteral true (skipBreak rest)
    | '\'' :: rest => readLiteral false rest
    | _ => none
  (fun e => (String.ofList e.1, e.2)) <$> found

def readShortText (cs : List Char) : Option (String × List Char) :=
  let found := match cs with
    | '"' :: rest => readEscaped false false rest
    | '\'' :: rest => readLiteral false rest
    | _ => none
  (fun e => (String.ofList e.1, e.2)) <$> found

end AuctionHooks.Toml
