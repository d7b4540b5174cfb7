import AuctionHooks.Document.Json.Text

/-!
# Writing JSON

The compact form has no white space at all, keeps the entries of a record in order, and escapes in
texts only what has to be escaped.
-/

namespace AuctionHooks.Json

def writeNatural (n : UInt64) : List Char := Nat.toDigits 10 n.toNat

mutual

/-- The compact form of a value.  A moment, an unreadable value and a number that is no natural
number are written as `null`; the texts that this library writes hold none of them. -/
def write : Value → List Char
  | .null | .moment | .unreadable | .impassable | .real _ => "null".toList
  | .bool true => "true".toList
  | .bool false => "false".toList
  | .natural n => writeNatural n
  | .text s => writeText s
  | .list items => '[' :: writeItems items ++ [']']
  | .record entries => '\x7b' :: writeEntries entries ++ ['\x7d']

def writeItems : List Value → List Char
  | [] => []
  | [v] => write v
  | v :: rest => write v ++ ',' :: writeItems rest

def writeEntries : List (String × Value) → List Char
  | [] => []
  | [(k, v)] => writeText k ++ ':' :: write v
  | (k, v) :: rest => writeText k ++ ':' :: write v ++ ',' :: writeEntries rest

end

/-- The compact form of a value. -/
def compact (v : Value) : String := String.ofList (write v)

end AuctionHooks.Json
