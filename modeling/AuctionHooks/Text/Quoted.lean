import AuctionHooks.Text.Unprintable

/-!
# Texts between quotation marks

Where a text is shown to people who need to see exactly what it holds, it stands between quotation
marks; marks and backslashes in it get a backslash in front, line breaks and tabulators are shown
by letters, and characters that leave no mark on the page by their hexadecimal numbers.
-/

namespace AuctionHooks.Text

def quoteChar (c : Char) : List Char :=
  if c = '\x00' then ['\\', '0']
  else if c = '\t' then ['\\', 't']
  else if c = '\r' then ['\\', 'r']
  else if c = '\n' then ['\\', 'n']
  else if c = '\\' then ['\\', '\\']
  else if c = '"' then ['\\', '"']
  else if isUnprintable c then '\\' :: 'u' :: '\x7b' :: Nat.toDigits 16 c.toNat ++ ['\x7d']
  else [c]

def quote (s : String) : String := String.ofList ('"' :: s.toList.flatMap quoteChar ++ ['"'])

/-- A set of texts as it is shown: in braces, with commas between the members. -/
def quoteSet (members : List String) : String :=
  "\x7b" ++ ", ".intercalate (members.map quote) ++ "\x7d"

end AuctionHooks.Text
