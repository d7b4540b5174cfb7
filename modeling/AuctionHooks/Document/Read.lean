import AuctionHooks.Document.Decoder
import AuctionHooks.Document.Json.Reader

/-!
# Reading a document

A text can fail in two ways to be what is asked for.  It may not be a document of its format at
all, or it may be one that does not fit.  The first outweighs the second: a text that is not a
document in every part, unreadable values included, is never blamed for not fitting.
-/

namespace AuctionHooks

/-- Why a text is not what is asked for. -/
inductive ParseFault where
  | syntactic
  | data (e : DecodeError)
  deriving DecidableEq, Inhabited, Repr

namespace Json

/-- Reads a JSON text with a decoder. -/
def read {α : Type} (d : Decoder α) (s : String) : Except ParseFault α :=
  match parse s with
  | none => .error .syntactic
  | some v =>
    match d .json v with
    | .ok a => .ok a
    | .error e => .error (if v.isReadable then .data e else .syntactic)

end Json

end AuctionHooks
