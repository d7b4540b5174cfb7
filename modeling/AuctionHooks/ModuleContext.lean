/-!
# Module contexts

Between two calls of its hooks for the same request a module may keep a value, its *module
context*.  The engine never looks inside: it passes the context on and can tell whether two
contexts are one and the same.  A module that reads a context back asks for the kind of value it
expects and finds nothing if another kind is kept.
-/

namespace AuctionHooks

inductive ModuleContent where
  | text (s : String)
  | number (n : UInt64)
  /-- Any other kind of value, which only its own module can read. -/
  | sealed
  deriving DecidableEq, Inhabited, Repr

/-- A value that a module keeps, together with what makes it this value and no other. -/
structure ModuleContext where
  /-- Tells this context from another one with the same content. -/
  identity : Nat
  content : ModuleContent
  deriving DecidableEq, Inhabited, Repr

namespace ModuleContext

/-- Whether two contexts are one and the same, not merely alike. -/
def sameAs (a b : ModuleContext) : Bool := a.identity == b.identity

def text? (c : ModuleContext) : Option String :=
  match c.content with
  | .text s => some s
  | _ => none

def number? (c : ModuleContext) : Option UInt64 :=
  match c.content with
  | .number n => some n
  | _ => none

/-- What is shown of a context: never its content. -/
def describe (_ : ModuleContext) : String := "ModuleContext(..)"

end ModuleContext

end AuctionHooks
