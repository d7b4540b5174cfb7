import AuctionHooks.Invocation

/-!
# The hook catalog

Modules register their hooks in a catalog, under the code of the module and the code that the hook
gives itself.  Registering a second hook under an id replaces the first.
-/

namespace AuctionHooks

structure HookCatalog (π : Type) where
  hooks : Table HookId (Hook π) := ∅

namespace HookCatalog

variable {π : Type}

instance : Inhabited (HookCatalog π) := ⟨{}⟩

/-- Adds a hook for a module. -/
def register (c : HookCatalog π) (moduleCode : String) (hook : Hook π) : HookCatalog π :=
  ⟨c.hooks.insert ⟨moduleCode, hook.code⟩ hook⟩

def contains (c : HookCatalog π) (id : HookId) : Bool := c.hooks.contains id

def size (c : HookCatalog π) : Nat := c.hooks.size

def isEmpty (c : HookCatalog π) : Bool := c.hooks.isEmpty

/-- The codes of the modules that have registered hooks. -/
def moduleCodes (c : HookCatalog π) : KeySet String :=
  KeySet.ofList (c.hooks.keys.map HookId.moduleCode)

def resolve (c : HookCatalog π) : HookProvider π := fun id =>
  match c.hooks.get? id with
  | some hook => .ok hook
  | none => .error (.hookNotFound id)

end HookCatalog

end AuctionHooks
