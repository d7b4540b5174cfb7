import AuctionHooks.Table
import AuctionHooks.Text.Blank

/-!
# Hook ids

A module contributes hooks, and a hook is known by two codes: that of its module and its own.
Ids are ordered by the module code and then by the hook code, each by its code points, which is
also the order of their UTF-8 bytes.
-/

namespace AuctionHooks

/-- The name of a hook: the code of its module and its own code. -/
structure HookId where
  moduleCode : String
  hookCode : String
  deriving DecidableEq, Inhabited, Repr

namespace HookId

/-- A hook id as it is shown to people, with a colon between the codes. -/
def display (h : HookId) : String := h.moduleCode ++ ":" ++ h.hookCode

instance : ToString HookId := ⟨display⟩

/-- Ids are ordered by module code, then by hook code. -/
instance : Ord HookId :=
  ⟨compareLex (compareOn HookId.moduleCode) (compareOn HookId.hookCode)⟩

instance : Std.TransOrd HookId :=
  inferInstanceAs
    (Std.TransCmp (compareLex (compareOn HookId.moduleCode) (compareOn HookId.hookCode)))

instance : Std.LawfulEqOrd HookId where
  eq_of_compare {a b} h := by
    obtain ⟨hm, hc⟩ := Ordering.then_eq_eq.1 h
    cases a; cases b
    congr
    · exact Std.LawfulEqOrd.eq_of_compare (α := String) hm
    · exact Std.LawfulEqOrd.eq_of_compare (α := String) hc

/-- Whether one of the two codes is missing or blank. -/
def isIncomplete (h : HookId) : Bool := Text.isBlank h.moduleCode || Text.isBlank h.hookCode

end HookId

end AuctionHooks
