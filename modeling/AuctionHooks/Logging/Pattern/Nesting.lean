/-!
# How deep a pattern goes

The parts of a pattern hold each other, and a pattern may only go so deep.  What holds nothing has
the depth zero.  A group, a repetition, brackets and an operator inside brackets are one level
deeper than what they hold.  Parts that stand side by side are one level deeper than the deepest of
them if there are at least two; a single part adds no level to its own.
-/

namespace AuctionHooks.PatternNesting

def limit : Nat := 250

/-- The depth of parts that stand side by side. -/
def together : List Nat → Nat
  | [] => 0
  | [depth] => depth
  | depths => depths.foldl max 0 + 1

/-- How deep the members of a set and the operators between them go. -/
structure MemberDepths where
  /-- The depth of what stands in front of the last operator, if there is an operator. -/
  operand : Option Nat := none
  /-- The depths of the members behind it, the last one first. -/
  members : List Nat := []
  deriving DecidableEq, Inhabited, Repr

namespace MemberDepths

def depth (d : MemberDepths) : Nat :=
  match d.operand with
  | none => together d.members
  | some operand => max operand (together d.members) + 1

def add (d : MemberDepths) (depth : Nat) : MemberDepths := { d with members := depth :: d.members }

/-- Adds an operator, whose left side is all that stands in front of it. -/
def addOperator (d : MemberDepths) : MemberDepths := ⟨some d.depth, []⟩

end MemberDepths

/-- How deep alternatives go, and the parts of the last one. -/
structure BranchDepths where
  /-- The depths of the alternatives that are complete. -/
  complete : List Nat := []
  /-- The depths of the parts of the last alternative, the last part first. -/
  parts : List Nat := []
  deriving DecidableEq, Inhabited, Repr

namespace BranchDepths

def depth (d : BranchDepths) : Nat := together (together d.parts :: d.complete)

def add (d : BranchDepths) (depth : Nat) : BranchDepths := { d with parts := depth :: d.parts }

def repeatLast (d : BranchDepths) : BranchDepths :=
  { d with parts := d.parts.modifyHead (· + 1) }

def addBranch (d : BranchDepths) : BranchDepths := ⟨together d.parts :: d.complete, []⟩

end BranchDepths

end AuctionHooks.PatternNesting
