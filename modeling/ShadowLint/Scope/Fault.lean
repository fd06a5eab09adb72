import ShadowLint.Scope.Id

/-!
# Faults of model operations

An operation on an arena or on a model that is asked for something it cannot do ends in
a `Fault` and leaves its operand as it was.
-/

namespace ShadowLint.Scope

/-- Why an operation on an arena or on a model was refused. -/
inductive Fault where
  /-- A 32-bit number has no identifier. -/
  | index32TooLarge
  /-- A 64-bit number has no identifier. -/
  | indexTooLarge
  /-- The arena has `size` items and none at `index`. -/
  | indexOutOfBounds (size index : Nat)
  /-- A range was to end before it starts. -/
  | reversedRange
  /-- A scope was to hang below a scope that does not exist yet. -/
  | parentMissing (parent : ScopeId)
  /-- A node was to stand in a scope that does not exist yet. -/
  | scopeMissing (scope : ScopeId)
  deriving DecidableEq, Repr

/-- The text that a fault is reported with. -/
def Fault.message : Fault → String
  | .index32TooLarge => "assertion failed: value <= Self::MAX"
  | .indexTooLarge => "assertion failed: value <= Self::MAX as usize"
  | .indexOutOfBounds size index =>
      "index out of bounds: the len is " ++ toString size ++ " but the index is " ++ toString index
  | .reversedRange => "assertion failed: start.raw <= end.raw"
  | .parentMissing parent =>
      "parent scope " ++ parent.text ++ " must be pushed before its children"
  | .scopeMissing scope => "scope " ++ scope.text ++ " must be pushed before its nodes"

/-- The identifier of a number, or the fault of one that is too large. -/
def scopeIdOf (number : Nat) : Except Fault ScopeId :=
  match ScopeId.ofNat? number with
  | some id => .ok id
  | none => .error .indexTooLarge

end ShadowLint.Scope
