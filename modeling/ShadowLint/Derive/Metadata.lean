import ShadowLint.Derive.Docs
import ShadowLint.Derive.Generics

/-!
# Metadata of violations

The type of a violation knows the name of its rule and an explanation of it.  The
implementation that says so is generic in the same way as the type is.
-/

namespace ShadowLint.Derive

/-- An item that stands for a violation. -/
structure ViolationItem where
  attributes : List Attribute
  name : String
  /-- The parameters as they are written. -/
  parameters : List String
  /-- The predicates of the item as they are written. -/
  predicates : List String
  deriving DecidableEq, Repr

/-- The implementation that is generated for a violation. -/
structure Metadata where
  ruleName : String
  explanation : String
  /-- The type that is implemented for, with its parameters. -/
  selfType : String
  parameters : List String
  predicates : List String
  deriving DecidableEq, Repr

/-- The type of an item with the names of its parameters. -/
def selfType (name : String) (parameters : List Parameter) : String :=
  if parameters.isEmpty then name else name ++ "<" ++ Parameter.arguments parameters ++ ">"

/-- The implementation that is generated for a violation. -/
def ViolationItem.metadata (item : ViolationItem) : Except DocError Metadata := do
  let explanation ← explanation item.attributes
  let name := compact item.name
  let parameters := Parameter.ofSources item.parameters
  return {
    ruleName := name
    explanation
    selfType := selfType name parameters
    parameters := (Parameter.inOrder parameters).map Parameter.declaration
    predicates := predicatesOf item.predicates }

end ShadowLint.Derive
