import ShadowLint.Derive.Token

/-!
# Index types

An index type wraps a number that is not zero, so that its absence takes no room; the
number is the index plus one.  It is declared as a structure without fields, and the
wrapper and its operations are generated.
-/

namespace ShadowLint.Derive

/-- The fields of a structure. -/
inductive Fields where
  | none
  | positional (types : List String)
  | named (names : List String)
  deriving DecidableEq, Repr

/-- Whether a structure has no field. -/
def Fields.isEmpty : Fields → Bool
  | none => true
  | positional types => (listTokens types).isEmpty
  | named names => (listTokens names).isEmpty

/-- A structure that is to become an index type. -/
structure IndexItem where
  /-- What stands between the brackets of its attributes. -/
  attributes : List String
  visibility : String
  name : String
  parameters : List String
  fields : Fields
  deriving DecidableEq, Repr

/-- Why a structure does not become an index type. -/
inductive IndexError where
  | hasFields
  | isGeneric
  deriving DecidableEq, Repr

/-- The text that a refusal is reported with. -/
def IndexError.message : IndexError → String
  | .hasFields => "A new type index cannot have any fields."
  | .isGeneric => "A new type index cannot be generic."

/-! ## The generated code -/

/-- Lines between braces. -/
def braced (head : String) (body : List String) : List String :=
  (head ++ " \x7b") :: body.map ("    " ++ ·) ++ ["\x7d"]

/-- The line that makes the wrapped number from an expression without checking it. -/
def uncheckedIndex (expression : String) : String :=
  "let index = unsafe \x7b std::num::NonZeroU32::new_unchecked(" ++ expression ++ ") \x7d;"

namespace IndexItem

/-- The declaration of the wrapper. -/
def declaration (item : IndexItem) : List String :=
  item.attributes.map (fun a => "#[" ++ a ++ "]")
    ++ ["#[derive(Copy, Clone, Eq, PartialEq, Hash)]",
      item.visibility ++ " struct " ++ item.name ++ "(std::num::NonZeroU32);"]

/-- The operations of the wrapper. -/
def operations (item : IndexItem) : List String :=
  let function (head : String) (body : List String) :=
    braced (item.visibility ++ " const fn " ++ head) body
  braced ("impl " ++ item.name)
    (["const MAX: u32 = u32::MAX - 1;"]
      ++ function "from_usize(value: usize) -> Self"
        ["assert!(value <= Self::MAX as usize);",
          "#[allow(unsafe_code, clippy::cast_possible_truncation)]",
          uncheckedIndex "(value as u32) + 1",
          "Self(index)"]
      ++ function "from_u32(value: u32) -> Self"
        ["assert!(value <= Self::MAX);",
          "#[allow(unsafe_code)]",
          uncheckedIndex "value + 1",
          "Self(index)"]
      ++ ["#[doc = r\" Returns the index as a `u32` value\"]", "#[inline]"]
      ++ function "as_u32(self) -> u32" ["self.0.get() - 1"]
      ++ ["#[doc = r\" Returns the index as a `usize` value\"]", "#[inline]"]
      ++ function "as_usize(self) -> usize" ["self.as_u32() as usize"]
      ++ ["#[inline]"]
      ++ function "index(self) -> usize" ["self.as_usize()"])

/-- The implementation of the interface of index types. -/
def interface (item : IndexItem) : List String :=
  braced ("impl shade_index::Idx for " ++ item.name)
    (["#[inline]"]
      ++ braced "fn new(value: usize) -> Self" [item.name ++ "::from_usize(value)"]
      ++ ["#[inline]"]
      ++ braced "fn index(self) -> usize" ["self.as_usize()"])

/-- The implementation that shows an index to developers. -/
def debug (item : IndexItem) : List String :=
  braced ("impl std::fmt::Debug for " ++ item.name)
    (braced "fn fmt(&self, f: &mut std::fmt::Formatter<'_>) -> std::fmt::Result"
      ["f.debug_tuple(\"" ++ item.name ++ "\").field(&self.index()).finish()"])

/-- The conversion between two types. -/
def conversion (source target result : String) : List String :=
  braced ("impl From<" ++ source ++ "> for " ++ target)
    (braced ("fn from(value: " ++ source ++ ") -> Self") [result])

/-- The lines of the generated code. -/
def lines (item : IndexItem) : List String :=
  item.declaration ++ item.operations ++ item.interface ++ item.debug
    ++ conversion "usize" item.name (item.name ++ "::from_usize(value)")
    ++ conversion "u32" item.name (item.name ++ "::from_u32(value)")
    ++ conversion item.name "usize" "value.as_usize()"
    ++ conversion item.name "u32" "value.as_u32()"

/-- The code that is generated for an index type.  Fields are objected to before
parameters. -/
def generate (item : IndexItem) : Except IndexError String :=
  if !item.fields.isEmpty then .error .hasFields
  else if !(listTokens item.parameters).isEmpty then .error .isGeneric
  else .ok ("\n".intercalate ({ item with name := compact item.name }).lines)

end IndexItem

end ShadowLint.Derive
