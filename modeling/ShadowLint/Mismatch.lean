import ShadowLint.Text.Quoted

/-!
# Mismatches between a document and its schema

A document can be well formed and still not be what its reader asks for.  A `Mismatch`
is the cause in that case; scope-graph documents and configuration files share these
causes and their wording.
-/

namespace ShadowLint

/-- What a document holds at a place. -/
inductive Found where
  | null
  | boolean (value : Bool)
  | integer (value : Int)
  /-- An integer that needs more than 64 bits, with the type that holds it. -/
  | wideInteger (value : Int) (type : String)
  /-- A floating-point number, as it is written. -/
  | float (written : String)
  | string (value : String)
  | sequence
  | map
  deriving DecidableEq, Repr

/-- A found value as a message names it. -/
def Found.text : Found → String
  | .null => "null"
  | .boolean value => "boolean `" ++ toString value ++ "`"
  | .integer value => "integer `" ++ toString value ++ "`"
  | .wideInteger value type => "integer `" ++ toString value ++ "` as " ++ type
  | .float written => "floating point `" ++ written ++ "`"
  | .string value => "string " ++ Text.quoted value
  | .sequence => "sequence"
  | .map => "map"

/-- What a reader asks for at a place. -/
inductive Expected where
  /-- A record of the named type. -/
  | record (type : String)
  /-- A record of the named type, written as the list of its fields. -/
  | fields (type : String) (count : Nat)
  | sequence
  | map
  | string
  | boolean
  | natural32
  | pair
  | unit
  deriving DecidableEq, Repr

/-- An expectation as a message names it. -/
def Expected.text : Expected → String
  | .record type => "struct " ++ type
  | .fields type 1 => "struct " ++ type ++ " with 1 element"
  | .fields type count => "struct " ++ type ++ " with " ++ toString count ++ " elements"
  | .sequence => "a sequence"
  | .map => "a map"
  | .string => "a string"
  | .boolean => "a boolean"
  | .natural32 => "u32"
  | .pair => "a tuple of size 2"
  | .unit => "unit"

/-- Why a well-formed document is not what its reader asks for. -/
inductive Mismatch where
  /-- A value of one type stands where another is asked for. -/
  | wrongType (found : Found) (expected : Expected)
  /-- A value of the right type lies outside the range that is asked for. -/
  | wrongValue (found : Found) (expected : Expected)
  /-- A sequence ends too early. -/
  | wrongLength (length : Nat) (expected : Expected)
  /-- A range ends before it starts. -/
  | reversedRange (start stop : UInt32)
  | missingField (name : String)
  | duplicateField (name : String)
  | unknownField (name : String) (known : List String)
  | unknownVariant (name : String) (known : List String)
  /-- A variant is neither a string nor a table. -/
  | notVariant
  /-- A table that stands for a variant does not have exactly one key. -/
  | variantKeys (many : Bool)
  /-- The content of a variant is of another type than a table. -/
  | variantContent (type : String)
  /-- The content of a variant, an array or a table, is not empty. -/
  | contentNotEmpty (type : String)
  /-- An integer needs more than 128 bits, or its digits make no number. -/
  | integerOverflow
  /-- A floating-point number exceeds every finite one. -/
  | floatOverflow
  deriving DecidableEq, Repr

/-- Names in backquotes, joined by `or`. -/
def alternatives (names : List String) : String :=
  " or ".intercalate (names.map fun name => "`" ++ name ++ "`")

/-- The text that a mismatch is reported with. -/
def Mismatch.message : Mismatch → String
  | .wrongType found expected =>
      "invalid type: " ++ found.text ++ ", expected " ++ expected.text
  | .wrongValue found expected =>
      "invalid value: " ++ found.text ++ ", expected " ++ expected.text
  | .wrongLength length expected =>
      "invalid length " ++ toString length ++ ", expected " ++ expected.text
  | .reversedRange start stop =>
      "invalid range: " ++ toString start.toNat ++ ".." ++ toString stop.toNat
  | .missingField name => "missing field `" ++ name ++ "`"
  | .duplicateField name => "duplicate field `" ++ name ++ "`"
  | .unknownField name known =>
      "unknown field `" ++ name ++ "`, expected " ++ alternatives known
  | .unknownVariant name known =>
      "unknown variant `" ++ name ++ "`, expected " ++ alternatives known
  | .notVariant => "wanted string or table"
  | .variantKeys many =>
      "wanted exactly 1 element, " ++ if many then "more than 1 element" else "found 0 elements"
  | .variantContent type => "expected table, found " ++ type
  | .contentNotEmpty type => "expected empty " ++ type
  | .integerOverflow => "integer number overflowed"
  | .floatOverflow => "floating-point number overflowed"

end ShadowLint
