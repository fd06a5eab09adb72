import ShadowLint.Decimal.Layout
import ShadowLint.Mismatch
import ShadowLint.Toml.DateTime

/-!
# TOML values

The content of a TOML document.  An integer may have any size here, or no value at all;
whether it fits is asked when it is read.  The entries of a table are in ascending order of
their keys.
-/

namespace ShadowLint.Toml

/-- A value of a TOML document. -/
inductive Value where
  | string (text : String)
  /-- An integer; there is none for digits that make no number in their base. -/
  | integer (value : Option Int)
  /-- A floating-point number; there is none for a number that exceeds every finite one. -/
  | float (value : Option Float)
  | boolean (value : Bool)
  | dateTime (value : DateTime)
  | array (items : List Value)
  | table (entries : List (String × Value))

instance : Inhabited Value := ⟨.boolean false⟩

namespace Value

/-- The name of the type of a value. -/
def typeName : Value → String
  | string _ => "string"
  | integer _ => "integer"
  | float _ => "float"
  | boolean _ => "boolean"
  | dateTime _ => "datetime"
  | array _ => "array"
  | table _ => "table"

/-- What an integer is called where none is asked for; one that needs more than 128 bits or
has no value is refused. -/
def foundInteger : Option Int → Except Mismatch Found
  | none => .error .integerOverflow
  | some value =>
      if -(Nat.pow 2 63 : Int) ≤ value ∧ value < (Nat.pow 2 64 : Int) then .ok (.integer value)
      else if -(Nat.pow 2 127 : Int) ≤ value ∧ value < (Nat.pow 2 127 : Int) then
        .ok (.wideInteger value "i128")
      else if 0 ≤ value ∧ value < (Nat.pow 2 128 : Int) then .ok (.wideInteger value "u128")
      else .error .integerOverflow

/-- What a floating-point number is called where none is asked for. -/
def foundFloat : Option Float → Except Mismatch Found
  | some value => .ok (.float (Decimal.Layout.places.float value))
  | none => .error .floatOverflow

/-- What a value is called where another one is asked for. -/
def found : Value → Except Mismatch Found
  | string text => .ok (.string text)
  | integer value => foundInteger value
  | float value => foundFloat value
  | boolean value => .ok (.boolean value)
  | dateTime _ => .ok .map
  | array _ => .ok .sequence
  | table _ => .ok .map

/-- The mismatch of a value with what is asked for. -/
def refusal (value : Value) (expected : Expected) : Mismatch :=
  match value.found with
  | .ok found => .wrongType found expected
  | .error mismatch => mismatch

end Value

end ShadowLint.Toml
