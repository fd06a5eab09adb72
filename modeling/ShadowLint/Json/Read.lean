import ShadowLint.Decimal.Layout
import ShadowLint.Json.Document
import ShadowLint.Mismatch

/-!
# Reading JSON documents by a schema

A reader turns the tree of a document into a value, from left to right, and the first
problem that it meets decides: a fault of the text or a mismatch with the schema.

A record is written as an object or as an array of its fields in their order.  Its reader
keeps a slot for each field; `foldMembers` hands it one member after the other.
-/

namespace ShadowLint.Json

/-- Why a text was not read. -/
inductive Problem where
  /-- The text ends too early. -/
  | endOfText
  /-- The text is not JSON. -/
  | malformed
  /-- The text is well formed so far, but not what is asked for. -/
  | mismatch (cause : Mismatch)
  deriving DecidableEq, Repr

/-- The text that a problem is reported with. -/
def Problem.message : Problem → String
  | .endOfText => "the text ends too early"
  | .malformed => "the text is not JSON"
  | .mismatch cause => cause.message

/-- The problem that a damaged text poses. -/
def Damage.problem : Damage → Problem
  | .endOfText => .endOfText
  | .malformed => .malformed

/-- A reader of values. -/
abbrev Reader (α : Type) := Doc → Except Problem α

/-! ## Refusals -/

/-- What a numeral is called where no number is asked for. -/
def NumberValue.found : NumberValue → Found
  | .integer value => .integer value
  | .float value => .float (Decimal.Layout.powers.float value)

/-- The problem of a value whose type is not the one that is asked for. -/
def Doc.refusal (expected : Expected) : Doc → Problem
  | .missing => .endOfText
  | .broken kept _ => kept.problem
  | .brokenString kept _ => kept.problem
  | .null => .mismatch (.wrongType .null expected)
  | .bool value => .mismatch (.wrongType (.boolean value) expected)
  | .number numeral =>
      match numeral.value? with
      | some value => .mismatch (.wrongType value.found expected)
      | none => .malformed
  | .string (some text) => .mismatch (.wrongType (.string text) expected)
  | .string none => .malformed
  | .array _ => .mismatch (.wrongType .sequence expected)
  | .object _ => .mismatch (.wrongType .map expected)

/-! ## Single values -/

/-- Reads nothing: the value only has to be well formed. -/
def skip : Reader Unit := fun doc =>
  match doc.fault? with
  | some damage => .error damage.problem
  | none => .ok ()

/-- Reads null as absent and everything else as `reader` does. -/
def nullable {α : Type} (reader : Reader α) : Reader (Option α)
  | .null => .ok none
  | doc => (reader doc).map some

/-- Reads a string. -/
def string : Reader String
  | .string (some text) => .ok text
  | doc => .error (doc.refusal .string)

/-- Reads an integer of 32 bits without a sign. -/
def natural32 : Reader UInt32
  | .number numeral =>
      match numeral.value? with
      | some (.integer value) =>
          if 0 ≤ value ∧ value < 4294967296 then .ok value.toNat.toUInt32
          else .error (.mismatch (.wrongValue (.integer value) .natural32))
      | _ => .error (Doc.refusal .natural32 (.number numeral))
  | doc => .error (doc.refusal .natural32)

/-- Reads null as the value without content. -/
def unit : Reader Unit
  | .null => .ok ()
  | doc => .error (doc.refusal .unit)

/-! ## Arrays -/

/-- Reads the items of an array to its end. -/
def items {α : Type} (reader : Reader α) : Items → Except Problem (List α)
  | .closed => .ok []
  | .cut damage => .error damage.problem
  | .item head rest => do
      let value ← reader head
      let values ← items reader rest
      return value :: values

/-- Reads an array. -/
def list {α : Type} (reader : Reader α) : Reader (List α)
  | .array values => items reader values
  | doc => .error (doc.refusal .sequence)

/-- Reads the next item, or takes `absent` where the array ends, and returns what is left. -/
def nextItem {α : Type} (reader : Reader α) (absent : Except Problem α) :
    Items → Except Problem (α × Items)
  | .closed => absent.map fun value => (value, .closed)
  | .cut damage => .error damage.problem
  | .item head rest => (reader head).map fun value => (value, rest)

/-- Makes sure that an array ends. -/
def lastItem : Items → Except Problem Unit
  | .closed => .ok ()
  | .cut damage => .error damage.problem
  | .item .. => .error .malformed

/-- The problem of an array that lacks a field. -/
def tooShort (length : Nat) (expected : Expected) : Problem :=
  .mismatch (.wrongLength length expected)

/-! ## Objects -/

/-- The problem of what stands where a key is due and is no complete string.  It is found before any
reader sees the key, so a number, say, makes the text malformed there and is no mismatch. -/
def strayKey : Option Token → Problem
  | none => .endOfText
  | some (.brokenString kept _) => kept.problem
  | some _ => .malformed

/-- Hands the members of an object to `step`, from left to right. -/
def foldMembers {σ : Type} (step : σ → String → Doc → Except Problem σ) (slots : σ) :
    Members → Except Problem σ
  | .closed => .ok slots
  | .cut damage => .error damage.problem
  | .stray found => .error (strayKey found)
  | .member none _ _ => .error .malformed
  | .member (some key) value rest => do
      let slots ← step slots key value
      foldMembers step slots rest

/-- Fills the slot of a field, which must still be empty. -/
def fill {α : Type} (name : String) (slot : Option α) (reader : Reader α) (value : Doc) :
    Except Problem (Option α) :=
  match slot with
  | some _ => .error (.mismatch (.duplicateField name))
  | none => (reader value).map some

/-- The content of the slot of a required field. -/
def required {α : Type} (name : String) : Option α → Except Problem α
  | some value => .ok value
  | none => .error (.mismatch (.missingField name))

/-! ## Variants without content -/

/-- Reads the name of a variant: a string, or the key of an object that has no other and
whose value is null.  As in every object, a key that is no string makes the text malformed. -/
def variant {α : Type} (ofName : String → Except Problem α) : Reader α
  | .missing => .error .endOfText
  | .brokenString kept _ => .error kept.problem
  | .string (some name) => ofName name
  | .object (.member (some name) content rest) => do
      let value ← ofName name
      unit content
      match rest with
      | .closed => return value
      | .cut damage => .error damage.problem
      | _ => .error .malformed
  | .object (.stray found) => .error (strayKey found)
  | .object (.cut damage) => .error damage.problem
  | _ => .error .malformed

/-! ## Texts -/

/-- Reads a whole text. -/
def read {α : Type} (reader : Reader α) (text : String) : Except Problem α :=
  match Doc.ofTokens (tokens text.toList) with
  | (doc, rest) => do
      let value ← reader doc
      if rest.isEmpty then return value else .error .malformed

end ShadowLint.Json
