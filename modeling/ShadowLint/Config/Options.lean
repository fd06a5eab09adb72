import ShadowLint.Lint.Settings
import ShadowLint.Toml.Document

/-!
# Options of configuration files

A configuration file may list rules to ignore, and it may have a table for the rule about
shadowing, whose exceptions say which names are exempt.  No other key may stand at the
top; other keys of the rule's table are left alone.

Tables are read in the order of their keys, and the first mismatch is reported.
-/

namespace ShadowLint.Config

open Lint (Rule)
open Toml (Value)

/-- The options of the rule about shadowing. -/
structure NoShadowOptions where
  exceptions : Option (NameTable Bool)
  deriving DecidableEq, Repr

/-- The content of a configuration file. -/
structure Options where
  ignore : Option (List Rule)
  noShadow : Option NoShadowOptions
  deriving DecidableEq, Repr

/-! ## Reading -/

mutual

/-- What is wrong with a value that is left alone: a number in it that is out of reach. -/
def excess? : Value → Option Mismatch
  | .integer value =>
      match Value.foundInteger value with
      | .ok _ => none
      | .error mismatch => some mismatch
  | .float value =>
      match Value.foundFloat value with
      | .ok _ => none
      | .error mismatch => some mismatch
  | .array items => excessOfItems? items
  | .table entries => excessOfEntries? entries
  | _ => none

/-- What is wrong with items that are left alone. -/
def excessOfItems? : List Value → Option Mismatch
  | [] => none
  | value :: rest => (excess? value).or (excessOfItems? rest)

/-- What is wrong with entries that are left alone. -/
def excessOfEntries? : List (String × Value) → Option Mismatch
  | [] => none
  | (_, value) :: rest => (excess? value).or (excessOfEntries? rest)

end

/-- The rule of a name. -/
def ruleNamed (name : String) : Except Mismatch Rule :=
  match Rule.ofName? name with
  | some rule => .ok rule
  | none => .error (.unknownVariant name (Rule.all.map Rule.name))

/-- Makes sure that the content of a rule's table is empty. -/
def emptyContent : Value → Except Mismatch Unit
  | .array [] => .ok ()
  | .table [] => .ok ()
  | .array _ => .error (.contentNotEmpty "array")
  | .table _ => .error (.contentNotEmpty "table")
  | other => .error (.variantContent other.typeName)

/-- Reads a rule: its name, or a table with the name as its only key. -/
def readRule : Value → Except Mismatch Rule
  | .string name => ruleNamed name
  | .table [] => .error (.variantKeys false)
  | .table [(name, content)] => do
      let rule ← ruleNamed name
      emptyContent content
      return rule
  | .table _ => .error (.variantKeys true)
  | _ => .error .notVariant

/-- Reads the rules to ignore. -/
def readIgnore : Value → Except Mismatch (List Rule)
  | .array items => items.mapM readRule
  | other => .error (other.refusal .sequence)

/-- Reads whether a name is exempt. -/
def readExemption : String × Value → Except Mismatch (String × Bool)
  | (name, .boolean exempt) => .ok (name, exempt)
  | (_, other) => .error (other.refusal .boolean)

/-- Reads the exceptions.  A date-time counts as a table with its text in it. -/
def readExceptions : Value → Except Mismatch (NameTable Bool)
  | .table entries => do
      let pairs ← entries.mapM readExemption
      return NameTable.empty.insertAll pairs
  | .dateTime value => .error (.wrongType (.string value.text) .boolean)
  | other => .error (other.refusal .map)

/-- Reads an entry of the table of the rule about shadowing. -/
def NoShadowOptions.readEntry (options : NoShadowOptions) :
    String × Value → Except Mismatch NoShadowOptions
  | (key, value) =>
      if key = "exceptions" then do
        let exceptions ← readExceptions value
        return ⟨some exceptions⟩
      else
        match excess? value with
        | some mismatch => .error mismatch
        | none => .ok options

/-- Reads the options of the rule about shadowing: a table, or an array whose first item
is the exceptions. -/
def readNoShadow : Value → Except Mismatch NoShadowOptions
  | .table entries => entries.foldlM NoShadowOptions.readEntry ⟨none⟩
  | .array [] => .error (.wrongLength 0 (.fields "NoShadowOptions" 1))
  | .array (exceptions :: _) => do
      let exceptions ← readExceptions exceptions
      return ⟨some exceptions⟩
  | .dateTime _ => .ok ⟨none⟩
  | other => .error (other.refusal (.record "NoShadowOptions"))

namespace Options

/-- The options of an empty file. -/
def default : Options := ⟨none, none⟩

/-- Reads an entry at the top of a file. -/
def readEntry (options : Options) : String × Value → Except Mismatch Options
  | (key, value) =>
      if key = "ignore" then do
        let ignore ← readIgnore value
        return { options with ignore := some ignore }
      else if key = "no-shadow" then do
        let noShadow ← readNoShadow value
        return { options with noShadow := some noShadow }
      else .error (.unknownField key ["ignore", "no-shadow"])

/-- The options that the entries of a file stand for. -/
def ofEntries (entries : List (String × Value)) : Except Mismatch Options :=
  entries.foldlM readEntry default

end Options

/-- Why a text does not stand for options. -/
inductive OptionsError where
  /-- The text is not TOML. -/
  | malformed
  | mismatch (cause : Mismatch)
  deriving DecidableEq, Repr

namespace Options

/-- The options that a text stands for. -/
def ofText (text : String) : Except OptionsError Options :=
  match Toml.document? text with
  | none => .error .malformed
  | some entries =>
      match ofEntries entries with
      | .ok options => .ok options
      | .error cause => .error (.mismatch cause)

/-! ## Settings -/

/-- The overrides that the options lay over the default exceptions. -/
def overrides (options : Options) : List (String × Bool) :=
  match options.noShadow with
  | some ⟨some exceptions⟩ => exceptions.entries
  | _ => []

/-- The settings that the options ask for. -/
def toSettings (options : Options) : Lint.Settings :=
  { rules := Rule.all.filter fun rule => decide (rule ∉ options.ignore.getD [])
    rules_sublist := List.filter_sublist
    exceptions := Lint.Exceptions.withOverrides options.overrides }

end Options

end ShadowLint.Config
