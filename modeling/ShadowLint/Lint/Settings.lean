import ShadowLint.Lint.Rule
import ShadowLint.NameTable

/-!
# Settings of the linter

The settings say which rules are enabled, and which names may be shadowed.  Three names
are exempt from the start; overrides are laid over them one after the other, so the last
word on a name counts, and a name can also be made reportable again.
-/

namespace ShadowLint.Lint

/-- The names about which the settings say whether shadowing them is exempt. -/
abbrev Exceptions := NameTable Bool

namespace Exceptions

/-- Names that nested callbacks declare again by convention. -/
def conventional : List String := ["err", "res", "callback"]

/-- The exceptions without any override. -/
def default : Exceptions :=
  NameTable.empty.insertAll (conventional.map fun name => (name, true))

/-- The default exceptions with overrides laid over them, of which the last on a name wins. -/
def withOverrides (overrides : List (String × Bool)) : Exceptions :=
  NameTable.insertAll default overrides

/-- Whether shadowing a name is never reported. -/
def isExempt (exceptions : Exceptions) (name : String) : Bool :=
  (exceptions.find? name).getD false

end Exceptions

/-- What the linter looks for. -/
structure Settings where
  /-- The enabled rules. -/
  rules : List Rule
  /-- The rules stand in their order, and none twice. -/
  rules_sublist : rules.Sublist Rule.all
  exceptions : Exceptions
  deriving DecidableEq, Repr

namespace Settings

/-- All rules and no override. -/
def default : Settings := ⟨Rule.all, List.Sublist.refl _, Exceptions.default⟩

/-- The given rules, in their order, and no override. -/
def forRules (rules : List Rule) : Settings :=
  { default with
    rules := Rule.all.filter fun rule => decide (rule ∈ rules)
    rules_sublist := List.filter_sublist }

/-- Whether a rule is enabled. -/
def enables (settings : Settings) (rule : Rule) : Bool :=
  decide (rule ∈ settings.rules)

/-- The lines above the exceptions. -/
def headingLines (rules : List Rule) : List String :=
  ["", "# Linter Settings",
    "linter.rules = [" ++ ", ".intercalate (rules.map Rule.name) ++ "]",
    "linter.no_shadow.exceptions = \x7b"]

/-- The line of an exception. -/
def exceptionLine (entry : String × Bool) : String :=
  "\t" ++ entry.1 ++ " = " ++ toString entry.2 ++ ","

/-- The lines of the text that shows rules and a row of exceptions. -/
def linesOf (rules : List Rule) (row : List (String × Bool)) : List String :=
  headingLines rules ++ row.map exceptionLine ++ ["\x7d"]

/-- The pieces of the text that shows rules and a row of exceptions, in the order in which they are
written. -/
def piecesOf (rules : List Rule) (row : List (String × Bool)) : List String :=
  (linesOf rules row).map fun line => line ++ "\n"

/-- The pieces of the text that shows the settings. -/
def pieces (settings : Settings) : List String :=
  piecesOf settings.rules settings.exceptions.entries

/-- The text that shows the settings. -/
def text (settings : Settings) : String := String.join settings.pieces

end Settings

end ShadowLint.Lint
