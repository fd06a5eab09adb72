import ShadowLint.Json.Read
import ShadowLint.Scope.Graph

/-!
# Lint rules

The registry of the rules: their names, what they are for, and the kinds of nodes that
they look at.  A finding carries the kind of its rule, by which the rule is found again.
-/

namespace ShadowLint.Lint

/-- A rule that findings come from. -/
inductive Rule where
  /-- A function does not declare a name that an enclosing scope declares. -/
  | noShadow
  deriving DecidableEq, Repr

namespace Rule

/-- All rules in their order. -/
def all : List Rule := [noShadow]

/-- The name of a rule in settings and reports. -/
def name : Rule → String
  | noShadow => "no-shadow"

/-- The name of a rule as a single word. -/
def identifier : Rule → String
  | noShadow => "NoShadow"

/-- The rule of a name. -/
def ofName? (text : String) : Option Rule :=
  all.find? fun rule => rule.name = text

/-- The text that an unknown name is reported with. -/
def unknownNameText : String := "Matching variant not found"

/-- The kind of a rule's findings. -/
def findingKind : Rule → String
  | noShadow => "ShadowedVariable"

/-- The rule whose findings are of a kind. -/
def ofFindingKind? (kind : String) : Option Rule :=
  all.find? fun rule => rule.findingKind = kind

/-- The kinds of nodes whose scopes a rule looks at. -/
def listensTo : Rule → List Scope.NodeKind
  | noShadow => [.functionDeclaration, .functionExpression]

/-- The lines that explain a rule. -/
def explanationLines : Rule → List String
  | noShadow => [
      "## What it does",
      "Checks for variables declared inside a function that share a name with a",
      "variable declared in an enclosing scope.",
      "",
      "## Why is this bad?",
      "A shadowing declaration hides the outer variable for the rest of the",
      "function. Readers may assume that a reference resolves to the outer",
      "variable when it resolves to the inner one, and vice versa.",
      "",
      "Names that are conventionally re-declared by nested callbacks (`err`,",
      "`res`, and `callback`) are exempt by default. Exemptions can be added or",
      "removed via the [`no-shadow.exceptions`] configuration option.",
      "",
      "Only variables declared in function scopes are checked; block scopes,",
      "arrow functions, and classes are not.",
      "",
      "## Example",
      "```js",
      "var count = 0;",
      "function increment(count) \x7b",
      "    return count + 1;",
      "\x7d",
      "```",
      "",
      "Use instead:",
      "```js",
      "var count = 0;",
      "function increment(value) \x7b",
      "    return value + 1;",
      "\x7d",
      "```",
      "",
      "## Options",
      "- `no-shadow.exceptions`"]

/-- The text that explains a rule; every line ends with a line feed. -/
def explanation (rule : Rule) : String :=
  String.join (rule.explanationLines.map fun line => line ++ "\n")

/-- The forms of the messages of a rule, with the parts that vary in braces. -/
def messageFormats : Rule → List String
  | noShadow => ["\x7bname\x7d is already declared in the upper scope."]

/-- The page that explains a rule to a user. -/
def page (rule : Rule) : String :=
  "# " ++ rule.name ++ "\n\n" ++ "\n".intercalate rule.explanationLines
    ++ "\n\nMessage formats:"
    ++ String.join (rule.messageFormats.map fun form => "\n* " ++ form) ++ "\n"

/-- The rule of a name in a document. -/
def read (text : String) : Except Json.Problem Rule :=
  match ofName? text with
  | some rule => .ok rule
  | none => .error (.mismatch (.unknownVariant text (all.map name)))

/-- The rule that a JSON text names. -/
def ofJson (text : String) : Except Json.Problem Rule :=
  Json.read (Json.variant read) text

end Rule

end ShadowLint.Lint
