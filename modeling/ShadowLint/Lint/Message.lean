import ShadowLint.Lint.Shadowing
import ShadowLint.Text.LineTable

/-!
# Messages

A message is a finding together with the file that it was found in and, where the source
text is known, the rows and columns at which it starts and ends.
-/

namespace ShadowLint.Lint

open Text (Locator SourceLocation)

/-- A finding in a file. -/
structure Message where
  kind : String
  body : String
  range : Scope.TextRange
  filename : String
  /-- Where the range starts, if the source text is known. -/
  start : Option SourceLocation
  /-- Where the range ends, if the source text is known. -/
  stop : Option SourceLocation
  deriving DecidableEq, Repr

namespace Message

/-- The message of a finding; a locator stands for the source text. -/
def ofDiagnostic (diagnostic : Diagnostic) (filename : String) (locator : Option Locator) :
    Message :=
  { kind := diagnostic.kind
    body := diagnostic.body
    range := diagnostic.range
    filename
    start := locator.map fun l => l.location diagnostic.range.start.toNat
    stop := locator.map fun l => l.location diagnostic.range.stop.toNat }

/-- The rule that a message comes from, if it comes from a known one. -/
def rule? (message : Message) : Option Rule := Rule.ofFindingKind? message.kind

/-- The name of the rule, or the kind of the finding where no rule is known. -/
def code (message : Message) : String :=
  match message.rule? with
  | some rule => rule.name
  | none => message.kind

end Message

end ShadowLint.Lint
