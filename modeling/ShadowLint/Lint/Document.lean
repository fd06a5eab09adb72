import ShadowLint.Lint.Message
import ShadowLint.Scope.Model.Load

/-!
# Linting documents

The text of a scope-graph document is read, its model is built and checked, and the
findings become messages.  A document that carries its source text gives its messages
locations.
-/

namespace ShadowLint.Lint

open Scope (LoadError Model)

namespace Settings

/-- The messages about a model that stands for a file. -/
def report (settings : Settings) (filename : String) (model : Model) : List Message :=
  let locator := model.source.map Text.Locator.ofText
  (settings.check model).map fun diagnostic => Message.ofDiagnostic diagnostic filename locator

/-- The messages about the text of a document, or why it is not the text of a model. -/
def lint (settings : Settings) (filename text : String) : Except LoadError (List Message) :=
  (Model.ofText text).map (settings.report filename)

/-- What is recorded while the text of a document is linted. -/
def lintRecords (settings : Settings) (filename text : String) : List Report.Record :=
  match Model.ofText text with
  | .error _ => []
  | .ok model =>
      settings.checkRecords model
        ++ [.debug "shade_linter::linter"
          ("Found " ++ toString (settings.check model).length ++ " diagnostic(s) in " ++ filename)]

end Settings

end ShadowLint.Lint
