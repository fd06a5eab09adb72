import ShadowLint.Lint.Settings
import ShadowLint.Report.Log
import ShadowLint.Scope.Model

/-!
# Shadowed variables

A variable of a function's scope shadows a scope further out when that scope declares the
same name.  The findings of a visit are ordered by the outer scopes, from the nearest one
to the global one, and within each of them by the variables; a variable is reported once
for every scope that it shadows.

A name that the source does not declare itself, such as a function's `arguments`, neither
shadows nor is shadowed.
-/

namespace ShadowLint.Lint

open Scope (Model Node NodeKind ScopeId TextRange Variable)

/-- Something that a rule objects to, and where. -/
structure Diagnostic where
  /-- The kind of the finding, which tells its rule. -/
  kind : String
  body : String
  range : TextRange
  deriving DecidableEq, Repr

/-- What is said about a name that shadows another. -/
def shadowingBody (name : String) : String :=
  name ++ " is already declared in the upper scope."

/-- The finding about a variable with respect to a scope further out, if there is one. -/
def shadowing? (exceptions : Exceptions) (upper : Scope.Frame) (v : Variable) :
    Option Diagnostic :=
  match v.declaration? with
  | none => none
  | some place =>
      if exceptions.isExempt v.name then none
      else if upper.declares v.name then
        some ⟨Rule.noShadow.findingKind, shadowingBody v.name, place⟩
      else none

/-- The findings about the variables of a scope. -/
def shadowings (exceptions : Exceptions) (model : Model) (id : ScopeId) : List Diagnostic :=
  match model.scopes.get? id with
  | none => []
  | some scope =>
      (model.ancestors id).tail.flatMap fun upper =>
        scope.vars.filterMap (shadowing? exceptions upper)

namespace Settings

/-- The findings of a rule about the scope of a node that it listens to. -/
def findings (settings : Settings) (model : Model) (id : ScopeId) : Rule → List Diagnostic
  | .noShadow => shadowings settings.exceptions model id

/-- The enabled rules that listen to a kind of node. -/
def listeners (settings : Settings) (kind : NodeKind) : List Rule :=
  settings.rules.filter fun rule => decide (kind ∈ rule.listensTo)

/-- The findings at a visited node. -/
def visit (settings : Settings) (model : Model) (node : Node) : List Diagnostic :=
  (settings.listeners node.kind).flatMap (settings.findings model node.scope)

/-- The findings in a model, in the order of its nodes. -/
def check (settings : Settings) (model : Model) : List Diagnostic :=
  model.nodes.flatMap (settings.visit model)

/-- What is recorded about the visit of a node. -/
def visitRecord (node : Node) : Report.Record :=
  .debug "shade_linter::checkers::ast"
    ("Visiting " ++ node.kind.name ++ " in scope " ++ node.scope.text)

/-- What is recorded while a model is checked: the nodes that some enabled rule listens to. -/
def checkRecords (settings : Settings) (model : Model) : List Report.Record :=
  (model.nodes.filter fun node => !(settings.listeners node.kind).isEmpty).map visitRecord

end Settings

end ShadowLint.Lint
