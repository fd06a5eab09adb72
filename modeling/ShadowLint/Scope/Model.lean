import ShadowLint.Scope.Arena
import ShadowLint.Scope.Graph

/-!
# Scope models

A model is a scope graph whose references are known to be good: a tree of scopes below the
global one, and the visited nodes.  It grows by three operations, each of which checks its
references first, so that a refused operation changes nothing.

A scope's parent always has the smaller identifier.  The walks towards the root rely on
that order: they take a parent link only where it leads to an earlier scope.
-/

namespace ShadowLint.Scope

/-- A scope of a model, with the variables that it declares, in order. -/
structure Frame where
  parent : Option ScopeId
  vars : List Variable
  deriving DecidableEq, Repr

/-- Whether the scope itself declares a name; names that the language provides do not count. -/
def Frame.declares (scope : Frame) (name : String) : Bool :=
  scope.vars.any fun v => v.isDeclared && v.name = name

/-- A visited node and the scope that is current at it. -/
structure Node where
  kind : NodeKind
  scope : ScopeId
  range : Option TextRange
  deriving DecidableEq, Repr

/-- The scopes of a program and the nodes that are visited in it, in order. -/
structure Model where
  scopes : Arena Frame
  nodes : List Node
  source : Option String
  deriving DecidableEq, Repr

namespace Model

/-- The model with an empty global scope and nothing else. -/
def initial : Model :=
  { scopes := Arena.ofList [⟨none, []⟩], nodes := [], source := none }

/-! ## Growing a model -/

/-- Opens a new scope below an existing one and returns its identifier. -/
def pushScope (model : Model) (parent : ScopeId) : Except Fault (ScopeId × Model) :=
  if parent.index < model.scopes.size then
    (model.scopes.push ⟨some parent, []⟩).map fun (id, scopes) => (id, { model with scopes })
  else .error (.parentMissing parent)

/-- Declares variables in an existing scope, after those that it has. -/
def addVariables (model : Model) (scope : ScopeId) (vars : List Variable) :
    Except Fault Model :=
  (model.scopes.modify scope fun s => { s with vars := s.vars ++ vars }).map
    fun scopes => { model with scopes }

/-- Declares a variable in an existing scope, after those that it has. -/
def addVariable (model : Model) (scope : ScopeId) (v : Variable) : Except Fault Model :=
  model.addVariables scope [v]

/-- Records a visit to a node in an existing scope, after the visits so far. -/
def pushNode (model : Model) (node : Node) : Except Fault Model :=
  if node.scope.index < model.scopes.size then
    .ok { model with nodes := model.nodes ++ [node] }
  else .error (.scopeMissing node.scope)

/-! ## Walking towards the root -/

/-- The parent of a scope, if the scope exists and is not the global one. -/
def parent? (model : Model) (id : ScopeId) : Option ScopeId :=
  (model.scopes.get? id).bind Frame.parent

/-- The identifiers of a scope and of all that enclose it, from the inside out. -/
def ancestorIds (model : Model) (id : ScopeId) : List ScopeId :=
  match model.parent? id with
  | some parent =>
      if parent.index < id.index then id :: model.ancestorIds parent else [id]
  | none => [id]
termination_by id.index

/-- A scope and all that enclose it, from the inside out. -/
def ancestors (model : Model) (id : ScopeId) : List Frame :=
  match model.scopes.get? id with
  | none => []
  | some scope =>
      match scope.parent with
      | some parent =>
          if parent.index < id.index then scope :: model.ancestors parent else [scope]
      | none => [scope]
termination_by id.index

end Model

end ShadowLint.Scope
