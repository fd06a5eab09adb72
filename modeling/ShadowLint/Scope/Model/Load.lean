import ShadowLint.Scope.Graph.Decode
import ShadowLint.Scope.Model

/-!
# Building models from graphs

`Model.ofGraph` takes the scopes of a graph in their order, then its nodes, and stops at
the first reference that is not good.  All scopes come before the first node, so a defect
of a scope is reported before any defect of a node.
-/

namespace ShadowLint.Scope

/-- Why a graph is not the graph of a model. -/
inductive GraphError where
  /-- The first scope has a parent. -/
  | globalScopeWithParent (parent : UInt32)
  /-- Another scope than the first has no parent. -/
  | multipleRoots (scope : UInt32)
  /-- A scope's parent does not stand before it. -/
  | undefinedParent (scope parent : UInt32)
  /-- A node's scope does not exist. -/
  | unknownScope (node : Nat) (scope : UInt32)
  /-- An operation on the model was refused, which only happens to graphs that have more
  scopes than there are identifiers. -/
  | refused (fault : Fault)
  deriving DecidableEq, Repr

/-- The text that a defect is reported with. -/
def GraphError.message : GraphError → String
  | .globalScopeWithParent parent =>
      "the global scope cannot have a parent (found parent " ++ toString parent.toNat ++ ")"
  | .multipleRoots scope =>
      "scope " ++ toString scope.toNat
        ++ " has no parent, but only the first scope can be the global scope"
  | .undefinedParent scope parent =>
      "scope " ++ toString scope.toNat ++ " refers to parent " ++ toString parent.toNat
        ++ ", which is not defined before it"
  | .unknownScope node scope =>
      "node " ++ toString node ++ " refers to scope " ++ toString scope.toNat
        ++ ", which does not exist"
  | .refused fault => fault.message

/-- Passes a refused operation on as a defect of the graph. -/
def GraphError.ofFault {α : Type} : Except Fault α → Except GraphError α
  | .ok result => .ok result
  | .error fault => .error (.refused fault)

/-- The identifier of a 32-bit number in a document. -/
def idOfNumber (number : UInt32) : Except GraphError ScopeId :=
  match ScopeId.ofUInt32? number with
  | some id => .ok id
  | none => .error (.refused .index32TooLarge)

/-- A position in a document as a 32-bit number; the largest one stands for all positions
that have no room. -/
def positionNumber (index : Nat) : UInt32 := UInt32.ofNatClamp index

namespace Model

/-- Opens the scope that stands at position `index` of a document. -/
def openScope (model : Model) (index : Nat) (parent : Option UInt32) :
    Except GraphError (ScopeId × Model) :=
  match index, parent with
  | 0, none => .ok (ScopeId.global, model)
  | 0, some parent => .error (.globalScopeWithParent parent)
  | index + 1, none => .error (.multipleRoots (positionNumber (index + 1)))
  | index + 1, some parent =>
      if positionNumber (index + 1) ≤ parent then
        .error (.undefinedParent (positionNumber (index + 1)) parent)
      else do
        let parent ← idOfNumber parent
        GraphError.ofFault (model.pushScope parent)

/-- Adds the scope that stands at position `index` of a document, with its variables. -/
def addScope (model : Model) (index : Nat) (entry : ScopeEntry) : Except GraphError Model := do
  let (id, opened) ← model.openScope index entry.parent
  GraphError.ofFault (opened.addVariables id entry.vars)

/-- Adds the scopes of a document from position `index` on. -/
def addScopes (model : Model) (index : Nat) : List ScopeEntry → Except GraphError Model
  | [] => .ok model
  | entry :: rest => do
      let model ← model.addScope index entry
      model.addScopes (index + 1) rest

/-- The nodes of a document from position `index` on, in a model of `size` scopes. -/
def resolveNodes (size index : Nat) : List NodeEntry → Except GraphError (List Node)
  | [] => .ok []
  | entry :: rest =>
      if size ≤ entry.scope.toNat then .error (.unknownScope index entry.scope)
      else do
        let scope ← idOfNumber entry.scope
        let nodes ← resolveNodes size (index + 1) rest
        return ⟨entry.kind, scope, entry.range⟩ :: nodes

/-- The model of a graph, or the first defect of the graph. -/
def ofGraph (graph : ScopeGraph) : Except GraphError Model := do
  let model ← ({ initial with source := graph.source } : Model).addScopes 0 graph.scopes
  let nodes ← resolveNodes model.scopes.size 0 graph.nodes
  return { model with nodes }

end Model

/-! ## From texts -/

/-- Why a text is not the text of a model. -/
inductive LoadError where
  | unreadable (problem : Json.Problem)
  | invalid (error : GraphError)
  deriving DecidableEq, Repr

namespace LoadError

/-- What a failure is reported under. -/
def context : LoadError → String
  | unreadable _ => "Failed to parse scope graph"
  | invalid _ => "Invalid scope graph"

/-- The texts that explain a failure, from the outside in. -/
def causes (error : LoadError) : List String :=
  error.context ::
    match error with
    | unreadable problem => [problem.message]
    | invalid error => [error.message]

end LoadError

/-- The model of the text of a scope-graph document. -/
def Model.ofText (text : String) : Except LoadError Model :=
  match ScopeGraph.ofText text with
  | .error problem => .error (.unreadable problem)
  | .ok graph =>
      match Model.ofGraph graph with
      | .error error => .error (.invalid error)
      | .ok model => .ok model

end ShadowLint.Scope
