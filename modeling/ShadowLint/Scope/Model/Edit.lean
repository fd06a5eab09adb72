import ShadowLint.Scope.Model.Load

/-!
# Editing sessions

An `Edit` is one operation on a model as a value, with its references as plain numbers.
`Edit.perform` carries it out on a model in place: it checks and writes step by step, and a
step that is refused leaves behind what was written before it.  That every edit checks all
before it writes, so that a refused one leaves the model as it was, is a property of these
procedures and not of their type.  `Model.run` carries out edits one after the other and goes
on with whatever each of them leaves behind.
-/

namespace ShadowLint.Scope

/-- An operation on a model. -/
inductive Edit where
  /-- Replaces the model by that of a document. -/
  | load (text : String)
  | pushScope (parent : Nat)
  | addVariable (scope : Nat) (name : String) (identifiers : List (UInt32 × UInt32))
  | pushNode (kind : NodeKind) (scope : Nat) (range : Option (UInt32 × UInt32))
  deriving Repr

/-- Why an edit was refused. -/
inductive EditError where
  | load (error : LoadError)
  | fault (fault : Fault)
  deriving DecidableEq, Repr

/-- What an edit answers. -/
inductive EditReply where
  | loaded
  /-- The identifier of the new scope. -/
  | opened (id : ScopeId)
  /-- The number of variables that the scope has now. -/
  | declared (count : Nat)
  /-- The number of nodes that the model has now. -/
  | visited (count : Nat)
  deriving DecidableEq, Repr

/-- The range between two offsets, which must not be reversed. -/
def rangeOf (ends : UInt32 × UInt32) : Except Fault TextRange :=
  match TextRange.of? ends.1 ends.2 with
  | some range => .ok range
  | none => .error .reversedRange

/-! ## Procedures -/

/-- A procedure that changes a model in place.  What it has written before it is refused
stays written. -/
abbrev Procedure (α : Type) := EStateM EditError Model α

namespace Procedure

/-- Goes on with a result, or is refused with the fault that stands for it. -/
def expect {α : Type} : Except Fault α → Procedure α
  | .ok result => pure result
  | .error fault => throw (.fault fault)

/-- Goes on only where a check holds. -/
def require (check : Bool) (fault : Fault) : Procedure Unit :=
  if check then pure () else throw (.fault fault)

/-- Opens a new scope below an existing one and answers its identifier. -/
def pushScope (parent : ScopeId) : Procedure ScopeId := do
  require (parent.index < (← get).scopes.size) (.parentMissing parent)
  let id ← expect (← get).scopes.nextId
  modify fun model => { model with scopes := ⟨model.scopes.items.push ⟨some parent, []⟩⟩ }
  return id

/-- Declares a variable in an existing scope, after those that it has. -/
def addVariable (id : ScopeId) (v : Variable) : Procedure Unit := do
  let scope ← expect ((← get).scopes.get id)
  modify fun model =>
    { model with
      scopes := ⟨model.scopes.items.setIfInBounds id.index
        { scope with vars := scope.vars ++ [v] }⟩ }

/-- Records a visit to a node in an existing scope, after the visits so far. -/
def pushNode (node : Node) : Procedure Unit := do
  require (node.scope.index < (← get).scopes.size) (.scopeMissing node.scope)
  modify fun model => { model with nodes := model.nodes ++ [node] }

end Procedure

/-- Carries out an operation on a model in place. -/
def Edit.perform : Edit → Procedure EditReply
  | .load text =>
      match Model.ofText text with
      | .ok model => do
          set model
          return .loaded
      | .error error => throw (.load error)
  | .pushScope parent => do
      let parent ← Procedure.expect (scopeIdOf parent)
      let id ← Procedure.pushScope parent
      return .opened id
  | .addVariable scope name identifiers => do
      let identifiers ← Procedure.expect (identifiers.mapM rangeOf)
      let id ← Procedure.expect (scopeIdOf scope)
      Procedure.addVariable id ⟨name, identifiers⟩
      let scope ← Procedure.expect ((← get).scopes.get id)
      return .declared scope.vars.length
  | .pushNode kind scope range => do
      let range ← Procedure.expect (range.mapM rangeOf)
      let id ← Procedure.expect (scopeIdOf scope)
      Procedure.pushNode ⟨kind, id, range⟩
      return .visited (← get).nodes.length

namespace Model

/-- The scope that a number stands for. -/
def scopeAt (model : Model) (number : Nat) : Except Fault Frame := do
  let id ← scopeIdOf number
  model.scopes.get id

/-- Carries out an operation: its answer and the model after it, or why it was refused. -/
def apply (model : Model) (edit : Edit) : Except EditError (EditReply × Model) :=
  match edit.perform.run model with
  | .ok reply after => .ok (reply, after)
  | .error error _ => .error error

/-- The model that an operation leaves behind, be it carried out or refused. -/
def afterEdit (model : Model) (edit : Edit) : Model :=
  match edit.perform.run model with
  | .ok _ after => after
  | .error _ after => after

/-- The model after a row of operations, refused ones included. -/
def run (model : Model) (edits : List Edit) : Model :=
  edits.foldl afterEdit model

/-- The model after a row of operations, each of which must be carried out. -/
def applyAll (model : Model) : List Edit → Except EditError Model
  | [] => .ok model
  | edit :: rest => do
      let (_, after) ← model.apply edit
      after.applyAll rest

end Model

end ShadowLint.Scope
