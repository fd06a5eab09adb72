import ShadowLint.Scope.Model.Edit

/-!
# Models as documents

Two ways of writing a model down: `Model.toGraph` is the document of a model, one entry for
every scope and every node in their order, and `ScopeGraph.edits` is the row of operations
that builds up the content of a document piece by piece.
-/

namespace ShadowLint.Scope

/-- The entry of a scope in a document. -/
def Frame.entry (scope : Frame) : ScopeEntry :=
  ⟨scope.parent.map ScopeId.toUInt32, scope.vars⟩

/-- The entry of a node in a document. -/
def Node.entry (node : Node) : NodeEntry :=
  ⟨node.kind, node.scope.toUInt32, node.range⟩

/-- The document of a model. -/
def Model.toGraph (model : Model) : ScopeGraph :=
  { source := model.source
    scopes := model.scopes.toList.map Frame.entry
    nodes := model.nodes.map Node.entry }

/-- The two ends of a range. -/
def TextRange.ends (range : TextRange) : UInt32 × UInt32 := (range.start, range.stop)

/-- The operation that declares a variable in the scope at position `index`. -/
def Variable.edit (index : Nat) (v : Variable) : Edit :=
  .addVariable index v.name (v.identifiers.map TextRange.ends)

/-- The operations that open the scope at position `index` and declare its variables one by
one.  The first scope has no parent and is there from the start. -/
def ScopeEntry.edits (index : Nat) (entry : ScopeEntry) : List Edit :=
  (entry.parent.map fun parent => Edit.pushScope parent.toNat).toList
    ++ entry.vars.map (Variable.edit index)

/-- The operation that records a visit. -/
def NodeEntry.edit (entry : NodeEntry) : Edit :=
  .pushNode entry.kind entry.scope.toNat (entry.range.map TextRange.ends)

/-- The operations for scopes from position `index` on. -/
def scopeEdits (index : Nat) : List ScopeEntry → List Edit
  | [] => []
  | entry :: rest => entry.edits index ++ scopeEdits (index + 1) rest

/-- The operations that build up the scopes and nodes of a document in its order. -/
def ScopeGraph.edits (graph : ScopeGraph) : List Edit :=
  scopeEdits 0 graph.scopes ++ graph.nodes.map NodeEntry.edit

end ShadowLint.Scope
