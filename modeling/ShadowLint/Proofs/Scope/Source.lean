import ShadowLint.Proofs.Outcome
import ShadowLint.Scope.Model.Load

/-!
# Documents and their source texts

The source text of a document is handed on to its model and has no part in whether there is one:
loading a document with another source text gives the same model with that text, or the same
error (`Model.ofGraph_withSource`).  Each step of loading is followed in turn.
-/

namespace ShadowLint.Scope

theorem GraphError.ofFault_map {α β : Type} (outcome : Except Fault α) (f : α → β) :
    ofFault (outcome.map f) = (ofFault outcome).map f := by
  cases outcome with
  | error fault => rfl
  | ok result => rfl

namespace Model

/-- The model with another source text. -/
def withSource (model : Model) (source : Option String) : Model := { model with source }

theorem pushScope_withSource (model : Model) (source : Option String) (parent : ScopeId) :
    (model.withSource source).pushScope parent =
      (model.pushScope parent).map fun (id, after) => (id, after.withSource source) := by
  unfold pushScope withSource
  split
  · cases model.scopes.push ⟨some parent, []⟩ with
    | error fault => rfl
    | ok result => rfl
  · rfl

theorem addVariables_withSource (model : Model) (source : Option String) (id : ScopeId)
    (vars : List Variable) :
    (model.withSource source).addVariables id vars =
      (model.addVariables id vars).map fun after => after.withSource source := by
  unfold addVariables withSource
  cases model.scopes.modify id _ with
  | error fault => rfl
  | ok scopes => rfl

theorem openScope_withSource (model : Model) (source : Option String) (index : Nat)
    (parent : Option UInt32) :
    (model.withSource source).openScope index parent =
      (model.openScope index parent).map fun (id, after) => (id, after.withSource source) := by
  unfold openScope
  split
  · rfl
  · rfl
  · rfl
  · split
    · rfl
    · next parent _ =>
        cases idOfNumber parent with
        | error error => rfl
        | ok below =>
            show GraphError.ofFault ((model.withSource source).pushScope below) = _
            rw [pushScope_withSource, GraphError.ofFault_map]
            rfl

theorem addScope_withSource (model : Model) (source : Option String) (index : Nat)
    (entry : ScopeEntry) :
    (model.withSource source).addScope index entry =
      (model.addScope index entry).map fun after => after.withSource source := by
  unfold addScope
  rw [openScope_withSource]
  cases model.openScope index entry.parent with
  | error error => rfl
  | ok opened =>
      show GraphError.ofFault ((opened.2.withSource source).addVariables opened.1 entry.vars) = _
      rw [addVariables_withSource, GraphError.ofFault_map]
      rfl

theorem addScopes_withSource (model : Model) (source : Option String) (index : Nat)
    (entries : List ScopeEntry) :
    (model.withSource source).addScopes index entries =
      (model.addScopes index entries).map fun after => after.withSource source := by
  induction entries generalizing model index with
  | nil => rfl
  | cons entry rest ih =>
      rw [addScopes, addScopes, addScope_withSource]
      cases model.addScope index entry with
      | error error => rfl
      | ok next => exact ih next (index + 1)

/-- A document with another source text has the same model with that text, or the same error. -/
theorem ofGraph_withSource (graph : ScopeGraph) (source : Option String) :
    ofGraph { graph with source } = (ofGraph graph).map fun model => model.withSource source := by
  have start : ({ initial with source } : Model) =
      ({ initial with source := graph.source } : Model).withSource source := rfl
  unfold ofGraph
  dsimp only
  rw [start, addScopes_withSource]
  cases ({ initial with source := graph.source } : Model).addScopes 0 graph.scopes with
  | error error => rfl
  | ok tree =>
      -- the nodes are looked up among the scopes, which are the same with both source texts
      show (resolveNodes tree.scopes.size 0 graph.nodes >>= fun nodes =>
          .ok { tree.withSource source with nodes }) =
        (resolveNodes tree.scopes.size 0 graph.nodes >>= fun nodes =>
          .ok { tree with nodes }).map fun model => model.withSource source
      cases resolveNodes tree.scopes.size 0 graph.nodes with
      | error error => rfl
      | ok nodes => rfl

end Model

end ShadowLint.Scope
