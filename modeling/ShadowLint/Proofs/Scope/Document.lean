import ShadowLint.Proofs.Scope.Defect
import ShadowLint.Proofs.Scope.Editing
import ShadowLint.Proofs.Scope.Source

/-!
# Models and their documents

A model is determined by its document (`Model.toGraph_injective`), and loading that document
gives the model back (`Model.ofGraph_toGraph`).  The other way round, the operations that
`ScopeGraph.edits` lists build up, one by one, the very model that loading the document builds
in one go (`Model.applyAll_edits`).
-/

namespace ShadowLint.Scope

/-! ## Models are determined by their documents -/

theorem ScopeId.toUInt32_injective {a b : ScopeId} (same : a.toUInt32 = b.toUInt32) : a = b :=
  ScopeId.index_injective (congrArg UInt32.toNat same)

theorem Frame.entry_injective {a b : Frame} (same : a.entry = b.entry) : a = b := by
  obtain ⟨parentA, varsA⟩ := a
  obtain ⟨parentB, varsB⟩ := b
  rw [entry, entry, ScopeEntry.mk.injEq] at same
  obtain ⟨parents, rfl⟩ := same
  cases parentA with
  | none =>
      cases parentB with
      | none => rfl
      | some parent => cases parents
  | some parent =>
      cases parentB with
      | none => cases parents
      | some other => rw [ScopeId.toUInt32_injective (Option.some.inj parents)]

theorem Node.entry_injective {a b : Node} (same : a.entry = b.entry) : a = b := by
  obtain ⟨kindA, scopeA, rangeA⟩ := a
  obtain ⟨kindB, scopeB, rangeB⟩ := b
  rw [entry, entry, NodeEntry.mk.injEq] at same
  obtain ⟨rfl, scopes, rfl⟩ := same
  obtain rfl : scopeA = scopeB := ScopeId.toUInt32_injective scopes
  rfl

namespace Model

theorem toGraph_injective {a b : Model} (same : a.toGraph = b.toGraph) : a = b := by
  obtain ⟨scopesA, nodesA, sourceA⟩ := a
  obtain ⟨scopesB, nodesB, sourceB⟩ := b
  rw [toGraph, toGraph, ScopeGraph.mk.injEq] at same
  obtain ⟨rfl, scopes, nodes⟩ := same
  obtain rfl : scopesA = scopesB :=
    Arena.toList_injective ((List.map_inj_right fun _ _ => Frame.entry_injective).1 scopes)
  obtain rfl : nodesA = nodesB := (List.map_inj_right fun _ _ => Node.entry_injective).1 nodes
  rfl

theorem WellFormed.scopes_toGraph_ne_nil {model : Model} (wellFormed : model.WellFormed) :
    model.toGraph.scopes ≠ [] := by
  have pos : 0 < model.scopes.toList.length := wellFormed.size_pos
  rw [toGraph, Ne, List.map_eq_nil_iff]
  exact List.ne_nil_of_length_pos pos

/-- Loading the document of a model gives the model back. -/
theorem WellFormed.ofGraph_toGraph {model : Model} (wellFormed : model.WellFormed) :
    ofGraph model.toGraph = .ok model := by
  have room : model.toGraph.scopes.length ≤ ScopeId.maxIndex.toNat + 1 := by
    rw [toGraph, List.length_map, Arena.length_toList]
    exact wellFormed.size_le
  obtain ⟨loaded, built⟩ := exists_ofGraph_of_isTree room wellFormed.isTree_toGraph
  have same := toGraph_of_ofGraph built
  rw [ScopeGraph.completed_of_scopes wellFormed.scopes_toGraph_ne_nil] at same
  rw [built, toGraph_injective same]

/-! ## Building a model piece by piece -/

theorem applyAll_append (model : Model) (first second : List Edit) :
    model.applyAll (first ++ second) =
      model.applyAll first >>= fun after => after.applyAll second := by
  induction first generalizing model with
  | nil => rfl
  | cons edit rest ih =>
      rw [List.cons_append, applyAll, applyAll]
      cases model.apply edit with
      | error error => rfl
      | ok result => exact ih result.2

theorem apply_pushScope {model after : Model} {parent id : ScopeId}
    (pushed : model.pushScope parent = .ok (id, after)) :
    model.apply (.pushScope parent.index) = .ok (.opened id, after) := by
  rw [apply, Edit.run_pushScope, scopeIdOf_eq_ok_iff.2 rfl]
  simp only [pushed]

theorem apply_variable_edit {model after : Model} {id : ScopeId} {v : Variable}
    (added : model.addVariable id v = .ok after) :
    ∃ reply, model.apply (v.edit id.index) = .ok (reply, after) := by
  obtain ⟨scope, found, rfl⟩ := addVariables_eq_ok_iff.1 added
  have back := get_of_addVariables found [v]
  refine ⟨.declared (scope.vars ++ [v]).length, ?_⟩
  rw [apply, Variable.edit, Edit.run_addVariable, mapM_rangeOf_eq_ok_iff.2 rfl,
    scopeIdOf_eq_ok_iff.2 rfl]
  simp only [added, back]

theorem apply_node_edit {model after : Model} {entry : NodeEntry} {scope : ScopeId}
    (named : scope.index = entry.scope.toNat)
    (pushed : model.pushNode ⟨entry.kind, scope, entry.range⟩ = .ok after) :
    ∃ reply, model.apply entry.edit = .ok (reply, after) := by
  refine ⟨.visited after.nodes.length, ?_⟩
  rw [apply, NodeEntry.edit, Edit.run_pushNode, option_mapM_rangeOf_eq_ok_iff.2 rfl,
    scopeIdOf_eq_ok_iff.2 named]
  simp only [pushed]

theorem applyAll_cons {model after : Model} {edit : Edit} {reply : EditReply}
    (applied : model.apply edit = .ok (reply, after)) (rest : List Edit) :
    model.applyAll (edit :: rest) = after.applyAll rest := by
  rw [applyAll, applied]
  rfl

/-- Declaring variables in one go is declaring them one by one. -/
theorem applyAll_variable_edits {model after : Model} {id : ScopeId} {vars : List Variable}
    (added : model.addVariables id vars = .ok after) :
    model.applyAll (vars.map (Variable.edit id.index)) = .ok after := by
  induction vars generalizing model with
  | nil =>
      -- declaring nothing writes a scope back as it is
      obtain ⟨scope, found, rfl⟩ := addVariables_eq_ok_iff.1 added
      obtain ⟨inside, same⟩ := List.getElem?_eq_some_iff.1 found
      have unchanged : Arena.ofList (model.scopes.toList.set id.index
          { scope with vars := scope.vars ++ [] }) = model.scopes := by
        apply Arena.toList_injective
        rw [Arena.toList_ofList, List.append_nil, ← same, List.set_getElem_self]
      rw [unchanged]
      rfl
  | cons v rest ih =>
      obtain ⟨scope, found, rfl⟩ := addVariables_eq_ok_iff.1 added
      have inside : id.index < model.scopes.toList.length := (List.getElem?_eq_some_iff.1 found).1
      have declared : model.addVariable id v = .ok _ :=
        addVariables_eq_ok_iff.2 ⟨scope, found, rfl⟩
      obtain ⟨reply, applied⟩ := apply_variable_edit declared
      rw [List.map_cons, applyAll_cons applied]
      apply ih
      refine addVariables_eq_ok_iff.2 ⟨{ scope with vars := scope.vars ++ [v] }, ?_, ?_⟩
      · rw [Arena.toList_ofList, List.getElem?_set_self inside]
      · rw [Arena.toList_ofList, List.set_set, List.append_assoc, List.singleton_append]

theorem applyAll_scope_edits {model next : Model} {i : Nat} {entry : ScopeEntry}
    (size : model.scopes.size = max 1 i) (added : model.addScope i entry = .ok next) :
    model.applyAll (entry.edits i) = .ok next := by
  obtain ⟨parent, vars⟩ := entry
  obtain ⟨⟨id, opened⟩, opening, filling⟩ := Outcome.bind_eq_ok_iff.1 added
  have filling := applyAll_variable_edits (GraphError.ofFault_eq_ok_iff.1 filling)
  unfold openScope at opening
  split at opening
  · next linked =>
      cases opening
      cases linked
      exact filling
  · cases opening
  · cases opening
  · next k below linked =>
      cases linked
      split at opening
      · cases opening
      · obtain ⟨parent, named, pushing⟩ := Outcome.bind_eq_ok_iff.1 opening
        have pushed := GraphError.ofFault_eq_ok_iff.1 pushing
        obtain ⟨_, fresh, _⟩ := pushScope_eq_ok_iff.1 pushed
        -- there is one scope for each entry so far, so the new one takes its entry's position
        have position : id.index = k + 1 := by omega
        rw [position] at filling
        rw [ScopeEntry.edits, Option.map_some, Option.toList_some, List.singleton_append,
          ← idOfNumber_eq_ok_iff.1 named, applyAll_cons (apply_pushScope pushed)]
        exact filling

theorem applyAll_scopeEdits {model after : Model} {source : Option String}
    (done : List ScopeEntry) {entries : List ScopeEntry}
    (holds : model.toGraph = (⟨source, done, []⟩ : ScopeGraph).completed)
    (added : model.addScopes done.length entries = .ok after) :
    model.applyAll (scopeEdits done.length entries) = .ok after := by
  induction entries generalizing model done with
  | nil =>
      cases added
      rfl
  | cons entry rest ih =>
      obtain ⟨next, first, others⟩ := Outcome.bind_eq_ok_iff.1 added
      have later := ih (done ++ [entry]) (holds_addScope holds first) (by rwa [List.length_append])
      rw [List.length_append, List.length_singleton] at later
      rw [scopeEdits, applyAll_append, applyAll_scope_edits (size_of_toGraph holds) first]
      exact later

theorem applyAll_node_edits {model : Model} {index : Nat} {entries : List NodeEntry}
    {nodes : List Node} (resolved : resolveNodes model.scopes.size index entries = .ok nodes) :
    model.applyAll (entries.map NodeEntry.edit) =
      .ok { model with nodes := model.nodes ++ nodes } := by
  induction entries generalizing model index nodes with
  | nil =>
      cases resolved
      rw [List.append_nil]
      rfl
  | cons entry rest ih =>
      unfold resolveNodes at resolved
      split at resolved
      · cases resolved
      · next known =>
          obtain ⟨scope, named, resolved⟩ := Outcome.bind_eq_ok_iff.1 resolved
          obtain ⟨others, resolving, same⟩ := Outcome.bind_eq_ok_iff.1 resolved
          cases same
          have named := idOfNumber_eq_ok_iff.1 named
          have inside : scope.index < model.scopes.size := by omega
          have pushed : model.pushNode ⟨entry.kind, scope, entry.range⟩ = .ok _ :=
            pushNode_eq_ok_iff.2 ⟨inside, rfl⟩
          obtain ⟨reply, applied⟩ := apply_node_edit named pushed
          rw [List.map_cons, applyAll_cons applied, List.append_cons model.nodes _ others]
          apply ih
          exact resolving

/-- The operations of a document build up, one by one, the model that loading it builds. -/
theorem applyAll_edits {graph : ScopeGraph} {model : Model} (built : ofGraph graph = .ok model) :
    initial.applyAll graph.edits = .ok { model with source := none } := by
  have bare : ofGraph { graph with source := none } =
      .ok { model with source := none } := by
    rw [ofGraph_withSource, built]
    rfl
  obtain ⟨tree, adding, built⟩ := Outcome.bind_eq_ok_iff.1 bare
  obtain ⟨nodes, resolving, same⟩ := Outcome.bind_eq_ok_iff.1 built
  have opened := applyAll_scopeEdits [] (toGraph_initial none) adding
  have visited := applyAll_node_edits resolving
  have unvisited : tree.nodes.map Node.entry = [] :=
    (congrArg ScopeGraph.nodes (toGraph_addScopes [] (toGraph_initial none) adding)).trans
      (ScopeGraph.nodes_completed _)
  rw [List.map_eq_nil_iff.1 unvisited, List.nil_append] at visited
  rw [ScopeGraph.edits, applyAll_append]
  refine Outcome.bind_eq_ok_iff.2 ⟨tree, opened, ?_⟩
  rw [← Except.ok.inj same]
  exact visited

end Model

/-- The document of every model that any row of edits leads to loads as that model.  For every
document that is accepted and has a scope, the document of the loaded model is the document
itself, and its operations, carried out one by one, build the same scopes and nodes. -/
theorem load_is_lossless_and_incremental :
    (∀ edits : List Edit,
      Model.ofGraph (Model.initial.run edits).toGraph = .ok (Model.initial.run edits)) ∧
    ∀ (graph : ScopeGraph) (model : Model), graph.scopes ≠ [] →
      Model.ofGraph graph = .ok model →
        model.toGraph = graph ∧
        ∃ built, Model.initial.applyAll graph.edits = .ok built ∧
          built.scopes = model.scopes ∧ built.nodes = model.nodes := by
  constructor
  · intro edits
    exact (Model.Reachable.initial.run edits).wellFormed.ofGraph_toGraph
  · intro graph model scopes loaded
    refine ⟨?_, { model with source := none }, Model.applyAll_edits loaded, rfl, rfl⟩
    rw [Model.toGraph_of_ofGraph loaded, ScopeGraph.completed_of_scopes scopes]

/-- A variable of the global scope, a function below it and its visit are neither lost nor
attached elsewhere. -/
theorem load_is_lossless_of_visited_function :
    ∃ (graph : ScopeGraph) (model : Model),
      graph.scopes = [⟨none, [⟨"x", []⟩]⟩, ⟨some 0, [⟨"y", []⟩]⟩] ∧
      graph.nodes = [⟨.functionDeclaration, 1, none⟩] ∧
      Model.ofGraph graph = .ok model ∧ model.toGraph = graph ∧
      ∃ built, Model.initial.applyAll graph.edits = .ok built ∧
        built.scopes = model.scopes ∧ built.nodes = model.nodes := by
  have loaded : Model.ofGraph ⟨some "x", [⟨none, [⟨"x", []⟩]⟩, ⟨some 0, [⟨"y", []⟩]⟩],
      [⟨.functionDeclaration, 1, none⟩]⟩ = .ok _ := rfl
  have scopes : [ScopeEntry.mk none [⟨"x", []⟩], ⟨some 0, [⟨"y", []⟩]⟩] ≠ [] :=
    List.cons_ne_nil _ _
  exact ⟨_, _, rfl, rfl, loaded, load_is_lossless_and_incremental.2 _ _ scopes loaded⟩

end ShadowLint.Scope
