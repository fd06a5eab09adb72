import ShadowLint.Proofs.Scope.Growth
import ShadowLint.Scope.Model.Load

/-!
# Models are trees

`Model.WellFormed` is the invariant of all models that can be built: the scopes are a tree
whose root stands first and whose other scopes come after their parents, and no reference
leads out of it.  Each growing operation keeps it and loading a graph establishes it, so
every `Reachable` model has it (`Reachable.wellFormed`).
-/

namespace ShadowLint.Scope

theorem GraphError.ofFault_eq_ok_iff {α : Type} {first : Except Fault α} {result : α} :
    GraphError.ofFault first = .ok result ↔ first = .ok result := by
  cases first with
  | error fault => simp [GraphError.ofFault]
  | ok a => simp [GraphError.ofFault]

theorem GraphError.ofFault_eq_error_iff {α : Type} {first : Except Fault α}
    {error : GraphError} :
    GraphError.ofFault first = .error error ↔
      ∃ fault, first = .error fault ∧ error = .refused fault := by
  cases first with
  | error fault => simp [GraphError.ofFault, eq_comm]
  | ok a => simp [GraphError.ofFault]

theorem idOfNumber_eq_ok_iff {number : UInt32} {id : ScopeId} :
    idOfNumber number = .ok id ↔ id.index = number.toNat := by
  unfold idOfNumber
  rw [← ScopeId.ofUInt32?_eq_some_iff]
  cases ScopeId.ofUInt32? number with
  | none => simp
  | some made => simp

theorem idOfNumber_eq_error_iff {number : UInt32} {error : GraphError} :
    idOfNumber number = .error error ↔
      ScopeId.maxIndex.toNat < number.toNat ∧ error = .refused .index32TooLarge := by
  unfold idOfNumber
  rw [← ScopeId.ofUInt32?_eq_none_iff]
  cases ScopeId.ofUInt32? number with
  | none => simp [eq_comm]
  | some made => simp

namespace Model

/-- The scopes of a model are a tree below the global one in which every parent stands before
its children, every visited node is in a scope of the tree, and every scope has an identifier. -/
structure WellFormed (model : Model) : Prop where
  size_pos : 0 < model.scopes.size
  root : ∀ scope : Frame, model.scopes.toList[0]? = some scope → scope.parent = none
  parent_lt : ∀ (i : Nat) (scope : Frame), 0 < i → model.scopes.toList[i]? = some scope →
    ∃ parent, scope.parent = some parent ∧ parent.index < i
  node_lt : ∀ node ∈ model.nodes, node.scope.index < model.scopes.size
  size_le : model.scopes.size ≤ ScopeId.maxIndex.toNat + 1

/-- The models that can be built: by reading a graph, and from there or from the initial model
by operations that are carried out. -/
inductive Reachable : Model → Prop
  | initial : Reachable initial
  | ofGraph {graph : ScopeGraph} {model : Model} : ofGraph graph = .ok model → Reachable model
  | pushScope {model after : Model} {parent id : ScopeId} : Reachable model →
      model.pushScope parent = .ok (id, after) → Reachable after
  | addVariable {model after : Model} {id : ScopeId} {v : Variable} : Reachable model →
      model.addVariable id v = .ok after → Reachable after
  | pushNode {model after : Model} {node : Node} : Reachable model →
      model.pushNode node = .ok after → Reachable after

/-- A tree has one root, which stands first. -/
theorem WellFormed.parent_eq_none_iff {model : Model} (wellFormed : model.WellFormed) {i : Nat}
    {scope : Frame} (found : model.scopes.toList[i]? = some scope) :
    scope.parent = none ↔ i = 0 := by
  constructor
  · intro orphan
    refine Nat.eq_zero_of_not_pos fun later => ?_
    obtain ⟨parent, linked, _⟩ := wellFormed.parent_lt i scope later found
    rw [orphan] at linked
    cases linked
  · rintro rfl
    exact wellFormed.root scope found

theorem wellFormed_initial (source : Option String) :
    WellFormed { initial with source := source } := by
  constructor
  · exact Nat.zero_lt_one
  · intro scope found
    cases found
    rfl
  · intro i scope later found
    have outside : 1 ≤ i := later
    rw [List.getElem?_eq_none (by exact outside)] at found
    cases found
  · intro node member
    cases member
  · exact Nat.le_add_left 1 ScopeId.maxIndex.toNat

theorem WellFormed.pushScope {model after : Model} {parent id : ScopeId}
    (wellFormed : model.WellFormed) (pushed : model.pushScope parent = .ok (id, after)) :
    after.WellFormed := by
  obtain ⟨known, fresh, rfl⟩ := pushScope_eq_ok_iff.1 pushed
  have room := id.index_le
  rw [fresh] at room
  constructor
  · simp
  · intro scope found
    have old : 0 < model.scopes.toList.length := wellFormed.size_pos
    rw [Arena.toList_ofList, List.getElem?_append_left old] at found
    exact wellFormed.root scope found
  · intro i scope later found
    rw [Arena.toList_ofList] at found
    by_cases old : i < model.scopes.toList.length
    · rw [List.getElem?_append_left old] at found
      exact wellFormed.parent_lt i scope later found
    · -- the only scope that was not there before hangs below one that was
      rw [List.getElem?_append_right (Nat.not_lt.1 old), List.getElem?_singleton] at found
      split at found
      · cases found
        exact ⟨parent, rfl, Nat.lt_of_lt_of_le known (Nat.not_lt.1 old)⟩
      · cases found
  · intro node member
    have old := wellFormed.node_lt node member
    simp
    omega
  · simpa using room

theorem WellFormed.addVariables {model after : Model} {id : ScopeId} {vars : List Variable}
    (wellFormed : model.WellFormed) (added : model.addVariables id vars = .ok after) :
    after.WellFormed := by
  obtain ⟨scope, found, rfl⟩ := addVariables_eq_ok_iff.1 added
  -- every scope afterwards hangs where a scope at the same place hung before
  have sameParent : ∀ (i : Nat) (changed : Frame),
      (model.scopes.toList.set id.index { scope with vars := scope.vars ++ vars })[i]? =
        some changed →
      ∃ old, model.scopes.toList[i]? = some old ∧ old.parent = changed.parent := by
    intro i changed present
    rw [List.getElem?_set] at present
    split at present
    · next same =>
        split at present
        · cases present
          exact ⟨scope, same ▸ found, rfl⟩
        · cases present
    · exact ⟨changed, present, rfl⟩
  constructor
  · simpa using wellFormed.size_pos
  · intro changed present
    obtain ⟨old, was, same⟩ := sameParent 0 changed present
    exact same ▸ wellFormed.root old was
  · intro i changed later present
    obtain ⟨old, was, same⟩ := sameParent i changed present
    exact same ▸ wellFormed.parent_lt i old later was
  · intro node member
    simpa using wellFormed.node_lt node member
  · simpa using wellFormed.size_le

theorem WellFormed.pushNode {model after : Model} {node : Node}
    (wellFormed : model.WellFormed) (pushed : model.pushNode node = .ok after) :
    after.WellFormed := by
  obtain ⟨known, rfl⟩ := pushNode_eq_ok_iff.1 pushed
  refine ⟨wellFormed.size_pos, wellFormed.root, wellFormed.parent_lt, ?_, wellFormed.size_le⟩
  intro other member
  rcases List.mem_append.1 member with old | new
  · exact wellFormed.node_lt other old
  · rw [List.mem_singleton.1 new]
    exact known

theorem WellFormed.addScope {model after : Model} {index : Nat} {entry : ScopeEntry}
    (wellFormed : model.WellFormed) (added : model.addScope index entry = .ok after) :
    after.WellFormed := by
  obtain ⟨⟨id, opened⟩, opening, filling⟩ := Outcome.bind_eq_ok_iff.1 added
  refine WellFormed.addVariables ?_ (GraphError.ofFault_eq_ok_iff.1 filling)
  unfold openScope at opening
  split at opening
  · cases opening
    exact wellFormed
  · cases opening
  · cases opening
  · split at opening
    · cases opening
    · obtain ⟨below, _, pushing⟩ := Outcome.bind_eq_ok_iff.1 opening
      exact wellFormed.pushScope (GraphError.ofFault_eq_ok_iff.1 pushing)

theorem WellFormed.addScopes {model after : Model} {index : Nat} {entries : List ScopeEntry}
    (wellFormed : model.WellFormed) (added : model.addScopes index entries = .ok after) :
    after.WellFormed := by
  induction entries generalizing model index with
  | nil =>
      cases added
      exact wellFormed
  | cons entry rest ih =>
      obtain ⟨next, first, others⟩ := Outcome.bind_eq_ok_iff.1 added
      exact ih (wellFormed.addScope first) others

/-- Every node that is taken over from a document is in one of the scopes. -/
theorem scope_lt_of_resolveNodes {size index : Nat} {entries : List NodeEntry}
    {nodes : List Node} (resolved : resolveNodes size index entries = .ok nodes) :
    ∀ node ∈ nodes, node.scope.index < size := by
  induction entries generalizing index nodes with
  | nil =>
      cases resolved
      intro node member
      cases member
  | cons entry rest ih =>
      unfold resolveNodes at resolved
      split at resolved
      · cases resolved
      · next known =>
          obtain ⟨scope, named, resolved⟩ := Outcome.bind_eq_ok_iff.1 resolved
          obtain ⟨others, resolving, same⟩ := Outcome.bind_eq_ok_iff.1 resolved
          cases same
          intro node member
          rcases List.mem_cons.1 member with rfl | member
          · rw [idOfNumber_eq_ok_iff.1 named]
            exact Nat.not_le.1 known
          · exact ih resolving node member

theorem wellFormed_of_ofGraph {graph : ScopeGraph} {model : Model}
    (built : ofGraph graph = .ok model) : model.WellFormed := by
  obtain ⟨tree, adding, built⟩ := Outcome.bind_eq_ok_iff.1 built
  obtain ⟨nodes, resolving, same⟩ := Outcome.bind_eq_ok_iff.1 built
  cases same
  have wellFormed := (wellFormed_initial graph.source).addScopes adding
  exact ⟨wellFormed.size_pos, wellFormed.root, wellFormed.parent_lt,
    scope_lt_of_resolveNodes resolving, wellFormed.size_le⟩

theorem Reachable.wellFormed {model : Model} (reachable : model.Reachable) :
    model.WellFormed := by
  induction reachable with
  | initial => exact wellFormed_initial none
  | ofGraph built => exact wellFormed_of_ofGraph built
  | pushScope _ pushed ih => exact ih.pushScope pushed
  | addVariable _ added ih => exact ih.addVariables added
  | pushNode _ pushed ih => exact ih.pushNode pushed

end Model

end ShadowLint.Scope
