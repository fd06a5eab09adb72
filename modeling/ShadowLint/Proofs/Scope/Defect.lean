import ShadowLint.Proofs.Scope.Tree
import ShadowLint.Scope.Model.Export

/-!
# The first defect of a graph

What can be wrong with a scope or a node of a document is said without looking at how a model
is built: `ScopeDefect` and `NodeDefect` for an entry at its position, `Earliest` for the first
entry of a list that has a defect, and `ScopeGraph.IsTree` for a graph without any.

Loading is tied to these notions by what is known of its result (`Model.toGraph_of_ofGraph`) and of
its refusal (`Model.firstDefect_of_ofGraph`).  Both rest on an induction along the entries, and what
carries it is that after each entry the model's own document is the part of the document that was
read so far.
-/

namespace ShadowLint.Scope

/-! ## Defects of lists -/

section Lists

variable {α ε : Type} {defect : Nat → α → ε → Prop}

/-- No item of a list whose positions count from `start` has a defect. -/
def Flawless (defect : Nat → α → ε → Prop) (start : Nat) (items : List α) : Prop :=
  ∀ i item, items[i]? = some item → ∀ error, ¬ defect (start + i) item error

/-- The first item that has a defect, in a list whose positions count from `start`, has the
defect `error`. -/
def Earliest (defect : Nat → α → ε → Prop) (start : Nat) (items : List α) (error : ε) : Prop :=
  ∃ i item, items[i]? = some item ∧ defect (start + i) item error ∧
    Flawless defect start (items.take i)

theorem flawless_nil (start : Nat) : Flawless defect start [] := by
  intro i item found
  cases found

theorem flawless_cons {start : Nat} {item : α} {rest : List α} :
    Flawless defect start (item :: rest) ↔
      (∀ error, ¬ defect start item error) ∧ Flawless defect (start + 1) rest := by
  constructor
  · intro flawless
    refine ⟨flawless 0 item rfl, fun i other found error flaw => ?_⟩
    refine flawless (i + 1) other found error ?_
    rwa [Nat.add_right_comm] at flaw
  · rintro ⟨first, others⟩ i other found error flaw
    cases i with
    | zero =>
        cases found
        exact first error flaw
    | succ i =>
        refine others i other found error ?_
        rwa [Nat.add_right_comm]

theorem earliest_of_head {start : Nat} {item : α} {rest : List α} {error : ε}
    (flaw : defect start item error) : Earliest defect start (item :: rest) error :=
  ⟨0, item, rfl, flaw, flawless_nil start⟩

theorem Earliest.cons {start : Nat} {item : α} {rest : List α} {error : ε}
    (first : ∀ error, ¬ defect start item error) (later : Earliest defect (start + 1) rest error) :
    Earliest defect start (item :: rest) error := by
  obtain ⟨i, other, found, flaw, before⟩ := later
  refine ⟨i + 1, other, found, ?_, flawless_cons.2 ⟨first, before⟩⟩
  rwa [Nat.add_right_comm] at flaw

theorem Earliest.not_flawless {start : Nat} {items : List α} {error : ε}
    (earliest : Earliest defect start items error) : ¬ Flawless defect start items := by
  obtain ⟨i, item, found, flaw, _⟩ := earliest
  intro flawless
  exact flawless i item found error flaw

/-- A list has one first defect where an item at a position has at most one. -/
theorem Earliest.unique {start : Nat} {items : List α} {one other : ε}
    (functional : ∀ i item one other, defect i item one → defect i item other → one = other)
    (first : Earliest defect start items one) (second : Earliest defect start items other) :
    one = other := by
  obtain ⟨i, item, foundI, flawI, beforeI⟩ := first
  obtain ⟨j, item', foundJ, flawJ, beforeJ⟩ := second
  rcases Nat.lt_trichotomy i j with less | rfl | more
  · have inside : (items.take j)[i]? = some item := by rw [List.getElem?_take_of_lt less, foundI]
    exact absurd flawI (beforeJ i item inside one)
  · rw [foundI] at foundJ
    cases foundJ
    exact functional _ _ _ _ flawI flawJ
  · have inside : (items.take i)[j]? = some item' := by rw [List.getElem?_take_of_lt more, foundJ]
    exact absurd flawJ (beforeI j item' inside other)

end Lists

/-! ## Defects of graphs -/

/-- What is wrong with a scope of a document at its position. -/
inductive ScopeDefect : Nat → ScopeEntry → GraphError → Prop
  | globalScopeWithParent {parent : UInt32} {vars : List Variable} :
      ScopeDefect 0 ⟨some parent, vars⟩ (.globalScopeWithParent parent)
  | multipleRoots {scope : UInt32} {vars : List Variable} : 0 < scope.toNat →
      ScopeDefect scope.toNat ⟨none, vars⟩ (.multipleRoots scope)
  | undefinedParent {scope parent : UInt32} {vars : List Variable} : 0 < scope.toNat →
      scope ≤ parent →
      ScopeDefect scope.toNat ⟨some parent, vars⟩ (.undefinedParent scope parent)

/-- What is wrong with a node of a document that stands for `size` scopes. -/
inductive NodeDefect (size : Nat) : Nat → NodeEntry → GraphError → Prop
  | unknownScope {node : Nat} {entry : NodeEntry} : size ≤ entry.scope.toNat →
      NodeDefect size node entry (.unknownScope node entry.scope)

theorem ScopeDefect.unique {i : Nat} {entry : ScopeEntry} {one other : GraphError}
    (first : ScopeDefect i entry one) (second : ScopeDefect i entry other) : one = other := by
  generalize position : i = j at second
  cases first with
  | globalScopeWithParent =>
      cases second with
      | globalScopeWithParent => rfl
      | undefinedParent pos _ => omega
  | multipleRoots pos =>
      cases second with
      | multipleRoots _ => rw [UInt32.toNat_inj.1 position]
  | undefinedParent pos _ =>
      cases second with
      | globalScopeWithParent => omega
      | undefinedParent _ _ => rw [UInt32.toNat_inj.1 position]

theorem NodeDefect.unique {size i : Nat} {entry : NodeEntry} {one other : GraphError}
    (first : NodeDefect size i entry one) (second : NodeDefect size i entry other) :
    one = other := by
  cases first
  cases second
  rfl

namespace ScopeGraph

/-- The number of scopes that a document stands for: one without scopes stands for the global
scope alone. -/
def scopeCount (graph : ScopeGraph) : Nat := max 1 graph.scopes.length

/-- The references of a graph make its scopes a tree below the first one, in which every parent
stands before its children, and lead its nodes into that tree. -/
structure IsTree (graph : ScopeGraph) : Prop where
  root : ∀ entry, graph.scopes[0]? = some entry → entry.parent = none
  parent_lt : ∀ (i : Nat) (entry : ScopeEntry), 0 < i → graph.scopes[i]? = some entry →
    ∃ parent, entry.parent = some parent ∧ parent.toNat < i
  node_lt : ∀ node ∈ graph.nodes, node.scope.toNat < graph.scopeCount

/-- The earliest defect of a graph, where all scopes come before all nodes. -/
inductive FirstDefect (graph : ScopeGraph) : GraphError → Prop
  | ofScope {error : GraphError} : Earliest ScopeDefect 0 graph.scopes error →
      FirstDefect graph error
  | ofNode {error : GraphError} : Flawless ScopeDefect 0 graph.scopes →
      Earliest (NodeDefect graph.scopeCount) 0 graph.nodes error → FirstDefect graph error

/-- A defect of a graph is never a refused operation. -/
theorem FirstDefect.ne_refused {graph : ScopeGraph} {error : GraphError}
    (first : graph.FirstDefect error) (fault : Fault) : error ≠ .refused fault := by
  have scope {i : Nat} {entry : ScopeEntry} (flaw : ScopeDefect i entry error) :
      error ≠ .refused fault := by
    cases flaw <;> exact GraphError.noConfusion
  have node {size i : Nat} {entry : NodeEntry} (flaw : NodeDefect size i entry error) :
      error ≠ .refused fault := by
    cases flaw
    exact GraphError.noConfusion
  cases first with
  | ofScope earliest =>
      obtain ⟨_, _, _, flaw, _⟩ := earliest
      exact scope flaw
  | ofNode _ earliest =>
      obtain ⟨_, _, _, flaw, _⟩ := earliest
      exact node flaw

/-- The document in which the global scope is written out, also where it is all there is. -/
def completed (graph : ScopeGraph) : ScopeGraph :=
  match graph.scopes with
  | [] => { graph with scopes := [⟨none, []⟩] }
  | _ :: _ => graph

theorem completed_of_scopes {graph : ScopeGraph} (scopes : graph.scopes ≠ []) :
    graph.completed = graph := by
  unfold completed
  split
  · contradiction
  · rfl

theorem nodes_completed (graph : ScopeGraph) : graph.completed.nodes = graph.nodes := by
  unfold completed
  split
  · rfl
  · rfl

theorem length_completed (graph : ScopeGraph) :
    graph.completed.scopes.length = graph.scopeCount := by
  unfold completed scopeCount
  split
  · next none => simp [none]
  · next entry rest some => simp [some]

theorem IsTree.flawless_scopes {graph : ScopeGraph} (tree : graph.IsTree) :
    Flawless ScopeDefect 0 graph.scopes := by
  intro i entry found error flaw
  rw [Nat.zero_add] at flaw
  cases flaw with
  | globalScopeWithParent => cases tree.root _ found
  | multipleRoots pos =>
      obtain ⟨parent, linked, _⟩ := tree.parent_lt _ _ pos found
      cases linked
  | undefinedParent pos late =>
      obtain ⟨parent, linked, early⟩ := tree.parent_lt _ _ pos found
      cases linked
      exact absurd (UInt32.le_iff_toNat_le.1 late) (Nat.not_le.2 early)

theorem IsTree.flawless_nodes {graph : ScopeGraph} (tree : graph.IsTree) :
    Flawless (NodeDefect graph.scopeCount) 0 graph.nodes := by
  intro i entry found error flaw
  cases flaw with
  | unknownScope outside =>
      exact absurd (tree.node_lt entry (List.mem_of_getElem? found)) (Nat.not_lt.2 outside)

theorem FirstDefect.not_isTree {graph : ScopeGraph} {error : GraphError}
    (first : graph.FirstDefect error) : ¬ graph.IsTree := by
  intro tree
  cases first with
  | ofScope earliest => exact earliest.not_flawless tree.flawless_scopes
  | ofNode _ earliest => exact earliest.not_flawless tree.flawless_nodes

theorem FirstDefect.unique {graph : ScopeGraph} {one other : GraphError}
    (first : graph.FirstDefect one) (second : graph.FirstDefect other) : one = other := by
  cases first with
  | ofScope earliest =>
      cases second with
      | ofScope again =>
          refine earliest.unique ?_ again
          intro i entry one other
          exact ScopeDefect.unique
      | ofNode flawless _ => exact absurd flawless earliest.not_flawless
  | ofNode flawless earliest =>
      cases second with
      | ofScope again => exact absurd flawless again.not_flawless
      | ofNode _ again =>
          refine earliest.unique ?_ again
          intro i entry one other
          exact NodeDefect.unique

end ScopeGraph

/-! ## What loading does with an entry -/

theorem toNat_positionNumber {i : Nat} (room : i ≤ ScopeId.maxIndex.toNat) :
    (positionNumber i).toNat = i := by
  rw [ScopeId.toNat_maxIndex] at room
  have fits : i < UInt32.size := by
    rw [UInt32.size]
    omega
  rw [positionNumber, UInt32.ofNatClamp_eq_ofNat i fits, UInt32.toNat_ofNat_of_lt' fits]

theorem positionNumber_toNat (scope : UInt32) : positionNumber scope.toNat = scope := by
  unfold positionNumber
  rw [UInt32.ofNatClamp_eq_ofNat _ scope.toNat_lt, UInt32.ofNat_toNat]

namespace Model

theorem addScope_of_defect {model : Model} {i : Nat} {entry : ScopeEntry} {error : GraphError}
    (flaw : ScopeDefect i entry error) : model.addScope i entry = .error error := by
  rw [addScope, Outcome.bind_eq_error_iff]
  refine Or.inl ?_
  cases flaw with
  | globalScopeWithParent => rfl
  | @multipleRoots scope vars pos =>
      obtain ⟨k, succ⟩ : ∃ k, scope.toNat = k + 1 := ⟨scope.toNat - 1, by omega⟩
      rw [succ, openScope, ← succ, positionNumber_toNat]
  | @undefinedParent scope parent vars pos late =>
      obtain ⟨k, succ⟩ : ∃ k, scope.toNat = k + 1 := ⟨scope.toNat - 1, by omega⟩
      rw [succ, openScope, ← succ, positionNumber_toNat, if_pos late]

/-- Opening a scope and then declaring its variables appends it with its variables. -/
theorem eq_of_pushScope_of_addVariables {model opened filled : Model} {parent id : ScopeId}
    {vars : List Variable} (pushed : model.pushScope parent = .ok (id, opened))
    (added : opened.addVariables id vars = .ok filled) :
    filled = { model with
      scopes := .ofList (model.scopes.toList ++ [⟨some parent, vars⟩]) } := by
  obtain ⟨-, fresh, rfl⟩ := pushScope_eq_ok_iff.1 pushed
  obtain ⟨scope, found, rfl⟩ := addVariables_eq_ok_iff.1 added
  -- the new scope is the last one, and this is where the variables go
  rw [← Arena.length_toList] at fresh
  rw [Arena.toList_ofList, fresh, List.getElem?_concat_length] at found
  cases found
  rw [Arena.toList_ofList, fresh, List.set_append_right _ _ (Nat.le_refl _), Nat.sub_self]
  rfl

theorem toGraph_eq_iff {model : Model} {graph : ScopeGraph} :
    model.toGraph = graph ↔
      model.source = graph.source ∧ model.scopes.toList.map Frame.entry = graph.scopes ∧
        model.nodes.map Node.entry = graph.nodes := by
  obtain ⟨source, scopes, nodes⟩ := graph
  rw [toGraph, ScopeGraph.mk.injEq]

/-- The first entry of a document has the global scope to itself, which is there from the
start and only takes the variables. -/
theorem toGraph_addScope_first {model next : Model} {source : Option String} {entry : ScopeEntry}
    (holds : model.toGraph = ⟨source, [⟨none, []⟩], []⟩)
    (added : model.addScope 0 entry = .ok next) : next.toGraph = ⟨source, [entry], []⟩ := by
  obtain ⟨parent, vars⟩ := entry
  obtain ⟨⟨id, opened⟩, opening, filling⟩ := Outcome.bind_eq_ok_iff.1 added
  have filling := GraphError.ofFault_eq_ok_iff.1 filling
  cases parent with
  | some parent => cases opening
  | none =>
      cases opening
      obtain ⟨scope, found, rfl⟩ := addVariables_eq_ok_iff.1 filling
      obtain ⟨sourceEq, scopesEq, nodesEq⟩ := toGraph_eq_iff.1 holds
      obtain ⟨only, single, blank⟩ := List.map_eq_singleton_iff.1 scopesEq
      rw [single] at found
      cases found
      obtain ⟨orphan, bare⟩ := (ScopeEntry.mk.injEq ..).mp blank
      refine toGraph_eq_iff.2 ⟨sourceEq, ?_, nodesEq⟩
      show (model.scopes.toList.set 0 { scope with vars := scope.vars ++ vars }).map Frame.entry =
        [⟨none, vars⟩]
      rw [single, List.set_cons_zero, List.map_singleton, Frame.entry, orphan, bare,
        List.nil_append]

/-- Every further entry appends a scope below one that is there. -/
theorem toGraph_addScope_succ {model next : Model} {i : Nat} {entry : ScopeEntry}
    (added : model.addScope (i + 1) entry = .ok next) :
    next.toGraph = { model.toGraph with scopes := model.toGraph.scopes ++ [entry] } := by
  obtain ⟨parent, vars⟩ := entry
  obtain ⟨⟨id, opened⟩, opening, filling⟩ := Outcome.bind_eq_ok_iff.1 added
  cases parent with
  | none => cases opening
  | some parent =>
      rw [openScope] at opening
      split at opening
      · cases opening
      · obtain ⟨below, named, opening⟩ := Outcome.bind_eq_ok_iff.1 opening
        have pushing := GraphError.ofFault_eq_ok_iff.1 opening
        have same : below.toUInt32 = parent := UInt32.toNat_inj.1 (idOfNumber_eq_ok_iff.1 named)
        rw [eq_of_pushScope_of_addVariables pushing (GraphError.ofFault_eq_ok_iff.1 filling)]
        refine toGraph_eq_iff.2 ⟨rfl, ?_, rfl⟩
        rw [Arena.toList_ofList, List.map_append, ← same]
        rfl

theorem toGraph_addScope {model next : Model} {source : Option String}
    {done : List ScopeEntry} {entry : ScopeEntry}
    (holds : model.toGraph = (⟨source, done, []⟩ : ScopeGraph).completed)
    (added : model.addScope done.length entry = .ok next) :
    next.toGraph = ⟨source, done ++ [entry], []⟩ := by
  cases done with
  | nil => exact toGraph_addScope_first holds added
  | cons first others =>
      rw [toGraph_addScope_succ added, holds]
      rfl

/-- A scope that was opened is there. -/
theorem index_lt_of_openScope {model opened : Model} {i : Nat} {parent : Option UInt32}
    {id : ScopeId} (pos : 0 < model.scopes.size)
    (opening : model.openScope i parent = .ok (id, opened)) : id.index < opened.scopes.size := by
  unfold openScope at opening
  split at opening
  · cases opening
    exact pos
  · cases opening
  · cases opening
  · split at opening
    · cases opening
    · obtain ⟨below, _, pushing⟩ := Outcome.bind_eq_ok_iff.1 opening
      obtain ⟨_, fresh, rfl⟩ := pushScope_eq_ok_iff.1 (GraphError.ofFault_eq_ok_iff.1 pushing)
      rw [fresh, Arena.size_ofList, List.length_append, Arena.length_toList]
      exact Nat.lt_succ_self _

/-- Where there is room, a scope is refused only for a defect of its own. -/
theorem defect_of_openScope {model : Model} {i : Nat} {entry : ScopeEntry} {error : GraphError}
    (size : model.scopes.size = max 1 i) (room : i ≤ ScopeId.maxIndex.toNat)
    (refused : model.openScope i entry.parent = .error error) : ScopeDefect i entry error := by
  obtain ⟨parent, vars⟩ := entry
  have position := toNat_positionNumber room
  unfold openScope at refused
  split at refused
  · cases refused
  · next parent linked =>
      cases refused
      cases linked
      exact .globalScopeWithParent
  · next k linked =>
      cases refused
      cases linked
      have pos : 0 < (positionNumber (k + 1)).toNat := position.symm ▸ Nat.succ_pos k
      have flaw : ScopeDefect _ ⟨none, vars⟩ _ := .multipleRoots pos
      rwa [position] at flaw
  · next k parent linked =>
      cases linked
      have pos : 0 < (positionNumber (k + 1)).toNat := position.symm ▸ Nat.succ_pos k
      split at refused
      · next late =>
          cases refused
          have flaw : ScopeDefect _ ⟨some parent, vars⟩ _ := .undefinedParent pos late
          rwa [position] at flaw
      · next early =>
          -- the parent comes before a position that has an identifier, so it has one and is there
          rw [UInt32.le_iff_toNat_le, position] at early
          rcases Outcome.bind_eq_error_iff.1 refused with unnamed | ⟨below, named, refused⟩
          · have large := (idOfNumber_eq_error_iff.1 unnamed).1
            omega
          · have same := idOfNumber_eq_ok_iff.1 named
            obtain ⟨fault, refused, _⟩ := GraphError.ofFault_eq_error_iff.1 refused
            rcases pushScope_eq_error_iff.1 refused with ⟨outside, _⟩ | ⟨_, full, _⟩
            · omega
            · omega

theorem defect_of_addScope {model : Model} {i : Nat} {entry : ScopeEntry} {error : GraphError}
    (size : model.scopes.size = max 1 i) (room : i ≤ ScopeId.maxIndex.toNat)
    (refused : model.addScope i entry = .error error) : ScopeDefect i entry error := by
  rcases Outcome.bind_eq_error_iff.1 refused with opening | ⟨⟨id, opened⟩, opening, filling⟩
  · exact defect_of_openScope size room opening
  · -- the variables go into the scope that was just opened, so they are never refused
    obtain ⟨fault, filling, _⟩ := GraphError.ofFault_eq_error_iff.1 filling
    have inside := index_lt_of_openScope (by omega) opening
    have outside := (addVariables_eq_error_iff.1 filling).1
    omega

/-! ## What loading does with a document -/

theorem size_of_toGraph {model : Model} {graph : ScopeGraph}
    (holds : model.toGraph = graph.completed) : model.scopes.size = graph.scopeCount := by
  rw [← ScopeGraph.length_completed, ← holds, toGraph, List.length_map, Arena.length_toList]

/-- The induction step of loading: what a model holds after one more entry. -/
theorem holds_addScope {model next : Model} {source : Option String}
    {done : List ScopeEntry} {entry : ScopeEntry}
    (holds : model.toGraph = (⟨source, done, []⟩ : ScopeGraph).completed)
    (added : model.addScope done.length entry = .ok next) :
    next.toGraph = (⟨source, done ++ [entry], []⟩ : ScopeGraph).completed := by
  have nonempty : (⟨source, done ++ [entry], []⟩ : ScopeGraph).scopes ≠ [] :=
    List.append_ne_nil_of_right_ne_nil done (List.cons_ne_nil entry [])
  rw [toGraph_addScope holds added, ScopeGraph.completed_of_scopes nonempty]

theorem toGraph_addScopes {model after : Model} {source : Option String}
    (done : List ScopeEntry) {entries : List ScopeEntry}
    (holds : model.toGraph = (⟨source, done, []⟩ : ScopeGraph).completed)
    (added : model.addScopes done.length entries = .ok after) :
    after.toGraph = (⟨source, done ++ entries, []⟩ : ScopeGraph).completed := by
  induction entries generalizing model done with
  | nil =>
      cases added
      rw [List.append_nil, holds]
  | cons entry rest ih =>
      obtain ⟨next, first, others⟩ := Outcome.bind_eq_ok_iff.1 added
      have read := ih (done ++ [entry]) (holds_addScope holds first) (by rwa [List.length_append])
      rwa [List.append_assoc] at read

theorem flawless_of_addScopes {model after : Model} {i : Nat} {entries : List ScopeEntry}
    (added : model.addScopes i entries = .ok after) : Flawless ScopeDefect i entries := by
  induction entries generalizing model i with
  | nil => exact flawless_nil i
  | cons entry rest ih =>
      obtain ⟨next, first, others⟩ := Outcome.bind_eq_ok_iff.1 added
      refine flawless_cons.2 ⟨fun error flaw => ?_, ih others⟩
      rw [addScope_of_defect flaw] at first
      cases first

theorem earliest_of_addScopes {model : Model} {source : Option String}
    (done : List ScopeEntry) {entries : List ScopeEntry} {error : GraphError}
    (holds : model.toGraph = (⟨source, done, []⟩ : ScopeGraph).completed)
    (room : done.length + entries.length ≤ ScopeId.maxIndex.toNat + 1)
    (refused : model.addScopes done.length entries = .error error) :
    Earliest ScopeDefect done.length entries error := by
  induction entries generalizing model done with
  | nil => cases refused
  | cons entry rest ih =>
      rw [List.length_cons] at room
      rcases Outcome.bind_eq_error_iff.1 refused with first | ⟨next, first, others⟩
      · exact earliest_of_head (defect_of_addScope (size_of_toGraph holds) (by omega) first)
      · have later := ih (done ++ [entry]) (holds_addScope holds first) (by simp; omega)
          (by rwa [List.length_append])
        rw [List.length_append] at later
        refine later.cons fun error flaw => ?_
        rw [addScope_of_defect flaw] at first
        cases first

theorem map_entry_of_resolveNodes {size index : Nat} {entries : List NodeEntry}
    {nodes : List Node} (resolved : resolveNodes size index entries = .ok nodes) :
    nodes.map Node.entry = entries := by
  induction entries generalizing index nodes with
  | nil =>
      cases resolved
      rfl
  | cons entry rest ih =>
      unfold resolveNodes at resolved
      split at resolved
      · cases resolved
      · obtain ⟨scope, named, resolved⟩ := Outcome.bind_eq_ok_iff.1 resolved
        obtain ⟨others, resolving, same⟩ := Outcome.bind_eq_ok_iff.1 resolved
        cases same
        have number : scope.toUInt32 = entry.scope :=
          UInt32.toNat_inj.1 (idOfNumber_eq_ok_iff.1 named)
        rw [List.map_cons, ih resolving, Node.entry, number]

theorem earliest_of_resolveNodes {size index : Nat} {entries : List NodeEntry}
    {error : GraphError} (room : size ≤ ScopeId.maxIndex.toNat + 1)
    (refused : resolveNodes size index entries = .error error) :
    Earliest (NodeDefect size) index entries error := by
  induction entries generalizing index with
  | nil => cases refused
  | cons entry rest ih =>
      unfold resolveNodes at refused
      split at refused
      · next outside =>
          cases refused
          exact earliest_of_head (.unknownScope outside)
      · next inside =>
          rcases Outcome.bind_eq_error_iff.1 refused with unnamed | ⟨scope, _, refused⟩
          · have large := (idOfNumber_eq_error_iff.1 unnamed).1
            omega
          · rcases Outcome.bind_eq_error_iff.1 refused with later | ⟨others, _, impossible⟩
            · refine (ih later).cons fun error flaw => ?_
              cases flaw with
              | unknownScope outside => exact inside outside
            · cases impossible

theorem toGraph_initial (source : Option String) :
    ({ initial with source := source } : Model).toGraph =
      (⟨source, [], []⟩ : ScopeGraph).completed := rfl

/-- A model that was built from a document has that document. -/
theorem toGraph_of_ofGraph {graph : ScopeGraph} {model : Model}
    (built : ofGraph graph = .ok model) : model.toGraph = graph.completed := by
  obtain ⟨source, scopes, nodes⟩ := graph
  obtain ⟨tree, adding, built⟩ := Outcome.bind_eq_ok_iff.1 built
  obtain ⟨visits, resolving, same⟩ := Outcome.bind_eq_ok_iff.1 built
  cases same
  obtain ⟨sourceEq, scopesEq, _⟩ :=
    toGraph_eq_iff.1 (toGraph_addScopes [] (toGraph_initial source) adding)
  rw [toGraph, map_entry_of_resolveNodes resolving, sourceEq, scopesEq]
  cases scopes with
  | nil => rfl
  | cons first others => rfl

theorem firstDefect_of_ofGraph {graph : ScopeGraph} {error : GraphError}
    (room : graph.scopes.length ≤ ScopeId.maxIndex.toNat + 1)
    (refused : ofGraph graph = .error error) : graph.FirstDefect error := by
  rcases Outcome.bind_eq_error_iff.1 refused with adding | ⟨tree, adding, refused⟩
  · refine .ofScope ?_
    exact earliest_of_addScopes [] (toGraph_initial graph.source) (by simpa using room)
      adding
  · refine .ofNode (flawless_of_addScopes adding) ?_
    have holds : tree.toGraph = (⟨graph.source, graph.scopes, []⟩ : ScopeGraph).completed :=
      toGraph_addScopes [] (toGraph_initial graph.source) adding
    have size := size_of_toGraph holds
    change tree.scopes.size = graph.scopeCount at size
    rcases Outcome.bind_eq_error_iff.1 refused with resolving | ⟨visits, _, impossible⟩
    · rw [size] at resolving
      refine earliest_of_resolveNodes ?_ resolving
      rw [ScopeGraph.scopeCount]
      omega
    · cases impossible

theorem WellFormed.isTree_toGraph {model : Model} (wellFormed : model.WellFormed) :
    model.toGraph.IsTree := by
  have size : model.toGraph.scopeCount = model.scopes.size := by
    have pos := wellFormed.size_pos
    rw [ScopeGraph.scopeCount, toGraph, List.length_map, Arena.length_toList]
    omega
  constructor
  · intro entry found
    rw [toGraph, List.getElem?_map] at found
    obtain ⟨scope, stands, rfl⟩ := Option.map_eq_some_iff.1 found
    rw [Frame.entry, wellFormed.root scope stands]
    rfl
  · intro i entry later found
    rw [toGraph, List.getElem?_map] at found
    obtain ⟨scope, stands, rfl⟩ := Option.map_eq_some_iff.1 found
    obtain ⟨parent, linked, early⟩ := wellFormed.parent_lt i scope later stands
    exact ⟨parent.toUInt32, by rw [Frame.entry, linked]; rfl, early⟩
  · intro entry member
    obtain ⟨node, visited, rfl⟩ := List.mem_map.1 member
    rw [size]
    exact wellFormed.node_lt node visited

end Model

namespace ScopeGraph

theorem isTree_of_completed {graph : ScopeGraph} (tree : graph.completed.IsTree) :
    graph.IsTree := by
  obtain ⟨source, scopes, nodes⟩ := graph
  cases scopes with
  | nil =>
      refine ⟨?_, ?_, tree.node_lt⟩
      · intro entry found
        cases found
      · intro i entry _ found
        cases found
  | cons first others => exact tree

end ScopeGraph

theorem isTree_of_ofGraph {graph : ScopeGraph} {model : Model}
    (built : Model.ofGraph graph = .ok model) : graph.IsTree := by
  apply ScopeGraph.isTree_of_completed
  rw [← Model.toGraph_of_ofGraph built]
  exact (Model.wellFormed_of_ofGraph built).isTree_toGraph

theorem exists_ofGraph_of_isTree {graph : ScopeGraph}
    (room : graph.scopes.length ≤ ScopeId.maxIndex.toNat + 1) (tree : graph.IsTree) :
    ∃ model, Model.ofGraph graph = .ok model := by
  cases result : Model.ofGraph graph with
  | ok model => exact ⟨model, rfl⟩
  | error error => exact absurd tree (Model.firstDefect_of_ofGraph room result).not_isTree

/-- A graph that has no more scopes than there are identifiers is accepted exactly when it is a
tree.  Otherwise its earliest defect is reported, and never a refused operation. -/
theorem ofGraph_accepts_trees_or_reports_first_defect (graph : ScopeGraph)
    (room : graph.scopes.length ≤ 4294967295) :
    ((∃ model, Model.ofGraph graph = .ok model) ↔ graph.IsTree) ∧
      (∀ error, Model.ofGraph graph = .error error ↔ graph.FirstDefect error) ∧
      ∀ fault, Model.ofGraph graph ≠ .error (.refused fault) := by
  have defective : ∀ error, Model.ofGraph graph = .error error → graph.FirstDefect error :=
    fun error refused => Model.firstDefect_of_ofGraph room refused
  refine ⟨⟨?_, exists_ofGraph_of_isTree room⟩, fun error => ⟨defective error, ?_⟩,
    fun fault refused => ?_⟩
  · rintro ⟨model, built⟩
    exact isTree_of_ofGraph built
  · intro first
    cases result : Model.ofGraph graph with
    | ok model => exact absurd (isTree_of_ofGraph result) first.not_isTree
    | error other => rw [(defective other result).unique first]
  · exact (defective _ refused).ne_refused fault rfl

/-- Of a parent that has no identifier, a second root and a node in no scope, the first is
reported. -/
theorem ofGraph_error_of_several_defects :
    [ScopeEntry.mk none [], ⟨some 4294967295, []⟩, ⟨none, []⟩].length ≤ 4294967295 ∧
      Model.ofGraph
          ⟨none, [⟨none, []⟩, ⟨some 4294967295, []⟩, ⟨none, []⟩], [⟨.program, 7, none⟩]⟩ =
        .error (.undefinedParent 1 4294967295) := by
  have room : [ScopeEntry.mk none [], ⟨some 4294967295, []⟩, ⟨none, []⟩].length ≤ 4294967295 := by
    decide
  refine ⟨room, ((ofGraph_accepts_trees_or_reports_first_defect _ room).2.1 _).2 (.ofScope ?_)⟩
  refine Earliest.cons (fun error flaw => ?_) (earliest_of_head ?_)
  · generalize start : 0 = i at flaw
    cases flaw with
    | multipleRoots pos => omega
  · have pos : 0 < (1 : UInt32).toNat := by decide
    exact .undefinedParent pos (by decide)

end ShadowLint.Scope
