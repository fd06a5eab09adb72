import Mathlib.Data.Set.Function
import Mathlib.Logic.Equiv.Basic
import ShadowLint.Proofs.Lint.Visits
import ShadowLint.Proofs.Scope.Defect

/-!
# Reports do not depend on the numbering of scopes

A front end may number the scopes of a program in any order in which parents come before their
children.  `Renumbers` says that two graphs are the same tree, with the same visits, under two
such numberings, and `check_eq_of_renumbers` that both give the same report.

What carries the proof is `Twins`, a simulation along parent links: each scope of one model
has a counterpart in the other that declares the same variables, and the counterparts of a
scope's parent and of the scope itself are linked in the same way.
-/

namespace ShadowLint.Lint

open Scope (Model ScopeEntry ScopeGraph ScopeId)

/-- The scopes of `other` are those of `graph`, with the one at position `i` moved to position
`p i`.  Parents and visits follow, the first scope stays the first, and all else is kept. -/
structure Renumbers (p : Nat → Nat) (graph other : ScopeGraph) : Prop where
  bijOn : Set.BijOn p {i | i < graph.scopes.length} {i | i < other.scopes.length}
  first : p 0 = 0
  scopes : ∀ (i : Nat) (entry : ScopeEntry), graph.scopes[i]? = some entry →
    ∃ moved, other.scopes[p i]? = some moved ∧ moved.vars = entry.vars ∧
      moved.parent.map UInt32.toNat = entry.parent.map fun parent => p parent.toNat
  nodes : (other.nodes.map fun node => (node.kind, node.scope.toNat, node.range)) =
    graph.nodes.map fun node => (node.kind, p node.scope.toNat, node.range)

/-- Every scope of `model` has a counterpart in `other` at the position that `p` gives, with the
same variables and a parent link to the counterpart of its parent. -/
def Twins (p : Nat → Nat) (model other : Model) : Prop :=
  ∀ (i : Nat) (scope : Scope.Frame), model.scopes.toList[i]? = some scope →
    ∃ moved, other.scopes.toList[p i]? = some moved ∧ moved.vars = scope.vars ∧
      moved.parent.map ScopeId.index = scope.parent.map fun parent => p parent.index

/-! ## From graphs to models -/

/-- A renumbering also holds of the graphs in which a lone global scope is written out. -/
theorem Renumbers.scopes_completed {p : Nat → Nat} {graph other : ScopeGraph}
    (renumbers : Renumbers p graph other) {i : Nat} {entry : ScopeEntry}
    (found : graph.completed.scopes[i]? = some entry) :
    ∃ moved, other.completed.scopes[p i]? = some moved ∧ moved.vars = entry.vars ∧
      moved.parent.map UInt32.toNat = entry.parent.map fun parent => p parent.toNat := by
  by_cases bare : graph.scopes = []
  · -- without scopes on one side there are none on the other
    have bareOther : other.scopes = [] := by
      refine List.eq_nil_iff_length_eq_zero.2 (Nat.eq_zero_of_not_pos fun pos => ?_)
      obtain ⟨i, inside, _⟩ := renumbers.bijOn.surjOn pos
      have least : i < graph.scopes.length := inside
      rw [bare] at least
      exact absurd least (Nat.not_lt_zero i)
    simp only [ScopeGraph.completed, bare] at found
    cases i with
    | zero =>
        cases found
        rw [renumbers.first]
        simp only [ScopeGraph.completed, bareOther]
        exact ⟨⟨none, []⟩, rfl, rfl, rfl⟩
    | succ i => cases found
  · rw [ScopeGraph.completed_of_scopes bare] at found
    obtain ⟨moved, stands, same⟩ := renumbers.scopes i entry found
    have writtenOther : other.scopes ≠ [] := by
      intro empty
      rw [empty] at stands
      cases stands
    rw [ScopeGraph.completed_of_scopes writtenOther]
    exact ⟨moved, stands, same⟩

theorem Renumbers.twins {p : Nat → Nat} {graph other : ScopeGraph} {model renumbered : Model}
    (renumbers : Renumbers p graph other) (holds : model.toGraph = graph.completed)
    (holdsOther : renumbered.toGraph = other.completed) : Twins p model renumbered := by
  intro i scope found
  have listed : graph.completed.scopes[i]? = some scope.entry := by
    rw [← holds, Model.toGraph, List.getElem?_map, found]
    rfl
  obtain ⟨entry, stands, vars, parent⟩ := renumbers.scopes_completed listed
  rw [← holdsOther, Model.toGraph, List.getElem?_map] at stands
  obtain ⟨moved, present, rfl⟩ := Option.map_eq_some_iff.1 stands
  refine ⟨moved, present, vars, ?_⟩
  simpa [Scope.Frame.entry, Option.map_map, Function.comp_def, ScopeId.toNat_toUInt32]
    using parent

theorem Renumbers.nodes_eq {p : Nat → Nat} {graph other : ScopeGraph} {model renumbered : Model}
    (renumbers : Renumbers p graph other) (holds : model.toGraph = graph.completed)
    (holdsOther : renumbered.toGraph = other.completed) :
    (renumbered.nodes.map fun node => (node.kind, node.scope.index, node.range)) =
      model.nodes.map fun node => (node.kind, p node.scope.index, node.range) := by
  have visits : graph.nodes = model.nodes.map Scope.Node.entry := by
    rw [← ScopeGraph.nodes_completed, ← holds, Model.toGraph]
  have visitsOther : other.nodes = renumbered.nodes.map Scope.Node.entry := by
    rw [← ScopeGraph.nodes_completed, ← holdsOther, Model.toGraph]
  have same := renumbers.nodes
  rw [visits, visitsOther, List.map_map, List.map_map] at same
  exact same

/-! ## What the walks see -/

/-- Lists whose items agree in what a walk sees of them give the same results. -/
theorem flatMap_eq_of_map_eq {α β γ δ : Type} {seen : α → γ} {seenOther : β → γ}
    {f : α → List δ} {g : β → List δ} {xs : List α} {ys : List β}
    (same : xs.map seen = ys.map seenOther)
    (alike : ∀ x ∈ xs, ∀ y ∈ ys, seen x = seenOther y → f x = g y) :
    xs.flatMap f = ys.flatMap g := by
  induction xs generalizing ys with
  | nil =>
      rw [List.map_nil, eq_comm, List.map_eq_nil_iff] at same
      rw [same]
      rfl
  | cons x xs ih =>
      obtain ⟨y, rest, rfl, sameHead, sameRest⟩ := List.map_eq_cons_iff.1 same.symm
      have rests := ih sameRest.symm fun a memA b memB =>
        alike a (List.mem_cons_of_mem x memA) b (List.mem_cons_of_mem y memB)
      have heads := alike x List.mem_cons_self y List.mem_cons_self sameHead.symm
      rw [List.flatMap_cons, List.flatMap_cons, heads, rests]

/-- The ways out of a scope and of its counterpart lead through scopes with the same variables. -/
theorem Twins.forall₂_ancestors {p : Nat → Nat} {model other : Model}
    (twins : Twins p model other) (wellFormed : model.WellFormed)
    (wellFormedOther : other.WellFormed) {id twin : ScopeId}
    (inside : id.index < model.scopes.size) (counterpart : twin.index = p id.index) :
    List.Forall₂ (fun scope moved => moved.vars = scope.vars) (model.ancestors id)
      (other.ancestors twin) := by
  refine Model.forall₂_ancestors_of_paired
    (fun one moved => one.index < model.scopes.size ∧ moved.index = p one.index) ?_
    ⟨inside, counterpart⟩
  rintro one two ⟨inside, counterpart⟩
  have found := List.getElem?_eq_getElem (l := model.scopes.toList) inside
  obtain ⟨moved, stands, vars, parents⟩ := twins _ _ found
  rw [← counterpart] at stands
  rw [Scope.Arena.get?_eq, Scope.Arena.get?_eq, found, stands]
  refine .some ⟨vars, ?_⟩
  cases linked : model.scopes.toList[one.index].parent with
  | none =>
      rw [linked, Option.map_none, Option.map_eq_none_iff] at parents
      rw [parents]
      exact .none
  | some parent =>
      rw [linked, Option.map_some, Option.map_eq_some_iff] at parents
      obtain ⟨twinParent, linkedOther, counterparts⟩ := parents
      -- in both models parents stand before their children
      have early := wellFormed.parent?_lt (Model.parent?_eq_some_iff.2 ⟨_, found, linked⟩)
      have earlyOther := wellFormedOther.parent?_lt
        (Model.parent?_eq_some_iff.2 ⟨_, stands, linkedOther⟩)
      rw [linkedOther]
      exact .some ⟨⟨Nat.lt_trans early inside, counterparts⟩, iff_of_true early earlyOther⟩

/-- The findings about a scope and about its counterpart are the same. -/
theorem Twins.shadowings_eq {p : Nat → Nat} {model other : Model} (twins : Twins p model other)
    (wellFormed : model.WellFormed) (wellFormedOther : other.WellFormed) {id twin : ScopeId}
    (inside : id.index < model.scopes.size) (counterpart : twin.index = p id.index)
    (exceptions : Exceptions) :
    shadowings exceptions other twin = shadowings exceptions model id := by
  have rows := twins.forall₂_ancestors wellFormed wellFormedOther inside counterpart
  rw [shadowings_eq_findingsAlong, shadowings_eq_findingsAlong]
  generalize model.ancestors id = row at rows ⊢
  generalize other.ancestors twin = moved at rows ⊢
  refine findingsAlong_congr (rows.imp ?_) ?_
  · intro scope moved vars
    unfold Scope.Frame.declares
    rw [vars]
  · intro inner atInner moved atMoved upper
    cases rows with
    | nil => cases atInner
    | cons vars _ =>
        cases atInner
        cases atMoved
        rw [vars]

/-- Two graphs that are accepted and differ only in the numbering of their scopes give the same
report under all settings: the same findings in the same order. -/
theorem check_eq_of_renumbers {p : Nat → Nat} {graph other : ScopeGraph}
    {model renumbered : Model} (renumbers : Renumbers p graph other)
    (loaded : Model.ofGraph graph = .ok model) (loadedOther : Model.ofGraph other = .ok renumbered)
    (settings : Settings) : settings.check renumbered = settings.check model := by
  have holds := Model.toGraph_of_ofGraph loaded
  have holdsOther := Model.toGraph_of_ofGraph loadedOther
  have wellFormed := Model.wellFormed_of_ofGraph loaded
  have wellFormedOther := Model.wellFormed_of_ofGraph loadedOther
  have twins := renumbers.twins holds holdsOther
  refine flatMap_eq_of_map_eq (renumbers.nodes_eq holds holdsOther) ?_
  intro moved _ node member same
  simp only [Prod.mk.injEq] at same
  obtain ⟨kinds, counterpart, _⟩ := same
  have inside := wellFormed.node_lt node member
  have findings : settings.findings renumbered moved.scope =
      settings.findings model node.scope := by
    funext rule
    cases rule with
    | noShadow =>
        exact twins.shadowings_eq wellFormed wellFormedOther inside counterpart
          settings.exceptions
  unfold Settings.visit
  rw [kinds, findings]

/-- Two functions next to each other, of which the second declares a global name again. -/
def siblings : ScopeGraph where
  source := none
  scopes :=
    [⟨none, [⟨"x", [⟨10, 11, by decide⟩]⟩]⟩, ⟨some 0, []⟩,
      ⟨some 0, [⟨"x", [⟨40, 41, by decide⟩]⟩]⟩]
  nodes := [⟨.functionDeclaration, 1, none⟩, ⟨.functionExpression, 2, none⟩]

/-- The same two functions, numbered the other way round. -/
def siblingsSwapped : ScopeGraph where
  source := none
  scopes :=
    [⟨none, [⟨"x", [⟨10, 11, by decide⟩]⟩]⟩, ⟨some 0, [⟨"x", [⟨40, 41, by decide⟩]⟩]⟩,
      ⟨some 0, []⟩]
  nodes := [⟨.functionDeclaration, 2, none⟩, ⟨.functionExpression, 1, none⟩]

/-- Two sibling scopes can change their numbers, and the shadowed variable is still found. -/
theorem check_eq_of_swapped_siblings :
    ∃ model renumbered, Renumbers (Equiv.swap 1 2) siblings siblingsSwapped ∧
      Model.ofGraph siblings = .ok model ∧ Model.ofGraph siblingsSwapped = .ok renumbered ∧
      Settings.default.check renumbered = Settings.default.check model ∧
      Settings.default.check model =
        [⟨"ShadowedVariable", "x is already declared in the upper scope.",
          ⟨40, 41, by decide⟩⟩] := by
  have renumbers : Renumbers (Equiv.swap 1 2) siblings siblingsSwapped := by
    constructor
    · have image : ∀ i < 3, Equiv.swap 1 2 i < 3 := by decide
      have back : ∀ i < 3, Equiv.swap 1 2 (Equiv.swap 1 2 i) = i := by decide
      exact ⟨image, (Equiv.swap 1 2).injective.injOn,
        fun i inside => ⟨Equiv.swap 1 2 i, image i inside, back i inside⟩⟩
    · rfl
    · intro i entry found
      match i with
      | 0 => cases found; exact ⟨_, rfl, rfl, rfl⟩
      | 1 => cases found; exact ⟨_, rfl, rfl, rfl⟩
      | 2 => cases found; exact ⟨_, rfl, rfl, rfl⟩
      | i + 3 => cases found
    · rfl
  have loaded : Model.ofGraph siblings = .ok _ := rfl
  have loadedOther : Model.ofGraph siblingsSwapped = .ok _ := rfl
  exact ⟨_, _, renumbers, loaded, loadedOther,
    check_eq_of_renumbers renumbers loaded loadedOther Settings.default, by decide +kernel⟩

end ShadowLint.Lint
