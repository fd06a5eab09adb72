import ShadowLint.Lint.Shadowing
import ShadowLint.Proofs.Listing
import ShadowLint.Proofs.Scope.Ancestry

/-!
# What the check reports

`Shadowing` says without any traversal when a variable of a scope shadows a name of an
enclosing one, and what is reported about it; `VisitedShadowing` says so for the visits of
functions.  The place of a finding is the position of the visit, the distance of the enclosing
scope and the position of the variable.

`check_lists_shadowings` says that the findings of the check are all of these, one for each
place, in the lexicographic order of the places.  It is put together from one listing for each
of the three nested walks.
-/

namespace ShadowLint.Lint

open Scope (Model Node NodeKind ScopeId TextRange Variable)

/-- The variable at position `j` of a scope shadows a variable of the scope that lies `k` links
above, and this is the finding about it.  Only variables that the source declares count on
either side, and the finding stands at the first place that declares the inner one. -/
inductive Shadowing (exceptions : Exceptions) (model : Model) (id : ScopeId) :
    Nat × Nat → Diagnostic → Prop
  | mk {k j : Nat} {inner outer : Scope.Frame} {above : ScopeId} {v w : Variable}
      {place : TextRange} {others : List TextRange} :
      model.scopes.toList[id.index]? = some inner →
      1 ≤ k → model.Above k id above → model.scopes.toList[above.index]? = some outer →
      inner.vars[j]? = some v → v.identifiers = place :: others →
      exceptions.isExempt v.name = false →
      w ∈ outer.vars → w.name = v.name → w.identifiers ≠ [] →
      Shadowing exceptions model id (k, j)
        ⟨"ShadowedVariable", v.name ++ " is already declared in the upper scope.", place⟩

/-- A node is that of a function, other than an arrow function. -/
def VisitsFunction (node : Node) : Prop :=
  node.kind = .functionDeclaration ∨ node.kind = .functionExpression

instance : DecidablePred VisitsFunction := fun _ => inferInstanceAs (Decidable (_ ∨ _))

/-- The `i`-th visit is that of a function, and this is a finding about its scope. -/
inductive VisitedShadowing (exceptions : Exceptions) (model : Model) :
    Nat × Nat × Nat → Diagnostic → Prop
  | mk {i : Nat} {node : Node} {place : Nat × Nat} {finding : Diagnostic} :
      model.nodes[i]? = some node → VisitsFunction node →
      Shadowing exceptions model node.scope place finding →
      VisitedShadowing exceptions model (i, place) finding

theorem declares_eq_true_iff {scope : Scope.Frame} {name : String} :
    scope.declares name = true ↔ ∃ w ∈ scope.vars, w.name = name ∧ w.identifiers ≠ [] := by
  unfold Scope.Frame.declares Variable.isDeclared
  simp [List.any_eq_true, and_comm]

/-- When a variable is reported with respect to a scope further out, and how. -/
theorem shadowing?_eq_some_iff {exceptions : Exceptions} {outer : Scope.Frame} {v : Variable}
    {finding : Diagnostic} :
    shadowing? exceptions outer v = some finding ↔
      ∃ place others, v.identifiers = place :: others ∧ exceptions.isExempt v.name = false ∧
        (∃ w ∈ outer.vars, w.name = v.name ∧ w.identifiers ≠ []) ∧
        finding =
          ⟨"ShadowedVariable", v.name ++ " is already declared in the upper scope.", place⟩ := by
  unfold shadowing? Variable.declaration?
  rw [← declares_eq_true_iff]
  cases declared : v.identifiers with
  | nil => simp
  | cons place others =>
      rw [List.head?_cons]
      dsimp only
      cases exempt : exceptions.isExempt v.name with
      | true => simp
      | false =>
          cases known : outer.declares v.name with
          | false => simp
          | true => simp [Rule.findingKind, shadowingBody, eq_comm]

/-- A shadowing as the walks find it: a scope at a distance in the walk towards the root and a
variable that is reported with respect to it. -/
theorem shadowing_iff {model : Model} {exceptions : Exceptions} {id : ScopeId}
    {inner : Scope.Frame} (found : model.scopes.toList[id.index]? = some inner) {k j : Nat}
    {finding : Diagnostic} :
    Shadowing exceptions model id (k, j) finding ↔
      ∃ outer, (1 ≤ k ∧ ∃ above, model.Above k id above ∧
          model.scopes.toList[above.index]? = some outer) ∧
        ∃ v, inner.vars[j]? = some v ∧ shadowing? exceptions outer v = some finding := by
  constructor
  · intro shadows
    cases shadows with
    | mk here pos above stands declared places reportable known named explicit =>
        rw [found] at here
        cases here
        refine ⟨_, ⟨pos, _, above, stands⟩, _, declared, shadowing?_eq_some_iff.2 ?_⟩
        exact ⟨_, _, places, reportable, ⟨_, known, named, explicit⟩, rfl⟩
  · rintro ⟨outer, ⟨pos, above, link, stands⟩, v, declared, reported⟩
    obtain ⟨place, others, places, reportable, ⟨w, known, named, explicit⟩, rfl⟩ :=
      shadowing?_eq_some_iff.1 reported
    exact .mk found pos link stands declared places reportable known named explicit

theorem visitedShadowing_iff {exceptions : Exceptions} {model : Model} {i : Nat}
    {place : Nat × Nat} {finding : Diagnostic} :
    VisitedShadowing exceptions model (i, place) finding ↔
      ∃ node, model.nodes[i]? = some node ∧ VisitsFunction node ∧
        Shadowing exceptions model node.scope place finding := by
  constructor
  · rintro ⟨visited, function, shadows⟩
    exact ⟨_, visited, function, shadows⟩
  · rintro ⟨node, visited, function, shadows⟩
    exact .mk visited function shadows

/-! ## The three walks -/

/-- The findings about a scope are listed by the distance of the enclosing scope and the
position of the variable. -/
theorem listed_shadowings {model : Model} (wellFormed : model.WellFormed)
    (exceptions : Exceptions) (id : ScopeId) :
    Listed (Prod.Lex (· < ·) (· < ·)) (Shadowing exceptions model id)
      (shadowings exceptions model id) := by
  unfold shadowings
  rw [Scope.Arena.get?_eq]
  cases found : model.scopes.toList[id.index]? with
  | none =>
      refine Listed.nil fun place finding shadows => ?_
      cases shadows with
      | mk here =>
          rw [found] at here
          cases here
  | some inner =>
      dsimp only
      refine (Listed.flatMap 1 (model.ancestors id).tail _ fun outer _ =>
        Listed.filterMap 0 inner.vars (shadowing? exceptions outer)).congr ?_
      rintro ⟨k, j⟩ finding
      rw [shadowing_iff found]
      simp only [standsFrom_tail, standsFrom_zero, wellFormed.getElem?_ancestors_eq_some_iff]

/-- Where the rule is enabled, it is the only one that listens, and it listens to functions. -/
theorem visit_eq {settings : Settings} (enabled : settings.enables .noShadow = true)
    (model : Model) (node : Node) :
    settings.visit model node =
      if VisitsFunction node then shadowings settings.exceptions model node.scope else [] := by
  have only : settings.rules = [.noShadow] := by
    have member : Rule.noShadow ∈ settings.rules := of_decide_eq_true enabled
    have few : settings.rules.Sublist [.noShadow] := settings.rules_sublist
    exact few.eq_of_length_le (List.length_pos_of_mem member)
  have listens : node.kind ∈ Rule.noShadow.listensTo ↔ VisitsFunction node := by
    rw [Rule.listensTo, VisitsFunction, List.mem_cons, List.mem_singleton]
  unfold Settings.visit Settings.listeners
  rw [only]
  by_cases function : VisitsFunction node
  · simp [function, listens, Settings.findings]
  · simp [function, listens]

/-- A visit of a function lists the findings about its scope, and any other visit none. -/
theorem listed_visit {model : Model} (wellFormed : model.WellFormed) {settings : Settings}
    (enabled : settings.enables .noShadow = true) (node : Node) :
    Listed (Prod.Lex (· < ·) (· < ·))
      (fun place finding => VisitsFunction node ∧
        Shadowing settings.exceptions model node.scope place finding)
      (settings.visit model node) := by
  rw [visit_eq enabled]
  by_cases function : VisitsFunction node
  · rw [if_pos function]
    refine (listed_shadowings wellFormed settings.exceptions node.scope).congr ?_
    exact fun place finding => (and_iff_right function).symm
  · rw [if_neg function]
    exact Listed.nil fun place finding visited => function visited.1

/-- The findings of a check are all shadowings in the scopes of visited functions, each
reported once for its place and in the order of the places: by visits, then from the nearest
enclosing scope to the global one, then by variables.  The walk to the global scope is complete:
there is a scope above a visited one at every distance up to that of the global scope, and none
beyond. -/
theorem check_lists_shadowings {model : Model} (reachable : model.Reachable)
    {settings : Settings} (enabled : settings.enables .noShadow = true) :
    Listed (Prod.Lex (· < ·) (Prod.Lex (· < ·) (· < ·)))
        (VisitedShadowing settings.exceptions model) (settings.check model) ∧
      ∀ node ∈ model.nodes, ∃ depth, model.Above depth node.scope ScopeId.global ∧
        ∀ k, (∃ outer, model.Above k node.scope outer) ↔ k ≤ depth := by
  have wellFormed := reachable.wellFormed
  refine ⟨?_, fun node member => wellFormed.exists_depth (wellFormed.node_lt node member)⟩
  unfold Settings.check
  refine (Listed.flatMap 0 model.nodes _ fun node _ =>
    listed_visit wellFormed enabled node).congr ?_
  rintro ⟨i, place⟩ finding
  rw [visitedShadowing_iff]
  simp only [standsFrom_zero]

/-- A function within a function, with a variable of the global scope declared again twice. -/
def nestedRedeclaration : Scope.ScopeGraph where
  source := none
  scopes :=
    [⟨none, [⟨"x", [⟨4, 5, by decide⟩]⟩]⟩, ⟨some 0, []⟩,
      ⟨some 1, [⟨"x", [⟨60, 61, by decide⟩, ⟨80, 81, by decide⟩]⟩]⟩]
  nodes := [⟨.program, 0, none⟩, ⟨.functionExpression, 2, none⟩]

/-- The shadowed variable is found two scopes up, and reported at its first declaration. -/
theorem check_reports_shadowed_global :
    ∃ model, Model.ofGraph nestedRedeclaration = .ok model ∧
      Settings.default.enables .noShadow = true ∧
      ⟨"ShadowedVariable", "x is already declared in the upper scope.", ⟨60, 61, by decide⟩⟩ ∈
        Settings.default.check model := by
  have enabled : Settings.default.enables .noShadow = true := by decide
  have loaded : Model.ofGraph nestedRedeclaration = .ok _ := rfl
  refine ⟨_, loaded, enabled, ?_⟩
  refine (check_lists_shadowings (.ofGraph loaded) enabled).1.mem_iff.2 ⟨(1, 2, 0), ?_⟩
  refine .mk rfl (.inr rfl) ((shadowing_iff rfl).2 ?_)
  exact ⟨_, ⟨by decide, _, .link rfl (.link rfl .self), rfl⟩, _, rfl, rfl⟩

end ShadowLint.Lint
