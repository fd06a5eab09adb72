import Mathlib.Logic.Relation
import ShadowLint.Proofs.Lint.Visits
import ShadowLint.Scope.Model.Export

/-!
# Changes that no report shows

Much of a model has no part in the report about it: names that the source does not declare,
all places of a declaration but the first, visits of anything but functions, the ranges of nodes,
scopes that no visited function is in, and in scopes that only enclose functions the order and the
number of declarations.  `Immaterial` lists the single changes of these kinds, and
`check_eq_of_immaterial_changes` says that no row of them, made or undone, changes the report.

A single change is followed along the ways out of the visited functions: the scopes on them
declare the same names as before, and the first one has its variables reported as before.
-/

namespace ShadowLint.Lint

open Scope (Model Node ScopeId TextRange Variable)

/-- A change of the variables of a scope that is immaterial whichever scope it is. -/
inductive ImmaterialInside : List Variable → List Variable → Prop
  /-- A variable that the source does not declare comes in anywhere. -/
  | implicit {before after : List Variable} {v : Variable} : v.identifiers = [] →
      ImmaterialInside (before ++ after) (before ++ v :: after)
  /-- Of the places that declare a variable the first one stays. -/
  | firstPlace {before after : List Variable} {v : Variable} :
      ImmaterialInside (before ++ v :: after)
        (before ++ { v with identifiers := v.identifiers.take 1 } :: after)

/-- A change of the variables of a scope that is immaterial unless the scope is that of a visited
function. -/
inductive ImmaterialOutside : List Variable → List Variable → Prop
  | reordered {vars other : List Variable} : vars.Perm other → ImmaterialOutside vars other
  /-- A variable is repeated anywhere. -/
  | repeated {before after : List Variable} {v : Variable} : v ∈ before ++ after →
      ImmaterialOutside (before ++ after) (before ++ v :: after)
  /-- A variable is declared at other places. -/
  | moved {before after : List Variable} {v : Variable} {places : List TextRange} :
      v.identifiers ≠ [] → places ≠ [] →
      ImmaterialOutside (before ++ v :: after) (before ++ { v with identifiers := places } :: after)

/-- A single change to a model that no report shows. -/
inductive Immaterial : Model → Model → Prop
  | inside {model : Model} {id : ScopeId} {scope : Scope.Frame} {vars : List Variable} :
      model.scopes.get? id = some scope → ImmaterialInside scope.vars vars →
      Immaterial model (model.redeclare id scope vars)
  | outside {model : Model} {id : ScopeId} {scope : Scope.Frame} {vars : List Variable} :
      model.scopes.get? id = some scope → ImmaterialOutside scope.vars vars →
      (∀ node ∈ model.nodes, VisitsFunction node → node.scope ≠ id) →
      Immaterial model (model.redeclare id scope vars)
  /-- A scope that no visited function has and that is above none has any other variables. -/
  | aside {model : Model} {id : ScopeId} {scope : Scope.Frame} {vars : List Variable} :
      model.scopes.get? id = some scope →
      (∀ node ∈ model.nodes, VisitsFunction node → ∀ k, ¬ model.Above k node.scope id) →
      Immaterial model (model.redeclare id scope vars)
  /-- A visit of something else than a function comes in anywhere. -/
  | visit {model : Model} {before after : List Node} {node : Node} :
      model.nodes = before ++ after → ¬ VisitsFunction node →
      Immaterial model { model with nodes := before ++ node :: after }
  | range {model : Model} {before after : List Node} {node : Node} {range : Option TextRange} :
      model.nodes = before ++ node :: after →
      Immaterial model { model with nodes := before ++ { node with range } :: after }

/-! ## Changes of variables -/

/-- The names that a scope declares are those of its variables that the source declares. -/
theorem declares_eq_of_names {scope twin : Scope.Frame}
    (names : ∀ name, (∃ w ∈ twin.vars, w.name = name ∧ w.identifiers ≠ []) ↔
      ∃ w ∈ scope.vars, w.name = name ∧ w.identifiers ≠ []) :
    twin.declares = scope.declares := by
  funext name
  rw [Bool.eq_iff_iff, declares_eq_true_iff, declares_eq_true_iff]
  exact names name

theorem ImmaterialInside.declares_eq {scope : Scope.Frame} {vars : List Variable}
    (change : ImmaterialInside scope.vars vars) :
    ({ scope with vars } : Scope.Frame).declares = scope.declares := by
  refine declares_eq_of_names fun name => ?_
  generalize scope.vars = old at change
  cases change with
  | implicit unnamed => simp [or_and_right, exists_or, unnamed]
  | firstPlace => simp [or_and_right, exists_or]

theorem ImmaterialInside.reported_eq {old vars : List Variable}
    (change : ImmaterialInside old vars) (exceptions : Exceptions) (upper : Scope.Frame) :
    vars.filterMap (shadowing? exceptions upper) = old.filterMap (shadowing? exceptions upper) := by
  cases change with
  | @implicit before after v unnamed =>
      have unreported : shadowing? exceptions upper v = none := by
        rw [shadowing?, Variable.declaration?, unnamed]
        rfl
      rw [List.filterMap_append, List.filterMap_append, List.filterMap_cons_none unreported]
  | @firstPlace before after v =>
      have alike : shadowing? exceptions upper { v with identifiers := v.identifiers.take 1 } =
          shadowing? exceptions upper v := by
        cases places : v.identifiers with
        | nil => simp [shadowing?, Variable.declaration?, places]
        | cons place others => simp [shadowing?, Variable.declaration?, places]
      rw [List.filterMap_append, List.filterMap_append, List.filterMap_cons, List.filterMap_cons,
        alike]

theorem ImmaterialOutside.declares_eq {scope : Scope.Frame} {vars : List Variable}
    (change : ImmaterialOutside scope.vars vars) :
    ({ scope with vars } : Scope.Frame).declares = scope.declares := by
  refine declares_eq_of_names fun name => ?_
  generalize scope.vars = old at change
  cases change with
  | reordered perm => simp only [perm.mem_iff]
  | @repeated before after v member =>
      simp only [List.mem_append, List.mem_cons] at member ⊢
      grind
  | moved declared still => simp [or_and_right, exists_or, declared, still]

/-- A change of variables is not seen if all ways out of visited functions still meet the same
names, and the variables of the visited functions are still reported as before. -/
theorem check_redeclare {model : Model} {id : ScopeId} {scope : Scope.Frame}
    (found : model.scopes.get? id = some scope) {vars : List Variable} (settings : Settings)
    (names : ∀ inner ∈ model.functionScopes, ∀ k, model.Above k inner id →
      ({ scope with vars } : Scope.Frame).declares = scope.declares)
    (reported : id ∈ model.functionScopes → ∀ upper : Scope.Frame,
      vars.filterMap (shadowing? settings.exceptions upper) =
        scope.vars.filterMap (shadowing? settings.exceptions upper)) :
    settings.check (model.redeclare id scope vars) = settings.check model := by
  have visits : (model.redeclare id scope vars).functionScopes = model.functionScopes := rfl
  rw [check_eq, check_eq, visits]
  congr 1
  refine List.flatMap_congr fun inner visited => ?_
  rw [shadowings_eq_findingsAlong, shadowings_eq_findingsAlong]
  have rows := Model.forall₂_ancestors_redeclare
    (fun scope twin => twin.declares = scope.declares) (fun _ => rfl) found
    (names inner visited)
  refine findingsAlong_congr rows ?_
  intro first atFirst twin atTwin upper
  rw [List.head?_eq_getElem?, Model.getElem?_ancestors_zero,
    ← Scope.Arena.get?_eq] at atFirst atTwin
  rw [Model.get?_redeclare found] at atTwin
  by_cases here : inner = id
  · -- the way begins at the changed scope, and its variables are the ones to report
    subst here
    rw [found] at atFirst
    rw [if_pos rfl] at atTwin
    cases atFirst
    cases atTwin
    exact reported visited upper
  · rw [if_neg here] at atTwin
    rw [Option.mem_unique atFirst atTwin]

/-! ## Single changes and rows of them -/

theorem Immaterial.check_eq {model other : Model} (change : Immaterial model other)
    (settings : Settings) : settings.check other = settings.check model := by
  cases change with
  | inside found change =>
      refine check_redeclare found settings (fun _ _ _ _ => change.declares_eq) fun _ upper => ?_
      exact change.reported_eq settings.exceptions upper
  | outside found change unvisited =>
      refine check_redeclare found settings (fun _ _ _ _ => change.declares_eq) fun visited => ?_
      obtain ⟨node, member, function, same⟩ := Model.mem_functionScopes_iff.1 visited
      exact absurd same (unvisited node member function)
  | @aside id scope vars found unreached =>
      -- no way out of a visited function meets the scope, so there is nothing to keep
      have apart : ∀ inner ∈ model.functionScopes, ∀ k, ¬ model.Above k inner id := by
        intro inner visited
        obtain ⟨node, member, function, rfl⟩ := Model.mem_functionScopes_iff.1 visited
        exact unreached node member function
      refine check_redeclare found settings (fun inner visited k above => ?_) fun visited => ?_
      · exact absurd above (apart inner visited k)
      · exact absurd .self (apart id visited 0)
  | @visit before after node nodes other =>
      apply check_eq_of_visits
      · rfl
      · simp [Model.functionScopes, nodes, other]
  | @range before after node range nodes =>
      have kinds : VisitsFunction { node with range } ↔ VisitsFunction node := Iff.rfl
      apply check_eq_of_visits
      · rfl
      · simp only [Model.functionScopes, nodes, List.filter_append, List.filter_cons, kinds]
        split <;> simp

/-- No row of immaterial changes, made or undone in any order, changes a report. -/
theorem check_eq_of_immaterial_changes {model other : Model}
    (changes : Relation.EqvGen Immaterial model other) (settings : Settings) :
    settings.check other = settings.check model := by
  induction changes with
  | rel model other change => exact change.check_eq settings
  | refl model => rfl
  | symm model other _ ih => exact ih.symm
  | trans model middle other _ _ first second => exact second.trans first

/-- A function that declares a global name again, with as little around it as that needs. -/
def sparse : Model where
  scopes := .ofList
    [⟨none, [⟨"y", [⟨8, 9, by decide⟩]⟩, ⟨"x", [⟨6, 7, by decide⟩]⟩]⟩,
      ⟨some .global, [⟨"x", [⟨20, 21, by decide⟩]⟩]⟩,
      ⟨some .global, []⟩]
  nodes := [⟨.functionDeclaration, ⟨2, by decide⟩, none⟩]
  source := none

/-- The same function with a name of the language, a second place of its variable, a block beside
it and more visits, and with the global variables in another order. -/
def crowded : Model where
  scopes := .ofList
    [⟨none, [⟨"x", [⟨6, 7, by decide⟩]⟩, ⟨"y", [⟨8, 9, by decide⟩]⟩]⟩,
      ⟨some .global,
        [⟨"arguments", []⟩, ⟨"x", [⟨20, 21, by decide⟩, ⟨30, 31, by decide⟩]⟩]⟩,
      ⟨some .global, [⟨"x", [⟨50, 51, by decide⟩]⟩]⟩]
  nodes :=
    [⟨.program, .global, none⟩, ⟨.functionDeclaration, ⟨2, by decide⟩, some ⟨10, 40, by decide⟩⟩]
  source := none

/-- One change of each kind leads from one model to the other, and the finding stays the same. -/
theorem check_sparse_eq_check_crowded :
    Model.ofGraph crowded.toGraph = .ok crowded ∧ Relation.EqvGen Immaterial crowded sparse ∧
      Settings.default.check sparse = Settings.default.check crowded ∧
      Settings.default.check sparse =
        [⟨"ShadowedVariable", "x is already declared in the upper scope.",
          ⟨20, 21, by decide⟩⟩] := by
  have unreached : ∀ k, ¬ sparse.Above k ⟨2, by decide⟩ ⟨3, by decide⟩ := by
    intro k above
    rcases above with _ | ⟨linked, rest⟩
    cases linked
    rcases rest with _ | ⟨linked, _⟩
    cases linked
  have cut := @Immaterial.inside crowded ⟨2, by decide⟩ _ _ rfl
    (@ImmaterialInside.firstPlace [⟨"arguments", []⟩] []
      ⟨"x", [⟨20, 21, by decide⟩, ⟨30, 31, by decide⟩]⟩)
  have changes : Relation.EqvGen Immaterial sparse crowded := by
    refine .trans _ _ _ (.rel _ _ (@Immaterial.aside _ ⟨3, by decide⟩ _
      [⟨"x", [⟨50, 51, by decide⟩]⟩] rfl ?_)) ?_
    · intro node member _
      rw [List.mem_singleton.1 member]
      exact unreached
    refine .trans _ _ _ (.rel _ _ (@Immaterial.outside _ .global _
      [⟨"x", [⟨6, 7, by decide⟩]⟩, ⟨"y", [⟨8, 9, by decide⟩]⟩] rfl
      (.reordered (.swap _ _ _)) (by decide))) ?_
    refine .trans _ _ _ (.rel _ _ (@Immaterial.inside _ ⟨2, by decide⟩ _ _ rfl
      (@ImmaterialInside.implicit [] _ ⟨"arguments", []⟩ rfl))) ?_
    refine .trans _ _ _ (.rel _ _ (@Immaterial.visit _ [] _ ⟨.program, .global, none⟩ rfl
      (by decide))) ?_
    refine .trans _ _ _ (.rel _ _ (@Immaterial.range _ [_] [] _ (some ⟨10, 40, by decide⟩)
      rfl)) ?_
    exact .symm _ _ (.rel _ _ cut)
  have same := check_eq_of_immaterial_changes changes.symm Settings.default
  exact ⟨rfl, changes.symm, same, by decide +kernel⟩

end ShadowLint.Lint
