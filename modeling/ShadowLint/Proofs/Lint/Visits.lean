import ShadowLint.Proofs.Lint.Shadowing

/-!
# What the check looks at

The check is a walk over the scopes of the visited functions (`Model.functionScopes`), and all
that it takes from such a scope is the row of scopes that the way out of it leads through, the
scope itself first (`findingsAlong`).  So a change to a model is followed through a report by
following it along these rows: `forall₂_ancestors` keeps two rows in step, and
`findingsAlong_congr` and `findingsAlong_sublist` compare what is found along them.

`Model.redeclare` is the one change to a scope that there is: its variables are other ones.
-/

namespace ShadowLint

namespace Scope.Model

/-- The scopes of the visited functions, in the order of the visits. -/
def functionScopes (model : Model) : List ScopeId :=
  (model.nodes.filter fun node => decide (Lint.VisitsFunction node)).map Node.scope

theorem mem_functionScopes_iff {model : Model} {id : ScopeId} :
    id ∈ model.functionScopes ↔
      ∃ node ∈ model.nodes, Lint.VisitsFunction node ∧ node.scope = id := by
  simp [functionScopes, and_assoc]

/-- The model in which the scope `scope` at `id` has the variables `vars`. -/
def redeclare (model : Model) (id : ScopeId) (scope : Frame) (vars : List Variable) : Model :=
  { model with scopes := .ofList (model.scopes.toList.set id.index { scope with vars }) }

theorem get?_redeclare {model : Model} {id : ScopeId} {scope : Frame}
    (found : model.scopes.get? id = some scope) (vars : List Variable) (other : ScopeId) :
    (model.redeclare id scope vars).scopes.get? other =
      if other = id then some { scope with vars } else model.scopes.get? other := by
  rw [Arena.get?_eq] at found
  have inside := (List.getElem?_eq_some_iff.1 found).1
  rw [Arena.get?_eq, redeclare, Arena.toList_ofList, List.getElem?_set, Arena.get?_eq]
  by_cases same : other = id
  · rw [if_pos (congrArg ScopeId.index same.symm), if_pos inside, if_pos same]
  · have apart : id.index ≠ other.index := fun indices =>
      same (ScopeId.index_injective indices.symm)
    rw [if_neg apart, if_neg same]

/-- The way out of a scope is a matter of the scopes alone. -/
theorem ancestors_congr {model other : Model} (id : ScopeId)
    (alike : ∀ k above, model.Above k id above →
      other.scopes.get? above = model.scopes.get? above) :
    other.ancestors id = model.ancestors id := by
  have rows : List.Forall₂ Eq (model.ancestors id) (other.ancestors id) := by
    refine forall₂_ancestors id fun k above reached => ?_
    rw [alike k above reached]
    cases model.scopes.get? above with
    | none => exact .none
    | some scope => exact .some ⟨rfl, rfl⟩
  rw [List.forall₂_eq_eq_eq] at rows
  exact rows.symm

/-- When a scope has other variables, the ways out of all scopes still lead through the same
scopes, and only that one is another. -/
theorem forall₂_ancestors_redeclare {model : Model} (related : Frame → Frame → Prop)
    (same : ∀ scope, related scope scope) {id : ScopeId} {scope : Frame}
    (found : model.scopes.get? id = some scope) {vars : List Variable} {inner : ScopeId}
    (changed : ∀ k, model.Above k inner id → related scope { scope with vars }) :
    List.Forall₂ related (model.ancestors inner)
      ((model.redeclare id scope vars).ancestors inner) := by
  refine forall₂_ancestors inner fun k above reached => ?_
  rw [get?_redeclare found]
  by_cases here : above = id
  · subst here
    rw [if_pos rfl, found]
    exact .some ⟨rfl, changed k reached⟩
  · rw [if_neg here]
    cases model.scopes.get? above with
    | none => exact .none
    | some other => exact .some ⟨rfl, same other⟩

end Scope.Model

namespace Lint

open Scope (Model Node ScopeId Variable)

/-- What is found about the first of some scopes of which each encloses the one before it. -/
def findingsAlong (exceptions : Exceptions) : List Scope.Frame → List Diagnostic
  | [] => []
  | inner :: uppers =>
      uppers.flatMap fun upper => inner.vars.filterMap (shadowing? exceptions upper)

/-- The findings about a scope are made along the way out of it. -/
theorem shadowings_eq_findingsAlong (exceptions : Exceptions) (model : Model) (id : ScopeId) :
    shadowings exceptions model id = findingsAlong exceptions (model.ancestors id) := by
  have first := model.getElem?_ancestors_zero id
  rw [← Scope.Arena.get?_eq] at first
  unfold shadowings
  cases found : model.scopes.get? id with
  | none =>
      rw [found, List.getElem?_eq_none_iff, Nat.le_zero, List.length_eq_zero_iff] at first
      rw [first]
      rfl
  | some inner =>
      rw [found, ← List.head?_eq_getElem?, List.head?_eq_some_iff] at first
      obtain ⟨uppers, row⟩ := first
      rw [row]
      rfl

/-- A scope that has the same way out in another model has the same findings there. -/
theorem shadowings_congr (exceptions : Exceptions) {model other : Model} {id : ScopeId}
    (alike : ∀ k above, model.Above k id above →
      other.scopes.get? above = model.scopes.get? above) :
    shadowings exceptions other id = shadowings exceptions model id := by
  rw [shadowings_eq_findingsAlong, shadowings_eq_findingsAlong, Model.ancestors_congr id alike]

/-- Where the rule is not enabled, no rule is. -/
theorem visit_eq_nil {settings : Settings} (disabled : settings.enables .noShadow = false)
    (model : Model) (node : Node) : settings.visit model node = [] := by
  have none : settings.rules = [] := by
    refine List.eq_nil_iff_forall_not_mem.2 fun rule member => ?_
    cases rule with
    | noShadow => exact of_decide_eq_false disabled member
  unfold Settings.visit Settings.listeners
  rw [none]
  rfl

/-- With the rule the findings about the scopes of the visited functions are reported, one scope
after the other, and without it nothing is. -/
theorem check_eq (settings : Settings) (model : Model) :
    settings.check model =
      if settings.enables .noShadow = true then
        model.functionScopes.flatMap (shadowings settings.exceptions model)
      else [] := by
  unfold Settings.check Model.functionScopes
  by_cases enabled : settings.enables .noShadow = true
  · rw [if_pos enabled]
    induction model.nodes with
    | nil => rfl
    | cons node rest ih =>
        rw [List.flatMap_cons, visit_eq enabled, ih]
        by_cases function : VisitsFunction node
        · have kept : decide (VisitsFunction node) = true := decide_eq_true function
          rw [if_pos function, List.filter_cons, if_pos kept, List.map_cons, List.flatMap_cons]
        · have left : ¬ decide (VisitsFunction node) = true := by simpa using function
          rw [if_neg function, List.filter_cons, if_neg left, List.nil_append]
  · have nothing := visit_eq_nil (Bool.not_eq_true _ ▸ enabled) model
    rw [if_neg enabled, List.flatMap_eq_nil_iff]
    exact fun node _ => nothing node

/-- Everything that is found is about a variable of a visited function, which the source declares
where the finding is. -/
theorem exists_variable_of_mem_check {settings : Settings} {model : Model} {finding : Diagnostic}
    (found : finding ∈ settings.check model) :
    ∃ id ∈ model.functionScopes, ∃ scope, model.scopes.toList[id.index]? = some scope ∧
      ∃ v ∈ scope.vars, v.declaration? = some finding.range ∧
        finding.kind = Rule.noShadow.findingKind ∧ finding.body = shadowingBody v.name := by
  rw [check_eq] at found
  split at found
  · obtain ⟨id, visited, found⟩ := List.mem_flatMap.1 found
    unfold shadowings at found
    rw [Scope.Arena.get?_eq] at found
    cases stands : model.scopes.toList[id.index]? with
    | none => rw [stands] at found; cases found
    | some scope =>
        rw [stands] at found
        obtain ⟨upper, _, found⟩ := List.mem_flatMap.1 found
        obtain ⟨v, declared, reported⟩ := List.mem_filterMap.1 found
        obtain ⟨place, others, places, _, _, rfl⟩ := shadowing?_eq_some_iff.1 reported
        refine ⟨id, visited, scope, stands, v, declared, ?_, rfl, rfl⟩
        rw [Variable.declaration?, places, List.head?_cons]
  · cases found

/-- Of the nodes only the scopes of the visited functions count. -/
theorem check_eq_of_visits {model other : Model} (scopes : other.scopes = model.scopes)
    (visits : other.functionScopes = model.functionScopes) (settings : Settings) :
    settings.check other = settings.check model := by
  rw [check_eq, check_eq, visits]
  congr 1
  refine List.flatMap_congr fun inner _ => shadowings_congr settings.exceptions ?_
  intro k above _
  rw [scopes]

/-! ## Rows side by side -/

/-- Along rows of scopes that declare the same names the same is found, if the variables of the
first scope are reported alike. -/
theorem findingsAlong_congr {exceptions : Exceptions} {row other : List Scope.Frame}
    (alike : List.Forall₂ (fun scope twin => twin.declares = scope.declares) row other)
    (reported : ∀ inner ∈ row.head?, ∀ twin ∈ other.head?, ∀ upper : Scope.Frame,
      twin.vars.filterMap (shadowing? exceptions upper) =
        inner.vars.filterMap (shadowing? exceptions upper)) :
    findingsAlong exceptions other = findingsAlong exceptions row := by
  cases alike with
  | nil => rfl
  | @cons inner twin uppers others _ further =>
      have here := reported inner rfl twin rfl
      -- the induction is on the scopes further out, with the first one as it is
      clear reported
      rw [findingsAlong, findingsAlong]
      induction further with
      | nil => rfl
      | @cons upper next uppers others names _ ih =>
          have seen : shadowing? exceptions next = shadowing? exceptions upper := by
            unfold shadowing?
            rw [names]
          rw [List.flatMap_cons, List.flatMap_cons, here, seen, ih]

/-- What is reported with respect to a scope is still reported when the scope declares more. -/
theorem filterMap_shadowing?_sublist {exceptions : Exceptions} {upper next : Scope.Frame}
    (more : upper.vars.Sublist next.vars) (vars : List Variable) :
    (vars.filterMap (shadowing? exceptions upper)).Sublist
      (vars.filterMap (shadowing? exceptions next)) := by
  induction vars with
  | nil => exact List.Sublist.refl []
  | cons v rest ih =>
      cases found : shadowing? exceptions upper v with
      | none =>
          rw [List.filterMap_cons_none found]
          exact ih.trans ((List.sublist_cons_self v rest).filterMap _)
      | some finding =>
          obtain ⟨place, others, places, reportable, ⟨w, known, explicit⟩, said⟩ :=
            shadowing?_eq_some_iff.1 found
          have still : shadowing? exceptions next v = some finding :=
            shadowing?_eq_some_iff.2
              ⟨place, others, places, reportable, ⟨w, more.subset known, explicit⟩, said⟩
          rw [List.filterMap_cons_some found, List.filterMap_cons_some still]
          exact ih.cons_cons finding

/-- Along a row of scopes that declare more, in the same order, no less is found, in the same
order. -/
theorem findingsAlong_sublist (exceptions : Exceptions) {row other : List Scope.Frame}
    (grown : List.Forall₂ (fun scope twin => scope.vars.Sublist twin.vars) row other) :
    (findingsAlong exceptions row).Sublist (findingsAlong exceptions other) := by
  cases grown with
  | nil => exact List.Sublist.refl []
  | @cons inner twin uppers others here further =>
      rw [findingsAlong, findingsAlong]
      induction further with
      | nil => exact List.Sublist.refl []
      | @cons upper next uppers others more _ ih =>
          rw [List.flatMap_cons, List.flatMap_cons]
          refine List.Sublist.append ?_ ih
          exact (filterMap_shadowing?_sublist more inner.vars).trans (here.filterMap _)

end Lint

end ShadowLint
