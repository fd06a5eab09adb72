import Mathlib.Data.List.Flatten
import ShadowLint.Proofs.Lint.Visits
import ShadowLint.Proofs.Scope.Editing

/-!
# Reports about growing models

A model grows by new scopes, declarations and visits, and a report about it only grows with it.
A new scope adds nothing, a visit adds the findings about its scope at the end, and a declaration
adds findings in between, wherever a visited function declares the name or is below the scope
that does.  `check_grows` says so for the single operations, and for rows of them that every
later report has the earlier ones in it.
-/

namespace ShadowLint.Lint

open Scope (Edit Model Node ScopeId Variable)

/-! ## Single operations -/

/-- No function is visited in a new scope, and none is below it. -/
theorem check_pushScope {model after : Model} (wellFormed : model.WellFormed)
    {parent id : ScopeId} (pushed : model.pushScope parent = .ok (id, after))
    (settings : Settings) : settings.check after = settings.check model := by
  obtain ⟨_, _, rfl⟩ := Model.pushScope_eq_ok_iff.1 pushed
  rw [check_eq, check_eq]
  congr 1
  refine List.flatMap_congr fun inner visited => shadowings_congr settings.exceptions ?_
  intro k above reached
  obtain ⟨node, member, _, rfl⟩ := Model.mem_functionScopes_iff.1 visited
  -- whatever is met on the way out of a visited scope stands before the new one
  have inside : above.index < model.scopes.toList.length :=
    wellFormed.above_lt reached (wellFormed.node_lt node member)
  rw [Scope.Arena.get?_eq, Scope.Arena.get?_eq, Scope.Arena.toList_ofList,
    List.getElem?_append_left inside]

/-- A visit of a function adds the findings about its scope, and any other visit nothing. -/
theorem check_pushNode {model after : Model} {node : Node}
    (pushed : model.pushNode node = .ok after) (settings : Settings) :
    settings.check after = settings.check model ++
      if settings.enables .noShadow = true ∧ VisitsFunction node then
        shadowings settings.exceptions model node.scope
      else [] := by
  obtain ⟨_, rfl⟩ := Model.pushNode_eq_ok_iff.1 pushed
  have visits : ({ model with nodes := model.nodes ++ [node] } : Model).functionScopes =
      model.functionScopes ++ if VisitsFunction node then [node.scope] else [] := by
    simp only [Model.functionScopes, List.filter_append, List.map_append]
    by_cases function : VisitsFunction node
    · simp [function]
    · simp [function]
  have findings : ∀ id, shadowings settings.exceptions
      { model with nodes := model.nodes ++ [node] } id = shadowings settings.exceptions model id :=
    fun id => shadowings_congr settings.exceptions fun _ _ _ => rfl
  rw [check_eq, check_eq, visits]
  by_cases enabled : settings.enables .noShadow = true
  · rw [if_pos enabled, if_pos enabled, List.flatMap_append,
      List.flatMap_congr fun id _ => findings id]
    congr 1
    by_cases function : VisitsFunction node
    · simp [function, enabled, findings]
    · simp [function]
  · simp [enabled]

/-- A declaration leaves all scopes where they are and takes nothing from what they declare. -/
theorem check_addVariable {model after : Model} {id : ScopeId} {v : Variable}
    (added : model.addVariable id v = .ok after) (settings : Settings) :
    (settings.check model).Sublist (settings.check after) := by
  obtain ⟨scope, found, rfl⟩ := Model.addVariables_eq_ok_iff.1 added
  rw [← Scope.Arena.get?_eq] at found
  rw [check_eq, check_eq]
  by_cases enabled : settings.enables .noShadow = true
  · rw [if_pos enabled, if_pos enabled]
    refine List.Sublist.flatMap_right _ fun inner _ => ?_
    rw [shadowings_eq_findingsAlong, shadowings_eq_findingsAlong]
    refine findingsAlong_sublist settings.exceptions ?_
    -- on the way out of `inner` the one scope may be met, as the first one or further out
    exact Model.forall₂_ancestors_redeclare
      (fun scope twin => scope.vars.Sublist twin.vars)
      (fun scope => List.Sublist.refl scope.vars) found
      fun _ _ => List.sublist_append_left scope.vars [v]
  · rw [if_neg enabled, if_neg enabled]

theorem check_sublist_of_grows {model after : Model} (wellFormed : model.WellFormed)
    (grows : model.Grows after) (settings : Settings) :
    (settings.check model).Sublist (settings.check after) := by
  cases grows with
  | pushScope pushed =>
      rw [check_pushScope wellFormed pushed]
  | addVariable added => exact check_addVariable added settings
  | pushNode pushed =>
      rw [check_pushNode pushed]
      exact List.sublist_append_left _ _

/-! ## Rows of operations -/

theorem check_sublist_of_afterEdit {model : Model} (reachable : model.Reachable) {edit : Edit}
    (growing : ∀ text, edit ≠ .load text) (settings : Settings) :
    (settings.check model).Sublist (settings.check (model.afterEdit edit)) := by
  have settles := edit.settles model
  unfold Model.afterEdit
  generalize edit.perform.run model = result at settles ⊢
  cases settles with
  | done effect =>
      exact check_sublist_of_grows reachable.wellFormed
        (reachable.wellFormed.grows_of_effect growing effect) settings
  | refused _ => exact List.Sublist.refl _

/-- Along a row of growing operations, be they carried out or refused, every report has all
reports before it in it, and so the one that the row starts from. -/
theorem check_sublist_of_run {model : Model} (reachable : model.Reachable) {edits : List Edit}
    (growing : ∀ edit ∈ edits, ∀ text, edit ≠ .load text) (settings : Settings) :
    ((edits.scanl Model.afterEdit model).map settings.check).Pairwise List.Sublist ∧
      ∀ report ∈ (edits.scanl Model.afterEdit model).map settings.check,
        (settings.check model).Sublist report := by
  induction edits generalizing model with
  | nil =>
      rw [List.scanl_nil, List.map_singleton]
      refine ⟨List.pairwise_singleton _ _, fun report member => ?_⟩
      rw [List.mem_singleton.1 member]
  | cons edit rest ih =>
      obtain ⟨first, others⟩ := List.forall_mem_cons.1 growing
      have step := check_sublist_of_afterEdit reachable first settings
      obtain ⟨sorted, later⟩ := ih (reachable.afterEdit edit) others
      have above : ∀ report ∈ (rest.scanl Model.afterEdit (model.afterEdit edit)).map
          settings.check, (settings.check model).Sublist report :=
        fun report member => step.trans (later report member)
      rw [List.scanl_cons, List.map_cons]
      refine ⟨List.pairwise_cons.2 ⟨above, sorted⟩, fun report member => ?_⟩
      rcases List.mem_cons.1 member with rfl | member
      · exact List.Sublist.refl _
      · exact above report member

/-- A report about a model only grows with the model.  A new scope does not change it.  A visit
changes it only where the rule is enabled and the visit is that of a function, and then adds the
findings about the scope of the visit at the end, and nothing else.  A declaration leaves all that
was found in its order.  So in a row of these operations every report has all earlier ones in it. -/
theorem check_grows {model : Model} (reachable : model.Reachable) (settings : Settings) :
    (∀ (parent id : ScopeId) (after : Model), model.pushScope parent = .ok (id, after) →
      settings.check after = settings.check model) ∧
    (∀ (node : Node) (after : Model), model.pushNode node = .ok after →
      (¬ (settings.enables .noShadow = true ∧ VisitsFunction node) →
        settings.check after = settings.check model) ∧
      (settings.enables .noShadow = true ∧ VisitsFunction node →
        ∃ found, Listed (Prod.Lex (· < ·) (· < ·))
            (Shadowing settings.exceptions model node.scope) found ∧
          settings.check after = settings.check model ++ found)) ∧
    (∀ (id : ScopeId) (v : Variable) (after : Model), model.addVariable id v = .ok after →
      (settings.check model).Sublist (settings.check after)) ∧
    ∀ edits : List Edit, (∀ edit ∈ edits, ∀ text, edit ≠ .load text) →
      ((edits.scanl Model.afterEdit model).map settings.check).Pairwise List.Sublist := by
  have wellFormed := reachable.wellFormed
  refine ⟨?_, ?_, ?_, ?_⟩
  · intro parent id after pushed
    exact check_pushScope wellFormed pushed settings
  · intro node after pushed
    have grown := check_pushNode pushed settings
    constructor
    · intro silent
      rw [grown, if_neg silent, List.append_nil]
    · intro heard
      rw [if_pos heard] at grown
      exact ⟨_, listed_shadowings wellFormed settings.exceptions node.scope, grown⟩
  · intro id v after added
    exact check_addVariable added settings
  · intro edits growing
    exact (check_sublist_of_run reachable growing settings).1

/-- A function within another one: both come to declare a global name again, the inner one is
visited before there is anything to find, and one declaration is refused. -/
def growingEdits : List Edit :=
  [.pushScope 0, .pushScope 1, .addVariable 2 "x" [(60, 61)], .pushNode .functionExpression 2 none,
    .addVariable 0 "x" [(4, 5)], .addVariable 9 "x" [], .addVariable 1 "x" [(30, 31)]]

/-- The reports grow from nothing to two findings, and a visit of the outer function adds one. -/
theorem check_grows_by_growingEdits :
    ((∀ edit ∈ growingEdits, ∀ text, edit ≠ .load text) ∧
      ((growingEdits.scanl Model.afterEdit Model.initial).map Settings.default.check).Pairwise
        List.Sublist ∧
      (growingEdits.scanl Model.afterEdit Model.initial).map
        (fun model => (Settings.default.check model).length) = [0, 0, 0, 0, 0, 1, 1, 2]) ∧
    (∃ id after, (Model.initial.run growingEdits).pushScope .global = .ok (id, after) ∧
      Settings.default.check after = Settings.default.check (Model.initial.run growingEdits)) ∧
    (∃ after, (Model.initial.run growingEdits).pushNode ⟨.program, .global, none⟩ = .ok after ∧
      Settings.default.check after = Settings.default.check (Model.initial.run growingEdits)) ∧
    (∃ after, (Model.initial.run growingEdits).pushNode
        ⟨.functionDeclaration, ⟨2, by decide⟩, none⟩ = .ok after ∧
      ∃ found, Listed (Prod.Lex (· < ·) (· < ·))
          (Shadowing Settings.default.exceptions (Model.initial.run growingEdits) ⟨2, by decide⟩)
          found ∧
        Settings.default.check after =
          Settings.default.check (Model.initial.run growingEdits) ++ found) ∧
    ∃ after, (Model.initial.run growingEdits).addVariable ⟨2, by decide⟩ ⟨"y", []⟩ = .ok after ∧
      (Settings.default.check (Model.initial.run growingEdits)).Sublist
        (Settings.default.check after) := by
  have growing : ∀ edit ∈ growingEdits, ∀ text, edit ≠ .load text := by simp [growingEdits]
  have chain := (check_grows .initial Settings.default).2.2.2 growingEdits growing
  obtain ⟨opened, visited, declared, _⟩ :=
    check_grows (Model.Reachable.initial.run growingEdits) Settings.default
  have opening : (Model.initial.run growingEdits).pushScope .global = .ok _ := rfl
  have passing : (Model.initial.run growingEdits).pushNode ⟨.program, .global, none⟩ =
      .ok _ := rfl
  have visiting : (Model.initial.run growingEdits).pushNode
      ⟨.functionDeclaration, ⟨2, by decide⟩, none⟩ = .ok _ := rfl
  have declaring : (Model.initial.run growingEdits).addVariable ⟨2, by decide⟩ ⟨"y", []⟩ =
      .ok _ := rfl
  have silent := (visited _ _ passing).1 (by decide)
  have heard := (visited _ _ visiting).2 ⟨by decide, .inl rfl⟩
  exact ⟨⟨growing, chain, by decide +kernel⟩, ⟨_, _, opening, opened _ _ _ opening⟩,
    ⟨_, passing, silent⟩, ⟨_, visiting, heard⟩, ⟨_, declaring, declared _ _ _ declaring⟩⟩

end ShadowLint.Lint
