import ShadowLint.Proofs.Scope.Tree
import ShadowLint.Scope.Model.Export

/-!
# Edits happen as a whole or not at all

An edit checks and writes a model in place, so that a refused one might have written before it
was refused.  `Edit.settles` says that none does: it has its whole `Effect`, or there is a
`Refusal` and the model is as it was before.  Together with the tree invariant this holds
after every row of edits (`run_wellFormed_and_settles`).

The procedures are first shown to do what the growing operations do (`Procedure.run_pushScope`
and its siblings); each kind of edit is then a case analysis on the results of these.
-/

namespace ShadowLint.Scope

namespace Procedure

@[simp] theorem run_expect {α : Type} (outcome : Except Fault α) (model : Model) :
    (expect outcome).run model =
      match outcome with
      | .ok result => .ok result model
      | .error fault => .error (.fault fault) model := by
  cases outcome <;> rfl

@[simp] theorem run_require (check : Bool) (fault : Fault) (model : Model) :
    (require check fault).run model =
      if check then .ok () model else .error (.fault fault) model := by
  cases check <;> rfl

theorem run_pushScope (parent : ScopeId) (model : Model) :
    (pushScope parent).run model =
      match model.pushScope parent with
      | .ok (id, after) => .ok id after
      | .error fault => .error (.fault fault) model := by
  unfold pushScope Model.pushScope Arena.push
  by_cases known : parent.index < model.scopes.size
  · cases fresh : model.scopes.nextId with
    | error fault => simp [known, fresh, Except.map]
    | ok id =>
        simp only [bind_pure_comp, EStateM.run_bind, EStateM.run_get, known, decide_true,
          run_require, if_true, fresh, run_expect, Except.map]
        rfl
  · simp [known]

theorem run_addVariable (id : ScopeId) (v : Variable) (model : Model) :
    (addVariable id v).run model =
      match model.addVariable id v with
      | .ok after => .ok () after
      | .error fault => .error (.fault fault) model := by
  unfold addVariable Model.addVariable Model.addVariables Arena.modify Arena.get
  cases found : model.scopes.get? id with
  | none => simp [found, Except.map]
  | some scope => simp [found, Except.map]

theorem run_pushNode (node : Node) (model : Model) :
    (pushNode node).run model =
      match model.pushNode node with
      | .ok after => .ok () after
      | .error fault => .error (.fault fault) model := by
  unfold pushNode Model.pushNode
  by_cases known : node.scope.index < model.scopes.size
  · simp [known]
  · simp [known]

end Procedure

/-! ## Arguments -/

theorem rangeOf_eq_ok_iff {ends : UInt32 × UInt32} {range : TextRange} :
    rangeOf ends = .ok range ↔ range.ends = ends := by
  obtain ⟨start, stop⟩ := ends
  obtain ⟨first, last, ordered⟩ := range
  unfold rangeOf TextRange.of? TextRange.ends
  by_cases inOrder : start ≤ stop
  · simp [inOrder, eq_comm]
  · simp only [dif_neg inOrder, reduceCtorEq, false_iff, Prod.mk.injEq]
    rintro ⟨rfl, rfl⟩
    exact inOrder ordered

theorem rangeOf_eq_error_iff {ends : UInt32 × UInt32} {fault : Fault} :
    rangeOf ends = .error fault ↔ ends.2 < ends.1 ∧ fault = .reversedRange := by
  obtain ⟨start, stop⟩ := ends
  unfold rangeOf TextRange.of?
  by_cases inOrder : start ≤ stop
  · simp [inOrder, UInt32.not_lt.2 inOrder]
  · simp [inOrder, UInt32.not_le.1 inOrder, eq_comm]

theorem mapM_rangeOf_eq_ok_iff {pairs : List (UInt32 × UInt32)} {ranges : List TextRange} :
    pairs.mapM rangeOf = .ok ranges ↔ ranges.map TextRange.ends = pairs := by
  induction pairs generalizing ranges with
  | nil => simp [pure, Except.pure, eq_comm]
  | cons pair rest ih =>
      rw [List.mapM_cons, Outcome.bind_eq_ok_iff]
      constructor
      · rintro ⟨range, first, more⟩
        obtain ⟨others, later, same⟩ := Outcome.bind_eq_ok_iff.1 more
        cases same
        rw [List.map_cons, rangeOf_eq_ok_iff.1 first, ih.1 later]
      · intro same
        cases ranges with
        | nil => cases same
        | cons range others =>
            rw [List.map_cons, List.cons.injEq] at same
            refine ⟨range, rangeOf_eq_ok_iff.2 same.1, ?_⟩
            exact Outcome.bind_eq_ok_iff.2 ⟨others, ih.2 same.2, rfl⟩

theorem mapM_rangeOf_eq_error {pairs : List (UInt32 × UInt32)} {fault : Fault}
    (refused : pairs.mapM rangeOf = .error fault) :
    (∃ ends ∈ pairs, ends.2 < ends.1) ∧ fault = .reversedRange := by
  induction pairs with
  | nil => cases refused
  | cons pair rest ih =>
      rw [List.mapM_cons, Outcome.bind_eq_error_iff] at refused
      rcases refused with first | ⟨range, _, later⟩
      · obtain ⟨reversed, rfl⟩ := rangeOf_eq_error_iff.1 first
        exact ⟨⟨pair, List.mem_cons_self, reversed⟩, rfl⟩
      · rcases Outcome.bind_eq_error_iff.1 later with others | ⟨ranges, _, impossible⟩
        · obtain ⟨⟨ends, member, reversed⟩, rfl⟩ := ih others
          exact ⟨⟨ends, List.mem_cons_of_mem pair member, reversed⟩, rfl⟩
        · cases impossible

theorem option_mapM_rangeOf_eq_ok_iff {pair : Option (UInt32 × UInt32)}
    {range : Option TextRange} :
    pair.mapM rangeOf = .ok range ↔ range.map TextRange.ends = pair := by
  cases pair with
  | none => cases range <;> simp [pure, Except.pure]
  | some ends =>
      have mapped : (some ends).mapM rangeOf = (rangeOf ends).map some := rfl
      rw [mapped, Outcome.map_eq_ok_iff]
      cases range with
      | none => simp
      | some made => simp [rangeOf_eq_ok_iff]

theorem option_mapM_rangeOf_eq_error {pair : Option (UInt32 × UInt32)} {fault : Fault}
    (refused : pair.mapM rangeOf = .error fault) :
    (∃ ends ∈ pair, ends.2 < ends.1) ∧ fault = .reversedRange := by
  cases pair with
  | none => cases refused
  | some ends =>
      rw [Option.mapM_some] at refused
      obtain ⟨reversed, rfl⟩ := rangeOf_eq_error_iff.1 (Outcome.map_eq_error_iff.1 refused)
      exact ⟨⟨ends, rfl, reversed⟩, rfl⟩

/-! ## What an edit does -/

/-- What is answered by an operation that is carried out, and what is then different: a load
puts the model of its document in place of the model, and every other operation changes only
what it names. -/
def Effect (model : Model) : Edit → EditReply → Model → Prop
  | .load text, reply, after =>
      reply = .loaded ∧
        ∃ graph, ScopeGraph.ofText text = .ok graph ∧ Model.ofGraph graph = .ok after
  | .pushScope number, reply, after =>
      ∃ parent id : ScopeId,
        parent.index = number ∧ number < model.scopes.size ∧ id.index = model.scopes.size ∧
        reply = .opened id ∧
        after = { model with scopes := .ofList (model.scopes.toList ++ [⟨some parent, []⟩]) }
  | .addVariable number name pairs, reply, after =>
      ∃ (scope : Frame) (v : Variable),
        model.scopes.toList[number]? = some scope ∧
        v.name = name ∧ v.identifiers.map TextRange.ends = pairs ∧
        reply = .declared (scope.vars.length + 1) ∧
        after = { model with
          scopes := .ofList
            (model.scopes.toList.set number { scope with vars := scope.vars ++ [v] }) }
  | .pushNode kind number pair, reply, after =>
      ∃ node : Node,
        node.kind = kind ∧ node.scope.index = number ∧ number < model.scopes.size ∧
        node.range.map TextRange.ends = pair ∧
        reply = .visited (model.nodes.length + 1) ∧
        after = { model with nodes := model.nodes ++ [node] }

/-- Why an operation is refused. -/
inductive Refusal (model : Model) : Edit → EditError → Prop
  | unreadable {text : String} {problem : Json.Problem} :
      ScopeGraph.ofText text = .error problem →
      Refusal model (.load text) (.load (.unreadable problem))
  | invalid {text : String} {graph : ScopeGraph} {error : GraphError} :
      ScopeGraph.ofText text = .ok graph → Model.ofGraph graph = .error error →
      Refusal model (.load text) (.load (.invalid error))
  | parentTooLarge {number : Nat} : ScopeId.maxIndex.toNat < number →
      Refusal model (.pushScope number) (.fault .indexTooLarge)
  | parentMissing {number : Nat} {parent : ScopeId} : parent.index = number →
      model.scopes.size ≤ number →
      Refusal model (.pushScope number) (.fault (.parentMissing parent))
  | full {number : Nat} : ScopeId.maxIndex.toNat < model.scopes.size →
      Refusal model (.pushScope number) (.fault .indexTooLarge)
  | reversedIdentifier {number : Nat} {name : String} {pairs : List (UInt32 × UInt32)} :
      (∃ ends ∈ pairs, ends.2 < ends.1) →
      Refusal model (.addVariable number name pairs) (.fault .reversedRange)
  | ownerTooLarge {number : Nat} {name : String} {pairs : List (UInt32 × UInt32)} :
      ScopeId.maxIndex.toNat < number →
      Refusal model (.addVariable number name pairs) (.fault .indexTooLarge)
  | ownerMissing {number : Nat} {name : String} {pairs : List (UInt32 × UInt32)} :
      model.scopes.size ≤ number →
      Refusal model (.addVariable number name pairs)
        (.fault (.indexOutOfBounds model.scopes.size number))
  | reversedRange {kind : NodeKind} {number : Nat} {pair : Option (UInt32 × UInt32)} :
      (∃ ends ∈ pair, ends.2 < ends.1) →
      Refusal model (.pushNode kind number pair) (.fault .reversedRange)
  | scopeTooLarge {kind : NodeKind} {number : Nat} {pair : Option (UInt32 × UInt32)} :
      ScopeId.maxIndex.toNat < number →
      Refusal model (.pushNode kind number pair) (.fault .indexTooLarge)
  | scopeMissing {kind : NodeKind} {number : Nat} {pair : Option (UInt32 × UInt32)}
      {scope : ScopeId} : scope.index = number → model.scopes.size ≤ number →
      Refusal model (.pushNode kind number pair) (.fault (.scopeMissing scope))

/-- What may become of an operation that is carried out in place: it has its effect, or it is
refused for a reason and the model is as it was before. -/
inductive Settles (model : Model) (edit : Edit) :
    EStateM.Result EditError Model EditReply → Prop
  | done {reply : EditReply} {after : Model} : Effect model edit reply after →
      Settles model edit (.ok reply after)
  | refused {error : EditError} : Refusal model edit error →
      Settles model edit (.error error model)

namespace Edit

theorem run_load (text : String) (model : Model) :
    (load text).perform.run model =
      match Model.ofText text with
      | .ok loaded => .ok .loaded loaded
      | .error error => .error (.load error) model := by
  rw [perform]
  cases Model.ofText text with
  | ok loaded => rfl
  | error error => rfl

theorem run_pushScope (number : Nat) (model : Model) :
    (pushScope number).perform.run model =
      match scopeIdOf number with
      | .error fault => .error (.fault fault) model
      | .ok parent =>
          match model.pushScope parent with
          | .ok (id, after) => .ok (.opened id) after
          | .error fault => .error (.fault fault) model := by
  rw [perform, EStateM.run_bind, Procedure.run_expect]
  cases scopeIdOf number with
  | error fault => rfl
  | ok parent =>
      simp only [EStateM.run_bind, Procedure.run_pushScope]
      cases model.pushScope parent with
      | error fault => rfl
      | ok result => rfl

theorem run_addVariable (number : Nat) (name : String) (pairs : List (UInt32 × UInt32))
    (model : Model) :
    (addVariable number name pairs).perform.run model =
      match pairs.mapM rangeOf with
      | .error fault => .error (.fault fault) model
      | .ok identifiers =>
          match scopeIdOf number with
          | .error fault => .error (.fault fault) model
          | .ok id =>
              match model.addVariable id ⟨name, identifiers⟩ with
              | .error fault => .error (.fault fault) model
              | .ok after =>
                  match after.scopes.get id with
                  -- a refusal that would leave the variable behind
                  | .error fault => .error (.fault fault) after
                  | .ok scope => .ok (.declared scope.vars.length) after := by
  rw [perform, EStateM.run_bind, Procedure.run_expect]
  cases pairs.mapM rangeOf with
  | error fault => rfl
  | ok identifiers =>
      simp only [EStateM.run_bind, Procedure.run_expect]
      cases scopeIdOf number with
      | error fault => rfl
      | ok id =>
          simp only [Procedure.run_addVariable]
          cases model.addVariable id ⟨name, identifiers⟩ with
          | error fault => rfl
          | ok after =>
              simp only [EStateM.run_get]
              cases after.scopes.get id with
              | error fault => rfl
              | ok scope => rfl

theorem run_pushNode (kind : NodeKind) (number : Nat) (pair : Option (UInt32 × UInt32))
    (model : Model) :
    (pushNode kind number pair).perform.run model =
      match pair.mapM rangeOf with
      | .error fault => .error (.fault fault) model
      | .ok range =>
          match scopeIdOf number with
          | .error fault => .error (.fault fault) model
          | .ok id =>
              match model.pushNode ⟨kind, id, range⟩ with
              | .error fault => .error (.fault fault) model
              | .ok after => .ok (.visited after.nodes.length) after := by
  rw [perform, EStateM.run_bind, Procedure.run_expect]
  cases pair.mapM rangeOf with
  | error fault => rfl
  | ok range =>
      simp only [EStateM.run_bind, Procedure.run_expect]
      cases scopeIdOf number with
      | error fault => rfl
      | ok id =>
          simp only [Procedure.run_pushNode]
          cases model.pushNode ⟨kind, id, range⟩ with
          | error fault => rfl
          | ok after => rfl

end Edit

theorem settles_load (text : String) (model : Model) :
    Settles model (.load text) ((Edit.load text).perform.run model) := by
  rw [Edit.run_load, Model.ofText]
  cases read : ScopeGraph.ofText text with
  | error problem => exact .refused (.unreadable read)
  | ok graph =>
      cases built : Model.ofGraph graph with
      | error error =>
          simp only [built]
          exact .refused (.invalid read built)
      | ok loaded =>
          simp only [built]
          exact .done ⟨rfl, graph, read, built⟩

theorem settles_pushScope (number : Nat) (model : Model) :
    Settles model (.pushScope number) ((Edit.pushScope number).perform.run model) := by
  rw [Edit.run_pushScope]
  cases named : scopeIdOf number with
  | error fault =>
      obtain ⟨large, rfl⟩ := scopeIdOf_eq_error_iff.1 named
      exact .refused (.parentTooLarge large)
  | ok parent =>
      have stands := scopeIdOf_eq_ok_iff.1 named
      cases pushed : model.pushScope parent with
      | error fault =>
          simp only [pushed]
          rcases Model.pushScope_eq_error_iff.1 pushed with ⟨outside, rfl⟩ | ⟨_, full, rfl⟩
          · exact .refused (.parentMissing stands (stands ▸ outside))
          · exact .refused (.full full)
      | ok result =>
          obtain ⟨id, after⟩ := result
          obtain ⟨known, fresh, rfl⟩ := Model.pushScope_eq_ok_iff.1 pushed
          simp only [pushed]
          exact .done ⟨parent, id, stands, stands ▸ known, fresh, rfl, rfl⟩

theorem settles_addVariable (number : Nat) (name : String) (pairs : List (UInt32 × UInt32))
    (model : Model) :
    Settles model (.addVariable number name pairs)
      ((Edit.addVariable number name pairs).perform.run model) := by
  rw [Edit.run_addVariable]
  cases ranged : pairs.mapM rangeOf with
  | error fault =>
      obtain ⟨reversed, rfl⟩ := mapM_rangeOf_eq_error ranged
      exact .refused (.reversedIdentifier reversed)
  | ok identifiers =>
      have ends := mapM_rangeOf_eq_ok_iff.1 ranged
      cases named : scopeIdOf number with
      | error fault =>
          obtain ⟨large, rfl⟩ := scopeIdOf_eq_error_iff.1 named
          exact .refused (.ownerTooLarge large)
      | ok id =>
          obtain rfl := scopeIdOf_eq_ok_iff.1 named
          cases added : model.addVariable id ⟨name, identifiers⟩ with
          | error fault =>
              obtain ⟨outside, rfl⟩ := Model.addVariables_eq_error_iff.1 added
              simp only [added]
              exact .refused (.ownerMissing outside)
          | ok after =>
              obtain ⟨scope, found, rfl⟩ := Model.addVariables_eq_ok_iff.1 added
              -- the scope that was written is there, so reading it back is not refused
              have back := Model.get_of_addVariables found [⟨name, identifiers⟩]
              simp only [added, back]
              refine .done ⟨scope, ⟨name, identifiers⟩, found, rfl, ends, ?_, rfl⟩
              rw [List.length_append, List.length_singleton]

theorem settles_pushNode (kind : NodeKind) (number : Nat) (pair : Option (UInt32 × UInt32))
    (model : Model) :
    Settles model (.pushNode kind number pair)
      ((Edit.pushNode kind number pair).perform.run model) := by
  rw [Edit.run_pushNode]
  cases ranged : pair.mapM rangeOf with
  | error fault =>
      obtain ⟨reversed, rfl⟩ := option_mapM_rangeOf_eq_error ranged
      exact .refused (.reversedRange reversed)
  | ok range =>
      have ends := option_mapM_rangeOf_eq_ok_iff.1 ranged
      cases named : scopeIdOf number with
      | error fault =>
          obtain ⟨large, rfl⟩ := scopeIdOf_eq_error_iff.1 named
          exact .refused (.scopeTooLarge large)
      | ok id =>
          have stands := scopeIdOf_eq_ok_iff.1 named
          cases pushed : model.pushNode ⟨kind, id, range⟩ with
          | error fault =>
              obtain ⟨outside, rfl⟩ := Model.pushNode_eq_error_iff.1 pushed
              simp only [pushed]
              exact .refused (.scopeMissing stands (stands ▸ outside))
          | ok after =>
              obtain ⟨known, rfl⟩ := Model.pushNode_eq_ok_iff.1 pushed
              simp only [pushed]
              refine .done ⟨⟨kind, id, range⟩, rfl, stands, stands ▸ known, ends, ?_, rfl⟩
              rw [List.length_append, List.length_singleton]

theorem Edit.settles (edit : Edit) (model : Model) :
    Settles model edit (edit.perform.run model) := by
  cases edit with
  | load text => exact settles_load text model
  | pushScope number => exact settles_pushScope number model
  | addVariable number name pairs => exact settles_addVariable number name pairs model
  | pushNode kind number pair => exact settles_pushNode kind number pair model

/-! ## Rows of edits -/

namespace Model

/-- One model comes from another by a growing operation that is carried out. -/
inductive Grows (model : Model) : Model → Prop
  | pushScope {after : Model} {parent id : ScopeId} :
      model.pushScope parent = .ok (id, after) → Grows model after
  | addVariable {after : Model} {id : ScopeId} {v : Variable} :
      model.addVariable id v = .ok after → Grows model after
  | pushNode {after : Model} {node : Node} :
      model.pushNode node = .ok after → Grows model after

theorem Reachable.grows {model after : Model} (reachable : model.Reachable)
    (grows : model.Grows after) : after.Reachable := by
  cases grows with
  | pushScope pushed => exact .pushScope reachable pushed
  | addVariable added => exact .addVariable reachable added
  | pushNode pushed => exact .pushNode reachable pushed

/-- An edit that is carried out is one of the growing operations, unless it loads a document. -/
theorem WellFormed.grows_of_effect {model after : Model} (wellFormed : model.WellFormed)
    {edit : Edit} (growing : ∀ text, edit ≠ .load text) {reply : EditReply}
    (effect : Effect model edit reply after) : model.Grows after := by
  cases edit with
  | load text => exact absurd rfl (growing text)
  | pushScope number =>
      obtain ⟨parent, id, stands, known, fresh, _, rfl⟩ := effect
      exact .pushScope (pushScope_eq_ok_iff.2 ⟨stands ▸ known, fresh, rfl⟩)
  | addVariable number name pairs =>
      obtain ⟨scope, v, found, _, _, _, rfl⟩ := effect
      have inside : number < model.scopes.size := (List.getElem?_eq_some_iff.1 found).1
      have room := wellFormed.size_le
      obtain ⟨id, rfl⟩ := ScopeId.exists_index_eq_iff.2 (show number ≤ _ by omega)
      exact .addVariable (addVariables_eq_ok_iff.2 ⟨scope, found, rfl⟩)
  | pushNode kind number pair =>
      obtain ⟨node, _, stands, known, _, _, rfl⟩ := effect
      exact .pushNode (pushNode_eq_ok_iff.2 ⟨stands ▸ known, rfl⟩)

theorem Reachable.effect {model after : Model} {edit : Edit} {reply : EditReply}
    (reachable : model.Reachable) (effect : Effect model edit reply after) :
    after.Reachable := by
  by_cases loads : ∃ text, edit = .load text
  · obtain ⟨text, rfl⟩ := loads
    obtain ⟨_, graph, _, built⟩ := effect
    exact .ofGraph built
  · exact reachable.grows
      (reachable.wellFormed.grows_of_effect (not_exists.1 loads) effect)

theorem Reachable.afterEdit {model : Model} (reachable : model.Reachable) (edit : Edit) :
    (model.afterEdit edit).Reachable := by
  have settles := edit.settles model
  unfold Model.afterEdit
  generalize edit.perform.run model = result at settles ⊢
  cases settles with
  | done effect => exact reachable.effect effect
  | refused _ => exact reachable

theorem Reachable.run {model : Model} (reachable : model.Reachable) (edits : List Edit) :
    (model.run edits).Reachable := by
  induction edits generalizing model with
  | nil => exact reachable
  | cons edit rest ih => exact ih (reachable.afterEdit edit)

end Model

/-- After every row of edits, carried out or refused, the model is a tree with the one root
that stands first, and every further edit has its whole effect or leaves the model as it is. -/
theorem run_wellFormed_and_settles (edits : List Edit) :
    (Model.initial.run edits).WellFormed ∧
      (∀ (i : Nat) (scope : Frame), (Model.initial.run edits).scopes.toList[i]? = some scope →
        (scope.parent = none ↔ i = 0)) ∧
      ∀ edit : Edit, Settles (Model.initial.run edits) edit
        (edit.perform.run (Model.initial.run edits)) := by
  have wellFormed := (Model.Reachable.initial.run edits).wellFormed
  refine ⟨wellFormed, fun i scope found => ?_, fun edit => edit.settles _⟩
  exact wellFormed.parent_eq_none_iff found

/-- A scope that was opened before a refused edit is still there, and no root. -/
theorem run_wellFormed_after_refusal :
    ∃ scope : Frame,
      (Model.initial.run [.pushScope 0, .pushScope 9]).scopes.toList[1]? = some scope ∧
        (scope.parent = none ↔ 1 = 0) :=
  ⟨_, rfl, (run_wellFormed_and_settles [.pushScope 0, .pushScope 9]).2.1 1 _ rfl⟩

end ShadowLint.Scope
