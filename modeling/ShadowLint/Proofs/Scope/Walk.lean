import ShadowLint.Proofs.Scope.Ancestry

/-!
# Walks towards the root

A walk goes on from a scope to its parent for as long as there is one, and looks up every scope
that it comes to.  There are two of them, one over identifiers (`Model.outwardId`) and one over the
scopes themselves (`Model.outwardScope`).  Nothing in a step keeps a walk from going round, or from
a lookup that fails; `Unfolds` says of a walk that it does come to an end, and what it led
through.

In a tree both walks do, and `ancestors_follow_links_to_global` says what they lead through.  Every
link leads to an earlier scope, so all of it is shown from the root outwards to the leaves
(`WellFormed.fromRoot`).  The guards in `Model.ancestorIds` and `Model.ancestors`, which make these
functions total, never cut a walk short there.
-/

namespace ShadowLint.Scope

/-- Going on from an item to the one that `next` finds, until there is none and without a failure,
leads through these items. -/
inductive Unfolds {α : Type} (next : α → Except Fault (Option α)) : α → List α → Prop
  | last {item : α} : next item = .ok none → Unfolds next item [item]
  | onward {item other : α} {rest : List α} : next item = .ok (some other) →
      Unfolds next other rest → Unfolds next item (item :: rest)

theorem Unfolds.head?_eq {α : Type} {next : α → Except Fault (Option α)} {item : α}
    {items : List α} (unfolds : Unfolds next item items) : items.head? = some item := by
  cases unfolds with
  | last _ => rfl
  | onward _ _ => rfl

theorem Unfolds.unique {α : Type} {next : α → Except Fault (Option α)} {item : α}
    {items others : List α} (first : Unfolds next item items)
    (second : Unfolds next item others) : items = others := by
  induction first generalizing others with
  | last ends =>
      cases second with
      | last _ => rfl
      | onward goesOn _ =>
          rw [ends] at goesOn
          cases goesOn
  | onward goesOn _ ih =>
      cases second with
      | last ends =>
          rw [goesOn] at ends
          cases ends
      | onward goesOnToo rest =>
          rw [goesOn] at goesOnToo
          cases goesOnToo
          rw [ih rest]

namespace Model

/-- A step of the walk over identifiers: from a scope, which has to be there, to its parent. -/
def outwardId (model : Model) (id : ScopeId) : Except Fault (Option ScopeId) :=
  (model.scopes.get id).map Frame.parent

/-- A step of the walk over scopes: from a scope to its parent, which has to be there. -/
def outwardScope (model : Model) (scope : Frame) : Except Fault (Option Frame) :=
  match scope.parent with
  | none => .ok none
  | some parent => (model.scopes.get parent).map some

/-- A scope that is there can be looked up, and has the parent that its identifier has. -/
theorem exists_get_eq_ok {model : Model} {id : ScopeId}
    (inside : id.index < model.scopes.size) :
    ∃ scope, model.scopes.get id = .ok scope ∧ scope.parent = model.parent? id := by
  have found := List.getElem?_eq_getElem (l := model.scopes.toList) inside
  refine ⟨_, Arena.get_eq_ok_iff.2 found, ?_⟩
  rw [parent?, Arena.get?_eq, found, Option.bind_some]

theorem outwardId_eq_ok {model : Model} {id : ScopeId} (inside : id.index < model.scopes.size) :
    model.outwardId id = .ok (model.parent? id) := by
  obtain ⟨scope, found, same⟩ := exists_get_eq_ok inside
  rw [outwardId, found, ← same]
  rfl

/-! ## One link -/

namespace WellFormed

variable {model : Model}

theorem global_lt (wellFormed : model.WellFormed) : ScopeId.global.index < model.scopes.size :=
  wellFormed.size_pos

theorem ancestorIds_global (wellFormed : model.WellFormed) :
    model.ancestorIds .global = [.global] := by
  rw [ancestorIds, wellFormed.parent?_global]

theorem ancestorIds_of_parent? (wellFormed : model.WellFormed) {id parent : ScopeId}
    (linked : model.parent? id = some parent) :
    model.ancestorIds id = id :: model.ancestorIds parent := by
  rw [ancestorIds, linked]
  exact if_pos (wellFormed.parent?_lt linked)

theorem ancestors_eq (wellFormed : model.WellFormed) {id : ScopeId} {scope : Frame}
    (found : model.scopes.get id = .ok scope) :
    model.ancestors id =
      scope :: match scope.parent with
        | some parent => model.ancestors parent
        | none => [] := by
  have stands : model.scopes.get? id = some scope := by
    rw [Arena.get?_eq]
    exact Arena.get_eq_ok_iff.1 found
  rw [ancestors, stands]
  dsimp only
  cases linked : scope.parent with
  | none => rfl
  | some parent =>
      have early : parent.index < id.index :=
        wellFormed.parent?_lt (parent?_eq_some_iff.2 ⟨scope, Arena.get_eq_ok_iff.1 found, linked⟩)
      exact if_pos early

/-! ## The way to the root -/

/-- The walk over identifiers ends at the global scope. -/
theorem unfolds_ancestorIds (wellFormed : model.WellFormed) {id : ScopeId}
    (inside : id.index < model.scopes.size) :
    Unfolds model.outwardId id (model.ancestorIds id) := by
  refine wellFormed.fromRoot ?root ?child id inside
  case root =>
    rw [wellFormed.ancestorIds_global]
    refine .last ?_
    rw [outwardId_eq_ok wellFormed.global_lt, wellFormed.parent?_global]
  case child =>
    intro id parent inside _ linked ih
    rw [wellFormed.ancestorIds_of_parent? linked]
    refine .onward ?_ ih
    rw [outwardId_eq_ok inside, linked]

theorem unfolds_ancestors (wellFormed : model.WellFormed) {id : ScopeId}
    (inside : id.index < model.scopes.size) :
    ∀ scope, model.scopes.get id = .ok scope →
      Unfolds model.outwardScope scope (model.ancestors id) := by
  refine wellFormed.fromRoot ?root ?child id inside
  case root =>
    intro scope found
    have orphan := wellFormed.root scope (Arena.get_eq_ok_iff.1 found)
    rw [wellFormed.ancestors_eq found, orphan]
    exact .last (by rw [outwardScope, orphan])
  case child =>
    intro id parent inside early linked ih scope found
    obtain ⟨upper, foundUpper, _⟩ := exists_get_eq_ok (Nat.lt_trans early inside)
    obtain ⟨same, foundSame, link⟩ := exists_get_eq_ok inside
    cases found.symm.trans foundSame
    rw [linked] at link
    rw [wellFormed.ancestors_eq found, link]
    refine .onward ?_ (ih upper foundUpper)
    rw [outwardScope, link]
    exact congrArg (Except.map some) foundUpper

/-- The two walks go side by side, through the scopes and their identifiers. -/
theorem forall₂_ancestorIds_ancestors (wellFormed : model.WellFormed) {id : ScopeId}
    (inside : id.index < model.scopes.size) :
    List.Forall₂ (fun outer scope => model.scopes.get outer = .ok scope)
      (model.ancestorIds id) (model.ancestors id) := by
  refine wellFormed.fromRoot ?root ?child id inside
  case root =>
    obtain ⟨scope, found, orphan⟩ := exists_get_eq_ok wellFormed.global_lt
    rw [wellFormed.parent?_global] at orphan
    rw [wellFormed.ancestorIds_global, wellFormed.ancestors_eq found, orphan]
    exact .cons found .nil
  case child =>
    intro id parent inside _ linked ih
    obtain ⟨scope, found, link⟩ := exists_get_eq_ok inside
    rw [linked] at link
    rw [wellFormed.ancestorIds_of_parent? linked, wellFormed.ancestors_eq found, link]
    exact .cons found ih

/-- The walk leads through exactly the scopes that links lead to. -/
theorem mem_ancestorIds_iff (wellFormed : model.WellFormed) {id : ScopeId}
    (inside : id.index < model.scopes.size) :
    ∀ outer, outer ∈ model.ancestorIds id ↔ ∃ k, model.Above k id outer := by
  refine wellFormed.fromRoot ?root ?child id inside
  case root =>
    intro outer
    rw [wellFormed.ancestorIds_global, List.mem_singleton]
    constructor
    · rintro rfl
      exact ⟨0, .self⟩
    · rintro ⟨k, above⟩
      cases k with
      | zero => exact above_zero_iff.1 above
      | succ k => exact absurd above (not_above_succ wellFormed.parent?_global)
  case child =>
    intro id parent _ _ linked ih outer
    rw [wellFormed.ancestorIds_of_parent? linked, List.mem_cons, ih]
    constructor
    · rintro (rfl | ⟨k, above⟩)
      · exact ⟨0, .self⟩
      · exact ⟨k + 1, .link linked above⟩
    · -- a way of some links has its first link to the parent, which is the only one
      rintro ⟨k, above⟩
      cases k with
      | zero => exact .inl (above_zero_iff.1 above)
      | succ k => exact .inr ⟨k, (above_succ_iff linked).1 above⟩

/-- The scopes above a scope stand before it. -/
theorem above_le (wellFormed : model.WellFormed) {k : Nat} {inner outer : ScopeId}
    (above : model.Above k inner outer) : outer.index ≤ inner.index := by
  induction above with
  | self => exact Nat.le_refl _
  | link linked _ ih => exact Nat.le_trans ih (Nat.le_of_lt (wellFormed.parent?_lt linked))

theorem pairwise_ancestorIds (wellFormed : model.WellFormed) {id : ScopeId}
    (inside : id.index < model.scopes.size) :
    (model.ancestorIds id).Pairwise fun inner outer => outer.index < inner.index := by
  refine wellFormed.fromRoot ?root ?child id inside
  case root =>
    rw [wellFormed.ancestorIds_global]
    exact List.pairwise_singleton _ _
  case child =>
    intro id parent inside early linked ih
    rw [wellFormed.ancestorIds_of_parent? linked]
    refine List.pairwise_cons.2 ⟨fun outer member => ?_, ih⟩
    obtain ⟨k, above⟩ :=
      (wellFormed.mem_ancestorIds_iff (Nat.lt_trans early inside) outer).1 member
    exact Nat.lt_of_le_of_lt (wellFormed.above_le above) early

/-- The walk is at the global scope when it ends, and not before. -/
theorem exists_ancestorIds_eq (wellFormed : model.WellFormed) {id : ScopeId}
    (inside : id.index < model.scopes.size) :
    ∃ before, model.ancestorIds id = before ++ [.global] ∧ .global ∉ before ∧
      before.length ≤ id.index := by
  refine wellFormed.fromRoot ?root ?child id inside
  case root =>
    exact ⟨[], wellFormed.ancestorIds_global, List.not_mem_nil, Nat.zero_le _⟩
  case child =>
    rintro id parent - early linked ⟨before, way, absent, few⟩
    refine ⟨id :: before, ?_, ?_, ?_⟩
    · rw [wellFormed.ancestorIds_of_parent? linked, way, List.cons_append]
    · intro member
      rcases List.mem_cons.1 member with rfl | member
      · exact absurd early (Nat.not_lt_zero _)
      · exact absent member
    · rw [List.length_cons]
      omega

end WellFormed

/-- From every scope of a model that can be built, both walks towards the root come to an end
without a failing lookup.  The walk over identifiers leads through `ancestorIds`: from the scope
itself downwards in the identifiers to the global scope, which it meets only at the end, in at most
one step more than the scope's index, and through exactly the scopes that parent links lead to.
Behind a scope it is the walk from its parent.  The walk over scopes leads through `ancestors`, the
scopes that stand at these identifiers. -/
theorem ancestors_follow_links_to_global {model : Model} (reachable : model.Reachable)
    {id : ScopeId} (inside : id.index < model.scopes.size) :
    (∀ ids, Unfolds model.outwardId id ids ↔ ids = model.ancestorIds id) ∧
      (model.ancestorIds id).length ≤ id.index + 1 ∧
      (model.ancestorIds id).head? = some id ∧
      (model.ancestorIds id).Pairwise (fun inner outer => outer.index < inner.index) ∧
      (∃ before, model.ancestorIds id = before ++ [.global] ∧ .global ∉ before) ∧
      (∀ outer, outer ∈ model.ancestorIds id ↔ ∃ k, model.Above k id outer) ∧
      (id ≠ .global → ∃ parent, model.parent? id = some parent ∧
        model.ancestorIds id = id :: model.ancestorIds parent) ∧
      (∃ scope, model.scopes.get id = .ok scope ∧
        ∀ scopes, Unfolds model.outwardScope scope scopes ↔ scopes = model.ancestors id) ∧
      List.Forall₂ (fun outer scope => model.scopes.get outer = .ok scope)
        (model.ancestorIds id) (model.ancestors id) := by
  have wellFormed := reachable.wellFormed
  have unfolds := wellFormed.unfolds_ancestorIds inside
  obtain ⟨before, way, absent, few⟩ := wellFormed.exists_ancestorIds_eq inside
  obtain ⟨scope, found, _⟩ := exists_get_eq_ok inside
  have unfoldsToo := wellFormed.unfolds_ancestors inside scope found
  refine ⟨fun ids => ⟨fun other => other.unique unfolds, fun same => same ▸ unfolds⟩, ?_, ?_,
    wellFormed.pairwise_ancestorIds inside, ⟨before, way, absent⟩,
    wellFormed.mem_ancestorIds_iff inside, ?_, ⟨scope, found, fun scopes => ?_⟩,
    wellFormed.forall₂_ancestorIds_ancestors inside⟩
  · rw [way, List.length_append, List.length_singleton]
    omega
  · exact unfolds.head?_eq
  · intro notGlobal
    cases linked : model.parent? id with
    | none => exact absurd (wellFormed.eq_global_of_parent? inside linked) notGlobal
    | some parent => exact ⟨parent, rfl, wellFormed.ancestorIds_of_parent? linked⟩
  · exact ⟨fun other => other.unique unfoldsToo, fun same => same ▸ unfoldsToo⟩

/-- Two scopes below the global one, and a scope below the first of them. -/
def branches : ScopeGraph := ⟨none, [⟨none, []⟩, ⟨some 0, []⟩, ⟨some 0, []⟩, ⟨some 1, []⟩], []⟩

/-- The way from the last scope leads past the scope that stands in front of it. -/
theorem ancestors_in_branches :
    ∃ model, ofGraph branches = .ok model ∧
      (⟨4, by decide⟩ : ScopeId).index < model.scopes.size ∧
      Unfolds model.outwardId ⟨4, by decide⟩ [⟨4, by decide⟩, ⟨2, by decide⟩, .global] ∧
      (¬ ∃ k, model.Above k ⟨4, by decide⟩ ⟨3, by decide⟩) ∧
      (⟨4, by decide⟩ : ScopeId) ≠ .global ∧
      ∃ parent, model.parent? ⟨4, by decide⟩ = some parent := by
  obtain ⟨model, loaded, size, ids⟩ : ∃ model, ofGraph branches = .ok model ∧
      model.scopes.size = 4 ∧
      model.ancestorIds ⟨4, by decide⟩ = [⟨4, by decide⟩, ⟨2, by decide⟩, .global] :=
    ⟨_, rfl, rfl, by decide +kernel⟩
  have inside : (⟨4, by decide⟩ : ScopeId).index < model.scopes.size := by
    rw [size]
    decide
  obtain ⟨unfolds, _, _, _, _, members, onward, _⟩ :=
    ancestors_follow_links_to_global (.ofGraph loaded) inside
  refine ⟨model, loaded, inside, (unfolds _).2 ids.symm, fun above => ?_, by decide, ?_⟩
  · have member := (members _).2 above
    rw [ids] at member
    exact absurd member (by decide)
  · obtain ⟨parent, linked, _⟩ := onward (by decide)
    exact ⟨parent, linked⟩

end Model

end ShadowLint.Scope
