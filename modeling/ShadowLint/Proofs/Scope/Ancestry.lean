import Mathlib.Data.List.Forall2
import ShadowLint.Proofs.Scope.Tree

/-!
# Enclosing scopes

`Model.Above` says by parent links alone which scope encloses another and at which distance.
In a well-formed model the walk towards the root lists exactly these scopes, each at its
distance (`WellFormed.getElem?_ancestors_eq_some_iff`), and it ends at the global scope
(`WellFormed.exists_depth`).

Walks in two models keep in step where their scopes are paired (`forall₂_ancestors_of_paired`), and
in particular where the links are the same (`forall₂_ancestors`).  This is how a change to a model
is followed along a walk.
-/

namespace ShadowLint.Scope.Model

/-- The scope `outer` is reached from `inner` along `k` parent links. -/
inductive Above (model : Model) : Nat → ScopeId → ScopeId → Prop
  | self {id : ScopeId} : Above model 0 id id
  | link {k : Nat} {inner parent outer : ScopeId} : model.parent? inner = some parent →
      Above model k parent outer → Above model (k + 1) inner outer

theorem parent?_eq_some_iff {model : Model} {id parent : ScopeId} :
    model.parent? id = some parent ↔
      ∃ scope, model.scopes.toList[id.index]? = some scope ∧ scope.parent = some parent := by
  rw [parent?, Arena.get?_eq, Option.bind_eq_some_iff]

theorem WellFormed.parent?_lt {model : Model} (wellFormed : model.WellFormed)
    {id parent : ScopeId} (linked : model.parent? id = some parent) : parent.index < id.index := by
  obtain ⟨scope, found, same⟩ := parent?_eq_some_iff.1 linked
  have later : 0 < id.index := by
    refine Nat.pos_of_ne_zero fun first => ?_
    rw [(wellFormed.parent_eq_none_iff found).2 first] at same
    cases same
  obtain ⟨other, alsoSame, early⟩ := wellFormed.parent_lt id.index scope later found
  rw [same] at alsoSame
  cases alsoSame
  exact early

theorem above_succ_iff {model : Model} {k : Nat} {inner parent outer : ScopeId}
    (linked : model.parent? inner = some parent) :
    model.Above (k + 1) inner outer ↔ model.Above k parent outer := by
  constructor
  · intro above
    cases above with
    | link other rest =>
        rw [linked] at other
        cases other
        exact rest
  · exact .link linked

theorem not_above_succ {model : Model} {k : Nat} {inner outer : ScopeId}
    (orphan : model.parent? inner = none) : ¬ model.Above (k + 1) inner outer := by
  intro above
  cases above with
  | link linked _ =>
      rw [orphan] at linked
      cases linked

theorem above_zero_iff {model : Model} {inner outer : ScopeId} :
    model.Above 0 inner outer ↔ outer = inner := by
  constructor
  · intro above
    cases above
    rfl
  · rintro rfl
    exact .self

/-- The way to a scope can be gone on to its parent. -/
theorem Above.snoc {model : Model} {k : Nat} {inner outer parent : ScopeId}
    (above : model.Above k inner outer) (linked : model.parent? outer = some parent) :
    model.Above (k + 1) inner parent := by
  induction above with
  | self => exact .link linked .self
  | link first _ ih => exact .link first (ih linked)

/-- The scopes above a scope of the tree are in the tree. -/
theorem WellFormed.above_lt {model : Model} (wellFormed : model.WellFormed) {k : Nat}
    {inner outer : ScopeId} (above : model.Above k inner outer)
    (inside : inner.index < model.scopes.size) : outer.index < model.scopes.size := by
  induction above with
  | self => exact inside
  | link linked _ ih => exact ih (Nat.lt_trans (wellFormed.parent?_lt linked) inside)

theorem getElem?_ancestors_zero (model : Model) (id : ScopeId) :
    (model.ancestors id)[0]? = model.scopes.toList[id.index]? := by
  unfold ancestors
  rw [Arena.get?_eq]
  cases model.scopes.toList[id.index]? with
  | none => rfl
  | some scope =>
      dsimp only
      split
      · split
        · rfl
        · rfl
      · rfl

theorem WellFormed.getElem?_ancestors_succ {model : Model} (wellFormed : model.WellFormed)
    (id : ScopeId) (k : Nat) :
    (model.ancestors id)[k + 1]? =
      (model.parent? id).bind fun parent => (model.ancestors parent)[k]? := by
  have early : ∀ parent, model.parent? id = some parent → parent.index < id.index :=
    fun parent => wellFormed.parent?_lt
  rw [ancestors, parent?] at *
  cases found : model.scopes.get? id with
  | none => rfl
  | some scope =>
      rw [found] at early
      rw [Option.bind_some]
      cases linked : scope.parent with
      | none => simp [linked]
      | some parent =>
          -- the guard of the walk holds at every link
          have less := early parent linked
          simp only [linked, if_pos less, List.getElem?_cons_succ, Option.bind_some]

/-- The walk from a scope lists, at each distance, the scope that stands there above it. -/
theorem WellFormed.getElem?_ancestors_eq_some_iff {model : Model} (wellFormed : model.WellFormed)
    {id : ScopeId} {k : Nat} {scope : Frame} :
    (model.ancestors id)[k]? = some scope ↔
      ∃ outer, model.Above k id outer ∧ model.scopes.toList[outer.index]? = some scope := by
  induction k generalizing id with
  | zero =>
      rw [getElem?_ancestors_zero]
      constructor
      · intro found
        exact ⟨id, .self, found⟩
      · rintro ⟨outer, above, found⟩
        rw [above_zero_iff.1 above] at found
        exact found
  | succ k ih =>
      rw [wellFormed.getElem?_ancestors_succ]
      cases linked : model.parent? id with
      | none =>
          constructor
          · intro found
            cases found
          · rintro ⟨outer, above, _⟩
            exact absurd above (not_above_succ linked)
      | some parent =>
          rw [Option.bind_some, ih]
          simp only [above_succ_iff linked]

theorem WellFormed.parent?_global {model : Model} (wellFormed : model.WellFormed) :
    model.parent? ScopeId.global = none := by
  cases linked : model.parent? ScopeId.global with
  | none => rfl
  | some parent => exact absurd (wellFormed.parent?_lt linked) (Nat.not_lt_zero _)

/-- A scope without parent is the root, and the root is the global scope. -/
theorem WellFormed.eq_global_of_parent? {model : Model} (wellFormed : model.WellFormed)
    {id : ScopeId} (inside : id.index < model.scopes.size) (orphan : model.parent? id = none) :
    id = ScopeId.global := by
  have found := List.getElem?_eq_getElem (l := model.scopes.toList) inside
  rw [parent?, Arena.get?_eq, found, Option.bind_some] at orphan
  exact ScopeId.index_injective ((wellFormed.parent_eq_none_iff found).1 orphan)

/-- What holds of the global scope, and of every scope of whose parent it holds, holds of all. -/
@[elab_as_elim]
theorem WellFormed.fromRoot {model : Model} (wellFormed : model.WellFormed)
    {motive : ScopeId → Prop} (root : motive ScopeId.global)
    (child : ∀ id parent, id.index < model.scopes.size → parent.index < id.index →
      model.parent? id = some parent → motive parent → motive id)
    (id : ScopeId) (inside : id.index < model.scopes.size) : motive id := by
  induction bound : id.index using Nat.strongRecOn generalizing id with
  | ind n ih =>
      subst bound
      cases linked : model.parent? id with
      | none => exact wellFormed.eq_global_of_parent? inside linked ▸ root
      | some parent =>
          have early := wellFormed.parent?_lt linked
          have known := ih parent.index early parent (Nat.lt_trans early inside) rfl
          exact child id parent inside early linked known

/-- Every scope has a depth: there are scopes above it up to that distance and none beyond, and
the last of them is the global one. -/
theorem WellFormed.exists_depth {model : Model} (wellFormed : model.WellFormed) {id : ScopeId}
    (inside : id.index < model.scopes.size) :
    ∃ depth, model.Above depth id ScopeId.global ∧
      ∀ k, (∃ outer, model.Above k id outer) ↔ k ≤ depth := by
  refine wellFormed.fromRoot ?root ?child id inside
  case root =>
    refine ⟨0, .self, fun k => ⟨?_, ?_⟩⟩
    · rintro ⟨outer, above⟩
      cases k with
      | zero => exact Nat.le_refl 0
      | succ k => exact absurd above (not_above_succ wellFormed.parent?_global)
    · intro none
      rw [Nat.le_zero.1 none]
      exact ⟨_, .self⟩
  case child =>
    rintro id parent - - linked ⟨depth, last, all⟩
    refine ⟨depth + 1, .link linked last, fun k => ?_⟩
    cases k with
    | zero => exact ⟨fun _ => Nat.zero_le _, fun _ => ⟨id, .self⟩⟩
    | succ k => rw [Nat.add_le_add_iff_right, ← all k]; simp only [above_succ_iff linked]

/-! ## Walks in two models -/

/-- Walks in two models keep in step where each scope is paired with one that hangs from the partner
of its parent; what relates paired scopes relates the walks.  Both walks stop at a parent that does
not stand before its child, so partners have to agree in this as well. -/
theorem forall₂_ancestors_of_paired {model other : Model} (paired : ScopeId → ScopeId → Prop)
    {related : Frame → Frame → Prop}
    (step : ∀ id twin, paired id twin →
      Option.Rel (fun scope moved => related scope moved ∧
          Option.Rel (fun parent partner => paired parent partner ∧
            (parent.index < id.index ↔ partner.index < twin.index)) scope.parent moved.parent)
        (model.scopes.get? id) (other.scopes.get? twin))
    {id twin : ScopeId} (start : paired id twin) :
    List.Forall₂ related (model.ancestors id) (other.ancestors twin) := by
  induction bound : id.index using Nat.strongRecOn generalizing id twin with
  | ind n ih =>
      subst bound
      have here := step id twin start
      rw [ancestors, ancestors.eq_def other]
      generalize model.scopes.get? id = found at here ⊢
      generalize other.scopes.get? twin = foundToo at here ⊢
      cases here with
      | none => exact .nil
      | @some scope moved here =>
          obtain ⟨first, parents⟩ := here
          dsimp only
          generalize scope.parent = above at parents ⊢
          generalize moved.parent = aboveToo at parents ⊢
          cases parents with
          | none => exact .cons first .nil
          | @some parent partner onward =>
              obtain ⟨next, guards⟩ := onward
              dsimp only
              by_cases early : parent.index < id.index
              · rw [if_pos early, if_pos (guards.1 early)]
                exact .cons first (ih parent.index early next rfl)
              · rw [if_neg early, if_neg (mt guards.2 early)]
                exact .cons first .nil

/-- Where the scopes above a scope hang alike in two models, the walks out of it keep in step. -/
theorem forall₂_ancestors {model other : Model} {related : Frame → Frame → Prop} (id : ScopeId)
    (alike : ∀ k above, model.Above k id above →
      Option.Rel (fun scope twin => twin.parent = scope.parent ∧ related scope twin)
        (model.scopes.get? above) (other.scopes.get? above)) :
    List.Forall₂ related (model.ancestors id) (other.ancestors id) := by
  refine forall₂_ancestors_of_paired (fun one twin => twin = one ∧ ∃ k, model.Above k id one) ?_
    ⟨rfl, 0, .self⟩
  rintro _ one ⟨rfl, k, above⟩
  have hang := alike k one above
  cases found : model.scopes.get? one with
  | none =>
      rw [found] at hang
      generalize other.scopes.get? one = twin at hang ⊢
      cases hang
      exact .none
  | some scope =>
      rw [found] at hang
      generalize other.scopes.get? one = twin at hang ⊢
      cases hang with
      | some same =>
          obtain ⟨hangs, first⟩ := same
          refine .some ⟨first, ?_⟩
          rw [hangs]
          cases linked : scope.parent with
          | none => exact .none
          | some parent =>
              have link : model.parent? one = some parent := by
                rw [parent?, found, Option.bind_some, linked]
              exact .some ⟨⟨rfl, k + 1, above.snoc link⟩, Iff.rfl⟩

end ShadowLint.Scope.Model
