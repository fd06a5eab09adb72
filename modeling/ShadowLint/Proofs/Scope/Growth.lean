import ShadowLint.Proofs.Outcome
import ShadowLint.Proofs.Scope.Identifier
import ShadowLint.Scope.Model

/-!
# What the growing operations do

An arena and a model are looked at through the list of their items.  For each operation
there is one lemma that says exactly when it succeeds and what it then leaves, and one that
says exactly when it is refused and with which fault.  The rest of the theory cites these
lemmas and does not open the operations.
-/

namespace ShadowLint.Scope

theorem scopeIdOf_eq_ok_iff {number : Nat} {id : ScopeId} :
    scopeIdOf number = .ok id ↔ id.index = number := by
  unfold scopeIdOf
  rw [← ScopeId.ofNat?_eq_some_iff]
  cases ScopeId.ofNat? number with
  | none => simp
  | some made => simp

theorem scopeIdOf_eq_error_iff {number : Nat} {fault : Fault} :
    scopeIdOf number = .error fault ↔
      ScopeId.maxIndex.toNat < number ∧ fault = .indexTooLarge := by
  unfold scopeIdOf
  rw [← ScopeId.ofNat?_eq_none_iff]
  cases ScopeId.ofNat? number with
  | none => simp [eq_comm]
  | some made => simp

namespace Arena

variable {α : Type}

@[simp] theorem toList_ofList (items : List α) : (ofList items).toList = items := rfl

@[simp] theorem length_toList (arena : Arena α) : arena.toList.length = arena.size := rfl

@[simp] theorem size_ofList (items : List α) : (ofList items).size = items.length := rfl

theorem toList_injective {a b : Arena α} (same : a.toList = b.toList) : a = b := by
  rcases a with ⟨⟨itemsA⟩⟩
  rcases b with ⟨⟨itemsB⟩⟩
  cases same
  rfl

theorem get?_eq (arena : Arena α) (id : ScopeId) : arena.get? id = arena.toList[id.index]? := by
  rw [get?, toList, Array.getElem?_toList]

theorem get_eq_ok_iff {arena : Arena α} {id : ScopeId} {item : α} :
    arena.get id = .ok item ↔ arena.toList[id.index]? = some item := by
  unfold get
  rw [get?_eq]
  cases arena.toList[id.index]? with
  | none => simp
  | some found => simp

theorem get_eq_error_iff {arena : Arena α} {id : ScopeId} {fault : Fault} :
    arena.get id = .error fault ↔
      arena.size ≤ id.index ∧ fault = .indexOutOfBounds arena.size id.index := by
  unfold get
  rw [get?_eq]
  cases found : arena.toList[id.index]? with
  | none =>
      have outside := List.getElem?_eq_none_iff.1 found
      rw [length_toList] at outside
      simp [outside, eq_comm]
  | some item =>
      have inside := (List.getElem?_eq_some_iff.1 found).1
      rw [length_toList] at inside
      simp [Nat.not_le.2 inside]

theorem nextId_eq_ok_iff {arena : Arena α} {id : ScopeId} :
    arena.nextId = .ok id ↔ id.index = arena.size := scopeIdOf_eq_ok_iff

theorem nextId_eq_error_iff {arena : Arena α} {fault : Fault} :
    arena.nextId = .error fault ↔
      ScopeId.maxIndex.toNat < arena.size ∧ fault = .indexTooLarge := scopeIdOf_eq_error_iff

theorem push_eq_ok_iff {arena after : Arena α} {item : α} {id : ScopeId} :
    arena.push item = .ok (id, after) ↔
      id.index = arena.size ∧ after = ofList (arena.toList ++ [item]) := by
  have appended : (⟨arena.items.push item⟩ : Arena α) = ofList (arena.toList ++ [item]) :=
    toList_injective (by rw [toList_ofList, toList, toList, Array.toList_push])
  unfold push
  rw [← nextId_eq_ok_iff, appended]
  cases arena.nextId with
  | error fault => simp
  | ok next => simp [eq_comm]

theorem push_eq_error_iff {arena : Arena α} {item : α} {fault : Fault} :
    arena.push item = .error fault ↔
      ScopeId.maxIndex.toNat < arena.size ∧ fault = .indexTooLarge := by
  rw [← nextId_eq_error_iff]
  unfold push
  cases arena.nextId with
  | error refused => simp
  | ok next => simp

theorem modify_eq_ok_iff {arena after : Arena α} {id : ScopeId} {f : α → α} :
    arena.modify id f = .ok after ↔
      ∃ item, arena.toList[id.index]? = some item ∧
        after = ofList (arena.toList.set id.index (f item)) := by
  have written (item : α) : (⟨arena.items.setIfInBounds id.index (f item)⟩ : Arena α) =
      ofList (arena.toList.set id.index (f item)) :=
    toList_injective (by rw [toList_ofList, toList, toList, Array.toList_setIfInBounds])
  unfold modify
  rw [get?_eq]
  cases arena.toList[id.index]? with
  | none => simp
  | some found => simp [written, eq_comm]

end Arena

namespace Model

theorem pushScope_eq_ok_iff {model after : Model} {parent id : ScopeId} :
    model.pushScope parent = .ok (id, after) ↔
      parent.index < model.scopes.size ∧ id.index = model.scopes.size ∧
        after = { model with scopes := .ofList (model.scopes.toList ++ [⟨some parent, []⟩]) } := by
  unfold pushScope
  split
  · next known =>
      rw [Outcome.map_eq_ok_iff]
      constructor
      · rintro ⟨⟨next, scopes⟩, pushed, same⟩
        obtain ⟨fresh, rfl⟩ := Arena.push_eq_ok_iff.1 pushed
        cases same
        exact ⟨known, fresh, rfl⟩
      · rintro ⟨-, fresh, rfl⟩
        exact ⟨(id, _), Arena.push_eq_ok_iff.2 ⟨fresh, rfl⟩, rfl⟩
  · next unknown => simp [unknown]

theorem pushScope_eq_error_iff {model : Model} {parent : ScopeId} {fault : Fault} :
    model.pushScope parent = .error fault ↔
      model.scopes.size ≤ parent.index ∧ fault = .parentMissing parent ∨
      parent.index < model.scopes.size ∧ ScopeId.maxIndex.toNat < model.scopes.size ∧
        fault = .indexTooLarge := by
  unfold pushScope
  split
  · next known =>
      rw [Outcome.map_eq_error_iff, Arena.push_eq_error_iff]
      simp [known, Nat.not_le.2 known]
  · next unknown => simp [unknown, Nat.not_lt.1 unknown, eq_comm]

theorem addVariables_eq_ok_iff {model after : Model} {id : ScopeId} {vars : List Variable} :
    model.addVariables id vars = .ok after ↔
      ∃ scope, model.scopes.toList[id.index]? = some scope ∧
        after = { model with
          scopes := .ofList
            (model.scopes.toList.set id.index { scope with vars := scope.vars ++ vars }) } := by
  unfold addVariables
  rw [Outcome.map_eq_ok_iff]
  constructor
  · rintro ⟨scopes, changed, rfl⟩
    obtain ⟨scope, found, rfl⟩ := Arena.modify_eq_ok_iff.1 changed
    exact ⟨scope, found, rfl⟩
  · rintro ⟨scope, found, rfl⟩
    exact ⟨_, Arena.modify_eq_ok_iff.2 ⟨scope, found, rfl⟩, rfl⟩

/-- What is read back from a scope is what was just written to it. -/
theorem get_of_addVariables {model : Model} {id : ScopeId} {scope : Frame}
    (found : model.scopes.toList[id.index]? = some scope) (vars : List Variable) :
    (Arena.ofList (model.scopes.toList.set id.index
      { scope with vars := scope.vars ++ vars })).get id =
        .ok { scope with vars := scope.vars ++ vars } := by
  have inside : id.index < model.scopes.toList.length := (List.getElem?_eq_some_iff.1 found).1
  exact Arena.get_eq_ok_iff.2 (List.getElem?_set_self inside)

theorem addVariables_eq_error_iff {model : Model} {id : ScopeId} {vars : List Variable}
    {fault : Fault} :
    model.addVariables id vars = .error fault ↔
      model.scopes.size ≤ id.index ∧ fault = .indexOutOfBounds model.scopes.size id.index := by
  rw [addVariables, Outcome.map_eq_error_iff, ← Arena.get_eq_error_iff]
  unfold Arena.modify Arena.get
  cases model.scopes.get? id with
  | none => simp
  | some scope => simp

theorem pushNode_eq_ok_iff {model after : Model} {node : Node} :
    model.pushNode node = .ok after ↔
      node.scope.index < model.scopes.size ∧
        after = { model with nodes := model.nodes ++ [node] } := by
  unfold pushNode
  split
  · next known => simp [known, eq_comm]
  · next unknown => simp [unknown]

theorem pushNode_eq_error_iff {model : Model} {node : Node} {fault : Fault} :
    model.pushNode node = .error fault ↔
      model.scopes.size ≤ node.scope.index ∧ fault = .scopeMissing node.scope := by
  unfold pushNode
  split
  · next known => simp [Nat.not_le.2 known]
  · next unknown => simp [Nat.not_lt.1 unknown, eq_comm]

end Model

end ShadowLint.Scope
