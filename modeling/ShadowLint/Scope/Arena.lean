import ShadowLint.Scope.Fault

/-!
# Arenas

An arena is a growing array whose items are addressed by the identifier that `push`
returned for them.  An item is never moved or removed, so an identifier stays good for
the life of the arena.

`Arena.Step` names the operations as values, so that a whole run of them can be spoken
about; `Step.perform` carries one out on an arena in place.  As it checks and writes step by
step, a refused operation would leave behind what it wrote before; that it wrote nothing is a
property of the procedures and not of their type.
-/

namespace ShadowLint.Scope

/-- A growing array that is addressed by scope identifiers. -/
structure Arena (α : Type) where
  items : Array α
  deriving DecidableEq, Repr

namespace Arena

variable {α : Type}

/-- The arena without items. -/
def empty : Arena α := ⟨#[]⟩

/-- The arena that holds the items of a list in their order. -/
def ofList (items : List α) : Arena α := ⟨items.toArray⟩

/-- The items in the order of their identifiers. -/
def toList (arena : Arena α) : List α := arena.items.toList

/-- The number of items. -/
def size (arena : Arena α) : Nat := arena.items.size

/-- The item that an identifier stands for, if the arena has it. -/
def get? (arena : Arena α) (id : ScopeId) : Option α := arena.items[id.index]?

/-- The item that an identifier stands for. -/
def get (arena : Arena α) (id : ScopeId) : Except Fault α :=
  match arena.get? id with
  | some item => .ok item
  | none => .error (.indexOutOfBounds arena.size id.index)

/-- The arena with `f` applied to one item. -/
def modify (arena : Arena α) (id : ScopeId) (f : α → α) : Except Fault (Arena α) :=
  match arena.get? id with
  | some item => .ok ⟨arena.items.setIfInBounds id.index (f item)⟩
  | none => .error (.indexOutOfBounds arena.size id.index)

/-- The identifier that the next `push` returns. -/
def nextId (arena : Arena α) : Except Fault ScopeId := scopeIdOf arena.size

/-- Appends an item and returns its identifier. -/
def push (arena : Arena α) (item : α) : Except Fault (ScopeId × Arena α) :=
  match arena.nextId with
  | .ok id => .ok (id, ⟨arena.items.push item⟩)
  | .error fault => .error fault

/-! ## Runs of operations -/

/-- An operation on an arena; positions are plain numbers, which become identifiers first. -/
inductive Step (α : Type) where
  | load (items : List α)
  | push (item : α)
  | nextId
  | get (index : Nat)
  | set (index : Nat) (item : α)
  deriving Repr

/-- What an operation answers. -/
inductive Reply (α : Type) where
  | size (n : Nat)
  | id (id : ScopeId)
  | item (item : α)
  deriving DecidableEq, Repr

/-- A procedure that changes an arena in place.  What it has written before it is refused
stays written. -/
abbrev Procedure (α β : Type) := EStateM Fault (Arena α) β

namespace Procedure

/-- Goes on with a result, or is refused with its fault. -/
def expect {β : Type} : Except Fault β → Procedure α β
  | .ok result => pure result
  | .error fault => throw fault

/-- Appends an item; its identifier is made before the item is stored. -/
def push (item : α) : Procedure α ScopeId := do
  let id ← expect (← getThe (Arena α)).nextId
  modifyThe (Arena α) fun arena => ⟨arena.items.push item⟩
  return id

/-- The item that an identifier stands for. -/
def get (id : ScopeId) : Procedure α α := do
  expect ((← getThe (Arena α)).get id)

/-- Writes over the item that an identifier stands for. -/
def set (id : ScopeId) (item : α) : Procedure α Unit := do
  let _ ← get id
  modifyThe (Arena α) fun arena => ⟨arena.items.setIfInBounds id.index item⟩

end Procedure

/-- Carries out an operation on an arena in place. -/
def Step.perform : Step α → Procedure α (Reply α)
  | .load items => do
      MonadStateOf.set (ofList items)
      return .size items.length
  | .push item => return .id (← Procedure.push item)
  | .nextId => return .id (← Procedure.expect (← getThe (Arena α)).nextId)
  | .get index => do
      let id ← Procedure.expect (scopeIdOf index)
      return .item (← Procedure.get id)
  | .set index item => do
      let id ← Procedure.expect (scopeIdOf index)
      Procedure.set id item
      return .item (← Procedure.get id)

/-- What an operation answers, or why it is refused. -/
def answer (arena : Arena α) (step : Step α) : Except Fault (Reply α) :=
  match step.perform.run arena with
  | .ok reply _ => .ok reply
  | .error fault _ => .error fault

/-- The arena that an operation leaves behind, be it carried out or refused. -/
def afterStep (arena : Arena α) (step : Step α) : Arena α :=
  match step.perform.run arena with
  | .ok _ after => after
  | .error _ after => after

/-- The arena after a row of operations, refused ones included. -/
def run (arena : Arena α) (steps : List (Step α)) : Arena α :=
  steps.foldl afterStep arena

/-! ## Written forms -/

/-- The items on one line, in brackets. -/
def inline (render : α → String) (arena : Arena α) : String :=
  "[" ++ ", ".intercalate (arena.toList.map render) ++ "]"

/-- The items one to a line with a comma after each, in brackets; `[]` when there are none. -/
def multiline (render : α → String) (arena : Arena α) : String :=
  if arena.toList.isEmpty then "[]"
  else "[\n" ++ String.join (arena.toList.map fun item => "    " ++ render item ++ ",\n") ++ "]"

end Arena

end ShadowLint.Scope
