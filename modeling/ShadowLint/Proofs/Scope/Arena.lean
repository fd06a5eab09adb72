import Mathlib.Data.List.Induction
import ShadowLint.Proofs.Scope.Growth

/-!
# What an arena holds after a row of operations

An operation is carried out in place, so that a refused one might have written before it was
refused.  `perform_eq_ok_iff` says exactly when an operation is carried out and what it then
leaves, and `perform_eq_error_iff` when it is refused, and that it then leaves the arena as it was.

The rest follows from the record of a run (`events`), which says of each operation what it
answered.  An event changes nothing, adds an item or writes over one (`change`), and by induction on
the run from its end, with these three cases:

* an item stands where the record says that it was last set, or else pushed or placed
  (`getElem?_run_iff`);
* the pushes that are carried out return consecutive identifiers (`pushed_run`).
-/

namespace ShadowLint.Scope.Arena

variable {α : Type} {arena after : Arena α}

/-! ## One operation -/

/-- What an operation that is carried out answers, and the arena that it leaves: a push adds an item
behind the others and answers its identifier, a write changes one position, and the others change
nothing. -/
def Effect (arena : Arena α) : Step α → Reply α → Arena α → Prop
  | .load items, reply, after => after = ofList items ∧ reply = .size items.length
  | .push item, reply, after =>
      ∃ id : ScopeId, id.index = arena.size ∧ after = ofList (arena.toList ++ [item]) ∧
        reply = .id id
  | .nextId, reply, after =>
      ∃ id : ScopeId, id.index = arena.size ∧ after = arena ∧ reply = .id id
  | .get index, reply, after =>
      ∃ (id : ScopeId) (item : α), id.index = index ∧ arena.toList[index]? = some item ∧
        after = arena ∧ reply = .item item
  | .set index item, reply, after =>
      ∃ id : ScopeId, id.index = index ∧ index < arena.size ∧
        after = ofList (arena.toList.set index item) ∧ reply = .item item

/-- Why an operation is refused: there is no identifier for a new item or for the position, or no
item at the position. -/
def Refusal (arena : Arena α) : Step α → Fault → Prop
  | .load _, _ => False
  | .push _, fault | .nextId, fault =>
      ScopeId.maxIndex.toNat < arena.size ∧ fault = .indexTooLarge
  | .get index, fault | .set index _, fault =>
      (ScopeId.maxIndex.toNat < index ∧ fault = .indexTooLarge) ∨
        ∃ id : ScopeId, id.index = index ∧ arena.size ≤ index ∧
          fault = .indexOutOfBounds arena.size index

namespace Procedure

variable {β γ : Type}

theorem run_expect_bind (outcome : Except Fault β) (next : β → Procedure α γ) (arena : Arena α) :
    (expect outcome >>= next).run arena =
      match outcome with
      | .ok result => (next result).run arena
      | .error fault => .error fault arena := by
  cases outcome <;> rfl

theorem run_getThe_bind (next : Arena α → Procedure α γ) (arena : Arena α) :
    (getThe (Arena α) >>= next).run arena = (next arena).run arena := rfl

theorem run_push (item : α) (arena : Arena α) :
    (Procedure.push item).run arena =
      match arena.push item with
      | .ok (id, after) => .ok id after
      | .error fault => .error fault arena := by
  rw [Procedure.push, run_getThe_bind, run_expect_bind, Arena.push]
  cases arena.nextId <;> rfl

theorem run_get_bind (id : ScopeId) (next : α → Procedure α γ) (arena : Arena α) :
    (Procedure.get id >>= next).run arena =
      match arena.get id with
      | .ok item => (next item).run arena
      | .error fault => .error fault arena :=
  run_expect_bind (arena.get id) next arena

theorem run_set (id : ScopeId) (item : α) (arena : Arena α) :
    (Procedure.set id item).run arena =
      match arena.modify id fun _ => item with
      | .ok after => .ok () after
      | .error fault => .error fault arena := by
  rw [Procedure.set, run_get_bind, Arena.get, Arena.modify]
  cases arena.get? id <;> rfl

end Procedure

theorem run_load (items : List α) (arena : Arena α) :
    (Step.load items).perform.run arena = .ok (.size items.length) (ofList items) := rfl

theorem run_push (item : α) (arena : Arena α) :
    (Step.push item).perform.run arena =
      match arena.push item with
      | .ok (id, after) => .ok (.id id) after
      | .error fault => .error fault arena := by
  rw [Step.perform, EStateM.run_bind, Procedure.run_push]
  cases arena.push item <;> rfl

theorem run_nextId (arena : Arena α) :
    (Step.nextId (α := α)).perform.run arena =
      match arena.nextId with
      | .ok id => .ok (.id id) arena
      | .error fault => .error fault arena := by
  rw [Step.perform, Procedure.run_getThe_bind, Procedure.run_expect_bind]
  cases arena.nextId <;> rfl

theorem run_get (index : Nat) (arena : Arena α) :
    (Step.get index).perform.run arena =
      match scopeIdOf index with
      | .ok id =>
          match arena.get id with
          | .ok item => .ok (.item item) arena
          | .error fault => .error fault arena
      | .error fault => .error fault arena := by
  rw [Step.perform, Procedure.run_expect_bind]
  cases scopeIdOf index with
  | error fault => rfl
  | ok id => exact Procedure.run_get_bind id _ arena

theorem modify_eq_error_iff {id : ScopeId} {f : α → α} {fault : Fault} :
    arena.modify id f = .error fault ↔
      arena.size ≤ id.index ∧ fault = .indexOutOfBounds arena.size id.index := by
  rw [← get_eq_error_iff]
  unfold modify get
  cases arena.get? id with
  | none => simp
  | some item => simp

theorem overwrite_eq_ok_iff {id : ScopeId} {item : α} :
    (arena.modify id fun _ => item) = .ok after ↔
      id.index < arena.size ∧ after = ofList (arena.toList.set id.index item) := by
  rw [modify_eq_ok_iff]
  constructor
  · rintro ⟨old, found, rfl⟩
    exact ⟨(List.getElem?_eq_some_iff.1 found).1, rfl⟩
  · rintro ⟨inside, rfl⟩
    exact ⟨_, List.getElem?_eq_getElem inside, rfl⟩

/-- What is read back from a position is what was just written to it. -/
theorem run_set (index : Nat) (item : α) (arena : Arena α) :
    (Step.set index item).perform.run arena =
      match scopeIdOf index with
      | .ok id =>
          match arena.modify id fun _ => item with
          | .ok after => .ok (.item item) after
          | .error fault => .error fault arena
      | .error fault => .error fault arena := by
  rw [Step.perform, Procedure.run_expect_bind]
  cases scopeIdOf index with
  | error fault => rfl
  | ok id =>
      dsimp only
      rw [EStateM.run_bind, Procedure.run_set]
      cases written : arena.modify id fun _ => item with
      | error fault => rfl
      | ok after =>
          obtain ⟨inside, rfl⟩ := overwrite_eq_ok_iff.1 written
          have back : (ofList (arena.toList.set id.index item)).get id = .ok item :=
            get_eq_ok_iff.2 (List.getElem?_set_self inside)
          dsimp only
          rw [Procedure.run_get_bind, back]
          rfl

theorem perform_eq_ok_iff {step : Step α} {reply : Reply α} :
    step.perform.run arena = .ok reply after ↔ Effect arena step reply after := by
  cases step with
  | load items =>
      rw [run_load, Effect, EStateM.Result.ok.injEq, eq_comm, @eq_comm _ _ after, and_comm]
  | push item =>
      have effect : Effect arena (.push item) reply after ↔
          ∃ id, arena.push item = .ok (id, after) ∧ reply = .id id := by
        simp only [Effect, push_eq_ok_iff, and_assoc]
      rw [run_push, effect]
      cases arena.push item with
      | error fault => simp
      | ok result => grind
  | nextId =>
      have effect : Effect arena .nextId reply after ↔
          ∃ id, arena.nextId = .ok id ∧ after = arena ∧ reply = .id id := by
        simp only [Effect, nextId_eq_ok_iff]
      rw [run_nextId, effect]
      cases arena.nextId with
      | error fault => simp
      | ok id => grind
  | get index =>
      have effect : Effect arena (.get index) reply after ↔
          ∃ id item, scopeIdOf index = .ok id ∧ arena.get id = .ok item ∧ after = arena ∧
            reply = .item item := by
        simp only [Effect, scopeIdOf_eq_ok_iff, get_eq_ok_iff]
        grind
      rw [run_get, effect]
      cases scopeIdOf index with
      | error fault => simp
      | ok id => cases arena.get id <;> grind
  | set index item =>
      have effect : Effect arena (.set index item) reply after ↔
          ∃ id, scopeIdOf index = .ok id ∧ (arena.modify id fun _ => item) = .ok after ∧
            reply = .item item := by
        simp only [Effect, scopeIdOf_eq_ok_iff, overwrite_eq_ok_iff]
        grind
      rw [run_set, effect]
      cases scopeIdOf index with
      | error fault => simp
      | ok id => cases arena.modify id fun _ => item <;> grind

theorem perform_eq_error_iff {step : Step α} {fault : Fault} :
    step.perform.run arena = .error fault after ↔ Refusal arena step fault ∧ after = arena := by
  cases step with
  | load items =>
      simp [run_load, Refusal]
  | push item =>
      rw [run_push, Refusal, ← @push_eq_error_iff α arena item]
      cases arena.push item with
      | error refused => simp [eq_comm]
      | ok result => simp
  | nextId =>
      rw [run_nextId, Refusal, ← nextId_eq_error_iff]
      cases arena.nextId with
      | error refused => simp [eq_comm]
      | ok id => simp
  | get index =>
      have refusal : Refusal arena (.get index) fault ↔
          scopeIdOf index = .error fault ∨
            ∃ id, scopeIdOf index = .ok id ∧ arena.get id = .error fault := by
        simp only [Refusal, scopeIdOf_eq_error_iff, scopeIdOf_eq_ok_iff, get_eq_error_iff]
        grind
      rw [run_get, refusal]
      cases scopeIdOf index with
      | error refused => simp [eq_comm]
      | ok id => cases arena.get id <;> grind
  | set index item =>
      have refusal : Refusal arena (.set index item) fault ↔
          scopeIdOf index = .error fault ∨
            ∃ id, scopeIdOf index = .ok id ∧ (arena.modify id fun _ => item) = .error fault := by
        simp only [Refusal, scopeIdOf_eq_error_iff, scopeIdOf_eq_ok_iff, modify_eq_error_iff]
        grind
      rw [run_set, refusal]
      cases scopeIdOf index with
      | error refused => simp [eq_comm]
      | ok id => cases arena.modify id fun _ => item <;> grind

/-! ## Rows of operations -/

/-- Whether an operation replaces the arena. -/
def Step.loads : Step α → Bool
  | .load _ => true
  | _ => false

/-- Whether an operation adds an item. -/
def Step.pushes : Step α → Bool
  | .push _ => true
  | _ => false

/-- An operation and what it answered. -/
structure Event (α : Type) where
  step : Step α
  answer : Except Fault (Reply α)

/-- The record of a row of operations. -/
def events (arena : Arena α) : List (Step α) → List (Event α)
  | [] => []
  | step :: rest => ⟨step, arena.answer step⟩ :: (arena.afterStep step).events rest

theorem run_concat (arena : Arena α) (steps : List (Step α)) (step : Step α) :
    arena.run (steps ++ [step]) = (arena.run steps).afterStep step := by
  rw [run, List.foldl_append]
  rfl

theorem events_concat (arena : Arena α) (steps : List (Step α)) (step : Step α) :
    arena.events (steps ++ [step]) =
      arena.events steps ++ [⟨step, (arena.run steps).answer step⟩] := by
  induction steps generalizing arena with
  | nil => rfl
  | cons first rest ih =>
      rw [List.cons_append, events, ih, events, List.cons_append, run, run, List.foldl_cons]

namespace Event

/-- The event is a write that was carried out. -/
def Sets (event : Event α) (index : Nat) (item : α) : Prop :=
  ∃ reply, event = ⟨.set index item, .ok reply⟩

/-- The event is a push that was carried out. -/
def Pushes (event : Event α) (index : Nat) (item : α) : Prop :=
  ∃ id : ScopeId, id.index = index ∧ event = ⟨.push item, .ok (.id id)⟩

/-- The index of the identifier that a push returned. -/
def pushed? : Event α → Option Nat
  | ⟨.push _, .ok (.id id)⟩ => some id.index
  | _ => none

end Event

theorem Event.pushed?_eq_some_iff {event : Event α} {index : Nat} :
    event.pushed? = some index ↔ ∃ item, event.Pushes index item := by
  unfold Event.pushed? Event.Pushes
  split
  next item id => simp [eq_comm]
  next other =>
      refine ⟨nofun, ?_⟩
      rintro ⟨item, id, -, rfl⟩
      exact absurd rfl (other item id)

/-- What an event is to an arena: it changes nothing and is no write and no push, or it is one that
was carried out. -/
inductive Change (arena : Arena α) : Event α → Arena α → Prop
  | quiet {event : Event α} (unset : ∀ index item, ¬ event.Sets index item)
      (unpushed : ∀ index item, ¬ event.Pushes index item) : Change arena event arena
  | pushed {new : α} {id : ScopeId} (fresh : id.index = arena.size) :
      Change arena ⟨.push new, .ok (.id id)⟩ (ofList (arena.toList ++ [new]))
  | set {position : Nat} {new : α} {reply : Reply α} (inside : position < arena.size) :
      Change arena ⟨.set position new, .ok reply⟩ (ofList (arena.toList.set position new))

theorem change (arena : Arena α) {step : Step α} (keeps : step.loads = false) :
    Change arena ⟨step, arena.answer step⟩ (arena.afterStep step) := by
  unfold answer afterStep
  cases result : step.perform.run arena with
  | error fault after =>
      obtain ⟨-, rfl⟩ := perform_eq_error_iff.1 result
      exact .quiet (by simp [Event.Sets]) (by simp [Event.Pushes])
  | ok reply after =>
      have effect := perform_eq_ok_iff.1 result
      cases step with
      | load items => cases keeps
      | push new =>
          obtain ⟨id, fresh, rfl, rfl⟩ := effect
          exact .pushed fresh
      | nextId =>
          obtain ⟨id, -, rfl, rfl⟩ := effect
          exact .quiet (by simp [Event.Sets]) (by simp [Event.Pushes])
      | get position =>
          obtain ⟨id, item, -, -, rfl, rfl⟩ := effect
          exact .quiet (by simp [Event.Sets]) (by simp [Event.Pushes])
      | set position new =>
          obtain ⟨id, -, inside, rfl, rfl⟩ := effect
          exact .set inside

/-- No write to a position was carried out. -/
def NeverSet (events : List (Event α)) (index : Nat) : Prop :=
  ∀ event ∈ events, ∀ item, ¬ event.Sets index item

/-- By the record of a run, `item` stands at `index`: it was last set there, or nothing was set
there and it was pushed there or stood there from the beginning. -/
inductive Holds (initial : List α) (events : List (Event α)) (index : Nat) (item : α) : Prop
  | set {before later : List (Event α)} {event : Event α}
      (split : events = before ++ event :: later) (sets : event.Sets index item)
      (last : NeverSet later index)
  | pushed {event : Event α} (happened : event ∈ events) (pushes : event.Pushes index item)
      (never : NeverSet events index)
  | placed (placed : initial[index]? = some item) (never : NeverSet events index)

section

variable {initial : List α} {events : List (Event α)} {event : Event α} {index : Nat} {item : α}

theorem neverSet_concat_iff :
    NeverSet (events ++ [event]) index ↔
      NeverSet events index ∧ ∀ other, ¬ event.Sets index other := by
  rw [NeverSet, List.forall_mem_append, List.forall_mem_singleton]
  rfl

/-- An event of a row with one more behind it is that one, or one of the row. -/
theorem split_concat {first later : List (Event α)} {other : Event α}
    (split : events ++ [event] = first ++ other :: later) :
    (first = events ∧ other = event ∧ later = []) ∨
      ∃ between, later = between ++ [event] ∧ events = first ++ other :: between := by
  rcases List.eq_nil_or_concat' later with rfl | ⟨between, final, rfl⟩
  · obtain ⟨rfl, same⟩ := List.append_inj' split rfl
    exact .inl ⟨rfl, (List.singleton_inj.1 same).symm, rfl⟩
  · rw [← List.cons_append, ← List.append_assoc] at split
    obtain ⟨rfl, same⟩ := List.append_inj' split rfl
    rw [List.singleton_inj.1 same]
    exact .inr ⟨between, rfl, rfl⟩

/-- What one more event changes: a write decides what stands at its position, a push where nothing
was set, and everything else stays. -/
theorem holds_concat_iff :
    Holds initial (events ++ [event]) index item ↔
      event.Sets index item ∨ (∀ other, ¬ event.Sets index other) ∧
        (Holds initial events index item ∨ event.Pushes index item ∧ NeverSet events index) := by
  constructor
  · rintro (@⟨first, later, _, split, sets, last⟩ | ⟨happened, pushes, never⟩ | ⟨placed, never⟩)
    · rcases split_concat split with ⟨-, rfl, rfl⟩ | ⟨between, rfl, rfl⟩
      · exact .inl sets
      · obtain ⟨last, other⟩ := neverSet_concat_iff.1 last
        exact .inr ⟨other, .inl (.set rfl sets last)⟩
    · obtain ⟨before, other⟩ := neverSet_concat_iff.1 never
      rcases List.mem_append.1 happened with happened | happened
      · exact .inr ⟨other, .inl (.pushed happened pushes before)⟩
      · rw [List.mem_singleton.1 happened] at pushes
        exact .inr ⟨other, .inr ⟨pushes, before⟩⟩
    · obtain ⟨before, other⟩ := neverSet_concat_iff.1 never
      exact .inr ⟨other, .inl (.placed placed before)⟩
  · rintro (sets | ⟨other, holds | ⟨pushes, never⟩⟩)
    · exact .set rfl sets (by simp [NeverSet])
    · cases holds with
      | set split sets last =>
          subst split
          exact .set (List.append_assoc _ _ _) sets (neverSet_concat_iff.2 ⟨last, other⟩)
      | pushed happened pushes never =>
          exact .pushed (List.mem_append_left _ happened) pushes
            (neverSet_concat_iff.2 ⟨never, other⟩)
      | placed placed never => exact .placed placed (neverSet_concat_iff.2 ⟨never, other⟩)
    · exact .pushed List.mem_concat_self pushes (neverSet_concat_iff.2 ⟨never, other⟩)

theorem holds_concat_of_other (others : ∀ other, ¬ event.Sets index other)
    (fresh : ¬ event.Pushes index item) :
    Holds initial (events ++ [event]) index item ↔ Holds initial events index item := by
  rw [holds_concat_iff]
  simp [others, fresh]

/-- Where something was set, something stands. -/
theorem exists_holds_of_set (set : ¬ NeverSet events index) :
    ∃ item, Holds initial events index item := by
  induction events using List.reverseRecOn with
  | nil => simp [NeverSet] at set
  | append_singleton events event ih =>
      by_cases here : ∃ item, event.Sets index item
      · obtain ⟨item, sets⟩ := here
        exact ⟨item, holds_concat_iff.2 (.inl sets)⟩
      · rw [not_exists] at here
        obtain ⟨item, holds⟩ := ih fun never => set (neverSet_concat_iff.2 ⟨never, here⟩)
        exact ⟨item, holds_concat_iff.2 (.inr ⟨here, .inl holds⟩)⟩

end

theorem getElem?_concat_of_ne {items : List α} {item : α} {index : Nat}
    (other : index ≠ items.length) : (items ++ [item])[index]? = items[index]? := by
  rcases Nat.lt_or_gt_of_ne other with inside | outside
  · exact List.getElem?_append_left inside
  · have beyond : (items ++ [item]).length ≤ index := by
      rw [List.length_append, List.length_singleton]
      exact outside
    rw [List.getElem?_eq_none beyond, List.getElem?_eq_none (Nat.le_of_lt outside)]

section

variable {initial : List α} {events : List (Event α)} {event : Event α}

/-- One more event keeps the items where the record says that they stand. -/
theorem Change.stands (change : Change arena event after)
    (stands : ∀ index item, arena.toList[index]? = some item ↔ Holds initial events index item)
    (index : Nat) (item : α) :
    after.toList[index]? = some item ↔ Holds initial (events ++ [event]) index item := by
  cases change with
  | quiet unset unpushed =>
      rw [stands, holds_concat_of_other (unset index) (unpushed index item)]
  | @pushed new id fresh =>
      rw [toList_ofList]
      by_cases here : index = arena.toList.length
      · -- nothing was ever set where nothing stands yet
        have empty (other : α) : ¬ Holds initial events index other := by
          rw [← stands, here, List.getElem?_length]
          exact nofun
        have never : NeverSet events index :=
          not_not.1 fun set => (exists_holds_of_set set).elim empty
        have pushed : id.index = index := fresh.trans here.symm
        rw [holds_concat_iff, here, List.getElem?_concat_length, ← here]
        simp [Event.Sets, Event.Pushes, empty, never, pushed]
      · have elsewhere : id.index ≠ index := fun same => here (same.symm.trans fresh)
        rw [holds_concat_of_other (by simp [Event.Sets]) (by simp [Event.Pushes, elsewhere]),
          ← stands, getElem?_concat_of_ne here]
  | @set position new reply inside =>
      rw [toList_ofList]
      by_cases here : position = index
      · subst here
        rw [List.getElem?_set_self (l := arena.toList) inside, holds_concat_iff]
        simp [Event.Sets, eq_comm]
      · rw [List.getElem?_set_ne here, stands,
          holds_concat_of_other (by simp [Event.Sets, here]) (by simp [Event.Pushes])]

/-- One more event returns the identifier that is next, if it is a push that is carried out. -/
theorem Change.consecutive (change : Change arena event after) {count : Nat}
    (size : arena.size = initial.length + count)
    (consecutive : events.filterMap Event.pushed? = List.range' initial.length count) :
    ∃ count, after.size = initial.length + count ∧
      (events ++ [event]).filterMap Event.pushed? = List.range' initial.length count := by
  rw [List.filterMap_append, consecutive]
  cases change with
  | quiet _ unpushed =>
      have nothing : event.pushed? = none := by
        rw [Option.eq_none_iff_forall_ne_some]
        intro index pushed
        obtain ⟨item, pushes⟩ := Event.pushed?_eq_some_iff.1 pushed
        exact unpushed index item pushes
      exact ⟨count, size, by simp [nothing]⟩
  | pushed fresh =>
      refine ⟨count + 1, ?_, ?_⟩
      · rw [size_ofList, List.length_append, length_toList, size]
        rfl
      · rw [List.range'_1_concat, ← size, ← fresh]
        rfl
  | set inside =>
      refine ⟨count, ?_, by simp [Event.pushed?]⟩
      rw [size_ofList, List.length_set, length_toList, size]

theorem Change.size_eq (change : Change arena event after) (adds : event.step.pushes = false) :
    after.size = arena.size := by
  cases change with
  | quiet _ _ => rfl
  | pushed _ => cases adds
  | set _ => rw [size_ofList, List.length_set, length_toList]

end

section

variable {initial : List α} {steps : List (Step α)}

/-- An item stands where the record says that it was last set, or else pushed or placed. -/
theorem getElem?_run_iff (keeps : ∀ step ∈ steps, step.loads = false)
    (index : Nat) (item : α) :
    ((ofList initial).run steps).toList[index]? = some item ↔
      Holds initial ((ofList initial).events steps) index item := by
  induction steps using List.reverseRecOn generalizing index item with
  | nil =>
      have never : NeverSet ([] : List (Event α)) index := by simp [NeverSet]
      refine ⟨fun placed => .placed placed never, fun holds => ?_⟩
      cases holds with
      | set split _ _ => simp [Arena.events] at split
      | pushed happened _ _ => simp [Arena.events] at happened
      | placed placed _ => exact placed
  | append_singleton steps step ih =>
      obtain ⟨before, last⟩ := List.forall_mem_append.1 keeps
      rw [run_concat, events_concat]
      exact (change _ (last step List.mem_cons_self)).stands (ih before) index item

/-- The pushes return the identifiers behind the list that the arena was made of. -/
theorem pushed_run (keeps : ∀ step ∈ steps, step.loads = false) :
    ∃ count, ((ofList initial).run steps).size = initial.length + count ∧
      ((ofList initial).events steps).filterMap Event.pushed? =
        List.range' initial.length count := by
  induction steps using List.reverseRecOn with
  | nil => exact ⟨0, rfl, rfl⟩
  | append_singleton steps step ih =>
      obtain ⟨before, last⟩ := List.forall_mem_append.1 keeps
      obtain ⟨count, size, consecutive⟩ := ih before
      rw [run_concat, events_concat]
      exact (change _ (last step List.mem_cons_self)).consecutive size consecutive

theorem size_run (others : ∀ step ∈ steps, step.loads = false ∧ step.pushes = false) :
    (arena.run steps).size = arena.size := by
  induction steps generalizing arena with
  | nil => rfl
  | cons step rest ih =>
      obtain ⟨⟨keeps, adds⟩, others⟩ := List.forall_mem_cons.1 others
      exact (ih others).trans ((change arena keeps).size_eq adds)

theorem answer_nextId (arena : Arena α) :
    arena.answer .nextId = (scopeIdOf arena.size).map .id := by
  rw [answer, run_nextId, nextId]
  cases scopeIdOf arena.size <;> rfl

/-- A push answers the identifier that is next. -/
theorem answer_push (arena : Arena α) (item : α) :
    arena.answer (.push item) = (scopeIdOf arena.size).map .id := by
  rw [answer, run_push, push, nextId]
  cases scopeIdOf arena.size <;> rfl

end

/-! ## Runs -/

/-- After every row of operations on an arena that was made of a list, loads apart, an item stands
exactly where the record of the row says that it was last set, or else pushed or placed; the pushes
that were carried out returned the identifiers behind the list in their order, one for each new
item; every further operation is carried out or refused exactly as `Effect` and `Refusal` say, and
leaves the arena as it is where it is refused; and the next push, whatever reads and writes come
before it, answers what `nextId` answers now. -/
theorem run_grows_and_keeps_items (initial : List α) {steps : List (Step α)}
    (keeps : ∀ step ∈ steps, step.loads = false) :
    (∀ index item, ((ofList initial).run steps).toList[index]? = some item ↔
        Holds initial ((ofList initial).events steps) index item) ∧
      (∃ count, ((ofList initial).run steps).size = initial.length + count ∧
        ((ofList initial).events steps).filterMap Event.pushed? =
          List.range' initial.length count) ∧
      (∀ step reply after, step.perform.run ((ofList initial).run steps) = .ok reply after ↔
        Effect ((ofList initial).run steps) step reply after) ∧
      (∀ step fault after, step.perform.run ((ofList initial).run steps) = .error fault after ↔
        Refusal ((ofList initial).run steps) step fault ∧ after = (ofList initial).run steps) ∧
      ∀ (between : List (Step α)) (item : α),
        (∀ step ∈ between, step.loads = false ∧ step.pushes = false) →
          (((ofList initial).run steps).run between).answer (.push item) =
            ((ofList initial).run steps).answer .nextId := by
  refine ⟨getElem?_run_iff keeps, pushed_run keeps, fun _ _ _ => perform_eq_ok_iff,
    fun _ _ _ => perform_eq_error_iff, fun between item others => ?_⟩
  rw [answer_push, answer_nextId, size_run others]

/-- Pushes among reads and writes, some of which are outside the arena. -/
def mixedSteps : List (Step Nat) :=
  [.push 30, .set 0 11, .get 7, .set 9 1, .push 40, .nextId, .set 2 33]

theorem run_grows_by_mixedSteps :
    (∀ step ∈ mixedSteps, step.loads = false) ∧
      Holds [10, 20] ((ofList [10, 20]).events mixedSteps) 2 33 ∧
      ((ofList [10, 20]).events mixedSteps).filterMap Event.pushed? = [2, 3] ∧
      (((ofList [10, 20]).run mixedSteps).run [.set 1 21, .get 4]).answer (.push 50) =
        ((ofList [10, 20]).run mixedSteps).answer .nextId := by
  have keeps : ∀ step ∈ mixedSteps, step.loads = false := by decide
  obtain ⟨stands, ⟨count, size, consecutive⟩, -, -, foretold⟩ :=
    run_grows_and_keeps_items [10, 20] keeps
  have four : ((ofList [10, 20]).run mixedSteps).size = 4 := by decide +kernel
  rw [four, List.length_cons, List.length_cons, List.length_nil] at size
  obtain rfl : count = 2 := by omega
  exact ⟨keeps, (stands 2 33).1 (by decide +kernel), consecutive, foretold _ 50 (by decide)⟩

end ShadowLint.Scope.Arena
