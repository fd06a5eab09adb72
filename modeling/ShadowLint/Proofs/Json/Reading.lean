import Mathlib.Data.List.Forall2
import Mathlib.Logic.Equiv.Defs
import ShadowLint.Proofs.Json.Parsing
import ShadowLint.Proofs.Outcome

/-!
# What readers find in values

A `Meaning` says which values stand for what, by their content alone.  `Realizes` ties a reader
to a meaning: on the tree of a value it succeeds exactly where the value has the meaning, and
with what the value stands for.

For records the meaning goes through `Fields`, the content of each field: the one member of that
name in an object, or the item at that place in an array.  A reader instead takes the members
from left to right and fills slots.  `foldMembers_eq_ok_iff` and `run_fills_iff` bridge the two,
for any record whose slots are filled independently of each other.
-/

namespace ShadowLint.Json

variable {α β σ τ : Type}

/-- Which values stand for what. -/
abbrev Meaning (α : Type) := Value → α → Prop

/-- A reader succeeds exactly on the values that have a meaning, and finds it. -/
def Realizes (reader : Reader α) (meaning : Meaning α) : Prop :=
  ∀ value result, reader value.doc = .ok result ↔ meaning value result

/-- What a reader can find is the only thing that a value stands for. -/
theorem Realizes.rightUnique {reader : Reader α} {meaning : Meaning α}
    (realizes : Realizes reader meaning) : Relator.RightUnique meaning := by
  intro value one other first second
  have readFirst := (realizes value one).2 first
  have readSecond := (realizes value other).2 second
  exact Except.ok.inj (readFirst.symm.trans readSecond)

/-! ## Single values and arrays -/

/-- A string stands for its text. -/
inductive MeansText : Meaning String
  | mk {text : String} : MeansText (.string text) text

/-- A number of 32 bits is written without a sign, a fraction and a power of ten. -/
inductive MeansNatural32 : Meaning UInt32
  | mk {digits : List Char} {n : UInt32} : ofDigits digits = n.toNat →
      MeansNatural32 (.number ⟨false, digits, [], none⟩) n

/-- Null stands for nothing, and other values for what they stand for anyway. -/
inductive MeansNullable (meaning : Meaning α) : Meaning (Option α)
  | null : MeansNullable meaning .null none
  | some {value : Value} {result : α} : value ≠ .null → meaning value result →
      MeansNullable meaning value (some result)

theorem MeansNullable.rightUnique {meaning : Meaning α} (unique : Relator.RightUnique meaning) :
    Relator.RightUnique (MeansNullable meaning) := by
  intro value one other first second
  cases first with
  | null =>
      cases second with
      | null => rfl
      | some notNull _ => exact absurd rfl notNull
  | some notNull means =>
      cases second with
      | null => exact absurd rfl notNull
      | some _ meansToo => rw [unique means meansToo]

/-- An array stands for the list of what its items stand for. -/
inductive MeansList (meaning : Meaning α) : Meaning (List α)
  | mk {items : List Value} {results : List α} : List.Forall₂ meaning items results →
      MeansList meaning (.array items) results

theorem realizes_string : Realizes string MeansText := by
  intro value result
  constructor
  · intro read
    cases value with
    | string text => cases read; exact .mk
    | null | bool _ | number _ | array _ | object _ => cases read
  · rintro ⟨⟩
    rfl

/-! ### Integers -/

theorem float?_ne_integer (numeral : Numeral) (value : Int) :
    numeral.float? ≠ some (.integer value) := by
  intro found
  obtain ⟨x, _, same⟩ := Option.map_eq_some_iff.1 found
  cases same

/-- Which numerals are integers without a sign: those beyond 64 bits count as floating-point
numbers, as minus zero does, and the other numerals with a sign are negative. -/
theorem value?_eq_natural_iff {numeral : Numeral} {n : Nat} :
    numeral.value? = some (.integer n) ↔
      numeral.isWhole = true ∧ numeral.negative = false ∧ ofDigits numeral.whole = n ∧
        n < Nat.pow 2 64 := by
  unfold Numeral.value?
  by_cases whole : numeral.isWhole = true
  · rw [if_pos whole]
    dsimp only
    cases negative : numeral.negative with
    | true =>
        rw [if_pos rfl]
        simp only [reduceCtorEq, false_and, and_false, iff_false]
        split
        · next inside =>
            intro same
            have same : -(ofDigits numeral.whole : Int) = n :=
              NumberValue.integer.inj (Option.some.inj same)
            have positive : 0 < ofDigits numeral.whole := by
              simpa using (Bool.and_eq_true_iff.1 inside).1
            omega
        · exact float?_ne_integer numeral n
    | false =>
        rw [if_neg Bool.false_ne_true]
        split
        · next small =>
            rw [Option.some.injEq, NumberValue.integer.injEq, Int.natCast_inj]
            constructor
            · rintro rfl
              exact ⟨whole, rfl, rfl, small⟩
            · rintro ⟨-, -, same, -⟩
              exact same
        · next large =>
            constructor
            · intro found
              exact absurd found (float?_ne_integer numeral n)
            · rintro ⟨-, -, rfl, small⟩
              exact absurd small large
  · rw [if_neg whole]
    constructor
    · intro found
      exact absurd found (float?_ne_integer numeral n)
    · rintro ⟨isWhole, -⟩
      exact absurd isWhole whole

theorem natural32_eq_ok_iff {numeral : Numeral} {n : UInt32} :
    natural32 (.number numeral) = .ok n ↔ numeral.value? = some (.integer n.toNat) := by
  have limit := n.toNat_lt
  unfold natural32
  dsimp only
  cases numeral.value? with
  | none => simp
  | some value =>
      cases value with
      | float x => simp
      | integer value =>
          dsimp only
          by_cases inside : 0 ≤ value ∧ value < 4294967296
          · -- within 32 bits nothing is cut off
            obtain ⟨m, rfl⟩ := Int.eq_ofNat_of_zero_le inside.1
            have small : m < UInt32.size := by
              have := inside.2
              change m < 4294967296
              omega
            rw [if_pos inside, Except.ok.injEq, Option.some.injEq, NumberValue.integer.injEq,
              ← UInt32.toNat_inj, Int.toNat_natCast, Int.natCast_inj,
              show m.toUInt32.toNat = m from UInt32.toNat_ofNat_of_lt small]
          · rw [if_neg inside]
            simp only [reduceCtorEq, false_iff, Option.some.injEq, NumberValue.integer.injEq]
            omega

/-- A number counts as an integer of 32 bits only where it is written as one. -/
theorem realizes_natural32 : Realizes natural32 MeansNatural32 := by
  intro value result
  have limit := result.toNat_lt
  cases value with
  | number numeral =>
      rw [Value.doc, natural32_eq_ok_iff, value?_eq_natural_iff]
      constructor
      · rintro ⟨whole, positive, same, -⟩
        obtain ⟨negative, digits, fraction, exponent⟩ := numeral
        obtain ⟨rfl, rfl⟩ : fraction = [] ∧ exponent = none := by
          simpa [Numeral.isWhole] using whole
        cases positive
        exact .mk same
      · rintro ⟨same⟩
        exact ⟨rfl, rfl, same, Nat.lt_of_lt_of_le limit (by decide)⟩
  | null | bool _ | string _ | array _ | object _ =>
      constructor
      · intro read
        cases read
      · intro means
        cases means

theorem realizes_nullable {reader : Reader α} {meaning : Meaning α}
    (realizes : Realizes reader meaning) : Realizes (nullable reader) (MeansNullable meaning) := by
  intro value result
  by_cases isNull : value = .null
  · subst isNull
    constructor
    · intro read
      cases read
      exact .null
    · intro means
      cases means with
      | null => rfl
      | some notNull _ => exact absurd rfl notNull
  · have skipped : nullable reader value.doc = (reader value.doc).map some := by
      cases value with
      | null => exact absurd rfl isNull
      | bool _ | number _ | string _ | array _ | object _ => rfl
    rw [skipped, Outcome.map_eq_ok_iff]
    constructor
    · rintro ⟨content, read, rfl⟩
      exact .some isNull ((realizes value content).1 read)
    · intro means
      cases means with
      | null => exact absurd rfl isNull
      | some _ means => exact ⟨_, (realizes _ _).2 means, rfl⟩

theorem items_eq_ok_iff {reader : Reader α} {meaning : Meaning α}
    (realizes : Realizes reader meaning) {values : List Value} {results : List α} :
    items reader (itemDocs values) = .ok results ↔ List.Forall₂ meaning values results := by
  induction values generalizing results with
  | nil =>
      rw [List.forall₂_nil_left_iff, itemDocs, items, Except.ok.injEq, eq_comm]
  | cons head rest ih =>
      rw [List.forall₂_cons_left_iff, itemDocs, items, Outcome.bind_eq_ok_iff]
      constructor
      · rintro ⟨first, read, others⟩
        obtain ⟨tail, readTail, same⟩ := Outcome.bind_eq_ok_iff.1 others
        exact ⟨first, tail, (realizes _ _).1 read, ih.1 readTail, (Except.ok.inj same).symm⟩
      · rintro ⟨first, tail, means, meansTail, rfl⟩
        exact ⟨first, (realizes _ _).2 means,
          Outcome.bind_eq_ok_iff.2 ⟨tail, ih.2 meansTail, rfl⟩⟩

theorem realizes_list {reader : Reader α} {meaning : Meaning α}
    (realizes : Realizes reader meaning) : Realizes (list reader) (MeansList meaning) := by
  intro value results
  cases value with
  | array values =>
      rw [Value.doc, list, items_eq_ok_iff realizes]
      constructor
      · exact .mk
      · rintro ⟨all⟩
        exact all
  | null | bool _ | number _ | string _ | object _ =>
      constructor
      · intro read
        cases read
      · intro means
        cases means

/-! ## Fields of records -/

/-- The values of the members that have a given name. -/
def under (name : String) (members : List (String × Value)) : List Value :=
  (members.filter fun member => member.1 = name).map Prod.snd

theorem under_cons (name : String) (member : String × Value) (members : List (String × Value)) :
    under name (member :: members) =
      if member.1 = name then member.2 :: under name members else under name members := by
  unfold under
  by_cases same : member.1 = name
  · simp [same]
  · simp [same]

/-- A value is a record, and this is what stands in its fields.  In an object it is the one
member of that name, in an array the item at that place; other members do not count, and there
are no other items. -/
def Fields (names : List String) : Value → List (Option Value) → Prop
  | .object members, contents =>
      List.Forall₂ (fun name content => under name members = content.toList) names contents
  | .array items, contents =>
      items.length ≤ names.length ∧ contents = (List.range names.length).map fun i => items[i]?
  | _, _ => False

/-- What a field stands for: what its content does, or a default where it has none. -/
inductive Holds (meaning : Meaning α) (default : Option α) : Option Value → α → Prop
  | given {value : Value} {result : α} : meaning value result →
      Holds meaning default (some value) result
  | absent {result : α} : default = some result → Holds meaning default none result

theorem option_toList_injective {a b : Option α} (same : a.toList = b.toList) : a = b := by
  cases a with
  | none => cases b with
    | none => rfl
    | some b => cases same
  | some a => cases b with
    | none => cases same
    | some b => cases same; rfl

/-- A record has one content for each field. -/
theorem Fields.unique {names : List String} {value : Value} {contents others : List (Option Value)}
    (first : Fields names value contents) (second : Fields names value others) :
    contents = others := by
  cases value with
  | object members =>
      change List.Forall₂ _ names contents at first
      change List.Forall₂ _ names others at second
      induction first generalizing others with
      | nil => cases second; rfl
      | cons same _ ih =>
          cases second with
          | cons sameOther rest =>
              rw [option_toList_injective (same.symm.trans sameOther), ih rest]
  | array items => rw [first.2, second.2]
  | null | bool _ | number _ | string _ => cases first

/-! ### Fields of arrays -/

theorem fields_array_nil {items : List Value} {contents : List (Option Value)} :
    Fields [] (.array items) contents ↔ items = [] ∧ contents = [] := by
  change items.length ≤ 0 ∧ contents = [] ↔ _
  rw [Nat.le_zero, List.length_eq_zero_iff]

theorem fields_array_cons {name : String} {names : List String} {items : List Value}
    {content : Option Value} {contents : List (Option Value)} :
    Fields (name :: names) (.array items) (content :: contents) ↔
      content = items.head? ∧ Fields names (.array items.tail) contents := by
  change items.length ≤ names.length + 1 ∧
    content :: contents = (List.range (names.length + 1)).map (fun i => items[i]?) ↔
      content = items.head? ∧ items.tail.length ≤ names.length ∧
        contents = (List.range names.length).map fun i => items.tail[i]?
  have shifted : (List.range (names.length + 1)).map (fun i => items[i]?) =
      items.head? :: (List.range names.length).map fun i => items.tail[i]? := by
    rw [List.range_succ_eq_map, List.map_cons, List.map_map, List.head?_eq_getElem?]
    simp only [Function.comp_def, List.getElem?_tail]
  rw [shifted, List.cons.injEq, List.length_tail]
  have lengths : items.length ≤ names.length + 1 ↔ items.length - 1 ≤ names.length := by omega
  rw [lengths]
  exact and_left_comm

theorem nextItem_bind_eq_ok_iff {reader : Reader α} {meaning : Meaning α}
    (realizes : Realizes reader meaning) {absent : Except Problem α} {values : List Value}
    {next : α × Items → Except Problem β} {result : β} :
    nextItem reader absent (itemDocs values) >>= next = .ok result ↔
      ∃ a, Holds meaning absent.toOption values.head? a ∧
        next (a, itemDocs values.tail) = .ok result := by
  have toOption (a : α) : absent = .ok a ↔ absent.toOption = some a := by
    cases absent with
    | error problem => simp [Except.toOption]
    | ok content => simp [Except.toOption]
  rw [Outcome.bind_eq_ok_iff]
  cases values with
  | nil =>
      rw [itemDocs, nextItem]
      constructor
      · rintro ⟨found, made, goesOn⟩
        obtain ⟨a, taken, rfl⟩ := Outcome.map_eq_ok_iff.1 made
        exact ⟨a, .absent ((toOption a).1 taken), goesOn⟩
      · rintro ⟨a, holds, goesOn⟩
        cases holds with
        | absent isDefault =>
            exact ⟨_, Outcome.map_eq_ok_iff.2 ⟨a, (toOption a).2 isDefault, rfl⟩, goesOn⟩
  | cons head rest =>
      rw [itemDocs, nextItem]
      constructor
      · rintro ⟨found, made, goesOn⟩
        obtain ⟨a, read, rfl⟩ := Outcome.map_eq_ok_iff.1 made
        exact ⟨a, .given ((realizes head a).1 read), goesOn⟩
      · rintro ⟨a, holds, goesOn⟩
        cases holds with
        | given means =>
            exact ⟨_, Outcome.map_eq_ok_iff.2 ⟨a, (realizes head a).2 means, rfl⟩, goesOn⟩

theorem lastItem_bind_eq_ok_iff {values : List Value} {next : Unit → Except Problem β}
    {result : β} :
    lastItem (itemDocs values) >>= next = .ok result ↔ values = [] ∧ next () = .ok result := by
  cases values with
  | nil => exact (and_iff_right rfl).symm
  | cons head rest =>
      constructor
      · intro read
        cases read
      · rintro ⟨none, _⟩
        cases none

/-! ### Fields of objects -/

/-- What a member does to the slot of a field: one of that name fills it, if it is still empty. -/
def Fills (meaning : Meaning α) (name : String) (slot : Option α) (key : String) (value : Value)
    (after : Option α) : Prop :=
  if key = name then slot = none ∧ ∃ a, meaning value a ∧ after = some a else after = slot

theorem fill_eq_ok_iff {reader : Reader α} {meaning : Meaning α}
    (realizes : Realizes reader meaning) {name : String} {slot after : Option α} {value : Value} :
    fill name slot reader value.doc = .ok after ↔
      slot = none ∧ ∃ a, meaning value a ∧ after = some a := by
  cases slot with
  | some old =>
      constructor
      · intro read
        cases read
      · rintro ⟨empty, _⟩
        cases empty
  | none =>
      rw [fill, Outcome.map_eq_ok_iff]
      constructor
      · rintro ⟨a, read, rfl⟩
        exact ⟨rfl, a, (realizes _ _).1 read, rfl⟩
      · rintro ⟨_, a, means, rfl⟩
        exact ⟨a, (realizes _ _).2 means, rfl⟩

theorem fill_bind_eq_ok_iff {reader : Reader α} {meaning : Meaning α}
    (realizes : Realizes reader meaning) {name : String} {slot : Option α} {value : Value}
    {next : Option α → Except Problem β} {result : β} :
    fill name slot reader value.doc >>= next = .ok result ↔
      ∃ after, Fills meaning name slot name value after ∧ next after = .ok result := by
  simp only [Outcome.bind_eq_ok_iff, fill_eq_ok_iff realizes, Fills, if_true]

theorem fills_other {meaning : Meaning α} {name key : String} (other : key ≠ name)
    {slot after : Option α} {value : Value} :
    Fills meaning name slot key value after ↔ slot = after := by
  rw [Fills, if_neg other, eq_comm]

/-- The states that lead from one to the next along the members of an object. -/
inductive Run (step : σ → String → Value → σ → Prop) : σ → List (String × Value) → σ → Prop
  | nil {s : σ} : Run step s [] s
  | cons {s next after : σ} {key : String} {value : Value} {members : List (String × Value)} :
      step s key value next → Run step next members after →
      Run step s ((key, value) :: members) after

/-- Two steps side by side. -/
def Both (one : σ → String → Value → σ → Prop) (other : τ → String → Value → τ → Prop)
    (s : σ × τ) (key : String) (value : Value) (after : σ × τ) : Prop :=
  one s.1 key value after.1 ∧ other s.2 key value after.2

theorem run_both_iff {one : σ → String → Value → σ → Prop} {other : τ → String → Value → τ → Prop}
    {s after : σ × τ} {members : List (String × Value)} :
    Run (Both one other) s members after ↔
      Run one s.1 members after.1 ∧ Run other s.2 members after.2 := by
  constructor
  · intro run
    induction run with
    | nil => exact ⟨.nil, .nil⟩
    | cons step _ ih => exact ⟨.cons step.1 ih.1, .cons step.2 ih.2⟩
  · rintro ⟨first, second⟩
    obtain ⟨sOne, sOther⟩ := s
    obtain ⟨afterOne, afterOther⟩ := after
    dsimp only at first second
    induction first generalizing sOther with
    | nil => cases second; exact .nil
    | cons step _ ih =>
        cases second with
        | cons stepOther rest => exact .cons ⟨step, stepOther⟩ (ih _ rest)

/-- A reader that hands the members of an object to a step is a run of what the step does.  The
slots are looked at through `view`, which shows all of them. -/
theorem foldMembers_eq_ok_iff {slots : Type} {step : slots → String → Doc → Except Problem slots}
    {does : σ → String → Value → σ → Prop} (view : slots ≃ σ)
    (step_iff : ∀ before key value after,
      step before key value.doc = .ok after ↔ does (view before) key value (view after))
    {before after : slots} {members : List (String × Value)} :
    foldMembers step before (memberDocs members) = .ok after ↔
      Run does (view before) members (view after) := by
  -- each member changes the slots that the rest starts from
  induction members generalizing before with
  | nil =>
      rw [memberDocs, foldMembers, Except.ok.injEq]
      constructor
      · rintro rfl
        exact .nil
      · intro run
        generalize start : view before = s at run
        generalize stop : view after = s' at run
        cases run
        exact view.injective (start.trans stop.symm)
  | cons member rest ih =>
      obtain ⟨key, value⟩ := member
      rw [memberDocs, foldMembers, Outcome.bind_eq_ok_iff]
      constructor
      · rintro ⟨next, stepped, goesOn⟩
        exact .cons ((step_iff _ _ _ _).1 stepped) (ih.1 goesOn)
      · intro run
        cases run with
        | cons stepped goesOn =>
            rename_i s
            obtain ⟨next, rfl⟩ := view.surjective s
            exact ⟨next, (step_iff _ _ _ _).2 stepped, ih.2 goesOn⟩

theorem run_fills {meaning : Meaning α} {name : String} {slot after : Option α}
    {members : List (String × Value)} :
    Run (Fills meaning name) slot members after ↔
      under name members = [] ∧ after = slot ∨
      slot = none ∧ ∃ value a, under name members = [value] ∧ meaning value a ∧
        after = some a := by
  induction members generalizing slot with
  | nil =>
      constructor
      · intro run
        cases run
        exact .inl ⟨rfl, rfl⟩
      · rintro (⟨_, rfl⟩ | ⟨_, value, a, one, _⟩)
        · exact .nil
        · cases one
  | cons member rest ih =>
      obtain ⟨key, value⟩ := member
      have unfolded : Run (Fills meaning name) slot ((key, value) :: rest) after ↔
          ∃ next, Fills meaning name slot key value next ∧
            Run (Fills meaning name) next rest after := by
        constructor
        · intro run
          cases run with
          | cons step goesOn => exact ⟨_, step, goesOn⟩
        · rintro ⟨next, step, goesOn⟩
          exact .cons step goesOn
      rw [unfolded, under_cons]
      -- a member of another name leaves the slot and the list of its values as they are
      by_cases same : key = name
      · -- this member fills the slot, so no later one may
        simp only [Fills, same, if_true, ih]
        constructor
        · rintro ⟨next, ⟨rfl, a, means, rfl⟩, ⟨none, rfl⟩ | ⟨absurd, _⟩⟩
          · exact .inr ⟨rfl, value, a, by rw [none], means, rfl⟩
          · cases absurd
        · rintro (⟨none, _⟩ | ⟨rfl, v, a, one, means, rfl⟩)
          · cases none
          · obtain ⟨rfl, none⟩ := List.cons.inj one
            exact ⟨some a, ⟨rfl, a, means, rfl⟩, .inl ⟨none, rfl⟩⟩
      · simp only [Fills, same, if_false, exists_eq_left, ih]

/-- The slot of a field that was empty holds in the end what the one member of its name stands
for, and is still empty where there is no such member. -/
theorem run_fills_iff {meaning : Meaning α} {name : String} {after : Option α}
    {members : List (String × Value)} :
    Run (Fills meaning name) none members after ↔
      ∃ content, under name members = content.toList ∧ Option.Rel meaning content after := by
  rw [run_fills]
  constructor
  · rintro (⟨empty, rfl⟩ | ⟨_, value, a, one, means, rfl⟩)
    · exact ⟨none, empty, .none⟩
    · exact ⟨some value, one, .some means⟩
  · rintro ⟨content, stands, rel⟩
    cases rel with
    | none => exact .inl ⟨stands, rfl⟩
    | some means => exact .inr ⟨rfl, _, _, stands, means, rfl⟩

theorem holds_required_iff {meaning : Meaning α} {content : Option Value} {result : α} :
    Holds meaning none content result ↔ Option.Rel meaning content (some result) := by
  constructor
  · intro holds
    cases holds with
    | given means => exact .some means
    | absent none => cases none
  · intro rel
    cases rel with
    | some means => exact .given means

theorem holds_default_iff {meaning : Meaning α} {default : α} {content : Option Value}
    {result : α} :
    Holds meaning (some default) content result ↔
      ∃ slot, Option.Rel meaning content slot ∧ slot.getD default = result := by
  constructor
  · intro holds
    cases holds with
    | given means => exact ⟨_, .some means, rfl⟩
    | absent same => exact ⟨none, .none, Option.some.inj same⟩
  · rintro ⟨slot, rel, rfl⟩
    cases rel with
    | none => exact .absent rfl
    | some means => exact .given means

theorem required_eq_ok_iff {name : String} {slot : Option α} {result : α} :
    required name slot = .ok result ↔ slot = some result := by
  cases slot with
  | none => simp [required]
  | some content => simp [required]

end ShadowLint.Json
