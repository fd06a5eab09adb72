import Mathlib.Data.List.Nodup
import ShadowLint.Toml.Value

/-!
# Document trees

A document reaches its reader as a tree of values in which no table has a key twice and every
number is one (`Value.IsTree`); a number that has no value, or needs more than 128 bits, is never
handed over.  `Reordered` relates trees that differ only in the order in which the entries of
tables stand, at any depth.
-/

namespace ShadowLint.Toml

/-- A value as it is handed to a reader: the keys of a table are distinct, an integer fits into 128
bits, and a floating-point number is finite or says that it is not. -/
inductive Value.IsTree : Value → Prop
  | string (text : String) : IsTree (.string text)
  | integer {value : Int} (least : -(Nat.pow 2 127 : Int) ≤ value)
      (most : value < (Nat.pow 2 128 : Int)) : IsTree (.integer (some value))
  | float (value : Float) : IsTree (.float (some value))
  | boolean (value : Bool) : IsTree (.boolean value)
  | dateTime (value : DateTime) : IsTree (.dateTime value)
  | array {items : List Value} (each : ∀ item ∈ items, IsTree item) : IsTree (.array items)
  | table {entries : List (String × Value)} (distinct : (entries.map Prod.fst).Nodup)
      (each : ∀ entry ∈ entries, IsTree entry.2) : IsTree (.table entries)

/-- One value is the other with the entries of tables in another order. -/
inductive Reordered : Value → Value → Prop
  | refl (value : Value) : Reordered value value
  | perm {entries others : List (String × Value)} (perm : entries.Perm others) :
      Reordered (.table entries) (.table others)
  | item {item other : Value} (before after : List Value) (inside : Reordered item other) :
      Reordered (.array (before ++ item :: after)) (.array (before ++ other :: after))
  | entry {value other : Value} (before after : List (String × Value)) (key : String)
      (inside : Reordered value other) :
      Reordered (.table (before ++ (key, value) :: after))
        (.table (before ++ (key, other) :: after))
  | trans {first second third : Value} (one : Reordered first second)
      (two : Reordered second third) : Reordered first third

namespace Value.IsTree

theorem distinct_keys {entries : List (String × Value)} (tree : IsTree (.table entries)) :
    (entries.map Prod.fst).Nodup := by
  cases tree with
  | table distinct each => exact distinct

theorem entry {entries : List (String × Value)} (tree : IsTree (.table entries))
    {entry : String × Value} (member : entry ∈ entries) : IsTree entry.2 := by
  cases tree with
  | table distinct each => exact each entry member

theorem item {items : List Value} (tree : IsTree (.array items)) {item : Value}
    (member : item ∈ items) : IsTree item := by
  cases tree with
  | array each => exact each item member

/-- Any tree may stand in the place of the value of an entry. -/
theorem replace {before after : List (String × Value)} {key : String} {value other : Value}
    (tree : IsTree (.table (before ++ (key, value) :: after))) (otherTree : IsTree other) :
    IsTree (.table (before ++ (key, other) :: after)) := by
  refine .table (by simpa using tree.distinct_keys) fun entry member => ?_
  simp only [List.mem_append, List.mem_cons] at member
  rcases member with earlier | rfl | later
  · exact tree.entry (List.mem_append_left _ earlier)
  · exact otherTree
  · exact tree.entry (List.mem_append_right _ (List.mem_cons_of_mem _ later))

end Value.IsTree

/-- Whether a value holds no others. -/
def Value.IsScalar : Value → Prop
  | .array _ => False
  | .table _ => False
  | _ => True

namespace Reordered

theorem symm {value other : Value} (same : Reordered value other) : Reordered other value := by
  induction same with
  | refl value => exact .refl value
  | perm perm => exact .perm perm.symm
  | item before after _ ih => exact .item before after ih
  | entry before after key _ ih => exact .entry before after key ih
  | trans _ _ first second => exact .trans second first

/-- A value without others in it has only one order. -/
theorem eq_of_scalar {value other : Value} (same : Reordered value other)
    (scalar : value.IsScalar) : other = value := by
  induction same with
  | refl => rfl
  | perm => exact scalar.elim
  | item => exact scalar.elim
  | entry => exact scalar.elim
  | trans _ _ first second =>
      have reached := first scalar
      exact (second (reached ▸ scalar)).trans reached

/-- Every item of an array is found again, itself with its tables in another order. -/
theorem items {items : List Value} {other : Value} (same : Reordered (.array items) other) :
    ∃ others, other = .array others ∧
      ∀ item ∈ items, ∃ found ∈ others, Reordered item found := by
  generalize start : Value.array items = value at same
  induction same generalizing items with
  | refl value => exact ⟨items, start.symm, fun item member => ⟨item, member, .refl item⟩⟩
  | perm => cases start
  | entry => cases start
  | @item _ other before after inside =>
      cases start
      refine ⟨_, rfl, fun found member => ?_⟩
      simp only [List.mem_append, List.mem_cons] at member
      rcases member with earlier | rfl | later
      · exact ⟨found, by simp [earlier], .refl found⟩
      · exact ⟨other, by simp, inside⟩
      · exact ⟨found, by simp [later], .refl found⟩
  | trans _ _ first second =>
      obtain ⟨middle, rfl, toMiddle⟩ := first start
      obtain ⟨others, rfl, toOthers⟩ := second rfl
      refine ⟨others, rfl, fun item member => ?_⟩
      obtain ⟨between, inMiddle, one⟩ := toMiddle item member
      obtain ⟨found, inOthers, two⟩ := toOthers between inMiddle
      exact ⟨found, inOthers, one.trans two⟩

/-- Every entry of a table is found again under its key. -/
theorem entries {entries : List (String × Value)} {other : Value}
    (same : Reordered (.table entries) other) :
    ∃ others, other = .table others ∧ ∀ key value, (key, value) ∈ entries →
      ∃ found, (key, found) ∈ others ∧ Reordered value found := by
  generalize start : Value.table entries = value at same
  induction same generalizing entries with
  | refl value => exact ⟨entries, start.symm, fun key value member => ⟨value, member, .refl value⟩⟩
  | item => cases start
  | perm perm =>
      cases start
      exact ⟨_, rfl, fun key value member => ⟨value, perm.mem_iff.1 member, .refl value⟩⟩
  | @entry _ other before after place inside =>
      cases start
      refine ⟨_, rfl, fun key value member => ?_⟩
      simp only [List.mem_append, List.mem_cons, Prod.mk.injEq] at member
      rcases member with earlier | ⟨rfl, rfl⟩ | later
      · exact ⟨value, by simp [earlier], .refl value⟩
      · exact ⟨other, by simp, inside⟩
      · exact ⟨value, by simp [later], .refl value⟩
  | trans _ _ first second =>
      obtain ⟨middle, rfl, toMiddle⟩ := first start
      obtain ⟨others, rfl, toOthers⟩ := second rfl
      refine ⟨others, rfl, fun key value member => ?_⟩
      obtain ⟨between, inMiddle, one⟩ := toMiddle key value member
      obtain ⟨found, inOthers, two⟩ := toOthers key between inMiddle
      exact ⟨found, inOthers, one.trans two⟩

/-- A tree stays a tree. -/
theorem isTree {value other : Value} (same : Reordered value other) (tree : value.IsTree) :
    other.IsTree := by
  induction same with
  | refl => exact tree
  | perm perm =>
      refine .table ((perm.map Prod.fst).nodup_iff.1 tree.distinct_keys) fun entry member => ?_
      exact tree.entry (perm.mem_iff.2 member)
  | item before after _ ih =>
      refine .array fun item member => ?_
      simp only [List.mem_append, List.mem_cons] at member
      rcases member with earlier | rfl | later
      · exact tree.item (List.mem_append_left _ earlier)
      · exact ih (tree.item (List.mem_append_right _ List.mem_cons_self))
      · exact tree.item (List.mem_append_right _ (List.mem_cons_of_mem _ later))
  | entry before after key _ ih =>
      exact tree.replace (ih (tree.entry (List.mem_append_right _ List.mem_cons_self)))
  | trans _ _ first second => exact second (first tree)

end Reordered

end ShadowLint.Toml
