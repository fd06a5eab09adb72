import Mathlib.Data.List.Nodup
import ShadowLint.Lint.Settings

/-!
# What tables of named values hold

In entries without a name twice, a lookup finds exactly the entries there are, in whatever order
they stand (`mem_iff_lookup_eq_some`).  A table that is filled answers with the last value that was
put under a name, and otherwise as it did before (`find?_insertAll`), and it is determined by its
answers (`eq_of_find?`).
-/

namespace ShadowLint

variable {α : Type}

/-! ## Lookups in entries -/

theorem lookup_cons_eq_ite (name : String) (value : α) (rest : List (String × α))
    (asked : String) :
    ((name, value) :: rest).lookup asked =
      if asked = name then some value else rest.lookup asked := by
  by_cases same : asked = name
  · simp [same]
  · simp [same, beq_eq_false_iff_ne.2 same, List.lookup_cons]

theorem lookup_insertEntry (name : String) (value : α) (entries : List (String × α))
    (asked : String) :
    (insertEntry name value entries).lookup asked =
      if asked = name then some value else entries.lookup asked := by
  induction entries with
  | nil => exact lookup_cons_eq_ite name value [] asked
  | cons entry rest ih =>
      obtain ⟨other, old⟩ := entry
      simp only [insertEntry]
      split
      · exact lookup_cons_eq_ite name value _ asked
      · split
        next same =>
          subst same
          simp only [lookup_cons_eq_ite]
          split <;> rfl
        next different =>
          -- the names differ, so it does not matter which of the two is asked for first
          simp only [lookup_cons_eq_ite, ih]
          grind

/-- A lookup in entries without a name twice finds exactly the entries there are. -/
theorem mem_iff_lookup_eq_some {entries : List (String × α)} {name : String} {value : α}
    (distinct : (entries.map Prod.fst).Nodup) :
    (name, value) ∈ entries ↔ entries.lookup name = some value := by
  induction entries with
  | nil => simp
  | cons entry rest ih =>
      obtain ⟨other, old⟩ := entry
      obtain ⟨fresh, others⟩ := List.nodup_cons.1 distinct
      rw [List.mem_cons, ih others, lookup_cons_eq_ite]
      split
      next same =>
        subst same
        have absent : rest.lookup name ≠ some value := by
          intro found
          exact fresh (List.mem_map.2 ⟨(name, value), (ih others).2 found, rfl⟩)
        simp [absent, eq_comm]
      next different => simp [different]

/-- Under a name there is only one value. -/
theorem eq_of_mem_of_mem {entries : List (String × α)} {name : String} {value other : α}
    (distinct : (entries.map Prod.fst).Nodup) (member : (name, value) ∈ entries)
    (otherMember : (name, other) ∈ entries) : value = other := by
  have found := (mem_iff_lookup_eq_some distinct).1 member
  have foundOther := (mem_iff_lookup_eq_some distinct).1 otherMember
  exact Option.some.inj (found.symm.trans foundOther)

theorem lookup_eq_none_of_notMem {entries : List (String × α)} {name : String}
    (absent : name ∉ entries.map Prod.fst) : entries.lookup name = none := by
  refine List.lookup_eq_none_iff.2 fun entry member => ?_
  have different : name ≠ entry.1 := by
    intro same
    exact absent (same ▸ List.mem_map_of_mem member)
  simp [different]

namespace NameTable

/-! ## Tables -/

theorem distinct (table : NameTable α) : (table.entries.map Prod.fst).Nodup :=
  List.pairwise_map.2 (table.ascending.imp String.ne_of_lt)

theorem mem_entries_iff {table : NameTable α} {name : String} {value : α} :
    (name, value) ∈ table.entries ↔ table.find? name = some value :=
  mem_iff_lookup_eq_some table.distinct

/-- Tables that answer every lookup alike are the same. -/
theorem eq_of_find? {table other : NameTable α}
    (same : ∀ name, table.find? name = other.find? name) : table = other := by
  have members : ∀ entry, entry ∈ table.entries ↔ entry ∈ other.entries := by
    intro entry
    obtain ⟨name, value⟩ := entry
    rw [mem_entries_iff, mem_entries_iff, same]
  have perm : table.entries.Perm other.entries :=
    (List.perm_ext_iff_of_nodup (List.Nodup.of_map _ table.distinct)
      (List.Nodup.of_map _ other.distinct)).2 members
  have entries : table.entries = other.entries := by
    refine List.Perm.eq_of_pairwise ?_ table.ascending other.ascending perm
    intro first second _ _ less greater
    exact absurd (String.lt_trans less greater) (String.lt_irrefl _)
  cases table
  cases other
  cases entries
  rfl

theorem find?_insert (table : NameTable α) (name : String) (value : α) (asked : String) :
    (table.insert name value).find? asked =
      if asked = name then some value else table.find? asked :=
  lookup_insertEntry name value table.entries asked

/-- After several insertions the last value of a name counts, and else what stood there. -/
theorem find?_insertAll (table : NameTable α) (pairs : List (String × α)) (asked : String) :
    (table.insertAll pairs).find? asked =
      (pairs.reverse.lookup asked).or (table.find? asked) := by
  induction pairs generalizing table with
  | nil => rfl
  | cons pair rest ih =>
      obtain ⟨name, value⟩ := pair
      calc ((table.insert name value).insertAll rest).find? asked
        _ = (rest.reverse.lookup asked).or ((table.insert name value).find? asked) := ih _
        _ = (rest.reverse.lookup asked).or
              (([(name, value)].lookup asked).or (table.find? asked)) := by
            rw [find?_insert, lookup_cons_eq_ite]
            split <;> rfl
        _ = ((rest.reverse ++ [(name, value)]).lookup asked).or (table.find? asked) := by
            rw [List.lookup_append, Option.or_assoc]
        _ = (((name, value) :: rest).reverse.lookup asked).or (table.find? asked) := by
            rw [List.reverse_cons]

/-- What is inserted under distinct names is found, whatever stood there. -/
theorem find?_insertAll_of_mem {table : NameTable α} {pairs : List (String × α)}
    {name : String} {value : α} (distinct : (pairs.map Prod.fst).Nodup)
    (member : (name, value) ∈ pairs) : (table.insertAll pairs).find? name = some value := by
  have backwards : (pairs.reverse.map Prod.fst).Nodup := by
    rw [List.map_reverse]
    exact List.nodup_reverse.2 distinct
  have found := (mem_iff_lookup_eq_some backwards).1 (List.mem_reverse.2 member)
  rw [find?_insertAll, found, Option.some_or]

/-- Under other names nothing changes. -/
theorem find?_insertAll_of_notMem {table : NameTable α} {pairs : List (String × α)}
    {name : String} (absent : name ∉ pairs.map Prod.fst) :
    (table.insertAll pairs).find? name = table.find? name := by
  have backwards : name ∉ pairs.reverse.map Prod.fst := by
    rwa [List.map_reverse, List.mem_reverse]
  rw [find?_insertAll, lookup_eq_none_of_notMem backwards, Option.none_or]

/-- A table that is filled under distinct names has exactly the entries that were put there. -/
theorem mem_insertAll_empty_iff {pairs : List (String × α)} {name : String} {value : α}
    (distinct : (pairs.map Prod.fst).Nodup) :
    (name, value) ∈ (empty.insertAll pairs).entries ↔ (name, value) ∈ pairs := by
  rw [mem_entries_iff]
  constructor
  · intro found
    by_cases inside : name ∈ pairs.map Prod.fst
    · obtain ⟨⟨_, other⟩, member, rfl⟩ := List.mem_map.1 inside
      rw [find?_insertAll_of_mem distinct member, Option.some.injEq] at found
      exact found ▸ member
    · rw [find?_insertAll_of_notMem inside] at found
      cases found
  · intro member
    exact find?_insertAll_of_mem distinct member

end NameTable

namespace Lint.Exceptions

theorem find?_default (name : String) :
    default.find? name = if name ∈ conventional then some true else none := by
  have distinct : ((conventional.map fun name => (name, true)).map Prod.fst).Nodup := by decide
  split
  next member =>
    exact NameTable.find?_insertAll_of_mem distinct (List.mem_map_of_mem member)
  next absent =>
    refine NameTable.find?_insertAll_of_notMem ?_
    simpa using absent

end Lint.Exceptions

end ShadowLint
