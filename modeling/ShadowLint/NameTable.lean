/-!
# Tables of named values

A `NameTable` holds values under names, in ascending order of the names and with no name
twice.  Names are compared character by character, which is also the order of their bytes
in UTF-8.  Because the order belongs to the type, two tables that answer every lookup alike
are the same table, however they were filled.
-/

namespace ShadowLint

variable {α : Type}

/-- Puts a value under a name into ascending entries; a value that stood there gives way. -/
def insertEntry (name : String) (value : α) : List (String × α) → List (String × α)
  | [] => [(name, value)]
  | (other, old) :: rest =>
      if name < other then (name, value) :: (other, old) :: rest
      else if name = other then (name, value) :: rest
      else (other, old) :: insertEntry name value rest

/-- Every name after an insertion is the new one or was there before. -/
theorem fst_of_mem_insertEntry {name : String} {value : α} {entries : List (String × α)}
    {entry : String × α} (h : entry ∈ insertEntry name value entries) :
    entry.1 = name ∨ entry ∈ entries := by
  induction entries with
  | nil =>
      simp only [insertEntry, List.mem_singleton] at h
      exact Or.inl (congrArg Prod.fst h)
  | cons head rest ih =>
      simp only [insertEntry] at h
      grind

/-- An insertion keeps the order. -/
theorem pairwise_insertEntry (name : String) (value : α) {entries : List (String × α)}
    (ordered : entries.Pairwise fun a b => a.1 < b.1) :
    (insertEntry name value entries).Pairwise fun a b => a.1 < b.1 := by
  induction entries with
  | nil => simp [insertEntry]
  | cons head rest ih =>
      obtain ⟨first, others⟩ := List.pairwise_cons.1 ordered
      simp only [insertEntry]
      split
      · next less =>
          refine List.pairwise_cons.2 ⟨fun entry member => ?_, ordered⟩
          rcases List.mem_cons.1 member with rfl | member
          · exact less
          · exact String.lt_trans less (first entry member)
      · split
        · next same =>
            exact List.pairwise_cons.2 ⟨fun entry member => same ▸ first entry member, others⟩
        · refine List.pairwise_cons.2 ⟨fun entry member => ?_, ih others⟩
          rcases fst_of_mem_insertEntry member with same | member
          · grind
          · exact first entry member

/-- Values under names, in ascending order of the names. -/
structure NameTable (α : Type) where
  entries : List (String × α)
  ascending : entries.Pairwise fun a b => a.1 < b.1
  deriving DecidableEq

namespace NameTable

instance [Repr α] : Repr (NameTable α) := ⟨fun table n => reprPrec table.entries n⟩

/-- The table without entries. -/
def empty : NameTable α := ⟨[], List.Pairwise.nil⟩

/-- Puts a value under a name; a value that stood there gives way. -/
def insert (table : NameTable α) (name : String) (value : α) : NameTable α :=
  ⟨insertEntry name value table.entries, pairwise_insertEntry name value table.ascending⟩

/-- Puts values under names one after the other, so that the last value of a name stays. -/
def insertAll (table : NameTable α) (pairs : List (String × α)) : NameTable α :=
  pairs.foldl (fun table (name, value) => table.insert name value) table

/-- The value under a name. -/
def find? (table : NameTable α) (name : String) : Option α :=
  table.entries.lookup name

end NameTable

end ShadowLint
