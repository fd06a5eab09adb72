import Mathlib.Data.List.Induction
import ShadowLint.Config.Options
import ShadowLint.Proofs.NameTable
import ShadowLint.Proofs.Outcome
import ShadowLint.Proofs.Toml.Tree

/-!
# What a configuration file means

Options are read by a walk over the entries of a table, which stops at the first mismatch.  Where
the keys of a table are distinct, the walk succeeds exactly if every entry can be read by itself,
and its result has under each key what stands there (`Options.ofEntries_eq_ok_iff`).  Of the table
of the rule only what stands under one key counts (`readNoShadow_congr`).
-/

namespace ShadowLint.Config

open Lint (Rule Exceptions)
open Toml (Value Reordered)

variable {β : Type}

/-! ## Values that are left alone -/

theorem excessOfItems?_eq_none_iff {items : List Value} :
    excessOfItems? items = none ↔ ∀ item ∈ items, excess? item = none := by
  induction items with
  | nil => simp [excessOfItems?]
  | cons item rest ih => simp [excessOfItems?, ih]

theorem excessOfEntries?_eq_none_iff {entries : List (String × Value)} :
    excessOfEntries? entries = none ↔ ∀ entry ∈ entries, excess? entry.2 = none := by
  induction entries with
  | nil => simp [excessOfEntries?]
  | cons entry rest ih => simp [excessOfEntries?, ih]

/-- An integer can be named exactly if it fits into 128 bits, with or without a sign. -/
theorem exists_foundInteger_iff {value : Int} :
    (∃ found, Value.foundInteger (some value) = .ok found) ↔
      -(Nat.pow 2 127 : Int) ≤ value ∧ value < (Nat.pow 2 128 : Int) := by
  simp only [Value.foundInteger, Nat.pow_eq, Int.natCast_pow, Int.cast_ofNat_Int]
  split
  · simp only [Except.ok.injEq, exists_eq', true_iff]
    omega
  · split
    · simp only [Except.ok.injEq, exists_eq', true_iff]
      omega
    · split
      · simp only [Except.ok.injEq, exists_eq', true_iff]
        omega
      · simp only [reduceCtorEq, exists_false, false_iff]
        omega

/-- A tree can be left alone, whatever is in it. -/
theorem excess?_eq_none {value : Value} (tree : value.IsTree) : excess? value = none := by
  induction tree with
  | string | boolean | dateTime => simp [excess?]
  | float value => simp [excess?, Value.foundFloat]
  | integer least most =>
      obtain ⟨found, inReach⟩ := exists_foundInteger_iff.2 ⟨least, most⟩
      simp [excess?, inReach]
  | array _ each =>
      rw [excess?, excessOfItems?_eq_none_iff]
      exact each
  | table _ _ each =>
      rw [excess?, excessOfEntries?_eq_none_iff]
      exact each

/-! ## Exceptions -/

/-- The entry that says of a name whether it is exempt. -/
def exemptionEntry (pair : String × Bool) : String × Value := (pair.1, .boolean pair.2)

theorem readExemption_eq_ok_iff {entry : String × Value} {pair : String × Bool} :
    readExemption entry = .ok pair ↔ entry = exemptionEntry pair := by
  obtain ⟨name, value⟩ := entry
  obtain ⟨other, exempt⟩ := pair
  cases value <;> simp [readExemption, exemptionEntry]

theorem readExceptions_eq_ok_iff {value : Value} {exceptions : NameTable Bool} :
    readExceptions value = .ok exceptions ↔
      ∃ pairs, value = .table (pairs.map exemptionEntry) ∧
        exceptions = NameTable.empty.insertAll pairs := by
  cases value with
  | table entries =>
      simp only [readExceptions, Outcome.bind_eq_ok_iff, pure, Except.pure, Except.ok.injEq,
        Value.table.injEq, Outcome.mapM_eq_ok_iff fun _ _ _ => readExemption_eq_ok_iff]
      grind
  | string | integer | float | boolean | dateTime | array => simp [readExceptions]

/-- The exceptions of a table are its entries. -/
theorem mem_entries_of_readExceptions {names : List (String × Value)}
    {exceptions : NameTable Bool} {name : String} {exempt : Bool}
    (distinct : (names.map Prod.fst).Nodup)
    (read : readExceptions (.table names) = .ok exceptions) :
    (name, exempt) ∈ exceptions.entries ↔ (name, .boolean exempt) ∈ names := by
  obtain ⟨pairs, same, rfl⟩ := readExceptions_eq_ok_iff.1 read
  cases same
  have keys : (pairs.map exemptionEntry).map Prod.fst = pairs.map Prod.fst := by
    simp [exemptionEntry]
  rw [NameTable.mem_insertAll_empty_iff (keys ▸ distinct)]
  simp [exemptionEntry]

/-! ## The table of the rule -/

/-- Other entries leave the options of the rule as they are. -/
theorem foldlM_readEntry_of_others {entries : List (String × Value)}
    (others : "exceptions" ∉ entries.map Prod.fst)
    (trees : ∀ entry ∈ entries, entry.2.IsTree) (options : NoShadowOptions) :
    entries.foldlM NoShadowOptions.readEntry options = .ok options := by
  induction entries with
  | nil => rfl
  | cons entry rest ih =>
      obtain ⟨key, value⟩ := entry
      simp only [List.map_cons, List.mem_cons, not_or] at others
      have left : options.readEntry (key, value) = .ok options := by
        rw [NoShadowOptions.readEntry, if_neg (Ne.symm others.1),
          excess?_eq_none (trees (key, value) List.mem_cons_self)]
      rw [List.foldlM_cons, left]
      exact ih others.2 fun entry member => trees entry (List.mem_cons_of_mem _ member)

theorem readNoShadow_of_notMem {entries : List (String × Value)}
    (tree : (Value.table entries).IsTree) (absent : "exceptions" ∉ entries.map Prod.fst) :
    readNoShadow (.table entries) = .ok ⟨none⟩ :=
  foldlM_readEntry_of_others absent (fun _ member => tree.entry member) _

/-- What stands under the one key that counts is all that counts. -/
theorem readNoShadow_of_mem {entries : List (String × Value)} {value : Value}
    (tree : (Value.table entries).IsTree) (member : ("exceptions", value) ∈ entries) :
    readNoShadow (.table entries) =
      (readExceptions value).map fun exceptions => ⟨some exceptions⟩ := by
  obtain ⟨before, after, rfl⟩ := List.append_of_mem member
  have distinct := tree.distinct_keys
  simp only [List.map_append, List.map_cons, List.nodup_append, List.nodup_cons] at distinct
  obtain ⟨_, ⟨freshAfter, _⟩, apart⟩ := distinct
  have freshBefore : "exceptions" ∉ before.map Prod.fst := by
    intro inside
    exact apart _ inside _ List.mem_cons_self rfl
  have first : before.foldlM NoShadowOptions.readEntry ⟨none⟩ = .ok ⟨none⟩ :=
    foldlM_readEntry_of_others freshBefore
      (fun _ inside => tree.entry (List.mem_append_left _ inside)) _
  have last (options : NoShadowOptions) :
      after.foldlM NoShadowOptions.readEntry options = .ok options :=
    foldlM_readEntry_of_others freshAfter (fun _ inside =>
      tree.entry (List.mem_append_right _ (List.mem_cons_of_mem _ inside))) _
  rw [readNoShadow, List.foldlM_append, first]
  simp only [bind, Except.bind, List.foldlM_cons, NoShadowOptions.readEntry, if_true]
  cases readExceptions value with
  | error mismatch => rfl
  | ok exceptions => exact last _

/-! ## Entries that are read by their keys -/

/-- What a reader finds under a key: nothing if the key is absent. -/
def Reads (entries : List (String × Value)) (key : String) (read : Value → Except Mismatch β) :
    Option β → Prop
  | none => key ∉ entries.map Prod.fst
  | some result => ∃ value, (key, value) ∈ entries ∧ read value = .ok result

section Reads

variable {entries : List (String × Value)} {key other : String} {value : Value}
  {read : Value → Except Mismatch β} {found : Option β}

theorem reads_of_notMem (absent : key ∉ entries.map Prod.fst) :
    Reads entries key read found ↔ found = none := by
  cases found with
  | none => simp [Reads, absent]
  | some result =>
      simp only [Reads, reduceCtorEq, iff_false, not_exists, not_and]
      intro value member
      exact absurd (List.mem_map_of_mem member) absent

theorem reads_of_mem (distinct : (entries.map Prod.fst).Nodup) (member : (key, value) ∈ entries) :
    Reads entries key read found ↔ ∃ result, read value = .ok result ∧ found = some result := by
  cases found with
  | none => simpa [Reads] using ⟨value, member⟩
  | some result =>
      simp only [Reads, Option.some.injEq]
      constructor
      · rintro ⟨found, foundMember, reads⟩
        cases eq_of_mem_of_mem distinct member foundMember
        exact ⟨result, reads, rfl⟩
      · rintro ⟨_, reads, rfl⟩
        exact ⟨value, member, reads⟩

theorem reads_concat_of_ne (different : other ≠ key) :
    Reads (entries ++ [(other, value)]) key read found ↔ Reads entries key read found := by
  cases found with
  | none => simp [Reads, Ne.symm different]
  | some result => simp [Reads, Ne.symm different]

/-- A key can be read if what stands under it can. -/
theorem exists_reads_iff (distinct : (entries.map Prod.fst).Nodup) :
    (∃ found, Reads entries key read found) ↔
      ∀ value, (key, value) ∈ entries → ∃ result, read value = .ok result := by
  by_cases inside : key ∈ entries.map Prod.fst
  · obtain ⟨⟨_, value⟩, member, rfl⟩ := List.mem_map.1 inside
    constructor
    · rintro ⟨found, reads⟩ other otherMember
      obtain ⟨result, readsOther, _⟩ := (reads_of_mem distinct otherMember).1 reads
      exact ⟨result, readsOther⟩
    · intro each
      obtain ⟨result, readsValue⟩ := each value member
      exact ⟨some result, value, member, readsValue⟩
  · constructor
    · intro _ value member
      exact absurd (List.mem_map_of_mem member) inside
    · intro _
      exact ⟨none, inside⟩

end Reads

theorem readNoShadow_eq_ok_iff {entries : List (String × Value)} {options : NoShadowOptions}
    (tree : (Value.table entries).IsTree) :
    readNoShadow (.table entries) = .ok options ↔
      Reads entries "exceptions" readExceptions options.exceptions := by
  by_cases inside : "exceptions" ∈ entries.map Prod.fst
  · obtain ⟨⟨_, value⟩, member, rfl⟩ := List.mem_map.1 inside
    rw [readNoShadow_of_mem tree member, Outcome.map_eq_ok_iff,
      reads_of_mem tree.distinct_keys member]
    cases options
    simp [eq_comm]
  · rw [readNoShadow_of_notMem tree inside, reads_of_notMem inside]
    cases options
    simp [eq_comm]

/-- Other keys of the table have no part in what is read, nor in what is refused. -/
theorem readNoShadow_congr {entries others : List (String × Value)}
    (tree : (Value.table entries).IsTree) (otherTree : (Value.table others).IsTree)
    (same : ∀ value, ("exceptions", value) ∈ others ↔ ("exceptions", value) ∈ entries) :
    readNoShadow (.table others) = readNoShadow (.table entries) := by
  by_cases inside : "exceptions" ∈ entries.map Prod.fst
  · obtain ⟨⟨_, value⟩, member, rfl⟩ := List.mem_map.1 inside
    rw [readNoShadow_of_mem tree member, readNoShadow_of_mem otherTree ((same value).2 member)]
  · have absent : "exceptions" ∉ others.map Prod.fst := by
      intro found
      obtain ⟨⟨_, value⟩, member, rfl⟩ := List.mem_map.1 found
      exact inside (List.mem_map_of_mem ((same value).1 member))
    rw [readNoShadow_of_notMem tree inside, readNoShadow_of_notMem otherTree absent]

namespace Options

theorem readEntry_eq_ok_iff {start finish : Options} {key : String} {value : Value} :
    start.readEntry (key, value) = .ok finish ↔
      (key = "ignore" ∧ ∃ rules, readIgnore value = .ok rules ∧
        { start with ignore := some rules } = finish) ∨
      (key = "no-shadow" ∧ ∃ options, readNoShadow value = .ok options ∧
        { start with noShadow := some options } = finish) := by
  rw [readEntry]
  split
  next same =>
    subst same
    simp [Outcome.bind_eq_ok_iff, pure, Except.pure]
  next =>
    split
    next same =>
      subst same
      simp [Outcome.bind_eq_ok_iff, pure, Except.pure]
    next => simp [*]

theorem ofEntries_concat (entries : List (String × Value)) (entry : String × Value) :
    ofEntries (entries ++ [entry]) =
      ofEntries entries >>= fun options => options.readEntry entry := by
  simp [ofEntries]

/-- Other keys of the table of the rule have no part in the options, nor in what is refused. -/
theorem ofEntries_congr {before after entries others : List (String × Value)}
    (tree : (Value.table entries).IsTree) (otherTree : (Value.table others).IsTree)
    (same : ∀ value, ("exceptions", value) ∈ others ↔ ("exceptions", value) ∈ entries) :
    ofEntries (before ++ ("no-shadow", .table others) :: after) =
      ofEntries (before ++ ("no-shadow", .table entries) :: after) := by
  have table := readNoShadow_congr tree otherTree same
  simp [ofEntries, readEntry, table]

/-- Options are read exactly if there is no unknown key, and both known keys can be read, if they
are there. -/
theorem ofEntries_eq_ok_iff {entries : List (String × Value)} {options : Options}
    (distinct : (entries.map Prod.fst).Nodup) :
    ofEntries entries = .ok options ↔
      (∀ entry ∈ entries, entry.1 = "ignore" ∨ entry.1 = "no-shadow") ∧
        Reads entries "ignore" readIgnore options.ignore ∧
        Reads entries "no-shadow" readNoShadow options.noShadow := by
  -- from the last entry backwards: before it, its key is still absent
  induction entries using List.reverseRecOn generalizing options with
  | nil =>
      obtain ⟨ignore, noShadow⟩ := options
      rw [reads_of_notMem (by simp), reads_of_notMem (by simp)]
      simp [ofEntries, default, pure, Except.pure, eq_comm]
  | append_singleton entries entry ih =>
      obtain ⟨key, value⟩ := entry
      have whole := distinct
      rw [List.map_append, List.map_cons, List.map_nil, ← List.concat_eq_append,
        List.nodup_concat] at distinct
      obtain ⟨fresh, before⟩ := distinct
      have last : (key, value) ∈ entries ++ [(key, value)] := by simp
      rw [ofEntries_concat, Outcome.bind_eq_ok_iff]
      simp only [ih before, readEntry_eq_ok_iff]
      constructor
      · rintro ⟨start, ⟨known, ignore, noShadow⟩, step⟩
        rcases step with ⟨rfl, rules, reads, rfl⟩ | ⟨rfl, own, reads, rfl⟩
        · refine ⟨?_, (reads_of_mem whole last).2 ⟨rules, reads, rfl⟩,
            (reads_concat_of_ne (by decide)).2 noShadow⟩
          simpa [or_imp, forall_and] using known
        · refine ⟨?_, (reads_concat_of_ne (by decide)).2 ignore,
            (reads_of_mem whole last).2 ⟨own, reads, rfl⟩⟩
          simpa [or_imp, forall_and] using known
      · rintro ⟨known, ignore, noShadow⟩
        have knownBefore : ∀ entry ∈ entries, entry.1 = "ignore" ∨ entry.1 = "no-shadow" :=
          fun entry member => known entry (List.mem_append_left _ member)
        rcases known _ last with same | same
        · cases same
          obtain ⟨rules, reads, found⟩ := (reads_of_mem whole last).1 ignore
          rw [reads_concat_of_ne (by decide)] at noShadow
          refine ⟨⟨none, options.noShadow⟩, ⟨knownBefore, fresh, noShadow⟩,
            .inl ⟨rfl, rules, reads, ?_⟩⟩
          rw [← found]
        · cases same
          obtain ⟨own, reads, found⟩ := (reads_of_mem whole last).1 noShadow
          rw [reads_concat_of_ne (by decide)] at ignore
          refine ⟨⟨options.ignore, none⟩, ⟨knownBefore, ignore, fresh⟩,
            .inr ⟨rfl, own, reads, ?_⟩⟩
          rw [← found]

end Options

end ShadowLint.Config
