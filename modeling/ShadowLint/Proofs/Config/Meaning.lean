import Mathlib.Data.Set.List
import ShadowLint.Proofs.Config.Options

/-!
# The settings that a document asks for

`Admissible` says which documents the question is about, `Conforms` which of them stand for
options, and `IgnoresNothing` and `Excepts` what the settings of such a document depend on
(`settings_congr`).  All of them speak of the entries that there are, and not of their order.
-/

namespace ShadowLint.Config

open Lint (Rule Exceptions)
open Toml (Value)

/-! ## Conditions on documents -/

/-- A document tree in which the table of the rule is a table, and an array of rules to ignore
holds only strings. -/
structure Admissible (document : List (String × Value)) : Prop where
  tree : (Value.table document).IsTree
  noShadow : ∀ value, ("no-shadow", value) ∈ document → ∃ entries, value = .table entries
  ignore : ∀ items, ("ignore", .array items) ∈ document →
    ∀ item ∈ items, ∃ text, item = .string text

/-- The conditions on an admissible document that are about its shape. -/
structure Shaped (document : List (String × Value)) : Prop where
  noShadow : ∀ value, ("no-shadow", value) ∈ document → ∃ entries, value = .table entries
  ignore : ∀ items, ("ignore", .array items) ∈ document →
    ∀ item ∈ items, ∃ text, item = .string text

theorem Admissible.shaped {document : List (String × Value)} (admissible : Admissible document) :
    Shaped document :=
  ⟨admissible.noShadow, admissible.ignore⟩

theorem Shaped.admissible {document : List (String × Value)} (shaped : Shaped document)
    (tree : (Value.table document).IsTree) : Admissible document :=
  ⟨tree, shaped.noShadow, shaped.ignore⟩

/-- A document that stands for options: there is no other key at the top, the rules to ignore are an
array of the name of the rule, and the exceptions are a table of booleans. -/
structure Conforms (document : List (String × Value)) : Prop where
  known : ∀ entry ∈ document, entry.1 = "ignore" ∨ entry.1 = "no-shadow"
  ignore : ∀ value, ("ignore", value) ∈ document →
    ∃ items, value = .array items ∧ ∀ item ∈ items, item = .string "no-shadow"
  exceptions : ∀ entries value, ("no-shadow", .table entries) ∈ document →
    ("exceptions", value) ∈ entries →
    ∃ names, value = .table names ∧ ∀ entry ∈ names, ∃ exempt, entry.2 = .boolean exempt

/-- No rules to ignore are given, or an empty array of them. -/
def IgnoresNothing (document : List (String × Value)) : Prop :=
  ∀ value, ("ignore", value) ∈ document → value = .array []

/-- The exceptions of a document say of a name whether it is exempt. -/
def Excepts (document : List (String × Value)) (name : String) (exempt : Bool) : Prop :=
  ∃ entries names, ("no-shadow", .table entries) ∈ document ∧
    ("exceptions", .table names) ∈ entries ∧ (name, .boolean exempt) ∈ names

/-! ## Single values -/

/-- A list is made by a function if each of its items is. -/
theorem exists_eq_map_iff {α β : Type} {f : α → β} {items : List β} :
    (∃ sources : List α, items = sources.map f) ↔ ∀ item ∈ items, ∃ source, item = f source := by
  have range := congrArg (items ∈ ·) (Set.range_list_map f)
  simpa [eq_comm] using range

theorem ofName?_eq_some_iff {text : String} {rule : Rule} :
    Rule.ofName? text = some rule ↔ text = rule.name := by
  cases rule
  simp [Rule.ofName?, Rule.all, eq_comm]

theorem readRule_string_eq_ok_iff {text : String} {rule : Rule} :
    readRule (.string text) = .ok rule ↔ text = rule.name := by
  rw [← ofName?_eq_some_iff, readRule, ruleNamed]
  cases Rule.ofName? text with
  | none => simp
  | some found => simp

theorem readIgnore_eq_ok_iff {value : Value} {rules : List Rule}
    (strings : ∀ items, value = .array items → ∀ item ∈ items, ∃ text, item = .string text) :
    readIgnore value = .ok rules ↔ value = .array (rules.map fun rule => .string rule.name) := by
  cases value with
  | array items =>
      have inverse : ∀ item ∈ items, ∀ rule,
          readRule item = .ok rule ↔ item = .string (Rule.name rule) := by
        intro item member rule
        obtain ⟨text, rfl⟩ := strings items rfl item member
        rw [readRule_string_eq_ok_iff, Value.string.injEq]
      rw [readIgnore, Outcome.mapM_eq_ok_iff inverse, Value.array.injEq]
  | string | integer | float | boolean | dateTime | table => simp [readIgnore]

theorem exists_readIgnore_iff {value : Value}
    (strings : ∀ items, value = .array items → ∀ item ∈ items, ∃ text, item = .string text) :
    (∃ rules, readIgnore value = .ok rules) ↔
      ∃ items, value = .array items ∧ ∀ item ∈ items, item = .string "no-shadow" := by
  simp only [readIgnore_eq_ok_iff strings]
  constructor
  · rintro ⟨rules, rfl⟩
    refine ⟨_, rfl, fun item member => ?_⟩
    obtain ⟨⟨⟩, _, rfl⟩ := List.mem_map.1 member
    rfl
  · rintro ⟨items, rfl, each⟩
    have named : ∀ item ∈ items, ∃ rule : Rule, item = .string rule.name :=
      fun item member => ⟨.noShadow, each item member⟩
    obtain ⟨rules, rfl⟩ := exists_eq_map_iff.2 named
    exact ⟨rules, rfl⟩

theorem exists_readExceptions_iff {value : Value} :
    (∃ exceptions, readExceptions value = .ok exceptions) ↔
      ∃ names, value = .table names ∧ ∀ entry ∈ names, ∃ exempt, entry.2 = .boolean exempt := by
  simp only [readExceptions_eq_ok_iff]
  constructor
  · rintro ⟨_, pairs, rfl, _⟩
    refine ⟨_, rfl, fun entry member => ?_⟩
    obtain ⟨pair, _, rfl⟩ := List.mem_map.1 member
    exact ⟨pair.2, rfl⟩
  · rintro ⟨names, rfl, each⟩
    have made : ∀ entry ∈ names, ∃ pair, entry = exemptionEntry pair := by
      rintro ⟨name, value⟩ member
      obtain ⟨exempt, rfl⟩ := each _ member
      exact ⟨(name, exempt), rfl⟩
    obtain ⟨pairs, rfl⟩ := exists_eq_map_iff.2 made
    exact ⟨_, pairs, rfl, rfl⟩

theorem exists_readNoShadow_iff {entries : List (String × Value)}
    (tree : (Value.table entries).IsTree) :
    (∃ options, readNoShadow (.table entries) = .ok options) ↔
      ∀ value, ("exceptions", value) ∈ entries →
        ∃ names, value = .table names ∧ ∀ entry ∈ names, ∃ exempt, entry.2 = .boolean exempt := by
  simp only [← exists_readExceptions_iff, ← exists_reads_iff tree.distinct_keys]
  constructor
  · rintro ⟨options, reads⟩
    exact ⟨options.exceptions, (readNoShadow_eq_ok_iff tree).1 reads⟩
  · rintro ⟨exceptions, reads⟩
    exact ⟨⟨exceptions⟩, (readNoShadow_eq_ok_iff tree).2 reads⟩

/-! ## Whole documents -/

section Document

variable {document : List (String × Value)} {options : Options} {name : String} {exempt : Bool}

theorem Admissible.strings (admissible : Admissible document) {value : Value}
    (member : ("ignore", value) ∈ document) (items : List Value) (array : value = .array items) :
    ∀ item ∈ items, ∃ text, item = .string text :=
  admissible.ignore items (array ▸ member)

theorem Admissible.distinct (admissible : Admissible document) :
    (document.map Prod.fst).Nodup :=
  admissible.tree.distinct_keys

/-- A document stands for options exactly if it meets the conditions. -/
theorem exists_ofEntries_iff (admissible : Admissible document) :
    (∃ options, Options.ofEntries document = .ok options) ↔ Conforms document := by
  simp only [Options.ofEntries_eq_ok_iff admissible.distinct]
  constructor
  · rintro ⟨options, known, ignore, noShadow⟩
    have readsIgnore := (exists_reads_iff admissible.distinct).1 ⟨_, ignore⟩
    have readsNoShadow := (exists_reads_iff admissible.distinct).1 ⟨_, noShadow⟩
    refine ⟨known, ?_, ?_⟩
    · intro value member
      exact (exists_readIgnore_iff (admissible.strings member)).1 (readsIgnore value member)
    · intro entries value member
      exact (exists_readNoShadow_iff (admissible.tree.entry member)).1
        (readsNoShadow _ member) value
  · intro conforms
    have readsIgnore : ∃ found, Reads document "ignore" readIgnore found := by
      refine (exists_reads_iff admissible.distinct).2 fun value member => ?_
      exact (exists_readIgnore_iff (admissible.strings member)).2 (conforms.ignore value member)
    have readsNoShadow : ∃ found, Reads document "no-shadow" readNoShadow found := by
      refine (exists_reads_iff admissible.distinct).2 fun value member => ?_
      obtain ⟨entries, rfl⟩ := admissible.noShadow value member
      exact (exists_readNoShadow_iff (admissible.tree.entry member)).2 fun value =>
        conforms.exceptions entries value member
    obtain ⟨ignore, foundIgnore⟩ := readsIgnore
    obtain ⟨noShadow, foundNoShadow⟩ := readsNoShadow
    exact ⟨⟨ignore, noShadow⟩, conforms.known, foundIgnore, foundNoShadow⟩

theorem Options.enables_toSettings (options : Options) (rule : Rule) :
    options.toSettings.enables rule = decide (rule ∉ options.ignore.getD []) := by
  have listed : rule ∈ Rule.all := by cases rule; decide
  simp [Lint.Settings.enables, toSettings, listed]

/-- Settings are the same if they enable the same rules and say the same of every name. -/
theorem Options.toSettings_congr {one other : Options}
    (rules : ∀ rule, one.toSettings.enables rule = other.toSettings.enables rule)
    (exceptions : ∀ name,
      one.toSettings.exceptions.find? name = other.toSettings.exceptions.find? name) :
    one.toSettings = other.toSettings := by
  have sameRules : one.toSettings.rules = other.toSettings.rules := by
    simp only [toSettings]
    refine List.filter_congr fun rule _ => ?_
    rw [← enables_toSettings, ← enables_toSettings, rules]
  have sameExceptions := NameTable.eq_of_find? exceptions
  generalize one.toSettings = first, other.toSettings = second at sameRules sameExceptions ⊢
  cases first
  cases second
  cases sameRules
  cases sameExceptions
  rfl

/-- The rule is enabled exactly if nothing is ignored. -/
theorem enables_toSettings_iff (admissible : Admissible document)
    (read : Options.ofEntries document = .ok options) :
    options.toSettings.enables .noShadow = true ↔ IgnoresNothing document := by
  obtain ⟨_, ignore, _⟩ := (Options.ofEntries_eq_ok_iff admissible.distinct).1 read
  rw [Options.enables_toSettings, decide_eq_true_iff]
  cases found : options.ignore with
  | none =>
      rw [found] at ignore
      constructor
      · intro _ value member
        exact absurd (List.mem_map_of_mem member) ignore
      · intro _
        exact List.not_mem_nil
  | some rules =>
      rw [found] at ignore
      obtain ⟨value, member, reads⟩ := ignore
      have shape := (readIgnore_eq_ok_iff (admissible.strings member)).1 reads
      have nothing : IgnoresNothing document ↔ rules = [] := by
        constructor
        · intro nothing
          have empty := nothing value member
          rw [shape, Value.array.injEq, List.map_eq_nil_iff] at empty
          exact empty
        · rintro rfl other otherMember
          exact (eq_of_mem_of_mem admissible.distinct otherMember member).trans shape
      rw [nothing, Option.getD_some]
      cases rules with
      | nil => simp
      | cons rule rest => cases rule; simp

theorem Options.overrides_distinct (options : Options) :
    (options.overrides.map Prod.fst).Nodup := by
  unfold overrides
  split
  · exact NameTable.distinct _
  · exact List.nodup_nil

/-- The exceptions of the rule are the booleans under the one key that counts. -/
theorem mem_exceptions_iff {entries : List (String × Value)} {own : NoShadowOptions}
    (tree : (Value.table entries).IsTree) (reads : readNoShadow (.table entries) = .ok own) :
    (∃ exceptions, own.exceptions = some exceptions ∧ (name, exempt) ∈ exceptions.entries) ↔
      ∃ names, ("exceptions", .table names) ∈ entries ∧ (name, .boolean exempt) ∈ names := by
  have found := (readNoShadow_eq_ok_iff tree).1 reads
  obtain ⟨exceptions⟩ := own
  cases exceptions with
  | none =>
      constructor
      · rintro ⟨_, same, _⟩
        cases same
      · rintro ⟨names, inside, _⟩
        exact absurd (List.mem_map_of_mem inside) found
  | some exceptions =>
      obtain ⟨value, inside, readsTable⟩ := found
      obtain ⟨pairs, rfl, _⟩ := readExceptions_eq_ok_iff.1 readsTable
      have entry : (name, exempt) ∈ exceptions.entries ↔
          (name, .boolean exempt) ∈ pairs.map exemptionEntry :=
        mem_entries_of_readExceptions (tree.entry inside).distinct_keys readsTable
      constructor
      · rintro ⟨_, same, named⟩
        cases same
        exact ⟨_, inside, entry.1 named⟩
      · rintro ⟨names, otherInside, named⟩
        cases eq_of_mem_of_mem tree.distinct_keys inside otherInside
        exact ⟨exceptions, rfl, entry.2 named⟩

/-- The overrides are what the document says of names. -/
theorem mem_overrides_iff (admissible : Admissible document)
    (read : Options.ofEntries document = .ok options) :
    (name, exempt) ∈ options.overrides ↔ Excepts document name exempt := by
  obtain ⟨_, _, noShadow⟩ := (Options.ofEntries_eq_ok_iff admissible.distinct).1 read
  obtain ⟨ignore, own⟩ := options
  cases own with
  | none =>
      constructor
      · intro member
        cases member
      · rintro ⟨entries, _, member, _⟩
        exact absurd (List.mem_map_of_mem member) noShadow
  | some own =>
      obtain ⟨value, member, reads⟩ := noShadow
      obtain ⟨entries, rfl⟩ := admissible.noShadow value member
      have listed : (name, exempt) ∈ Options.overrides ⟨ignore, some own⟩ ↔
          ∃ exceptions, own.exceptions = some exceptions ∧
            (name, exempt) ∈ exceptions.entries := by
        obtain ⟨exceptions⟩ := own
        cases exceptions <;> simp [Options.overrides]
      rw [listed, mem_exceptions_iff (admissible.tree.entry member) reads]
      constructor
      · rintro ⟨names, inside, named⟩
        exact ⟨entries, names, member, inside, named⟩
      · rintro ⟨others, names, otherMember, inside, named⟩
        cases eq_of_mem_of_mem admissible.distinct member otherMember
        exact ⟨names, inside, named⟩

/-- What the document says of a name is what the settings say. -/
theorem find?_of_excepts (admissible : Admissible document)
    (read : Options.ofEntries document = .ok options) (excepts : Excepts document name exempt) :
    options.toSettings.exceptions.find? name = some exempt :=
  NameTable.find?_insertAll_of_mem options.overrides_distinct
    ((mem_overrides_iff admissible read).2 excepts)

/-- Of all other names the settings say what they do without a document. -/
theorem find?_of_not_excepts (admissible : Admissible document)
    (read : Options.ofEntries document = .ok options)
    (silent : ∀ exempt, ¬ Excepts document name exempt) :
    options.toSettings.exceptions.find? name = Exceptions.default.find? name := by
  refine NameTable.find?_insertAll_of_notMem fun inside => ?_
  obtain ⟨⟨_, exempt⟩, member, rfl⟩ := List.mem_map.1 inside
  exact silent exempt ((mem_overrides_iff admissible read).1 member)

/-- A name is exempt as the document says of it. -/
theorem isExempt_of_excepts (admissible : Admissible document)
    (read : Options.ofEntries document = .ok options) (excepts : Excepts document name exempt) :
    options.toSettings.exceptions.isExempt name = exempt := by
  rw [Exceptions.isExempt, find?_of_excepts admissible read excepts, Option.getD_some]

/-- A name that the document is silent about is exempt if it is a conventional one. -/
theorem isExempt_iff_of_not_excepts (admissible : Admissible document)
    (read : Options.ofEntries document = .ok options)
    (silent : ∀ exempt, ¬ Excepts document name exempt) :
    options.toSettings.exceptions.isExempt name = true ↔
      name = "err" ∨ name = "res" ∨ name = "callback" := by
  rw [Exceptions.isExempt, find?_of_not_excepts admissible read silent, Exceptions.find?_default]
  split <;> simp_all [Exceptions.conventional]

/-- Documents that meet the conditions alike, ignore alike and have the same exceptions ask for the
same settings. -/
theorem settings_congr {other : List (String × Value)} (admissible : Admissible document)
    (otherAdmissible : Admissible other) (conforms : Conforms other ↔ Conforms document)
    (ignores : IgnoresNothing other ↔ IgnoresNothing document)
    (excepts : ∀ name exempt, Excepts other name exempt ↔ Excepts document name exempt) :
    (Options.ofEntries other).toOption.map Options.toSettings =
      (Options.ofEntries document).toOption.map Options.toSettings := by
  cases read : Options.ofEntries document with
  | error mismatch =>
      have refused : ¬ Conforms document := by
        intro conforming
        obtain ⟨options, found⟩ := (exists_ofEntries_iff admissible).2 conforming
        cases read.symm.trans found
      cases readOther : Options.ofEntries other with
      | error mismatch => rfl
      | ok others =>
          have conforming := (exists_ofEntries_iff otherAdmissible).1 ⟨others, readOther⟩
          exact absurd (conforms.1 conforming) refused
  | ok options =>
      have conforming := (exists_ofEntries_iff admissible).1 ⟨options, read⟩
      obtain ⟨others, readOther⟩ :=
        (exists_ofEntries_iff otherAdmissible).2 (conforms.2 conforming)
      have rules : ∀ rule, others.toSettings.enables rule = options.toSettings.enables rule := by
        rintro ⟨⟩
        rw [Bool.eq_iff_iff, enables_toSettings_iff otherAdmissible readOther,
          enables_toSettings_iff admissible read, ignores]
      have exceptions : ∀ name, others.toSettings.exceptions.find? name =
          options.toSettings.exceptions.find? name := by
        intro name
        by_cases named : ∃ exempt, Excepts document name exempt
        · obtain ⟨exempt, excepted⟩ := named
          rw [find?_of_excepts admissible read excepted,
            find?_of_excepts otherAdmissible readOther ((excepts name exempt).2 excepted)]
        · have silent : ∀ exempt, ¬ Excepts document name exempt := not_exists.1 named
          have silentToo : ∀ exempt, ¬ Excepts other name exempt :=
            fun exempt excepted => silent exempt ((excepts name exempt).1 excepted)
          rw [find?_of_not_excepts admissible read silent,
            find?_of_not_excepts otherAdmissible readOther silentToo]
      rw [readOther]
      exact congrArg some (Options.toSettings_congr rules exceptions)

end Document

end ShadowLint.Config
