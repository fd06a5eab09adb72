import ShadowLint.Proofs.Config.Meaning

/-!
# Documents that ask for the same settings

Documents mirror each other if they have the same entries up to the order in tables, at any depth,
and up to repetitions in arrays (`Mirrors`).  What decides about the settings of a document carries
over to its mirror, so both ask for the same settings, or neither stands for options.
-/

namespace ShadowLint.Config

open Toml (Value Reordered)

/-- Two values are the same up to the order in tables, or they are arrays of the same items. -/
inductive Alike : Value → Value → Prop
  | reordered {value other : Value} (same : Reordered value other) : Alike value other
  | repeated {items others : List Value} (same : ∀ item, item ∈ items ↔ item ∈ others) :
      Alike (.array items) (.array others)

/-- Every entry of a document stands in another one, with a value that is alike. -/
def Mirrors (document other : List (String × Value)) : Prop :=
  ∀ key value, (key, value) ∈ document → ∃ found, (key, found) ∈ other ∧ Alike value found

theorem Alike.symm {value other : Value} (alike : Alike value other) : Alike other value := by
  cases alike with
  | reordered same => exact .reordered same.symm
  | repeated same => exact .repeated fun item => (same item).symm

/-- Every entry of a table is found again under its key. -/
theorem Alike.entries {entries : List (String × Value)} {other : Value}
    (alike : Alike (.table entries) other) :
    ∃ others, other = .table others ∧ ∀ key value, (key, value) ∈ entries →
      ∃ found, (key, found) ∈ others ∧ Reordered value found := by
  cases alike with
  | reordered same => exact same.entries

/-- Every item of an array is found again. -/
theorem Alike.items {items : List Value} {other : Value} (alike : Alike (.array items) other) :
    ∃ others, other = .array others ∧
      ∀ item ∈ items, ∃ found ∈ others, Reordered item found := by
  cases alike with
  | reordered same => exact same.items
  | repeated same =>
      exact ⟨_, rfl, fun item member => ⟨item, (same item).1 member, .refl item⟩⟩

/-- What is like a tree is one. -/
theorem Alike.isTree {value other : Value} (alike : Alike value other) (tree : value.IsTree) :
    other.IsTree := by
  cases alike with
  | reordered same => exact same.isTree tree
  | repeated same => exact .array fun item member => tree.item ((same item).2 member)

theorem mirrors_of_reordered {document other : List (String × Value)}
    (same : Reordered (.table document) (.table other)) : Mirrors document other := by
  obtain ⟨_, ⟨⟩, each⟩ := same.entries
  intro key value member
  obtain ⟨found, inside, one⟩ := each key value member
  exact ⟨found, inside, .reordered one⟩

theorem mirrors_of_repeated {before after : List (String × Value)} {items others : List Value}
    (same : ∀ item, item ∈ items ↔ item ∈ others) :
    Mirrors (before ++ ("ignore", .array items) :: after)
      (before ++ ("ignore", .array others) :: after) := by
  intro key value member
  simp only [List.mem_append, List.mem_cons, Prod.mk.injEq] at member
  rcases member with earlier | ⟨rfl, rfl⟩ | later
  · exact ⟨value, by simp [earlier], .reordered (.refl value)⟩
  · exact ⟨.array others, by simp, .repeated same⟩
  · exact ⟨value, by simp [later], .reordered (.refl value)⟩

section Mirrors

variable {document other : List (String × Value)} (mirrors : Mirrors other document)
include mirrors

theorem Shaped.of_mirrors (shaped : Shaped document) : Shaped other where
  noShadow := by
    intro value member
    obtain ⟨found, inside, alike⟩ := mirrors _ _ member
    obtain ⟨entries, rfl⟩ := shaped.noShadow found inside
    obtain ⟨others, rfl, _⟩ := alike.symm.entries
    exact ⟨others, rfl⟩
  ignore := by
    intro others member item itemMember
    obtain ⟨found, inside, alike⟩ := mirrors _ _ member
    obtain ⟨items, rfl, each⟩ := alike.items
    obtain ⟨origin, originMember, same⟩ := each item itemMember
    obtain ⟨text, rfl⟩ := shaped.ignore items inside origin originMember
    exact ⟨text, same.symm.eq_of_scalar trivial⟩

/-- A document with distinct keys is a tree if it mirrors one. -/
theorem isTree_of_mirrors (tree : (Value.table document).IsTree)
    (distinct : (other.map Prod.fst).Nodup) : (Value.table other).IsTree := by
  refine .table distinct fun entry member => ?_
  obtain ⟨found, inside, alike⟩ := mirrors entry.1 entry.2 member
  exact alike.symm.isTree (tree.entry inside)

theorem Conforms.of_mirrors (conforms : Conforms document) : Conforms other where
  known := by
    intro entry member
    obtain ⟨found, inside, _⟩ := mirrors _ _ member
    exact conforms.known (entry.1, found) inside
  ignore := by
    intro value member
    obtain ⟨found, inside, alike⟩ := mirrors _ _ member
    obtain ⟨items, rfl, named⟩ := conforms.ignore found inside
    obtain ⟨others, rfl, _⟩ := alike.symm.items
    obtain ⟨_, ⟨⟩, each⟩ := alike.items
    refine ⟨others, rfl, fun item itemMember => ?_⟩
    obtain ⟨origin, originMember, same⟩ := each item itemMember
    cases named origin originMember
    exact same.symm.eq_of_scalar trivial
  exceptions := by
    intro entries value member valueMember
    obtain ⟨found, inside, alike⟩ := mirrors _ _ member
    obtain ⟨origins, rfl, each⟩ := alike.entries
    obtain ⟨origin, originMember, same⟩ := each _ _ valueMember
    obtain ⟨names, rfl, boolean⟩ := conforms.exceptions origins origin inside originMember
    obtain ⟨others, rfl, _⟩ := same.symm.entries
    obtain ⟨_, ⟨⟩, eachName⟩ := same.entries
    refine ⟨others, rfl, fun entry entryMember => ?_⟩
    obtain ⟨origin, originMember, same⟩ := eachName _ _ entryMember
    obtain ⟨exempt, rfl⟩ := boolean _ originMember
    exact ⟨exempt, same.symm.eq_of_scalar trivial⟩

theorem IgnoresNothing.of_mirrors (ignores : IgnoresNothing document) : IgnoresNothing other := by
  intro value member
  obtain ⟨found, inside, alike⟩ := mirrors _ _ member
  cases ignores found inside
  obtain ⟨others, rfl, _⟩ := alike.symm.items
  obtain ⟨_, ⟨⟩, each⟩ := alike.items
  have empty : others = [] := by
    refine List.eq_nil_iff_forall_not_mem.2 fun item itemMember => ?_
    obtain ⟨_, originMember, _⟩ := each item itemMember
    cases originMember
  rw [empty]

theorem Excepts.of_mirrors {name : String} {exempt : Bool} (excepts : Excepts other name exempt) :
    Excepts document name exempt := by
  obtain ⟨entries, names, member, namesMember, nameMember⟩ := excepts
  obtain ⟨found, inside, alike⟩ := mirrors _ _ member
  obtain ⟨origins, rfl, each⟩ := alike.entries
  obtain ⟨origin, originMember, same⟩ := each _ _ namesMember
  obtain ⟨originNames, rfl, eachName⟩ := same.entries
  obtain ⟨value, valueMember, sameValue⟩ := eachName _ _ nameMember
  cases sameValue.eq_of_scalar trivial
  exact ⟨origins, originNames, inside, originMember, valueMember⟩

end Mirrors

/-- Documents that mirror each other ask for the same settings, or are both refused. -/
theorem settings_of_mirrors {document other : List (String × Value)}
    (admissible : Admissible document) (tree : (Value.table other).IsTree)
    (there : Mirrors document other) (back : Mirrors other document) :
    (Options.ofEntries other).toOption.map Options.toSettings =
      (Options.ofEntries document).toOption.map Options.toSettings :=
  settings_congr admissible ((admissible.shaped.of_mirrors back).admissible tree)
    ⟨.of_mirrors there, .of_mirrors back⟩ ⟨.of_mirrors there, .of_mirrors back⟩
    fun _ _ => ⟨.of_mirrors back, .of_mirrors there⟩

/-- Reading a document succeeds exactly if it meets the conditions, whatever other keys the table of
the rule has.  The rule is then enabled exactly if nothing is ignored, and a name is exempt if the
exceptions say so, and, where they are silent, if it is one of the conventional ones.  The order in
tables and repetitions among the rules to ignore have no part in the settings. -/
theorem ofEntries_means_settings (document : List (String × Value))
    (admissible : Admissible document) :
    ((∃ options, Options.ofEntries document = .ok options) ↔ Conforms document) ∧
    (∀ (before after entries others : List (String × Value)),
      document = before ++ ("no-shadow", .table entries) :: after →
      (Value.table others).IsTree →
      (∀ value, ("exceptions", value) ∈ others ↔ ("exceptions", value) ∈ entries) →
      Options.ofEntries (before ++ ("no-shadow", .table others) :: after) =
        Options.ofEntries document) ∧
    (∀ options, Options.ofEntries document = .ok options →
      (options.toSettings.enables .noShadow = true ↔ IgnoresNothing document) ∧
      ∀ name,
        (∀ exempt, Excepts document name exempt →
          options.toSettings.exceptions.isExempt name = exempt) ∧
        ((∀ exempt, ¬ Excepts document name exempt) →
          (options.toSettings.exceptions.isExempt name = true ↔
            name = "err" ∨ name = "res" ∨ name = "callback"))) ∧
    (∀ other, Reordered (.table document) (.table other) →
      (Options.ofEntries other).toOption.map Options.toSettings =
        (Options.ofEntries document).toOption.map Options.toSettings) ∧
    ∀ (before after : List (String × Value)) (items others : List Value),
      document = before ++ ("ignore", .array items) :: after →
      (∀ item, item ∈ items ↔ item ∈ others) →
      (Options.ofEntries (before ++ ("ignore", .array others) :: after)).toOption.map
          Options.toSettings =
        (Options.ofEntries document).toOption.map Options.toSettings := by
  refine ⟨exists_ofEntries_iff admissible, ?_, ?_, ?_, ?_⟩
  · rintro before after entries others rfl otherTree same
    have tree := admissible.tree.entry (List.mem_append_right before List.mem_cons_self)
    exact Options.ofEntries_congr tree otherTree same
  · intro options read
    exact ⟨enables_toSettings_iff admissible read, fun name =>
      ⟨fun exempt => isExempt_of_excepts admissible read,
        isExempt_iff_of_not_excepts admissible read⟩⟩
  · intro other same
    exact settings_of_mirrors admissible (same.isTree admissible.tree) (mirrors_of_reordered same)
      (mirrors_of_reordered same.symm)
  · rintro before after items others rfl same
    have tree := admissible.tree.entry (List.mem_append_right before List.mem_cons_self)
    have othersTree : (Value.array others).IsTree := (Alike.repeated same).isTree tree
    exact settings_of_mirrors admissible (admissible.tree.replace othersTree)
      (mirrors_of_repeated same) (mirrors_of_repeated fun item => (same item).symm)

/-- The exceptions of a document that makes one name exempt and another one reportable. -/
def mixedExceptions : String × Value :=
  ("exceptions", .table [("done", .boolean true), ("err", .boolean false)])

theorem isTree_mixedExceptions : mixedExceptions.2.IsTree :=
  .table (by decide) (by simp [Value.IsTree.boolean])

/-- A document that ignores the rule twice and has a key that is left alone. -/
def crowdedDocument : List (String × Value) :=
  [("ignore", .array [.string "no-shadow", .string "no-shadow"]),
    ("no-shadow", .table
      [mixedExceptions, ("level", .table [("depth", .array [.integer (some 3), .boolean true])])])]

theorem admissible_crowdedDocument : Admissible crowdedDocument where
  tree := by
    have depth : (Value.array [.integer (some 3), .boolean true]).IsTree :=
      .array (by simp [Value.IsTree.boolean, Value.IsTree.integer])
    have level : (Value.table [("depth", .array [.integer (some 3), .boolean true])]).IsTree :=
      .table (by decide) (by simpa using depth)
    have ignore : (Value.array [.string "no-shadow", .string "no-shadow"]).IsTree :=
      .array (by simp [Value.IsTree.string])
    refine .table (by decide) ?_
    simp only [crowdedDocument, List.forall_mem_cons, List.not_mem_nil, false_imp_iff,
      implies_true, and_true]
    exact ⟨ignore, .table (by decide) (by simpa using ⟨isTree_mixedExceptions, level⟩)⟩
  noShadow := by simp [crowdedDocument]
  ignore := by simp [crowdedDocument]

theorem conforms_crowdedDocument : Conforms crowdedDocument where
  known := by simp [crowdedDocument]
  ignore := by simp [crowdedDocument]
  exceptions := by
    intro entries value member valueMember
    obtain rfl : entries = _ := by simpa [crowdedDocument] using member
    obtain rfl : value = _ := by simpa [mixedExceptions] using valueMember
    exact ⟨_, rfl, by simp⟩

theorem excepts_crowdedDocument_iff {name : String} {exempt : Bool} :
    Excepts crowdedDocument name exempt ↔ (name, exempt) ∈ [("done", true), ("err", false)] := by
  simp [Excepts, crowdedDocument, mixedExceptions]

/-- The crowded document disables the rule and changes what is exempt; the documents without the
key that is left alone, with their entries in another order, and with the rule named once ask for
the same. -/
theorem ofEntries_means_settings_of_crowdedDocument :
    ∃ options, Options.ofEntries crowdedDocument = .ok options ∧
      options.toSettings.enables .noShadow = false ∧
      options.toSettings.exceptions.isExempt "done" = true ∧
      options.toSettings.exceptions.isExempt "err" = false ∧
      options.toSettings.exceptions.isExempt "res" = true ∧
      options.toSettings.exceptions.isExempt "level" = false ∧
      Options.ofEntries
        [("ignore", .array [.string "no-shadow", .string "no-shadow"]),
          ("no-shadow", .table [mixedExceptions])] = .ok options ∧
      (Options.ofEntries crowdedDocument.reverse).toOption.map Options.toSettings =
        some options.toSettings ∧
      (Options.ofEntries
          (("ignore", .array [.string "no-shadow"]) :: crowdedDocument.tail)).toOption.map
        Options.toSettings = some options.toSettings := by
  obtain ⟨success, others, meaning, turned, repeated⟩ :=
    ofEntries_means_settings crowdedDocument admissible_crowdedDocument
  obtain ⟨options, read⟩ := success.2 conforms_crowdedDocument
  obtain ⟨enables, exempt⟩ := meaning options read
  have silent {name : String} (other : name ≠ "done" ∧ name ≠ "err") (exempt : Bool) :
      ¬ Excepts crowdedDocument name exempt := by
    simp [excepts_crowdedDocument_iff, other]
  refine ⟨options, read, ?_, ?_, ?_, ?_, ?_, ?_, ?_, ?_⟩
  · rw [← Bool.not_eq_true, enables]
    intro nothing
    cases nothing _ List.mem_cons_self
  · exact (exempt "done").1 true (excepts_crowdedDocument_iff.2 (by decide))
  · exact (exempt "err").1 false (excepts_crowdedDocument_iff.2 (by decide))
  · exact ((exempt "res").2 (silent (by decide))).2 (by decide)
  · rw [← Bool.not_eq_true, (exempt "level").2 (silent (by decide))]
    decide
  · have tree : (Value.table [mixedExceptions]).IsTree :=
      .table (by decide) (by simpa using isTree_mixedExceptions)
    have bare := others [("ignore", .array [.string "no-shadow", .string "no-shadow"])] [] _
      [mixedExceptions] rfl tree (by simp)
    exact bare.trans read
  · have rows : Reordered (.table crowdedDocument) (.table crowdedDocument.reverse) :=
      .perm (List.reverse_perm _).symm
    rw [turned _ rows, read]
    rfl
  · have once := repeated [] _ _ [.string "no-shadow"] rfl (by simp)
    rw [read] at once
    exact once

end ShadowLint.Config
