import ShadowLint.Proofs.Config.Mirroring
import ShadowLint.Proofs.Toml.Document

/-!
# What the text of a configuration file means

The tables of the document that a text stands for are in order, so it is a tree but for numbers
that are out of reach (`isTree_document?_iff`).  A number that is out of reach is refused wherever
it stands, under keys that are left alone as well (`excess?_of_ofEntries`).  So what is known of
document trees carries over to texts: a text stands for options exactly if its numbers are in reach
and its document meets the conditions (`exists_ofText_iff`), and the settings it asks for are those
of its document (`settings_of_text`), whatever other keys the table of the rule has
(`ofText_congr`), and in whatever order the entries stand (`settings_of_mirroring_texts`).
-/

namespace ShadowLint.Config

open Toml (Value)

/-! ## Numbers in reach -/

/-- Values that are in order are trees, but for numbers that are out of reach. -/
theorem isTree_of_ordered {value : Value} (ordered : value.Ordered)
    (inReach : excess? value = none) : value.IsTree := by
  induction ordered with
  | @scalar value scalar =>
      cases value with
      | string text => exact .string text
      | boolean value => exact .boolean value
      | dateTime value => exact .dateTime value
      | array | table => exact scalar.elim
      | float value =>
          cases value with
          | none => simp [excess?, Value.foundFloat] at inReach
          | some value => exact .float value
      | integer value =>
          cases value with
          | none => simp [excess?, Value.foundInteger] at inReach
          | some value =>
              cases named : Value.foundInteger (some value) with
              | error mismatch => simp [excess?, named] at inReach
              | ok found =>
                  obtain ⟨least, most⟩ := exists_foundInteger_iff.1 ⟨found, named⟩
                  exact .integer least most
  | array _ each =>
      rw [excess?, excessOfItems?_eq_none_iff] at inReach
      exact .array fun item member => each item member (inReach item member)
  | table ascending _ each =>
      rw [excess?, excessOfEntries?_eq_none_iff] at inReach
      exact .table (List.pairwise_map.2 (ascending.imp String.ne_of_lt)) fun entry member =>
        each entry member (inReach entry member)

/-- The document of a text is a tree exactly if all its numbers are in reach. -/
theorem isTree_document?_iff {text : String} {entries : List (String × Value)}
    (read : Toml.document? text = some entries) :
    (Value.table entries).IsTree ↔ excess? (.table entries) = none :=
  ⟨excess?_eq_none, isTree_of_ordered (Toml.document?_ordered read)⟩

theorem excess?_of_readExceptions {value : Value} {exceptions : NameTable Bool}
    (read : readExceptions value = .ok exceptions) : excess? value = none := by
  obtain ⟨pairs, rfl, _⟩ := readExceptions_eq_ok_iff.1 read
  rw [excess?, excessOfEntries?_eq_none_iff, List.forall_mem_map]
  intro pair _
  exact excess?_eq_none (.boolean pair.2)

/-- An entry of the table of the rule that is passed has its numbers in reach. -/
theorem excess?_of_readEntry {start next : NoShadowOptions} {entry : String × Value}
    (read : start.readEntry entry = .ok next) : excess? entry.2 = none := by
  obtain ⟨key, value⟩ := entry
  rw [NoShadowOptions.readEntry] at read
  split at read
  · obtain ⟨exceptions, reads, _⟩ := Outcome.bind_eq_ok_iff.1 read
    exact excess?_of_readExceptions reads
  · split at read
    next => cases read
    next inReach => exact inReach

theorem excess?_of_readNoShadow {entries : List (String × Value)} {options : NoShadowOptions}
    (read : readNoShadow (.table entries) = .ok options) : excess? (.table entries) = none := by
  rw [excess?, excessOfEntries?_eq_none_iff]
  rw [readNoShadow] at read
  generalize (⟨none⟩ : NoShadowOptions) = start at read
  induction entries generalizing start with
  | nil => simp
  | cons entry rest ih =>
      rw [List.foldlM_cons] at read
      obtain ⟨next, first, others⟩ := Outcome.bind_eq_ok_iff.1 read
      exact List.forall_mem_cons.2 ⟨excess?_of_readEntry first, ih next others⟩

/-- A document that stands for options has all its numbers in reach. -/
theorem excess?_of_ofEntries {document : List (String × Value)} {options : Options}
    (distinct : (document.map Prod.fst).Nodup) (shaped : Shaped document)
    (read : Options.ofEntries document = .ok options) : excess? (.table document) = none := by
  obtain ⟨known, ignore, noShadow⟩ := (Options.ofEntries_eq_ok_iff distinct).1 read
  rw [excess?, excessOfEntries?_eq_none_iff]
  rintro ⟨key, value⟩ member
  rcases known _ member with same | same
  · cases same
    obtain ⟨rules, reads, _⟩ := (reads_of_mem distinct member).1 ignore
    have strings := fun items (array : value = .array items) => shaped.ignore items (array ▸ member)
    rw [(readIgnore_eq_ok_iff strings).1 reads, excess?, excessOfItems?_eq_none_iff,
      List.forall_mem_map]
    intro rule _
    exact excess?_eq_none (.string rule.name)
  · cases same
    obtain ⟨own, reads, _⟩ := (reads_of_mem distinct member).1 noShadow
    obtain ⟨entries, rfl⟩ := shaped.noShadow value member
    exact excess?_of_readNoShadow reads

/-! ## Texts -/

section Text

variable {text : String} {document : List (String × Value)} {options : Options}

theorem ofText_eq_ok_iff (read : Toml.document? text = some document) :
    Options.ofText text = .ok options ↔ Options.ofEntries document = .ok options := by
  rw [Options.ofText, read]
  dsimp only
  cases Options.ofEntries document with
  | error mismatch => simp
  | ok found => simp

theorem toOption_ofText (read : Toml.document? text = some document) :
    (Options.ofText text).toOption = (Options.ofEntries document).toOption := by
  refine Option.ext fun options => ?_
  rw [Outcome.toOption_eq_some_iff, Outcome.toOption_eq_some_iff, ofText_eq_ok_iff read]

/-- The document of a text that stands for options is admissible, if its shape is. -/
theorem Shaped.admissible_of_text (shaped : Shaped document)
    (read : Toml.document? text = some document) (given : Options.ofText text = .ok options) :
    Admissible document := by
  have distinct := (Toml.document?_ordered read).distinct_keys
  exact shaped.admissible ((isTree_document?_iff read).2
    (excess?_of_ofEntries distinct shaped ((ofText_eq_ok_iff read).1 given)))

/-- A text stands for options exactly if the numbers in it are in reach and its document meets the
conditions. -/
theorem exists_ofText_iff (read : Toml.document? text = some document)
    (shaped : Shaped document) :
    (∃ options, Options.ofText text = .ok options) ↔
      excess? (.table document) = none ∧ Conforms document := by
  constructor
  · rintro ⟨options, given⟩
    have admissible := shaped.admissible_of_text read given
    exact ⟨excess?_eq_none admissible.tree,
      (exists_ofEntries_iff admissible).1 ⟨options, (ofText_eq_ok_iff read).1 given⟩⟩
  · rintro ⟨inReach, conforms⟩
    have admissible := shaped.admissible ((isTree_document?_iff read).2 inReach)
    obtain ⟨options, found⟩ := (exists_ofEntries_iff admissible).2 conforms
    exact ⟨options, (ofText_eq_ok_iff read).2 found⟩

/-- A number of more than 128 bits is refused under a key that is left alone. -/
example :
    Options.ofText "[no-shadow]\nlevel = [1, 340282366920938463463374607431768211456]" =
      .error (.mismatch .integerOverflow) := by
  decide +kernel

/-- The rule is enabled exactly if the text ignores nothing, and a name is exempt if its exceptions
say so, and, where they are silent, if it is one of the conventional ones. -/
theorem settings_of_text (read : Toml.document? text = some document) (shaped : Shaped document)
    (given : Options.ofText text = .ok options) :
    (options.toSettings.enables .noShadow = true ↔ IgnoresNothing document) ∧
      ∀ name,
        (∀ exempt, Excepts document name exempt →
          options.toSettings.exceptions.isExempt name = exempt) ∧
        ((∀ exempt, ¬ Excepts document name exempt) →
          (options.toSettings.exceptions.isExempt name = true ↔
            name = "err" ∨ name = "res" ∨ name = "callback")) := by
  have admissible := shaped.admissible_of_text read given
  have found := (ofText_eq_ok_iff read).1 given
  exact ⟨enables_toSettings_iff admissible found, fun name =>
    ⟨fun exempt => isExempt_of_excepts admissible found,
      isExempt_iff_of_not_excepts admissible found⟩⟩

/-- Texts whose documents differ in other keys of the table of the rule stand for the same options,
or are refused for the same reason, if the numbers under these keys are in reach. -/
theorem ofText_congr {other : String} {before after entries others : List (String × Value)}
    (read : Toml.document? text = some (before ++ ("no-shadow", .table entries) :: after))
    (readOther : Toml.document? other = some (before ++ ("no-shadow", .table others) :: after))
    (inReach : excess? (.table entries) = none) (inReachToo : excess? (.table others) = none)
    (same : ∀ value, ("exceptions", value) ∈ others ↔ ("exceptions", value) ∈ entries) :
    Options.ofText other = Options.ofText text := by
  have tree := isTree_of_ordered ((Toml.document?_ordered read).entry
    (List.mem_append_right before List.mem_cons_self)) inReach
  have otherTree := isTree_of_ordered ((Toml.document?_ordered readOther).entry
    (List.mem_append_right before List.mem_cons_self)) inReachToo
  rw [Options.ofText, Options.ofText, read, readOther]
  dsimp only
  rw [Options.ofEntries_congr tree otherTree same]

/-- Texts whose documents mirror each other ask for the same settings, or are both refused. -/
theorem settings_of_mirroring_texts {other : String} {twin : List (String × Value)}
    (read : Toml.document? text = some document) (readOther : Toml.document? other = some twin)
    (shaped : Shaped document) (there : Mirrors document twin) (back : Mirrors twin document) :
    (Options.ofText other).toOption.map Options.toSettings =
      (Options.ofText text).toOption.map Options.toSettings := by
  have distinct := (Toml.document?_ordered read).distinct_keys
  have distinctOther := (Toml.document?_ordered readOther).distinct_keys
  by_cases tree : (Value.table document).IsTree
  · rw [toOption_ofText read, toOption_ofText readOther]
    exact settings_of_mirrors (shaped.admissible tree) (isTree_of_mirrors back tree distinctOther)
      there back
  · -- a number that is out of reach stands in both
    have refused : (Options.ofText text).toOption = none := by
      refine Option.eq_none_iff_forall_ne_some.2 fun options given => tree ?_
      rw [Outcome.toOption_eq_some_iff] at given
      exact (shaped.admissible_of_text read given).tree
    have refusedToo : (Options.ofText other).toOption = none := by
      refine Option.eq_none_iff_forall_ne_some.2 fun options given => tree ?_
      rw [Outcome.toOption_eq_some_iff] at given
      have admissible := (shaped.of_mirrors back).admissible_of_text readOther given
      exact isTree_of_mirrors there admissible.tree distinct
    rw [refused, refusedToo]

end Text

end ShadowLint.Config
