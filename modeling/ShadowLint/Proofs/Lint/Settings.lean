import Mathlib.Data.Prod.Lex
import ShadowLint.Proofs.NameTable
import ShadowLint.Proofs.Report.Text
import ShadowLint.Proofs.Text.Bytes

/-!
# What overrides make of the exceptions, and the text of settings

The exceptions say of a name what its last override says, whatever else stands in the row of
overrides (`Exceptions.find?_withOverrides_iff`).  A table of exceptions may be gone through in any
order: put in order the row is always the same (`Exceptions.Traverses.inOrder_eq`), so the text
that shows settings does not depend on it.  The text has a line for each exception, and these tell
the exceptions, unless a name holds a line feed (`exceptions_eq_of_text`).
-/

namespace ShadowLint.Lint

open Report (HasLines)

/-! ## The last word on a name -/

/-- The value that stands last under a name. -/
def LastUnder (pairs : List (String × Bool)) (name : String) (value : Bool) : Prop :=
  ∃ before after, pairs = before ++ (name, value) :: after ∧ name ∉ after.map Prod.fst

theorem forall_bne_iff_notMem {pairs : List (String × Bool)} {name : String} :
    (∀ pair ∈ pairs, (name != pair.1) = true) ↔ name ∉ pairs.map Prod.fst := by
  simp only [bne_iff_ne, List.mem_map, not_exists, not_and]
  exact forall₂_congr fun pair _ => ne_comm

theorem lookup_reverse_eq_some_iff {pairs : List (String × Bool)} {name : String} {value : Bool} :
    pairs.reverse.lookup name = some value ↔ LastUnder pairs name value := by
  rw [List.lookup_eq_some_iff]
  constructor
  · rintro ⟨after, before, backwards, others⟩
    refine ⟨before.reverse, after.reverse, ?_, ?_⟩
    · rw [← List.reverse_inj, backwards]
      simp
    · rwa [List.map_reverse, List.mem_reverse, ← forall_bne_iff_notMem]
  · rintro ⟨before, after, rfl, others⟩
    refine ⟨after.reverse, before.reverse, by simp, forall_bne_iff_notMem.2 ?_⟩
    rwa [List.map_reverse, List.mem_reverse]

theorem lookup_reverse_eq_none_iff {pairs : List (String × Bool)} {name : String} :
    pairs.reverse.lookup name = none ↔ name ∉ pairs.map Prod.fst := by
  rw [List.lookup_eq_none_iff, forall_bne_iff_notMem, List.map_reverse, List.mem_reverse]

namespace Exceptions

/-- The last override of a name counts, and without one a conventional name is mapped to true. -/
theorem find?_withOverrides_iff {overrides : List (String × Bool)} {name : String} {value : Bool} :
    (withOverrides overrides).find? name = some value ↔
      LastUnder overrides name value ∨
        name ∉ overrides.map Prod.fst ∧ name ∈ conventional ∧ value = true := by
  rw [withOverrides, NameTable.find?_insertAll, find?_default, Option.or_eq_some_iff,
    lookup_reverse_eq_some_iff, lookup_reverse_eq_none_iff]
  by_cases known : name ∈ conventional <;> simp [known, eq_comm]

theorem withOverrides_congr {overrides others : List (String × Bool)}
    (same : ∀ name value, LastUnder overrides name value ↔ LastUnder others name value) :
    withOverrides overrides = withOverrides others := by
  have lookups (name : String) : overrides.reverse.lookup name = others.reverse.lookup name := by
    refine Option.ext fun value => ?_
    rw [lookup_reverse_eq_some_iff, same, lookup_reverse_eq_some_iff]
  refine NameTable.eq_of_find? fun name => ?_
  rw [withOverrides, withOverrides, NameTable.find?_insertAll, NameTable.find?_insertAll, lookups]

theorem isExempt_iff {exceptions : Exceptions} {name : String} :
    exceptions.isExempt name = true ↔ exceptions.find? name = some true := by
  rw [isExempt]
  cases exceptions.find? name with
  | none => simp
  | some value => simp

/-- A row in which the exceptions may be gone through: every name that is mapped comes once, with
its value. -/
structure Traverses (exceptions : Exceptions) (row : List (String × Bool)) : Prop where
  once : (row.map Prod.fst).Nodup
  mapped : ∀ name value, (name, value) ∈ row ↔ exceptions.find? name = some value

theorem traverses_entries (exceptions : Exceptions) : exceptions.Traverses exceptions.entries :=
  ⟨exceptions.distinct, fun _ _ => NameTable.mem_entries_iff⟩

theorem Traverses.reverse {exceptions : Exceptions} {row : List (String × Bool)}
    (traverses : exceptions.Traverses row) : exceptions.Traverses row.reverse := by
  refine ⟨?_, fun name value => ?_⟩
  · rw [List.map_reverse, List.nodup_reverse]
    exact traverses.once
  · rw [List.mem_reverse, traverses.mapped]

theorem Traverses.perm {exceptions : Exceptions} {row other : List (String × Bool)}
    (traverses : exceptions.Traverses row) (traversesToo : exceptions.Traverses other) :
    row.Perm other := by
  refine (List.perm_ext_iff_of_nodup (List.Nodup.of_map _ traverses.once)
    (List.Nodup.of_map _ traversesToo.once)).2 fun entry => ?_
  rw [traverses.mapped, traversesToo.mapped]

end Exceptions

/-! ## The text of settings -/

/-- Exceptions in the order of their names, and of their values where names are equal. -/
def inOrder (row : List (String × Bool)) : List (String × Bool) :=
  row.mergeSort fun entry other => decide (toLex entry ≤ toLex other)

/-- In whatever order the exceptions are gone through, put in order they are the entries of their
table. -/
theorem Exceptions.Traverses.inOrder_eq {exceptions : Exceptions} {row : List (String × Bool)}
    (traverses : exceptions.Traverses row) : inOrder row = exceptions.entries := by
  have perm : (inOrder row).Perm exceptions.entries :=
    (List.mergeSort_perm row _).trans (traverses.perm exceptions.traverses_entries)
  have sorted : (inOrder row).Pairwise fun entry other => toLex entry ≤ toLex other := by
    refine (List.pairwise_mergeSort ?_ ?_ row).imp of_decide_eq_true
    · intro first second third
      simp only [decide_eq_true_eq]
      exact le_trans
    · intro first second
      simp only [Bool.or_eq_true, decide_eq_true_eq]
      exact le_total _ _
  have ascending : exceptions.entries.Pairwise fun entry other => toLex entry ≤ toLex other :=
    exceptions.ascending.imp fun less => Prod.Lex.toLex_le_toLex.2 (Or.inl less)
  exact perm.eq_of_pairwise (fun _ _ _ _ less more => toLex.injective (le_antisymm less more))
    sorted ascending

/-- The text that shows rules and exceptions which are gone through in some order. -/
def Settings.shown (rules : List Rule) (row : List (String × Bool)) : String :=
  String.join (piecesOf rules (inOrder row))

theorem notMem_intercalate {c : Char} {gap : List Char} {parts : List (List Char)}
    (between : c ∉ gap) (inside : ∀ part ∈ parts, c ∉ part) : c ∉ gap.intercalate parts := by
  induction parts with
  | nil => simp
  | cons first rest ih =>
      obtain ⟨clean, others⟩ := List.forall_mem_cons.1 inside
      cases rest with
      | nil => simpa using clean
      | cons second more =>
          rw [List.intercalate_cons_cons]
          simp [clean, between, ih others]

theorem newline_notMem_ruleNames (rules : List Rule) :
    '\n' ∉ (", ".intercalate (rules.map Rule.name)).toList := by
  rw [String.toList_intercalate]
  refine notMem_intercalate (by decide) fun part member => ?_
  obtain ⟨_, named, rfl⟩ := List.mem_map.1 member
  obtain ⟨rule, _, rfl⟩ := List.mem_map.1 named
  cases rule
  decide

theorem toString_true : toString true = "true" := rfl

theorem toString_false : toString false = "false" := rfl

theorem exceptionLine_injective {entry other : String × Bool}
    (same : Settings.exceptionLine entry = Settings.exceptionLine other) : entry = other := by
  obtain ⟨name, value⟩ := entry
  obtain ⟨otherName, otherValue⟩ := other
  rw [← String.toList_inj] at same
  simp only [Settings.exceptionLine, String.append_assoc, String.toList_append,
    List.append_cancel_left_eq] at same
  -- the line ends with the value, so the value is read from the end
  have values : value = otherValue := by
    have backwards := congrArg List.reverse same
    cases value <;> cases otherValue <;> simp [toString_true, toString_false] at backwards ⊢
  subst values
  rw [String.toList_inj.1 (List.append_cancel_right same)]

theorem newline_notMem_headingLines {rules : List Rule} {line : String}
    (member : line ∈ Settings.headingLines rules) : '\n' ∉ line.toList := by
  have names := newline_notMem_ruleNames rules
  simp only [Settings.headingLines, List.mem_cons, List.not_mem_nil, or_false] at member
  rcases member with rfl | rfl | rfl | rfl
  · decide
  · decide
  · simpa [String.toList_append] using names
  · decide

theorem newline_notMem_exceptionLine {entry : String × Bool} (whole : '\n' ∉ entry.1.toList) :
    '\n' ∉ (Settings.exceptionLine entry).toList := by
  obtain ⟨name, value⟩ := entry
  cases value <;> simpa [Settings.exceptionLine, toString_true, toString_false] using whole

/-- Where no name holds a line feed, there is a line for each exception. -/
theorem hasLines_text {settings : Settings}
    (whole : ∀ entry ∈ settings.exceptions.entries, '\n' ∉ entry.1.toList) :
    HasLines settings.text.toList
      ((Settings.linesOf settings.rules settings.exceptions.entries).map String.toList) := by
  constructor
  · simp [Settings.text, Settings.pieces, Settings.piecesOf, String.toList_join, List.flatMap_map]
  · rw [List.forall_mem_map]
    intro line member
    simp only [Settings.linesOf, List.mem_append, List.mem_map, List.mem_singleton] at member
    rcases member with (heading | ⟨entry, inside, rfl⟩) | rfl
    · exact newline_notMem_headingLines heading
    · exact newline_notMem_exceptionLine (whole entry inside)
    · decide

/-- The text of settings tells the exceptions, unless a name holds a line feed. -/
theorem exceptions_eq_of_text {settings other : Settings}
    (whole : ∀ entry ∈ settings.exceptions.entries, '\n' ∉ entry.1.toList)
    (wholeToo : ∀ entry ∈ other.exceptions.entries, '\n' ∉ entry.1.toList)
    (same : settings.text = other.text) : settings.exceptions = other.exceptions := by
  have lines := hasLines_text whole
  rw [same] at lines
  have rows := (List.map_inj_right fun _ _ => String.toList_inj.1).1
    (lines.unique (hasLines_text wholeToo))
  -- both headings have four lines
  obtain ⟨_, entries⟩ := List.append_inj (List.append_cancel_right rows) rfl
  have told : settings.exceptions.entries = other.exceptions.entries :=
    (List.map_inj_right fun _ _ => exceptionLine_injective).1 entries
  refine NameTable.eq_of_find? fun name => Option.ext fun value => ?_
  rw [← NameTable.mem_entries_iff, told, NameTable.mem_entries_iff]

/-- A name with a line feed can look like two exceptions. -/
example :
    { Settings.default with exceptions := .withOverrides [("a", true), ("b", true)] }.text =
      { Settings.default with exceptions := .withOverrides [("a = true,\n\tb", true)] }.text := by
  decide +kernel

/-- In whatever order the exceptions are gone through, the text of settings is the same. -/
theorem shown_of_traverses {settings : Settings} {row : List (String × Bool)}
    (traverses : settings.exceptions.Traverses row) :
    Settings.shown settings.rules row = settings.text := by
  rw [Settings.shown, traverses.inOrder_eq]
  rfl

/-- The last override of a name says whether it is exempt, and without one it is exempt if it is
conventional.  Overrides that say the same last of every name give the same exceptions and the same
text.  The text says of each name that is mapped once what it is mapped to, in the order of the
bytes of the names; and it tells the exceptions where no name holds a line feed. -/
theorem overrides_settle_exceptions_and_text :
    (∀ (overrides : List (String × Bool)) (name : String),
      (∀ value : Bool, (Exceptions.withOverrides overrides).find? name = some value ↔
        LastUnder overrides name value ∨
          name ∉ overrides.map Prod.fst ∧ name ∈ ["err", "res", "callback"] ∧ value = true) ∧
      ((Exceptions.withOverrides overrides).isExempt name = true ↔
        (Exceptions.withOverrides overrides).find? name = some true)) ∧
    (∀ overrides others : List (String × Bool),
      (∀ name value, LastUnder overrides name value ↔ LastUnder others name value) →
      Exceptions.withOverrides overrides = .withOverrides others ∧
        ∀ (rules : List Rule) (row other : List (String × Bool)),
          (Exceptions.withOverrides overrides).Traverses row →
          (Exceptions.withOverrides others).Traverses other →
          Settings.shown rules row = Settings.shown rules other) ∧
    (∀ (settings : Settings) (row : List (String × Bool)), settings.exceptions.Traverses row →
      settings.text = Settings.shown settings.rules row ∧
        settings.exceptions.Traverses (inOrder row) ∧
        ((inOrder row).map Prod.fst).Pairwise fun name other =>
          Text.bytes name < Text.bytes other) ∧
    ∀ settings other : Settings,
      (∀ entry ∈ settings.exceptions.entries, '\n' ∉ entry.1.toList) →
      (∀ entry ∈ other.exceptions.entries, '\n' ∉ entry.1.toList) →
      settings.text = other.text → settings.exceptions = other.exceptions := by
  refine ⟨fun overrides name => ⟨fun value => Exceptions.find?_withOverrides_iff,
    Exceptions.isExempt_iff⟩, fun overrides others same => ?_, fun settings row traverses => ?_,
    fun settings other whole wholeToo => exceptions_eq_of_text whole wholeToo⟩
  · have equal := Exceptions.withOverrides_congr same
    refine ⟨equal, fun rules row other traverses traversesToo => ?_⟩
    rw [equal] at traverses
    rw [Settings.shown, Settings.shown, traverses.inOrder_eq, traversesToo.inOrder_eq]
  · refine ⟨(shown_of_traverses traverses).symm, ?_, ?_⟩
    · rw [traverses.inOrder_eq]
      exact settings.exceptions.traverses_entries
    · rw [traverses.inOrder_eq, List.pairwise_map]
      exact settings.exceptions.ascending.imp Text.lt_iff_bytes_lt.1

/-- Overrides that take back what they said at first. -/
def wordyOverrides : List (String × Bool) :=
  [("res", true), ("\x7d = true,", false), ("res", false), ("é", false), ("\x7d = true,", true)]

/-- Overrides that say each thing once, in another order. -/
def terseOverrides : List (String × Bool) :=
  [("é", false), ("\x7d = true,", true), ("res", false)]

/-- The overrides give the same settings and, read backwards, the same text, in which a name that
ends like a line stands as it is; and their text does not stand for other exceptions. -/
theorem overrides_settle_wordyOverrides :
    Exceptions.withOverrides wordyOverrides = .withOverrides terseOverrides ∧
      Settings.shown [] (Exceptions.withOverrides wordyOverrides).entries =
        Settings.shown [] (Exceptions.withOverrides terseOverrides).entries.reverse ∧
      (Settings.text { Settings.default with exceptions := .withOverrides wordyOverrides } =
        Settings.shown Settings.default.rules
          (Exceptions.withOverrides terseOverrides).entries.reverse) ∧
      { Settings.default with exceptions := .withOverrides wordyOverrides }.exceptions =
        { Settings.forRules [.noShadow] with
          exceptions := .withOverrides terseOverrides }.exceptions := by
  have same : ∀ name value,
      LastUnder wordyOverrides name value ↔ LastUnder terseOverrides name value := by
    intro name value
    rw [← lookup_reverse_eq_some_iff, ← lookup_reverse_eq_some_iff]
    simp only [wordyOverrides, terseOverrides, List.reverse_cons, List.reverse_nil, List.nil_append,
      List.cons_append, lookup_cons_eq_ite]
    grind
  obtain ⟨_, settled, shown, told⟩ := overrides_settle_exceptions_and_text
  obtain ⟨equal, texts⟩ := settled wordyOverrides terseOverrides same
  have forwards := (Exceptions.withOverrides wordyOverrides).traverses_entries
  have backwards := (Exceptions.withOverrides terseOverrides).traverses_entries.reverse
  refine ⟨equal, texts [] _ _ forwards backwards, ?_, ?_⟩
  · exact (shown _ _ (equal ▸ backwards)).1
  · exact told _ _ (by decide +kernel) (by decide +kernel) (by decide +kernel)

end ShadowLint.Lint
