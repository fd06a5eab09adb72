import Mathlib.Data.List.Forall2
import ShadowLint.Lint.File
import ShadowLint.Proofs.Lint.Document

/-!
# What linting some files gives

A file is read and then linted, and either of the two may be refused (`lintFile_eq_ok_iff`,
`lintFile_eq_error_iff`).  Of several files all are linted, and their messages stand one file
behind the other (`lintFiles_eq_ok_iff`), or the first that is not linted decides
(`lintFiles_eq_error_iff`), and nothing behind it has a part in that (`failsFirst_of_agree`).
-/

namespace ShadowLint.Lint

open Files (Snapshot)
open Scope (Model)

/-- The messages of some files, file by file and in the order of their paths. -/
def LintedOneByOne (settings : Settings) (files : Snapshot) (paths : List String)
    (parts : List (List Message)) : Prop :=
  List.Forall₂ (fun path own => settings.lintFile files path = .ok own) paths parts

/-- The error of the first of some files that is not linted. -/
def FailsFirst (settings : Settings) (files : Snapshot) (paths : List String)
    (error : FileError) : Prop :=
  ∃ before path after, paths = before ++ path :: after ∧
    (∀ earlier ∈ before, ∃ own, settings.lintFile files earlier = .ok own) ∧
    settings.lintFile files path = .error error

namespace Settings

variable {settings : Settings} {files others : Snapshot} {path : String} {paths : List String}

/-! ## One file -/

theorem lintFile_eq_ok_iff {own : List Message} :
    settings.lintFile files path = .ok own ↔
      ∃ text, files.readText path = .ok text ∧ settings.lint path text = .ok own := by
  unfold lintFile
  cases read : files.readText path with
  | error cause => simp
  | ok text =>
      cases linted : settings.lint path text with
      | error cause => simp [linted]
      | ok messages => simp [linted]

theorem lintFile_eq_error_iff {error : FileError} :
    settings.lintFile files path = .error error ↔
      (∃ cause, files.readText path = .error cause ∧ error = .unread path cause) ∨
      ∃ text cause, files.readText path = .ok text ∧ settings.lint path text = .error cause ∧
        error = .unlinted path cause := by
  unfold lintFile
  cases read : files.readText path with
  | error cause => simp [eq_comm]
  | ok text =>
      cases linted : settings.lint path text with
      | error cause => simp [linted, eq_comm]
      | ok messages => simp [linted]

/-- The messages about a file are the findings in its model in their order, and name the file. -/
theorem messages_of_lintFile {own : List Message}
    (linted : settings.lintFile files path = .ok own) :
    (∃ text model, files.readText path = .ok text ∧ Model.ofText text = .ok model ∧
      own.map (fun message => (⟨message.kind, message.body, message.range⟩ : Diagnostic)) =
        settings.check model) ∧
    ∀ message ∈ own, message.filename = path := by
  obtain ⟨text, read, linted⟩ := lintFile_eq_ok_iff.1 linted
  obtain ⟨model, loaded, rfl⟩ := lint_eq_ok_iff.1 linted
  constructor
  · refine ⟨text, model, read, loaded, ?_⟩
    rw [report, List.map_map]
    exact List.map_id _
  · intro message member
    exact (report_located settings path model message member).filename_eq

/-- What stands elsewhere has no part in linting a file. -/
theorem lintFile_congr (same : others.entry path = files.entry path) :
    settings.lintFile others path = settings.lintFile files path := by
  simp only [lintFile, Snapshot.readText, same]

/-! ## Several files -/

theorem lintFiles_cons_of_ok {own : List Message} (rest : List String)
    (linted : settings.lintFile files path = .ok own) :
    settings.lintFiles files (path :: rest) =
      (settings.lintFiles files rest).map (own ++ ·) := by
  rw [lintFiles, linted]
  show (settings.lintFiles files rest >>= fun others => .ok (own ++ others)) = _
  cases settings.lintFiles files rest with
  | error error => rfl
  | ok others => rfl

theorem lintFiles_of_oneByOne {parts : List (List Message)}
    (oneByOne : LintedOneByOne settings files paths parts) :
    settings.lintFiles files paths = .ok parts.flatten := by
  induction oneByOne with
  | nil => rfl
  | cons linted _ ih =>
      rw [lintFiles_cons_of_ok _ linted, ih]
      rfl

theorem lintFiles_of_failsFirst {error : FileError}
    (fails : FailsFirst settings files paths error) :
    settings.lintFiles files paths = .error error := by
  obtain ⟨before, path, after, rfl, linted, refused⟩ := fails
  induction before with
  | nil =>
      rw [List.nil_append, lintFiles, refused]
      rfl
  | cons first before ih =>
      obtain ⟨⟨own, ok⟩, earlier⟩ := List.forall_mem_cons.1 linted
      rw [List.cons_append, lintFiles_cons_of_ok _ ok, ih earlier]
      rfl

/-- Either all files are linted, or one of them is the first that is not. -/
theorem oneByOne_or_failsFirst (settings : Settings) (files : Snapshot) (paths : List String) :
    (∃ parts, LintedOneByOne settings files paths parts) ∨
      ∃ error, FailsFirst settings files paths error := by
  induction paths with
  | nil => exact .inl ⟨[], .nil⟩
  | cons path rest ih =>
      cases first : settings.lintFile files path with
      | error error =>
          exact .inr ⟨error, [], path, rest, rfl, by simp, first⟩
      | ok own =>
          rcases ih with ⟨parts, oneByOne⟩ | ⟨error, before, failing, after, rfl, linted, refused⟩
          · exact .inl ⟨own :: parts, .cons first oneByOne⟩
          · refine .inr ⟨error, path :: before, failing, after, rfl, ?_, refused⟩
            exact List.forall_mem_cons.2 ⟨⟨own, first⟩, linted⟩

theorem lintFiles_eq_ok_iff {messages : List Message} :
    settings.lintFiles files paths = .ok messages ↔
      ∃ parts, LintedOneByOne settings files paths parts ∧ messages = parts.flatten := by
  constructor
  · intro linted
    rcases oneByOne_or_failsFirst settings files paths with ⟨parts, oneByOne⟩ | ⟨error, fails⟩
    · have found := lintFiles_of_oneByOne oneByOne
      rw [linted] at found
      exact ⟨parts, oneByOne, Except.ok.inj found⟩
    · cases linted.symm.trans (lintFiles_of_failsFirst fails)
  · intro linted
    obtain ⟨parts, oneByOne, rfl⟩ := linted
    exact lintFiles_of_oneByOne oneByOne

theorem lintFiles_eq_error_iff {error : FileError} :
    settings.lintFiles files paths = .error error ↔ FailsFirst settings files paths error := by
  constructor
  · intro refused
    rcases oneByOne_or_failsFirst settings files paths with ⟨parts, oneByOne⟩ | ⟨other, fails⟩
    · cases refused.symm.trans (lintFiles_of_oneByOne oneByOne)
    · cases refused.symm.trans (lintFiles_of_failsFirst fails)
      exact fails
  · exact lintFiles_of_failsFirst

theorem exists_oneByOne_iff :
    (∃ parts, LintedOneByOne settings files paths parts) ↔
      ∀ path ∈ paths, ∃ own, settings.lintFile files path = .ok own := by
  constructor
  · intro linted path member
    obtain ⟨parts, oneByOne⟩ := linted
    induction oneByOne with
    | nil => cases member
    | cons first _ ih =>
        rcases List.mem_cons.1 member with rfl | later
        · exact ⟨_, first⟩
        · exact ih later
  · intro linted
    rcases oneByOne_or_failsFirst settings files paths with oneByOne | ⟨error, fails⟩
    · exact oneByOne
    · obtain ⟨before, path, after, rfl, _, refused⟩ := fails
      obtain ⟨own, ok⟩ := linted path (by simp)
      cases ok.symm.trans refused

theorem flatten_ne_nil_iff {parts : List (List Message)}
    (oneByOne : LintedOneByOne settings files paths parts) :
    parts.flatten ≠ [] ↔
      ∃ path ∈ paths, ∃ own, settings.lintFile files path = .ok own ∧ own ≠ [] := by
  induction oneByOne with
  | nil => simp
  | cons linted _ ih =>
      rw [List.flatten_cons, ne_eq, List.append_eq_nil_iff, not_and_or, ← ne_eq, ← ne_eq, ih]
      simp [linted]

/-- The files behind the first that is not linted, and what else the file system holds, have no
part in the error. -/
theorem failsFirst_of_agree {before after : List String} {error : FileError}
    (linted : ∀ earlier ∈ before, ∃ own, settings.lintFile files earlier = .ok own)
    (refused : settings.lintFile files path = .error error)
    (agree : ∀ seen ∈ before ++ [path], others.entry seen = files.entry seen) :
    FailsFirst settings others (before ++ path :: after) error := by
  refine ⟨before, path, after, rfl, ?_, ?_⟩
  · intro earlier member
    rw [lintFile_congr (agree earlier (List.mem_append_left _ member))]
    exact linted earlier member
  · rw [lintFile_congr (agree path (by simp))]
    exact refused

end Settings

end ShadowLint.Lint
