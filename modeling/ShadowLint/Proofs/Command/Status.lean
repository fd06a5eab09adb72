import ShadowLint.Proofs.Command.Check

/-!
# What a run tells about its findings

A run tells about its findings by its status and by what it writes to its first stream.  The status
is read off the command, its files and its settings (`status_eq`), and neither the format nor the
verbosity has a part in it.  These two decide what is written (`stdout_of_oneByOne`).
-/

namespace ShadowLint.Command

open Lint (LintedOneByOne Message Settings)
open Report (Verbosity)

namespace CheckCommand

variable {command : CheckCommand} {environment : Environment}

/-- The settings of a check are not resolved, or it lints its files and one of them is refused. -/
def Fails (command : CheckCommand) (environment : Environment) : Prop :=
  (∃ error, Config.resolve environment.files (command.discovery environment.directory) =
    .error error) ∨
  command.showSettings = false ∧ ∃ settings, command.WorksWith environment settings ∧
    ∃ path ∈ command.files, ∃ error, settings.lintFile environment.files path = .error error

/-- There is a message about a file of a check. -/
def Finds (command : CheckCommand) (environment : Environment) : Prop :=
  ∃ settings, command.WorksWith environment settings ∧
    ∃ path ∈ command.files, ∃ own, settings.lintFile environment.files path = .ok own ∧ own ≠ []

/-- A check lints its files, there is a message about one of them, and it is not waved through. -/
def Complains (command : CheckCommand) (environment : Environment) : Prop :=
  command.showSettings = false ∧ command.exitZero = false ∧ command.Finds environment

theorem WorksWith.unique {one other : Settings} (first : command.WorksWith environment one)
    (second : command.WorksWith environment other) : one = other :=
  Except.ok.inj (first.symm.trans second)

theorem WorksWith.not_unresolved {settings : Settings}
    (works : command.WorksWith environment settings) :
    ¬ ∃ error, Config.resolve environment.files (command.discovery environment.directory) =
      .error error := by
  intro unresolved
  obtain ⟨error, refused⟩ := unresolved
  cases works.symm.trans refused

theorem not_fails_of_shown {settings : Settings} (works : command.WorksWith environment settings)
    (shows : command.showSettings = true) : ¬ command.Fails environment := by
  intro fails
  rcases fails with unresolved | ⟨lints, _⟩
  · exact works.not_unresolved unresolved
  · simp [shows] at lints

theorem fails_of_failsFirst {settings : Settings} {error : Lint.FileError}
    (works : command.WorksWith environment settings) (lints : command.showSettings = false)
    (fails : Lint.FailsFirst settings environment.files command.files error) :
    command.Fails environment := by
  obtain ⟨before, path, after, paths, _, refused⟩ := fails
  exact .inr ⟨lints, settings, works, path, by simp [paths], error, refused⟩

theorem not_fails_of_oneByOne {settings : Settings} {parts : List (List Message)}
    (works : command.WorksWith environment settings)
    (oneByOne : LintedOneByOne settings environment.files command.files parts) :
    ¬ command.Fails environment := by
  intro fails
  rcases fails with unresolved | ⟨_, other, worksToo, path, member, error, refused⟩
  · exact works.not_unresolved unresolved
  · cases works.unique worksToo
    obtain ⟨own, linted⟩ := Settings.exists_oneByOne_iff.1 ⟨parts, oneByOne⟩ path member
    cases linted.symm.trans refused

theorem finds_iff_of_oneByOne {settings : Settings} {parts : List (List Message)}
    (works : command.WorksWith environment settings)
    (oneByOne : LintedOneByOne settings environment.files command.files parts) :
    command.Finds environment ↔ parts.flatten ≠ [] := by
  rw [Settings.flatten_ne_nil_iff oneByOne]
  constructor
  · intro finds
    obtain ⟨other, worksToo, found⟩ := finds
    cases works.unique worksToo
    exact found
  · intro found
    exact ⟨settings, works, found⟩

end CheckCommand

variable {command : CheckCommand} {environment : Environment} {verbosity : Verbosity}

/-! ## The status -/

open scoped Classical in
/-- The status hangs on the command, its files and its settings alone. -/
theorem status_eq : (command.run verbosity environment).status =
    if command.Fails environment then .failure
    else if command.Complains environment then .findings
    else .success := by
  have settles := command.result_settles environment
  cases ended : command.result environment with
  | error failure =>
      rw [ended] at settles
      have fails : command.Fails environment := by
        cases settles with
        | unresolved refused => exact .inl ⟨_, refused⟩
        | failed works lints fails => exact CheckCommand.fails_of_failsFirst works lints fails
      rw [(run_of_failure ended).2.1, if_pos fails]
  | ok result =>
      rw [ended] at settles
      rw [(run_of_result ended).2]
      cases settles with
      | shown works shows =>
          have silent : ¬ command.Complains environment := by
            intro complains
            simp [complains.1] at shows
          rw [if_neg (CheckCommand.not_fails_of_shown works shows), if_neg silent]
          rfl
      | found works lints oneByOne =>
          rw [if_neg (CheckCommand.not_fails_of_oneByOne works oneByOne)]
          simp [CheckCommand.Complains, CheckCommand.finds_iff_of_oneByOne works oneByOne, lints,
            CheckCommand.Result.status]

theorem code_eq_two_iff :
    (command.run verbosity environment).status.code = 2 ↔ command.Fails environment := by
  rw [status_eq]
  split
  · simp [Status.code, *]
  · split <;> simp [Status.code, *]

theorem code_eq_one_iff :
    (command.run verbosity environment).status.code = 1 ↔
      ¬ command.Fails environment ∧ command.Complains environment := by
  rw [status_eq]
  split
  · simp [Status.code, *]
  · split <;> simp [Status.code, *]

/-! ## The first stream -/

/-- The line that counts some messages. -/
def countLine (count : Nat) : String :=
  if count = 0 then "All checks passed!\n"
  else "Found " ++ toString count ++ " error" ++ (if count = 1 then "" else "s") ++ ".\n"

theorem summary_eq (messages : List Message) :
    Report.summary messages = countLine messages.length := by
  unfold Report.summary
  generalize messages.length = count
  match count with
  | 0 => rfl
  | 1 => decide
  | count + 2 => simp [countLine, String.append_assoc]

/-- What a check that lints all its files writes, in the four verbosities and the two formats. -/
theorem stdout_of_oneByOne {settings : Settings} {parts : List (List Message)}
    (works : command.WorksWith environment settings) (lints : command.showSettings = false)
    (oneByOne : LintedOneByOne settings environment.files command.files parts) :
    (command.run verbosity environment).stdout =
      printed command.format verbosity environment.colors parts.flatten := by
  have linted := Settings.lintFiles_of_oneByOne oneByOne
  exact (run_of_result (CheckCommand.result_of_linted works lints linted)).1

/-- The status of a check is 2 exactly where it fails, otherwise 1 exactly where it has messages
that are not waved through, and otherwise 0; format, verbosity and whatever else is not a file
have no part in it.  Where all files of a check are linted, its messages are printed as a text or as
JSON.  A text is followed by the line that counts the messages, unless the run is quiet, and a
silent run prints nothing. -/
theorem run_agrees_with_findings (command : CheckCommand) (verbosity : Verbosity)
    (environment : Environment) :
    ((command.run verbosity environment).status.code = 2 ↔ command.Fails environment) ∧
    ((command.run verbosity environment).status.code = 1 ↔
      ¬ command.Fails environment ∧ command.showSettings = false ∧ command.exitZero = false ∧
        command.Finds environment) ∧
    ((command.run verbosity environment).status.code = 0 ∨
      (command.run verbosity environment).status.code = 1 ∨
      (command.run verbosity environment).status.code = 2) ∧
    (∀ (format : Format) (other : Verbosity) (elsewhere : Environment),
      elsewhere.files = environment.files → elsewhere.directory = environment.directory →
      (({ command with format } : CheckCommand).run other elsewhere).status =
        (command.run verbosity environment).status) ∧
    ∀ (settings : Settings) (parts : List (List Message)),
      command.WorksWith environment settings → command.showSettings = false →
      LintedOneByOne settings environment.files command.files parts →
      let stdout := (command.run verbosity environment).stdout
      (command.format = .text → verbosity = .normal ∨ verbosity = .verbose →
        stdout = Report.text environment.colors parts.flatten ++ countLine parts.flatten.length) ∧
      (command.format = .text → verbosity = .quiet →
        stdout = Report.text environment.colors parts.flatten) ∧
      (command.format = .json → verbosity ≠ .silent → stdout = Report.json parts.flatten) ∧
      (verbosity = .silent → stdout = "") := by
  refine ⟨code_eq_two_iff, code_eq_one_iff, ?_, ?_, ?_⟩
  · cases (command.run verbosity environment).status with
    | success => exact .inl rfl
    | findings => exact .inr (.inl rfl)
    | failure => exact .inr (.inr rfl)
  · intro format other elsewhere sameFiles sameDirectory
    obtain ⟨files, directory, colors, stamp, elapsed⟩ := elsewhere
    subst sameFiles sameDirectory
    rw [status_eq, status_eq]
    -- what decides does not mention what the two runs differ in
    rfl
  · intro settings parts works lints oneByOne
    dsimp only
    rw [stdout_of_oneByOne works lints oneByOne]
    refine ⟨?_, ?_, ?_, ?_⟩
    · intro text talks
      rcases talks with rfl | rfl
      · simp [printed, text, Verbosity.showsSummary, summary_eq]
      · simp [printed, text, Verbosity.showsSummary, summary_eq]
    · intro text quiet
      simp [printed, text, quiet, Verbosity.showsSummary]
    · intro json loud
      simp [printed, json, loud]
    · intro silent
      simp [printed, silent]

/-- The line of the finding in a document, in a report for people. -/
def soleLine : String := "f.json:2:12: no-shadow x is already declared in the upper scope.\n"

/-- A document that is given twice has its finding twice in the report and in the count, and a
directory among the paths makes the run fail in all formats and verbosities. -/
theorem run_agrees_with_two_findings :
    ((plainCheck ["f.json", "f.json"]).run .normal mixedEnvironment).status.code = 1 ∧
    ((plainCheck ["f.json", "f.json"]).run .normal mixedEnvironment).stdout =
      soleLine ++ soleLine ++ "Found 2 errors.\n" ∧
    ((plainCheck ["f.json", "f.json"]).run .quiet mixedEnvironment).stdout =
      soleLine ++ soleLine ∧
    (({ plainCheck ["f.json", "f.json"] with format := .json } : CheckCommand).run .silent
      { mixedEnvironment with colors := true }).stdout = "" ∧
    (({ plainCheck ["f.json", "f.json"] with format := .json } : CheckCommand).run .silent
      { mixedEnvironment with colors := true }).status.code = 1 ∧
    ((plainCheck ["f.json", "d.json"]).run .silent mixedEnvironment).status.code = 2 := by
  have works : (plainCheck ["f.json", "f.json"]).WorksWith mixedEnvironment Settings.default := rfl
  have oneByOne : LintedOneByOne Settings.default mixedFiles ["f.json", "f.json"]
      [[soleMessage], [soleMessage]] :=
    .cons lintFile_mixedFiles (.cons lintFile_mixedFiles .nil)
  have passes := CheckCommand.not_fails_of_oneByOne works oneByOne
  have finds := (CheckCommand.finds_iff_of_oneByOne works oneByOne).2 (by decide)
  obtain ⟨_, findings, _, same, prints⟩ := run_agrees_with_findings
    (plainCheck ["f.json", "f.json"]) .normal mixedEnvironment
  obtain ⟨_, _, _, _, quietly⟩ := run_agrees_with_findings
    (plainCheck ["f.json", "f.json"]) .quiet mixedEnvironment
  obtain ⟨_, _, _, _, silently⟩ := run_agrees_with_findings
    ({ plainCheck ["f.json", "f.json"] with format := .json }) .silent
    { mixedEnvironment with colors := true }
  obtain ⟨failure, _⟩ := run_agrees_with_findings
    (plainCheck ["f.json", "d.json"]) .silent mixedEnvironment
  have complains := findings.2 ⟨passes, rfl, rfl, finds⟩
  refine ⟨complains, ?_, ?_, ?_, ?_, ?_⟩
  · rw [(prints _ _ works rfl oneByOne).1 rfl (.inl rfl)]
    decide +kernel
  · rw [(quietly _ _ works rfl oneByOne).2.1 rfl rfl]
    decide +kernel
  · exact (silently _ _ works rfl oneByOne).2.2.2 rfl
  · rw [same .json .silent { mixedEnvironment with colors := true } rfl rfl]
    exact complains
  · exact failure.2 (.inr ⟨rfl, _, rfl, "d.json", by decide, _, rfl⟩)

end ShadowLint.Command
