import ShadowLint.Command.Run
import ShadowLint.Proofs.Lint.File

/-!
# How a check ends

A check resolves its settings and then shows them or lints its files.  It ends in one of four ways
(`CheckCommand.Settles`), and what a run writes to its first stream and its status follow from
that way alone.
-/

namespace ShadowLint.Command

open Files (Snapshot)
open Lint (Diagnostic FailsFirst FileError LintedOneByOne Message Settings)
open Report (Verbosity)
open Scope (Model)

namespace CheckCommand

/-- The settings that a check works with. -/
def WorksWith (command : CheckCommand) (environment : Environment) (settings : Settings) : Prop :=
  Config.resolve environment.files (command.discovery environment.directory) = .ok settings

/-- The ways in which a check ends. -/
inductive Settles (command : CheckCommand) (environment : Environment) :
    Except Failure Result → Prop
  | unresolved {error : Config.ConfigError} :
      Config.resolve environment.files (command.discovery environment.directory) = .error error →
      Settles command environment (.error (.config error))
  | shown {settings : Settings} : command.WorksWith environment settings →
      command.showSettings = true →
      Settles command environment
        (.ok (.shown ((command.discovery environment.directory).file? environment.files) settings))
  | failed {settings : Settings} {error : FileError} : command.WorksWith environment settings →
      command.showSettings = false → FailsFirst settings environment.files command.files error →
      Settles command environment (.error (.file error))
  | found {settings : Settings} {parts : List (List Message)} :
      command.WorksWith environment settings → command.showSettings = false →
      LintedOneByOne settings environment.files command.files parts →
      Settles command environment (.ok (.found parts.flatten))

section Works

variable {command : CheckCommand} {environment : Environment} {settings : Settings}
  (works : command.WorksWith environment settings) (lints : command.showSettings = false)
include works lints

theorem result_of_linted {messages : List Message}
    (linted : settings.lintFiles environment.files command.files = .ok messages) :
    command.result environment = .ok (.found messages) := by
  unfold WorksWith at works
  simp only [result, works, lints, linted, Bool.false_eq_true, if_false]

theorem result_of_failed {error : FileError}
    (failed : settings.lintFiles environment.files command.files = .error error) :
    command.result environment = .error (.file error) := by
  unfold WorksWith at works
  simp only [result, works, lints, failed, Bool.false_eq_true, if_false]

end Works

theorem result_settles (command : CheckCommand) (environment : Environment) :
    command.Settles environment (command.result environment) := by
  cases resolved : Config.resolve environment.files (command.discovery environment.directory) with
  | error error =>
      simp only [result, resolved]
      exact .unresolved resolved
  | ok settings =>
      cases shows : command.showSettings with
      | true =>
          simp only [result, resolved, shows, if_true]
          exact .shown resolved shows
      | false =>
          rcases settings.oneByOne_or_failsFirst environment.files command.files with
            ⟨parts, oneByOne⟩ | ⟨error, fails⟩
          · rw [result_of_linted resolved shows (Settings.lintFiles_of_oneByOne oneByOne)]
            exact .found resolved shows oneByOne
          · rw [result_of_failed resolved shows (Settings.lintFiles_of_failsFirst fails)]
            exact .failed resolved shows fails

end CheckCommand

variable {command : CheckCommand} {environment : Environment} {verbosity : Verbosity}

/-- The run of a check. -/
def CheckCommand.run (command : CheckCommand) (verbosity : Verbosity) (environment : Environment) :
    Outcome :=
  Invocation.run ⟨.check command, verbosity⟩ environment

theorem run_of_failure {failure : Failure} (failed : command.result environment = .error failure) :
    (command.run verbosity environment).stdout = "" ∧
      (command.run verbosity environment).status = .failure ∧
      ∃ logged, (command.run verbosity environment).stderr =
        logged ++ failure.text environment.colors := by
  simp only [CheckCommand.run, Invocation.run, failed]
  exact ⟨trivial, trivial, _, rfl⟩

theorem run_of_result {result : CheckCommand.Result}
    (ended : command.result environment = .ok result) :
    (command.run verbosity environment).stdout =
        result.stdout command verbosity environment.colors ∧
      (command.run verbosity environment).status = result.status command := by
  simp only [CheckCommand.run, Invocation.run, ended]
  exact ⟨trivial, trivial⟩

/-! ## All or nothing -/

/-- Files are linted all or none.  All of them are linted exactly where each of them is, and then
their messages are those of the single files in the order of the paths, the findings in a file in
their own order and under its path.  Otherwise the first file that is not linted decides alone,
whatever stands behind it and elsewhere; the texts that report it begin with its path.  A check
whose files are not all linted writes nothing to its first stream. -/
theorem lintFiles_all_or_first_failure (settings : Settings) (files : Snapshot)
    (paths : List String) :
    ((∃ messages, settings.lintFiles files paths = .ok messages) ↔
      ∀ path ∈ paths, ∃ own, settings.lintFile files path = .ok own) ∧
    (∀ messages, settings.lintFiles files paths = .ok messages ↔
      ∃ parts, LintedOneByOne settings files paths parts ∧ messages = parts.flatten) ∧
    (∀ path own, settings.lintFile files path = .ok own →
      (∃ text model, files.readText path = .ok text ∧ Model.ofText text = .ok model ∧
        own.map (fun message => (⟨message.kind, message.body, message.range⟩ : Diagnostic)) =
          settings.check model) ∧
      ∀ message ∈ own, message.filename = path) ∧
    (∀ error, settings.lintFiles files paths = .error error ↔
      FailsFirst settings files paths error) ∧
    (∀ before path error, (∀ earlier ∈ before, ∃ own, settings.lintFile files earlier = .ok own) →
      settings.lintFile files path = .error error →
      ∀ (others : Snapshot) (after : List String),
        (∀ seen ∈ before ++ [path], others.entry seen = files.entry seen) →
        settings.lintFiles others (before ++ path :: after) = .error error) ∧
    (∀ path error, settings.lintFile files path = .error error ↔
      (∃ cause, files.readText path = .error cause ∧ error = .unread path cause ∧
        error.context = "Failed to read " ++ path ∧
        error.causes = [error.context, cause.message]) ∨
      ∃ text cause, files.readText path = .ok text ∧ settings.lint path text = .error cause ∧
        error = .unlinted path cause ∧ error.context = "Failed to lint " ++ path ∧
        error.causes = error.context :: cause.causes) ∧
    ∀ (command : CheckCommand) (environment : Environment) (verbosity : Verbosity),
      command.files = paths → environment.files = files →
      command.WorksWith environment settings → command.showSettings = false →
      ∀ error, settings.lintFiles files paths = .error error →
        (command.run verbosity environment).stdout = "" ∧
        (command.run verbosity environment).status = .failure ∧
        ∃ logged, (command.run verbosity environment).stderr =
          logged ++ (Failure.file error).text environment.colors := by
  refine ⟨?_, ?_, ?_, ?_, ?_, ?_, ?_⟩
  · rw [← Settings.exists_oneByOne_iff]
    constructor
    · intro linted
      obtain ⟨messages, linted⟩ := linted
      obtain ⟨parts, oneByOne, _⟩ := Settings.lintFiles_eq_ok_iff.1 linted
      exact ⟨parts, oneByOne⟩
    · intro linted
      obtain ⟨parts, oneByOne⟩ := linted
      exact ⟨_, Settings.lintFiles_of_oneByOne oneByOne⟩
  · intro messages
    exact Settings.lintFiles_eq_ok_iff
  · intro path own linted
    exact Settings.messages_of_lintFile linted
  · intro error
    exact Settings.lintFiles_eq_error_iff
  · intro before path error linted refused others after agree
    exact Settings.lintFiles_of_failsFirst (Settings.failsFirst_of_agree linted refused agree)
  · intro path error
    rw [Settings.lintFile_eq_error_iff]
    constructor
    · intro refused
      rcases refused with ⟨cause, read, rfl⟩ | ⟨text, cause, read, linted, rfl⟩
      · exact .inl ⟨cause, read, rfl, rfl, rfl⟩
      · exact .inr ⟨text, cause, read, linted, rfl, rfl, rfl⟩
    · intro refused
      rcases refused with ⟨cause, read, rfl, _⟩ | ⟨text, cause, read, linted, rfl, _⟩
      · exact .inl ⟨cause, read, rfl⟩
      · exact .inr ⟨text, cause, read, linted, rfl⟩
  · intro command environment verbosity samePaths sameFiles works lints error failed
    subst samePaths sameFiles
    exact run_of_failure (CheckCommand.result_of_failed works lints failed)

/-- A document in which a parameter has the name of a global variable, at a path. -/
def mixedFile : String × Files.Entry :=
  ("f.json", .file Lint.parameterOfGlobalName.text.toUTF8)

/-- A document and a directory. -/
def mixedFiles : Snapshot := .ofList [mixedFile, ("d.json", .directory)]

/-- The surroundings of runs that see `mixedFiles`. -/
def mixedEnvironment : Environment := ⟨mixedFiles, "/", false, "", ""⟩

/-- A check of some files without a configuration file. -/
def plainCheck (files : List String) : CheckCommand where
  files
  config := none
  isolated := true
  format := .text
  exitZero := false
  showSettings := false

theorem start_le_stop_soleMessage : (21 : UInt32) ≤ 22 := by decide

/-- What is found in the document among `mixedFiles`. -/
def soleMessage : Message where
  kind := "ShadowedVariable"
  body := "x is already declared in the upper scope."
  range := ⟨21, 22, start_le_stop_soleMessage⟩
  filename := "f.json"
  start := some ⟨2, 12⟩
  stop := some ⟨2, 13⟩

theorem lintFile_mixedFiles :
    Settings.default.lintFile mixedFiles "f.json" = .ok [soleMessage] := by
  have holds : mixedFiles.entry "f.json" = .file Lint.parameterOfGlobalName.text.toUTF8 := rfl
  obtain ⟨model, loaded, report⟩ : ∃ model, Model.ofGraph Lint.parameterOfGlobalName = .ok model ∧
      Settings.default.report "f.json" model = [soleMessage] := ⟨_, rfl, by decide +kernel⟩
  refine Settings.lintFile_eq_ok_iff.2 ⟨_, Snapshot.readText_of_file holds, ?_⟩
  exact Lint.lint_eq_ok_iff.2 ⟨model, Lint.ofText_eq_ok (Scope.ofText_text _) loaded, report⟩

/-- A directory among the paths is the error of the whole, although the file before it has a
finding, which comes up as often as its path where all files are linted. -/
theorem lintFiles_refused_at_directory :
    (∃ messages, Settings.default.lintFiles mixedFiles ["f.json", "f.json"] = .ok messages ∧
      messages = [soleMessage, soleMessage] ∧
      ∀ message ∈ [soleMessage], message.filename = "f.json") ∧
    Settings.default.lintFiles mixedFiles ["f.json", "d.json", "x.json"] =
      .error (.unread "d.json" .directory) ∧
    Settings.default.lintFiles (.ofList [("x.json", .directory), mixedFile, ("d.json", .directory)])
      ["f.json", "d.json", "f.json"] = .error (.unread "d.json" .directory) ∧
    ((plainCheck ["f.json", "d.json", "x.json"]).run .normal mixedEnvironment).stdout = "" ∧
    ∃ logged, ((plainCheck ["f.json", "d.json", "x.json"]).run .normal mixedEnvironment).stderr =
      logged ++ ("shade failed\n  Cause: Failed to read d.json\n" ++
        "  Cause: Is a directory (os error 21)\n") := by
  have refused : Settings.default.lintFile mixedFiles "d.json" =
      .error (.unread "d.json" .directory) := rfl
  have before : ∀ earlier ∈ ["f.json"], ∃ own,
      Settings.default.lintFile mixedFiles earlier = .ok own := by
    simp [lintFile_mixedFiles]
  obtain ⟨_, ok_iff, _⟩ :=
    lintFiles_all_or_first_failure Settings.default mixedFiles ["f.json", "f.json"]
  obtain ⟨_, _, named, error_iff, others, _, runs⟩ :=
    lintFiles_all_or_first_failure Settings.default mixedFiles ["f.json", "d.json", "x.json"]
  have failed := (error_iff (.unread "d.json" .directory)).2
    ⟨["f.json"], "d.json", ["x.json"], rfl, before, refused⟩
  obtain ⟨silent, _, logged⟩ := runs (plainCheck ["f.json", "d.json", "x.json"]) mixedEnvironment
    .normal rfl rfl rfl rfl _ failed
  refine ⟨⟨_, (ok_iff _).2 ⟨[[soleMessage], [soleMessage]], ?_, rfl⟩, rfl, ?_⟩,
    failed, ?_, silent, ?_⟩
  · exact .cons lintFile_mixedFiles (.cons lintFile_mixedFiles .nil)
  · exact (named "f.json" _ lintFile_mixedFiles).2
  · refine others ["f.json"] "d.json" _ before refused _ ["f.json"] ?_
    intro seen member
    rcases List.mem_pair.1 member with rfl | rfl
    · rfl
    · rfl
  · exact logged

end ShadowLint.Command
