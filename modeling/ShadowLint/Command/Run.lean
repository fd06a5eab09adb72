import ShadowLint.Command.Line
import ShadowLint.Config.Discovery
import ShadowLint.Lint.File
import ShadowLint.Report.Json
import ShadowLint.Report.Text

/-!
# Runs

A run carries out a command line in an `Environment` and ends in an `Outcome`: what it
writes to its two streams and its exit status.  The status is 2 when the run fails, 1 when
there are messages that the user did not wave through, and 0 otherwise.  A run that fails
prints no message, whatever was found before.
-/

namespace ShadowLint.Command

open Config (Discovery)
open Files (Snapshot)
open Lint (Message Settings)
open Report (Log Record Style Verbosity)

/-- How a run ends. -/
inductive Status where
  | success
  /-- There are messages. -/
  | findings
  | failure
  deriving DecidableEq, Repr

/-- The number by which a system knows how a run ended. -/
def Status.code : Status → UInt32
  | .success => 0
  | .findings => 1
  | .failure => 2

/-- Why a run fails. -/
inductive Failure where
  | config (error : Config.ConfigError)
  | file (error : Lint.FileError)
  deriving DecidableEq, Repr

/-- The texts that explain a failure, from the outside in. -/
def Failure.causes : Failure → List String
  | .config error => error.context :: error.problem.causes
  | .file error => error.causes

/-- The lines that report a failure. -/
def Failure.text (colors : Bool) (failure : Failure) : String :=
  Style.boldRed.paint colors "shade failed" ++ "\n"
    ++ String.join (failure.causes.map fun cause =>
      "  " ++ Style.bold.paint colors "Cause:" ++ " " ++ cause ++ "\n")

/-- What a run depends on beside its command line. -/
structure Environment where
  files : Snapshot
  /-- The path of the current directory. -/
  directory : String
  /-- Whether output is styled. -/
  colors : Bool
  /-- The time that log lines begin with. -/
  stamp : String
  /-- The time that linting takes. -/
  elapsed : String

/-- What a run writes, and how it ends. -/
structure Outcome where
  stdout : String
  stderr : String
  status : Status
  deriving DecidableEq, Repr

namespace CheckCommand

/-- How the configuration is found. -/
def discovery (command : CheckCommand) (directory : String) : Discovery :=
  if command.isolated then .isolated
  else
    match command.config with
    | some path => .fixed path
    | none => .hierarchical directory

/-- What a check that does not fail gives. -/
inductive Result where
  /-- The configuration file and the settings to show. -/
  | shown (path : Option String) (settings : Settings)
  | found (messages : List Message)

/-- Carries out a check. -/
def result (command : CheckCommand) (environment : Environment) : Except Failure Result :=
  let discovery := command.discovery environment.directory
  match Config.resolve environment.files discovery with
  | .error error => .error (.config error)
  | .ok settings =>
      if command.showSettings then
        .ok (.shown (discovery.file? environment.files) settings)
      else
        match settings.lintFiles environment.files command.files with
        | .error error => .error (.file error)
        | .ok messages => .ok (.found messages)

/-- What is recorded while files are linted under some settings. -/
def lintRecords (command : CheckCommand) (environment : Environment) (settings : Settings) :
    List Record :=
  (if command.files.isEmpty then [Record.warning environment.colors "No files to check"] else [])
    ++ settings.lintFilesRecords environment.files command.files
    ++ match settings.lintFiles environment.files command.files with
      | .error _ => []
      | .ok _ => [.debug "shade::commands::check"
          ("Checked " ++ toString command.files.length ++ " files in: " ++ environment.elapsed)]

/-- What is recorded during a check. -/
def records (command : CheckCommand) (environment : Environment) : List Record :=
  let discovery := command.discovery environment.directory
  Config.resolveRecords environment.files discovery
    ++ match Config.resolve environment.files discovery with
      | .error _ => []
      | .ok settings =>
          if command.showSettings then [] else command.lintRecords environment settings

end CheckCommand

/-- The messages as they are printed. -/
def printed (format : Format) (verbosity : Verbosity) (colors : Bool) (messages : List Message) :
    String :=
  if verbosity = .silent then ""
  else
    match format with
    | .json => Report.json messages
    | .text =>
        Report.text colors messages
          ++ if verbosity.showsSummary then Report.summary messages else ""

/-- The settings as they are shown, with the file that they come from. -/
def settingsPage (path : Option String) (settings : Settings) : String :=
  "Settings path: " ++ path.getD "(default)" ++ "\n" ++ settings.text

namespace CheckCommand

/-- What a check writes to its first stream. -/
def Result.stdout (command : CheckCommand) (verbosity : Verbosity) (colors : Bool) :
    Result → String
  | .shown path settings => settingsPage path settings
  | .found messages => printed command.format verbosity colors messages

/-- How a check ends that does not fail. -/
def Result.status (command : CheckCommand) : Result → Status
  | .shown .. => .success
  | .found messages =>
      if !command.exitZero && !messages.isEmpty then .findings else .success

end CheckCommand

/-- The paths that a run looks at from a directory. -/
def Invocation.paths (invocation : Invocation) (directory : String) : List String :=
  match invocation.task with
  | .rule _ => []
  | .check command => (command.discovery directory).candidates ++ command.files

/-- Carries out a command line. -/
def Invocation.run (invocation : Invocation) (environment : Environment) : Outcome :=
  match invocation.task with
  | .rule rule => ⟨rule.page, "", .success⟩
  | .check command =>
      let log : Log := ⟨some invocation.verbosity⟩
      let logged :=
        log.text environment.colors environment.stamp (command.records environment)
      match command.result environment with
      | .error failure => ⟨"", logged ++ failure.text environment.colors, .failure⟩
      | .ok result =>
          ⟨result.stdout command invocation.verbosity environment.colors, logged,
            result.status command⟩

end ShadowLint.Command
