import ShadowLint.Files.Snapshot
import ShadowLint.Lint.Document

/-!
# Linting files

A file is read and linted as a document.  Of several files each is linted in turn; the
first that fails decides, and then there are no messages at all.
-/

namespace ShadowLint.Lint

open Files (Snapshot)

/-- Why a file was not linted. -/
inductive FileError where
  | unread (path : String) (error : Files.ReadError)
  | unlinted (path : String) (error : Scope.LoadError)
  deriving DecidableEq, Repr

namespace FileError

/-- What a failure is reported under. -/
def context : FileError → String
  | unread path _ => "Failed to read " ++ path
  | unlinted path _ => "Failed to lint " ++ path

/-- The texts that explain a failure, from the outside in. -/
def causes : FileError → List String
  | unread path error => ["Failed to read " ++ path, error.message]
  | unlinted path error => ("Failed to lint " ++ path) :: error.causes

end FileError

namespace Settings

/-- The messages about the file at a path. -/
def lintFile (settings : Settings) (files : Snapshot) (path : String) :
    Except FileError (List Message) :=
  match files.readText path with
  | .error error => .error (.unread path error)
  | .ok text =>
      match settings.lint path text with
      | .error error => .error (.unlinted path error)
      | .ok messages => .ok messages

/-- The messages about the files at some paths, in the order of the paths. -/
def lintFiles (settings : Settings) (files : Snapshot) :
    List String → Except FileError (List Message)
  | [] => .ok []
  | path :: rest => do
      let messages ← settings.lintFile files path
      let others ← lintFiles settings files rest
      return messages ++ others

/-- What is recorded while the file at a path is linted. -/
def lintFileRecords (settings : Settings) (files : Snapshot) (path : String) :
    List Report.Record :=
  .debug "shade_linter::linter" ("Checking: " ++ path)
    :: match files.readText path with
      | .error _ => []
      | .ok text => settings.lintRecords path text

/-- What is recorded while the files at some paths are linted, up to the first failure. -/
def lintFilesRecords (settings : Settings) (files : Snapshot) :
    List String → List Report.Record
  | [] => []
  | path :: rest =>
      settings.lintFileRecords files path
        ++ match settings.lintFile files path with
          | .error _ => []
          | .ok _ => lintFilesRecords settings files rest

end Settings

end ShadowLint.Lint
