import ShadowLint.Config.Options
import ShadowLint.Files.Snapshot
import ShadowLint.Report.Log

/-!
# Finding the configuration file

The configuration is a given file, or the nearest one from a directory up, or none.  In a
directory a file whose name begins with a dot comes first.  A file that is selected counts
also when it cannot be read: no other file stands in for it.
-/

namespace ShadowLint.Config

open Files (Snapshot)

/-- The names of configuration files in the order of preference. -/
def fileNames : List String := [".shade.toml", "shade.toml"]

/-- The configuration file in a directory. -/
def fileIn? (files : Snapshot) (directory : String) : Option String :=
  (fileNames.map (Files.join directory)).find? files.isFile

/-- The nearest configuration file from a directory up. -/
def nearestFile? (files : Snapshot) (directory : String) : Option String :=
  (Files.ancestors directory).findSome? (fileIn? files)

/-- How the configuration file is found. -/
inductive Discovery where
  /-- It is a given file. -/
  | fixed (path : String)
  /-- It is the nearest one from a directory up. -/
  | hierarchical (directory : String)
  /-- There is none. -/
  | isolated
  deriving DecidableEq, Repr

/-- The configuration file that is used, if any. -/
def Discovery.file? (files : Snapshot) : Discovery → Option String
  | .fixed path => some path
  | .hierarchical directory => nearestFile? files directory
  | .isolated => none

/-- The paths that are looked at for the configuration file. -/
def Discovery.candidates : Discovery → List String
  | .fixed path => [path]
  | .hierarchical directory =>
      (Files.ancestors directory).flatMap fun directory => fileNames.map (Files.join directory)
  | .isolated => []

/-- Why a configuration file does not give settings. -/
inductive FileProblem where
  | unreadable (error : Files.ReadError)
  | unusable (error : OptionsError)
  deriving DecidableEq, Repr

/-- A configuration file that does not give settings, and why. -/
structure ConfigError where
  path : String
  problem : FileProblem
  deriving DecidableEq, Repr

/-- What a failure is reported under. -/
def ConfigError.context (error : ConfigError) : String := "Failed to parse " ++ error.path

/-- The texts that explain a problem. -/
def FileProblem.causes : FileProblem → List String
  | .unreadable error => [error.message]
  | .unusable .malformed => ["the text is not TOML"]
  | .unusable (.mismatch cause) => [cause.message]

/-- The options in the configuration file at a path. -/
def loadOptions (files : Snapshot) (path : String) : Except ConfigError Options :=
  match files.readText path with
  | .error error => .error ⟨path, .unreadable error⟩
  | .ok text =>
      match Options.ofText text with
      | .error error => .error ⟨path, .unusable error⟩
      | .ok options => .ok options

/-- The settings under a way to find the configuration. -/
def resolve (files : Snapshot) (discovery : Discovery) : Except ConfigError Lint.Settings :=
  match discovery.file? files with
  | none => .ok Lint.Settings.default
  | some path => (loadOptions files path).map Options.toSettings

/-- What is recorded while the settings are resolved. -/
def resolveRecords (files : Snapshot) (discovery : Discovery) : List Report.Record :=
  let message :=
    match discovery.file? files with
    | none => "No configuration file found; using default settings"
    | some path => "Using configuration file at: " ++ path
  [.debug "shade_workspace::resolver" message]

end ShadowLint.Config
