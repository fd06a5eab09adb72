import ShadowLint.Config.Discovery
import ShadowLint.Proofs.Outcome

/-!
# Which configuration file is used

Of the directories from a given one up, the first that holds a configuration file decides, and in
it the file whose name begins with a dot comes first (`IsNearest`).  The search finds this file and
no other (`nearestFile?_eq_some_iff`), so what is farther away, or beside a file with a dot, has no
part in it (`IsFileIn.of_agree`).  A file that is used gives the settings or the error
(`resolve_eq_ok_iff`, `resolve_eq_error_iff`).
-/

namespace ShadowLint.Config

open Files (Entry Snapshot ancestors join)
open Lint (Settings)

variable {files others : Snapshot} {directory path : String}

/-! ## Configuration files in directories -/

/-- A regular file stands at a path, be it readable or not. -/
def HoldsFile (files : Snapshot) (path : String) : Prop :=
  (∃ content, files.entry path = .file content) ∨
    ∃ reason, files.entry path = .refused true reason

/-- No configuration file is in a directory. -/
def LacksFile (files : Snapshot) (directory : String) : Prop :=
  ¬ HoldsFile files (join directory ".shade.toml") ∧ ¬ HoldsFile files (join directory "shade.toml")

/-- A path is that of the configuration file in a directory: of the file with a dot, or of the
other one where there is none with a dot. -/
def IsFileIn (files : Snapshot) (directory path : String) : Prop :=
  path = join directory ".shade.toml" ∧ HoldsFile files path ∨
  path = join directory "shade.toml" ∧ HoldsFile files path ∧
    ¬ HoldsFile files (join directory ".shade.toml")

theorem isFile_eq_true_iff : files.isFile path = true ↔ HoldsFile files path := by
  unfold Snapshot.isFile Entry.isFile HoldsFile
  cases files.entry path with
  | refused regular reason => simp [eq_comm]
  | _ => simp

theorem holdsFile_congr (same : others.entry path = files.entry path) :
    HoldsFile others path ↔ HoldsFile files path := by
  simp only [HoldsFile, same]

theorem fileIn?_eq_some_iff :
    fileIn? files directory = some path ↔ IsFileIn files directory path := by
  simp only [fileIn?, fileNames, List.map_cons, List.map_nil, IsFileIn, ← isFile_eq_true_iff]
  cases dot : files.isFile (join directory ".shade.toml") with
  | true =>
      rw [List.find?_cons_of_pos dot]
      grind
  | false =>
      rw [List.find?_cons_of_neg (by simp [dot])]
      cases plain : files.isFile (join directory "shade.toml") with
      | true =>
          rw [List.find?_cons_of_pos plain]
          grind
      | false =>
          rw [List.find?_cons_of_neg (by simp [plain])]
          grind

theorem fileIn?_eq_none_iff : fileIn? files directory = none ↔ LacksFile files directory := by
  simp [fileIn?, fileNames, LacksFile, ← isFile_eq_true_iff]

/-! ## The nearest one -/

/-- A path is that of the configuration file in the nearest directory from a given one up that has
one. -/
def IsNearest (files : Snapshot) (directory path : String) : Prop :=
  ∃ nearer near farther, ancestors directory = nearer ++ near :: farther ∧
    (∀ upper ∈ nearer, LacksFile files upper) ∧ IsFileIn files near path

theorem nearestFile?_eq_some_iff :
    nearestFile? files directory = some path ↔ IsNearest files directory path := by
  unfold nearestFile? IsNearest
  rw [List.findSome?_eq_some_iff]
  simp only [fileIn?_eq_some_iff, fileIn?_eq_none_iff]
  grind

theorem nearestFile?_eq_none_iff :
    nearestFile? files directory = none ↔ ∀ upper ∈ ancestors directory, LacksFile files upper := by
  unfold nearestFile?
  rw [List.findSome?_eq_none_iff]
  simp only [fileIn?_eq_none_iff]

/-- Two file systems have the same configuration files in a directory. -/
def AgreeIn (files others : Snapshot) (directory : String) : Prop :=
  others.entry (join directory ".shade.toml") = files.entry (join directory ".shade.toml") ∧
    others.entry (join directory "shade.toml") = files.entry (join directory "shade.toml")

theorem AgreeIn.lacksFile (agree : AgreeIn files others directory)
    (lacks : LacksFile files directory) : LacksFile others directory := by
  unfold LacksFile
  rw [holdsFile_congr agree.1, holdsFile_congr agree.2]
  exact lacks

theorem IsFileIn.of_agree (inside : IsFileIn files directory path)
    (dot : others.entry (join directory ".shade.toml") = files.entry (join directory ".shade.toml"))
    (same : others.entry path = files.entry path) : IsFileIn others directory path := by
  unfold IsFileIn
  rw [holdsFile_congr same, holdsFile_congr dot]
  exact inside

/-! ## Settings -/

/-- The configuration file that is used under a way to find it, if any. -/
inductive Uses (files : Snapshot) : Discovery → Option String → Prop
  | fixed (path : String) : Uses files (.fixed path) (some path)
  | nearest {directory path : String} : IsNearest files directory path →
      Uses files (.hierarchical directory) (some path)
  | lacking {directory : String} : (∀ upper ∈ ancestors directory, LacksFile files upper) →
      Uses files (.hierarchical directory) none
  | isolated : Uses files .isolated none

/-- The settings that come from a file, or the default ones where there is none. -/
inductive Gives (files : Snapshot) : Option String → Settings → Prop
  | default : Gives files none Settings.default
  | file {path text : String} {options : Options} : files.readText path = .ok text →
      Options.ofText text = .ok options → Gives files (some path) options.toSettings

/-- The error of a file that cannot be read, or that does not stand for options. -/
inductive Refuses (files : Snapshot) (path : String) : ConfigError → Prop
  | unreadable {cause : Files.ReadError} : files.readText path = .error cause →
      Refuses files path ⟨path, .unreadable cause⟩
  | unusable {text : String} {cause : OptionsError} : files.readText path = .ok text →
      Options.ofText text = .error cause → Refuses files path ⟨path, .unusable cause⟩

theorem Refuses.context_eq {error : ConfigError} (refuses : Refuses files path error) :
    error.context = "Failed to parse " ++ path := by
  cases refuses with
  | unreadable _ => rfl
  | unusable _ _ => rfl

theorem file?_eq_iff {discovery : Discovery} {file : Option String} :
    discovery.file? files = file ↔ Uses files discovery file := by
  constructor
  · intro found
    subst found
    cases discovery with
    | fixed path => exact .fixed path
    | hierarchical directory =>
        show Uses files _ (nearestFile? files directory)
        cases found : nearestFile? files directory with
        | some path => exact .nearest (nearestFile?_eq_some_iff.1 found)
        | none => exact .lacking (nearestFile?_eq_none_iff.1 found)
    | isolated => exact .isolated
  · intro uses
    cases uses with
    | fixed path => rfl
    | nearest nearest => exact nearestFile?_eq_some_iff.2 nearest
    | lacking lacks => exact nearestFile?_eq_none_iff.2 lacks
    | isolated => rfl

theorem loadOptions_eq_ok_iff {options : Options} :
    loadOptions files path = .ok options ↔
      ∃ text, files.readText path = .ok text ∧ Options.ofText text = .ok options := by
  unfold loadOptions
  cases read : files.readText path with
  | error cause => simp
  | ok text =>
      cases parsed : Options.ofText text with
      | error cause => simp [parsed]
      | ok found => simp [parsed]

theorem loadOptions_eq_error_iff {error : ConfigError} :
    loadOptions files path = .error error ↔ Refuses files path error := by
  unfold loadOptions
  constructor
  · intro refused
    split at refused
    · next read => cases refused; exact .unreadable read
    · next read =>
        split at refused
        · next parsed => cases refused; exact .unusable read parsed
        · cases refused
  · intro refuses
    cases refuses with
    | unreadable read => simp [read]
    | unusable read parsed => simp [read, parsed]

theorem resolve_eq_ok_iff {discovery : Discovery} {settings : Settings} :
    resolve files discovery = .ok settings ↔
      ∃ file, Uses files discovery file ∧ Gives files file settings := by
  unfold resolve
  constructor
  · intro resolved
    refine ⟨discovery.file? files, file?_eq_iff.1 rfl, ?_⟩
    cases used : discovery.file? files with
    | none =>
        rw [used] at resolved
        cases resolved
        exact .default
    | some path =>
        rw [used] at resolved
        obtain ⟨options, loaded, rfl⟩ := Outcome.map_eq_ok_iff.1 resolved
        obtain ⟨text, read, parsed⟩ := loadOptions_eq_ok_iff.1 loaded
        exact .file read parsed
  · intro resolved
    obtain ⟨file, uses, gives⟩ := resolved
    rw [file?_eq_iff.2 uses]
    cases gives with
    | default => rfl
    | file read parsed =>
        exact Outcome.map_eq_ok_iff.2 ⟨_, loadOptions_eq_ok_iff.2 ⟨_, read, parsed⟩, rfl⟩

theorem resolve_eq_error_iff {discovery : Discovery} {error : ConfigError} :
    resolve files discovery = .error error ↔
      ∃ path, Uses files discovery (some path) ∧ Refuses files path error := by
  unfold resolve
  constructor
  · intro refused
    cases used : discovery.file? files with
    | none =>
        rw [used] at refused
        cases refused
    | some path =>
        rw [used] at refused
        have loaded := Outcome.map_eq_error_iff.1 refused
        exact ⟨path, file?_eq_iff.1 used, loadOptions_eq_error_iff.1 loaded⟩
  · intro refused
    obtain ⟨path, uses, refuses⟩ := refused
    rw [file?_eq_iff.2 uses]
    exact Outcome.map_eq_error_iff.2 (loadOptions_eq_error_iff.2 refuses)

theorem resolve_congr {discovery : Discovery} {file : Option String}
    (uses : Uses files discovery file) (usesToo : Uses others discovery file)
    (same : ∀ path, file = some path → others.entry path = files.entry path) :
    resolve others discovery = resolve files discovery := by
  unfold resolve
  rw [file?_eq_iff.2 uses, file?_eq_iff.2 usesToo]
  cases file with
  | none => rfl
  | some path => simp only [loadOptions, Snapshot.readText, same path rfl]

end ShadowLint.Config
