import ShadowLint.Proofs.Command.Check
import ShadowLint.Proofs.Config.Discovery

/-!
# The settings that a check shows

A check that shows its settings shows those that it would work with, and the path of the file that
they come from.  Both hang on the nearest configuration file and on nothing else
(`resolve_uses_nearest_file_and_shows_it`).
-/

namespace ShadowLint.Command

open Config (AgreeIn ConfigError Discovery Gives IsFileIn IsNearest LacksFile Options Refuses Uses
  nearestFile? resolve)
open Files (Snapshot ancestors join)
open Lint (Settings)
open Report (Verbosity)

variable {command : CheckCommand} {environment : Environment} {verbosity : Verbosity}

theorem stdout_of_shown {settings : Settings} (works : command.WorksWith environment settings)
    (shows : command.showSettings = true) :
    (command.run verbosity environment).stdout =
      "Settings path: " ++
        ((command.discovery environment.directory).file? environment.files).getD "(default)" ++
        "\n" ++ settings.text := by
  have ended : command.result environment = .ok
      (.shown ((command.discovery environment.directory).file? environment.files) settings) := by
    unfold CheckCommand.WorksWith at works
    simp only [CheckCommand.result, works, shows, if_true]
  exact (run_of_result ended).1

/-- What is beyond the nearest configuration file has no part in the settings: neither directories
farther up, nor the other file beside one with a dot, nor anything that is no configuration file of
a directory on the way. -/
theorem resolve_of_agree_up_to {files others : Snapshot} {directory near path : String}
    {nearer farther : List String} (chain : ancestors directory = nearer ++ near :: farther)
    (lacks : ∀ upper ∈ nearer, LacksFile files upper) (inside : IsFileIn files near path)
    (agree : ∀ upper ∈ nearer, AgreeIn files others upper)
    (dot : others.entry (join near ".shade.toml") = files.entry (join near ".shade.toml"))
    (same : others.entry path = files.entry path) :
    nearestFile? others directory = some path ∧
      resolve others (.hierarchical directory) = resolve files (.hierarchical directory) := by
  have nearest : IsNearest files directory path :=
    ⟨nearer, near, farther, chain, lacks, inside⟩
  have nearestToo : IsNearest others directory path :=
    ⟨nearer, near, farther, chain, fun upper member => (agree upper member).lacksFile
      (lacks upper member), inside.of_agree dot same⟩
  refine ⟨Config.nearestFile?_eq_some_iff.2 nearestToo, ?_⟩
  refine Config.resolve_congr (.nearest nearest) (.nearest nearestToo) ?_
  intro used found
  cases found
  exact same

theorem resolve_of_agree {files others : Snapshot} {directory : String}
    (agree : ∀ upper ∈ ancestors directory, AgreeIn files others upper) :
    resolve others (.hierarchical directory) = resolve files (.hierarchical directory) := by
  cases found : nearestFile? files directory with
  | none =>
      have lacks := Config.nearestFile?_eq_none_iff.1 found
      refine Config.resolve_congr (.lacking lacks) (.lacking ?_) ?_
      · intro upper member
        exact (agree upper member).lacksFile (lacks upper member)
      · intro path none
        cases none
  | some path =>
      obtain ⟨nearer, near, farther, chain, lacks, inside⟩ :=
        Config.nearestFile?_eq_some_iff.1 found
      have agreeNear := agree near (by simp [chain])
      refine (resolve_of_agree_up_to chain lacks inside ?_ agreeNear.1 ?_).2
      · intro upper member
        exact agree upper (by simp [chain, member])
      · rcases inside with ⟨rfl, _⟩ | ⟨rfl, _⟩
        · exact agreeNear.1
        · exact agreeNear.2

/-- The search finds the configuration file of the nearest directory up that has one, and nothing
exactly where none has one.  The settings are those of the file that is used, or the default ones
where none is; a file that is used and cannot be read, or does not stand for options, makes an error
that names it, and no other file or default stands in for it.  What a file system holds beyond the
file that is used, and beyond what must be missing for it to be used, has no part in that.  A check
that shows its settings shows the path of the very file that they come from. -/
theorem resolve_uses_nearest_file_and_shows_it (files : Snapshot) :
    (∀ directory path, nearestFile? files directory = some path ↔
      ∃ nearer near farther, ancestors directory = nearer ++ near :: farther ∧
        (∀ upper ∈ nearer, LacksFile files upper) ∧ IsFileIn files near path) ∧
    (∀ directory, nearestFile? files directory = none ↔
      ∀ upper ∈ ancestors directory, LacksFile files upper) ∧
    (∀ discovery settings, resolve files discovery = .ok settings ↔
      ∃ file, Uses files discovery file ∧ Gives files file settings) ∧
    (∀ discovery error, resolve files discovery = .error error ↔
      ∃ path, Uses files discovery (some path) ∧ Refuses files path error ∧
        error.context = "Failed to parse " ++ path) ∧
    (∀ (others : Snapshot) (directory path near : String) (nearer farther : List String),
      ancestors directory = nearer ++ near :: farther →
      (∀ upper ∈ nearer, LacksFile files upper) → IsFileIn files near path →
      (∀ upper ∈ nearer, AgreeIn files others upper) →
      others.entry (join near ".shade.toml") = files.entry (join near ".shade.toml") →
      others.entry path = files.entry path →
      nearestFile? others directory = some path ∧
        resolve others (.hierarchical directory) = resolve files (.hierarchical directory)) ∧
    (∀ (others : Snapshot) (directory : String),
      (∀ upper ∈ ancestors directory, AgreeIn files others upper) →
      resolve others (.hierarchical directory) = resolve files (.hierarchical directory)) ∧
    (∀ (others : Snapshot) (path : String), others.entry path = files.entry path →
      resolve others (.fixed path) = resolve files (.fixed path)) ∧
    ∀ (command : CheckCommand) (environment : Environment) (verbosity : Verbosity)
      (settings : Settings), environment.files = files → command.showSettings = true →
      command.WorksWith environment settings →
      ∃ file, Uses files (command.discovery environment.directory) file ∧
        Gives files file settings ∧
        (command.run verbosity environment).stdout =
          "Settings path: " ++ file.getD "(default)" ++ "\n" ++ settings.text := by
  refine ⟨?_, ?_, ?_, ?_, ?_, ?_, ?_, ?_⟩
  · intro directory path
    exact Config.nearestFile?_eq_some_iff
  · intro directory
    exact Config.nearestFile?_eq_none_iff
  · intro discovery settings
    exact Config.resolve_eq_ok_iff
  · intro discovery error
    rw [Config.resolve_eq_error_iff]
    constructor
    · intro refused
      obtain ⟨path, uses, refuses⟩ := refused
      exact ⟨path, uses, refuses, refuses.context_eq⟩
    · intro refused
      obtain ⟨path, uses, refuses, _⟩ := refused
      exact ⟨path, uses, refuses⟩
  · intro others directory path near nearer farther chain lacks inside agree dot same
    exact resolve_of_agree_up_to chain lacks inside agree dot same
  · intro others directory agree
    exact resolve_of_agree agree
  · intro others path same
    refine Config.resolve_congr (.fixed path) (.fixed path) ?_
    intro used found
    cases found
    exact same
  · intro command environment verbosity settings sameFiles shows works
    subst sameFiles
    obtain ⟨file, uses, gives⟩ := Config.resolve_eq_ok_iff.1 works
    refine ⟨file, uses, gives, ?_⟩
    rw [stdout_of_shown works shows, Config.file?_eq_iff.2 uses]

/-- The text of a configuration file that ignores the rule. -/
def ignoringText : String := "ignore = [\"no-shadow\"]\n"

/-- The nearest configuration file has a dot and two others beside it and above it, and a directory
has the name of a configuration file. -/
def nestedFiles : Snapshot :=
  .ofList [("/a/b/.shade.toml", .directory), ("/a/.shade.toml", .file ignoringText.toUTF8),
    ("/a/shade.toml", .file "unknown = 1".toUTF8), ("/shade.toml", .refused true "unreadable")]

/-- A file system that has nothing but the file that is used, and something elsewhere. -/
def sparseFiles : Snapshot :=
  .ofList [("/b/.shade.toml", .stream "".toUTF8), ("/a/.shade.toml", .file ignoringText.toUTF8),
    ("/a/b/.shade.toml", .directory)]

/-- A check that shows its settings. -/
def showingCheck : CheckCommand :=
  { plainCheck ["f.json"] with isolated := false, showSettings := true }

/-- A directory below the one with the file that is used. -/
def nestedEnvironment : Environment :=
  { mixedEnvironment with files := nestedFiles, directory := "/a/b" }

/-- The file with a dot in the parent directory is used and shown, whatever stands beside it and
above it. -/
theorem resolve_uses_dotfile_of_parent :
    nearestFile? nestedFiles "/a/b" = some "/a/.shade.toml" ∧
    nearestFile? sparseFiles "/a/b" = some "/a/.shade.toml" ∧
    resolve sparseFiles (.hierarchical "/a/b") = resolve nestedFiles (.hierarchical "/a/b") ∧
    resolve sparseFiles (.hierarchical "/") = resolve (.ofList []) (.hierarchical "/") ∧
    resolve sparseFiles (.fixed "/a/.shade.toml") = resolve nestedFiles (.fixed "/a/.shade.toml") ∧
    (showingCheck.run .quiet nestedEnvironment).stdout =
      "Settings path: /a/.shade.toml\n\n# Linter Settings\nlinter.rules = []\n" ++
        "linter.no_shadow.exceptions = \x7b\n" ++
        "\tcallback = true,\n\terr = true,\n\tres = true,\n\x7d\n" := by
  obtain ⟨nearest, _, ok_iff, _, upTo, _, fixed, shown⟩ :=
    resolve_uses_nearest_file_and_shows_it nestedFiles
  obtain ⟨_, _, _, _, _, elsewhere, _, _⟩ := resolve_uses_nearest_file_and_shows_it (.ofList [])
  have chain : ancestors "/a/b" = ["/a/b"] ++ "/a" :: ["/"] := by decide +kernel
  have lacks : ∀ upper ∈ ["/a/b"], LacksFile nestedFiles upper := by
    intro upper member
    cases List.mem_singleton.1 member
    exact Config.fileIn?_eq_none_iff.1 (by decide +kernel)
  have inside : IsFileIn nestedFiles "/a" "/a/.shade.toml" :=
    Config.fileIn?_eq_some_iff.1 (by decide +kernel)
  have agree : ∀ upper ∈ ["/a/b"], AgreeIn nestedFiles sparseFiles upper := by
    intro upper member
    cases List.mem_singleton.1 member
    exact ⟨rfl, rfl⟩
  obtain ⟨found, same⟩ := upTo sparseFiles "/a/b" "/a/.shade.toml" "/a" _ _ chain lacks inside agree
    rfl rfl
  have parsed : Options.ofText ignoringText = .ok ⟨some [.noShadow], none⟩ :=
    Outcome.toOption_eq_some_iff.1 (by decide +kernel)
  have read : nestedFiles.readText "/a/.shade.toml" = .ok ignoringText :=
    Snapshot.readText_of_file rfl
  have used := (nearest "/a/b" "/a/.shade.toml").2 ⟨_, _, _, chain, lacks, inside⟩
  have works := (ok_iff (.hierarchical "/a/b") _).2
    ⟨some "/a/.shade.toml", .nearest ⟨_, _, _, chain, lacks, inside⟩, .file read parsed⟩
  refine ⟨used, found, same, ?_, ?_, ?_⟩
  · refine elsewhere sparseFiles "/" ?_
    have root : ancestors "/" = ["/"] := by decide +kernel
    intro upper member
    rw [root] at member
    cases List.mem_singleton.1 member
    exact ⟨rfl, rfl⟩
  · exact fixed sparseFiles "/a/.shade.toml" rfl
  · obtain ⟨file, uses, gives, text⟩ := shown showingCheck nestedEnvironment .quiet _ rfl rfl works
    cases (Config.file?_eq_iff.2 uses).symm.trans used
    rw [text]
    decide +kernel

end ShadowLint.Command
