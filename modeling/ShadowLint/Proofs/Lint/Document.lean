import Mathlib.Data.List.Forall2
import ShadowLint.Lint.Document
import ShadowLint.Proofs.Lint.Visits
import ShadowLint.Proofs.Scope.Defect
import ShadowLint.Proofs.Scope.Source
import ShadowLint.Proofs.Scope.Writing

/-!
# What the messages about a document depend on

The source text that a document carries gives its messages their rows and columns, and the name
of the file only names it.  Neither of them has a part in what is found, and neither they nor the
settings have one in whether a document is refused.  `lint_depends_on` says so of two runs whose
documents differ in nothing but their source texts.

A document is linted in three steps, and each of them is followed with another source text: it is
loaded (`Model.ofGraph_withSource`), checked (`check_withSource`), and its findings become
messages (`Located`).
-/

namespace ShadowLint.Lint

open Scope (GraphError LoadError Model ScopeGraph ScopeId)
open Text (Locator)

/-- A message names its file, and has rows and columns where there is a source text: those of the
ends of its range. -/
structure Located (filename : String) (source : Option String) (message : Message) : Prop where
  filename_eq : message.filename = filename
  start_eq : message.start =
    source.map fun text => (Locator.ofText text).location message.range.start.toNat
  stop_eq : message.stop =
    source.map fun text => (Locator.ofText text).location message.range.stop.toNat

/-- Two messages report the same finding. -/
structure SameFinding (one other : Message) : Prop where
  kind_eq : other.kind = one.kind
  body_eq : other.body = one.body
  range_eq : other.range = one.range

theorem located_ofDiagnostic (diagnostic : Diagnostic) (filename : String)
    (source : Option String) :
    Located filename source
      (Message.ofDiagnostic diagnostic filename (source.map Locator.ofText)) := by
  constructor
  · rfl
  · exact Option.map_map _ _ source
  · exact Option.map_map _ _ source

/-- The source text of a model has no part in its check. -/
theorem check_withSource (settings : Settings) (model : Model) (source : Option String) :
    settings.check (model.withSource source) = settings.check model := by
  apply check_eq_of_visits
  · rfl
  · rfl

/-- Everything that is found is of the kind of the one rule. -/
theorem kind_of_mem_check {settings : Settings} {model : Model} {diagnostic : Diagnostic}
    (found : diagnostic ∈ settings.check model) :
    diagnostic.kind = Rule.noShadow.findingKind := by
  obtain ⟨_, _, _, _, _, _, _, kind, _⟩ := exists_variable_of_mem_check found
  exact kind

theorem lint_eq_ok_iff {settings : Settings} {filename text : String} {messages : List Message} :
    settings.lint filename text = .ok messages ↔
      ∃ model, Model.ofText text = .ok model ∧ settings.report filename model = messages :=
  Outcome.map_eq_ok_iff

theorem lint_eq_error_iff {settings : Settings} {filename text : String} {error : LoadError} :
    settings.lint filename text = .error error ↔ Model.ofText text = .error error :=
  Outcome.map_eq_error_iff

theorem ofText_eq_ok {text : String} {graph : ScopeGraph} {model : Model}
    (found : ScopeGraph.ofText text = .ok graph) (loaded : Model.ofGraph graph = .ok model) :
    Model.ofText text = .ok model := by
  simp only [Model.ofText, found, loaded]

theorem ofText_eq_error {text : String} {graph : ScopeGraph} {error : GraphError}
    (found : ScopeGraph.ofText text = .ok graph) (refused : Model.ofGraph graph = .error error) :
    Model.ofText text = .error (.invalid error) := by
  simp only [Model.ofText, found, refused]

theorem source_of_ofGraph {graph : ScopeGraph} {model : Model}
    (loaded : Model.ofGraph graph = .ok model) : model.source = graph.source := by
  have kept : graph.completed.source = graph.source := by
    unfold ScopeGraph.completed
    split
    · rfl
    · rfl
  rw [← kept, ← Model.toGraph_of_ofGraph loaded]
  rfl

theorem report_located (settings : Settings) (filename : String) (model : Model) :
    ∀ message ∈ settings.report filename model, Located filename model.source message := by
  intro message member
  obtain ⟨diagnostic, _, rfl⟩ := List.mem_map.1 member
  exact located_ofDiagnostic diagnostic filename model.source

/-- Every message comes from the one rule, whose name is its code. -/
theorem rule_of_mem_report {settings : Settings} {filename : String} {model : Model}
    {message : Message} (member : message ∈ settings.report filename model) :
    message.rule? = some .noShadow ∧ message.code = "no-shadow" := by
  obtain ⟨diagnostic, found, rfl⟩ := List.mem_map.1 member
  have rule : (Message.ofDiagnostic diagnostic filename
      (model.source.map Locator.ofText)).rule? = some .noShadow := by
    show Rule.ofFindingKind? diagnostic.kind = some .noShadow
    rw [kind_of_mem_check found]
    rfl
  refine ⟨rule, ?_⟩
  rw [Message.code, rule]
  rfl

/-- Messages about a model and about the one with another source text report the same findings. -/
theorem report_withSource (settings : Settings) (filename otherFilename : String) (model : Model)
    (source : Option String) :
    List.Forall₂ SameFinding (settings.report filename model)
      (settings.report otherFilename (model.withSource source)) := by
  unfold Settings.report
  rw [check_withSource]
  dsimp only
  rw [List.forall₂_map_left_iff, List.forall₂_map_right_iff, List.forall₂_same]
  exact fun diagnostic _ => ⟨rfl, rfl, rfl⟩

/-- Two documents that differ in nothing but their source texts are both refused with the same
error, which is the first defect of either, or both give messages that report the same findings
one by one; each message has the name of its file and the rows and columns of its own document's
source text.  Whether a document is refused, and how, is the same for all settings and
file names, and every message comes from the one rule and carries its name. -/
theorem lint_depends_on (settings : Settings) :
    (∀ (text other : String) (graph : ScopeGraph) (source : Option String),
      ScopeGraph.ofText text = .ok graph → ScopeGraph.ofText other = .ok { graph with source } →
      ∀ filename otherFilename : String,
        (∃ error : GraphError, settings.lint filename text = .error (.invalid error) ∧
          settings.lint otherFilename other = .error (.invalid error) ∧
          (LoadError.invalid error).context = "Invalid scope graph" ∧
          (graph.scopes.length ≤ ScopeId.maxIndex.toNat + 1 → graph.FirstDefect error)) ∨
        ∃ messages others, settings.lint filename text = .ok messages ∧
          settings.lint otherFilename other = .ok others ∧
          List.Forall₂ SameFinding messages others ∧
          (∀ message ∈ messages, Located filename graph.source message) ∧
          ∀ message ∈ others, Located otherFilename source message) ∧
    (∀ (others : Settings) (filename otherFilename text : String) (error : LoadError),
      settings.lint filename text = .error error ↔
        others.lint otherFilename text = .error error) ∧
    ∀ (filename text : String) (messages : List Message),
      settings.lint filename text = .ok messages →
      ∀ message ∈ messages, message.rule? = some .noShadow ∧ message.code = "no-shadow" := by
  refine ⟨?_, ?_, ?_⟩
  · intro text other graph source found foundOther filename otherFilename
    have alike := Model.ofGraph_withSource graph source
    cases loaded : Model.ofGraph graph with
    | error error =>
        rw [loaded] at alike
        refine .inl ⟨error, lint_eq_error_iff.2 (ofText_eq_error found loaded),
          lint_eq_error_iff.2 (ofText_eq_error foundOther alike), rfl, ?_⟩
        intro room
        exact Model.firstDefect_of_ofGraph room loaded
    | ok model =>
        rw [loaded] at alike
        refine .inr ⟨_, _, lint_eq_ok_iff.2 ⟨model, ofText_eq_ok found loaded, rfl⟩,
          lint_eq_ok_iff.2 ⟨model.withSource source, ofText_eq_ok foundOther alike, rfl⟩,
          report_withSource settings filename otherFilename model source, ?_, ?_⟩
        · rw [← source_of_ofGraph loaded]
          exact report_located settings filename model
        · exact report_located settings otherFilename (model.withSource source)
  · intro others filename otherFilename text error
    rw [lint_eq_error_iff, lint_eq_error_iff]
  · intro filename text messages linted message member
    obtain ⟨model, _, rfl⟩ := lint_eq_ok_iff.1 linted
    exact rule_of_mem_report member

/-- A function whose parameter has the name of a global variable. -/
def parameterOfGlobalName : ScopeGraph where
  source := some "var n, x;\nfunction f(x) \x7b\x7d\n"
  scopes := [⟨none, [⟨"x", [⟨7, 8, by decide⟩]⟩]⟩, ⟨some 0, [⟨"x", [⟨21, 22, by decide⟩]⟩]⟩]
  nodes := [⟨.functionDeclaration, 1, none⟩]

/-- Two scopes without a parent. -/
def twoRoots : ScopeGraph := ⟨none, [⟨none, []⟩, ⟨none, []⟩], []⟩

/-- The source text of a document decides where its finding is shown, and nothing about the refusal
of another one. -/
theorem lint_depends_on_parameterOfGlobalName :
    (∃ messages others,
      Settings.default.lint "f.json" parameterOfGlobalName.text = .ok messages ∧
        Settings.default.lint "g.json" { parameterOfGlobalName with source := none }.text =
          .ok others ∧
        List.Forall₂ SameFinding messages others ∧
        messages.map (fun message => (message.filename, message.start, message.stop)) =
          [("f.json", some ⟨2, 12⟩, some ⟨2, 13⟩)] ∧
        others.map (fun message => (message.filename, message.start, message.stop)) =
          [("g.json", none, none)] ∧
        ∀ message ∈ messages, message.rule? = some .noShadow ∧ message.code = "no-shadow") ∧
    Settings.default.lint "f.json" twoRoots.text = .error (.invalid (.multipleRoots 1)) ∧
      Settings.default.lint "g.json" { twoRoots with source := some "let n;" }.text =
        .error (.invalid (.multipleRoots 1)) ∧
      twoRoots.FirstDefect (.multipleRoots 1) := by
  obtain ⟨same, _, rules⟩ := lint_depends_on Settings.default
  have located : Settings.default.lint "f.json" parameterOfGlobalName.text = .ok _ :=
    lint_eq_ok_iff.2 ⟨_, ofText_eq_ok (Scope.ofText_text _) rfl, rfl⟩
  have unlocated : Settings.default.lint "g.json" { parameterOfGlobalName with source := none }.text
      = .ok _ :=
    lint_eq_ok_iff.2 ⟨_, ofText_eq_ok (Scope.ofText_text _) rfl, rfl⟩
  have refuses : Settings.default.lint "f.json" twoRoots.text = .error _ :=
    lint_eq_error_iff.2 (ofText_eq_error (Scope.ofText_text _) rfl)
  constructor
  · rcases same _ _ parameterOfGlobalName none (Scope.ofText_text _) (Scope.ofText_text _)
      "f.json" "g.json" with ⟨error, refused, _⟩ | ⟨messages, others, linted, lintedToo, agree, _⟩
    · cases refused.symm.trans located
    · refine ⟨messages, others, linted, lintedToo, agree, ?_, ?_, rules _ _ messages linted⟩
      · cases linted.symm.trans located
        decide +kernel
      · cases lintedToo.symm.trans unlocated
        decide +kernel
  · rcases same _ _ twoRoots (some "let n;") (Scope.ofText_text _) (Scope.ofText_text _)
      "f.json" "g.json" with ⟨error, refused, refusedToo, _, first⟩ | ⟨messages, _, linted, _⟩
    · cases refused.symm.trans refuses
      exact ⟨refused, refusedToo, first (by decide)⟩
    · cases linted.symm.trans refuses

end ShadowLint.Lint
