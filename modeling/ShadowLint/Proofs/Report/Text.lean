import Mathlib.Data.Set.List
import ShadowLint.Proofs.Lint.Document
import ShadowLint.Report.Text

/-!
# The lines of a text report

Without colours a report is what `entry` says about each message, one after the other and each with
a line feed behind it.  Names stand in it as the document has them, and nothing keeps a name from
holding a line feed: `lines_of_report` says how many lines a report has, and that they are its
entries exactly where no reported name holds one.

A text consists of lines in one way (`HasLines.unique`), with a line for each line feed
(`HasLines.length_eq`); so it is enough to take the lines of each entry (`HasLines.flatMap`).
-/

namespace ShadowLint.Report

open Lint (Located Message Settings shadowingBody)
open Scope (Model ScopeGraph)

/-! ## Texts that consist of lines -/

/-- A text is made of these lines, with a line feed behind each of them and none inside. -/
structure HasLines (text : List Char) (lines : List (List Char)) : Prop where
  text_eq : text = lines.flatMap (· ++ ['\n'])
  whole : ∀ line ∈ lines, '\n' ∉ line

namespace HasLines

variable {text other : List Char} {lines others : List (List Char)}

theorem nil : HasLines [] [] := ⟨rfl, by simp⟩

theorem append (first : HasLines text lines) (second : HasLines other others) :
    HasLines (text ++ other) (lines ++ others) := by
  refine ⟨?_, fun line member => ?_⟩
  · rw [List.flatMap_append, ← first.text_eq, ← second.text_eq]
  · rcases List.mem_append.1 member with member | member
    · exact first.whole line member
    · exact second.whole line member

theorem flatMap {α : Type} {items : List α} {textOf : α → List Char}
    {linesOf : α → List (List Char)}
    (each : ∀ item ∈ items, HasLines (textOf item) (linesOf item)) :
    HasLines (items.flatMap textOf) (items.flatMap linesOf) := by
  induction items with
  | nil => exact nil
  | cons item rest ih =>
      obtain ⟨first, others⟩ := List.forall_mem_cons.1 each
      exact first.append (ih others)

/-- There are as many lines as line feeds. -/
theorem length_eq (has : HasLines text lines) : lines.length = text.count '\n' := by
  obtain ⟨rfl, whole⟩ := has
  induction lines with
  | nil => rfl
  | cons line rest ih =>
      obtain ⟨first, others⟩ := List.forall_mem_cons.1 whole
      rw [List.length_cons, List.flatMap_cons, List.count_append, List.count_append, ← ih others,
        List.count_eq_zero.2 first, List.count_singleton_self]
      omega

/-- A text is made of lines in one way. -/
theorem unique (has : HasLines text lines) (hasToo : HasLines text others) : lines = others := by
  obtain ⟨rfl, whole⟩ := has
  obtain ⟨same, wholeToo⟩ := hasToo
  induction lines generalizing others with
  | nil =>
      cases others with
      | nil => rfl
      | cons _ _ => simp at same
  | cons line rest ih =>
      cases others with
      | nil => simp at same
      | cons other others =>
          obtain ⟨clean, rests⟩ := List.forall_mem_cons.1 whole
          obtain ⟨cleanToo, restsToo⟩ := List.forall_mem_cons.1 wholeToo
          simp only [List.flatMap_cons, List.append_assoc, List.singleton_append] at same
          -- the first line ends at the first line feed
          have lengths : line.length = other.length := by
            have feeds := congrArg (List.idxOf '\n') same
            rwa [List.idxOf_append_of_notMem clean, List.idxOf_append_of_notMem cleanToo,
              List.idxOf_cons_self, List.idxOf_cons_self] at feeds
          obtain ⟨rfl, behind⟩ := List.append_inj same lengths
          rw [ih rests (List.cons.inj behind).2 restsToo]

end HasLines

/-- A letter in front of the text is one in front of its first line. -/
theorem HasLines.cons_letter {text first : List Char} {others : List (List Char)} {c : Char}
    (has : HasLines text (first :: others)) (letter : c ≠ '\n') :
    HasLines (c :: text) ((c :: first) :: others) := by
  obtain ⟨rfl, whole⟩ := has
  obtain ⟨clean, rest⟩ := List.forall_mem_cons.1 whole
  refine ⟨rfl, List.forall_mem_cons.2 ⟨?_, rest⟩⟩
  intro member
  rcases List.mem_cons.1 member with same | member
  · exact letter same.symm
  · exact clean member

/-- Text without a line feed makes one line. -/
theorem hasLines_singleton {line : List Char} (whole : '\n' ∉ line) :
    HasLines (line ++ ['\n']) [line] := by
  refine ⟨?_, by simpa using whole⟩
  rw [List.flatMap_singleton]

/-- What stands in front of a line feed is cut into lines at the line feeds inside it. -/
theorem hasLines_splitOn (text : List Char) : HasLines (text ++ ['\n']) (text.splitOn '\n') := by
  induction text with
  | nil => exact hasLines_singleton List.not_mem_nil
  | cons c rest ih =>
      rw [List.splitOn_eq_splitOnP] at ih ⊢
      rw [List.splitOnP_cons_eq_if_modifyHead]
      -- a line feed ends an empty line, and any other letter begins the line that is next
      split
      next feed =>
        rw [beq_iff_eq] at feed
        subst feed
        exact (hasLines_singleton List.not_mem_nil).append ih
      next letter =>
        cases cut : List.splitOnP (fun x => x == '\n') rest with
        | nil => exact absurd cut (List.splitOnP_ne_nil _ _)
        | cons first others =>
            rw [cut] at ih
            exact ih.cons_letter fun feed => letter (beq_iff_eq.2 feed)

/-! ## The entries of a report -/

/-- Where a finding is: at a row and a column, or between two offsets. -/
def place (message : Message) : String :=
  match message.start with
  | some location => location.text
  | none => toString message.range.start.toNat ++ ".." ++ toString message.range.stop.toNat

/-- What a report says about a message. -/
def entry (message : Message) : String :=
  message.filename ++ ":" ++ place message ++ ": " ++ message.code ++ " " ++ message.body

theorem toList_text (messages : List Message) :
    (text false messages).toList =
      messages.flatMap fun message => (entry message).toList ++ ['\n'] := by
  have pieces (message : Message) :
      (linePieces false message).flatMap String.toList = (entry message).toList ++ ['\n'] := by
    unfold linePieces placePieces entry place
    cases message.start with
    | none => simp [Style.paint]
    | some location => simp [Style.paint, Text.SourceLocation.text]
  rw [text, textPieces, String.toList_join, List.flatMap_assoc]
  exact List.flatMap_congr fun message _ => pieces message

theorem notMem_toDigits {c : Char} (other : c.isDigit = false) (n : Nat) :
    c ∉ Nat.toDigits 10 n := by
  intro member
  have digit := Nat.isDigit_of_mem_toDigits (by decide) (by decide) member
  rw [other] at digit
  cases digit

theorem newline_notMem_place (message : Message) : '\n' ∉ (place message).toList := by
  have digits := notMem_toDigits (c := '\n') rfl
  unfold place
  cases message.start with
  | none => simp [digits]
  | some location => simp [Text.SourceLocation.text, digits]

/-- The line feeds of an entry are those of what is said. -/
theorem count_entry {message : Message} (filename : '\n' ∉ message.filename.toList)
    (code : message.code = "no-shadow") :
    (entry message).toList.count '\n' = message.body.toList.count '\n' := by
  have layout : ":".toList.count '\n' = 0 ∧ ": ".toList.count '\n' = 0 ∧
      "no-shadow".toList.count '\n' = 0 ∧ " ".toList.count '\n' = 0 := by decide
  obtain ⟨colon, space, rule, gap⟩ := layout
  rw [entry, code]
  simp only [String.toList_append, List.count_append]
  rw [List.count_eq_zero.2 filename, List.count_eq_zero.2 (newline_notMem_place message), colon,
    space, rule, gap, Nat.zero_add]

theorem count_shadowingBody (name : String) :
    (shadowingBody name).toList.count '\n' = name.toList.count '\n' := by
  have rest : '\n' ∉ " is already declared in the upper scope.".toList := by decide
  rw [shadowingBody, String.toList_append, List.count_append, List.count_eq_zero.2 rest,
    Nat.add_zero]

/-! ## The lines of a report -/

/-- The lines of the entries, one entry after the other. -/
def lines (messages : List Message) : List (List Char) :=
  messages.flatMap fun message => (entry message).toList.splitOn '\n'

theorem hasLines_text (messages : List Message) :
    HasLines (text false messages).toList (lines messages) := by
  rw [toList_text]
  exact HasLines.flatMap fun message _ => hasLines_splitOn (entry message).toList

/-- Each message has the one line that is its entry exactly where no entry holds a line feed. -/
theorem lines_eq_map_iff {messages : List Message} :
    (lines messages = messages.map fun message => (entry message).toList) ↔
      ∀ message ∈ messages, '\n' ∉ (entry message).toList := by
  constructor
  · intro same message member
    have has := hasLines_text messages
    rw [same] at has
    exact has.whole _ (List.mem_map_of_mem member)
  · intro whole
    have each : (messages.map fun message => (entry message).toList) =
        messages.flatMap fun message => [(entry message).toList] := List.map_eq_flatMap
    apply (hasLines_text messages).unique
    rw [toList_text, each]
    exact HasLines.flatMap fun message member => hasLines_singleton (whole message member)

/-- A report has a line for each message, and one more for each line feed in a name. -/
theorem length_lines {messages : List Message} {names : List String} {filename : String}
    (whole : '\n' ∉ filename.toList)
    (known : ∀ message ∈ messages, message.filename = filename ∧ message.code = "no-shadow")
    (said : messages.map Message.body = names.map shadowingBody) :
    (lines messages).length =
      messages.length + (names.flatMap String.toList).count '\n' := by
  induction messages generalizing names with
  | nil =>
      cases names with
      | nil => rfl
      | cons _ _ => cases said
  | cons message rest ih =>
      cases names with
      | nil => cases said
      | cons name others =>
          obtain ⟨⟨rfl, code⟩, known⟩ := List.forall_mem_cons.1 known
          obtain ⟨body, said⟩ := List.cons.inj said
          -- the lines of an entry are its line feeds and the one behind it
          have feeds := (hasLines_splitOn (entry message).toList).length_eq
          rw [List.count_append, count_entry whole code, body, count_shadowingBody,
            List.count_singleton_self] at feeds
          have rest := ih known said
          rw [lines] at rest ⊢
          rw [List.flatMap_cons, List.length_append, feeds, rest, List.length_cons,
            List.flatMap_cons, List.count_append]
          omega

/-- The bodies of a report are made of names. -/
theorem exists_names (settings : Settings) (filename : String) (model : Model) :
    ∃ names : List String,
      (settings.report filename model).map Message.body = names.map shadowingBody := by
  have made : (settings.report filename model).map Message.body ∈
      Set.range (List.map shadowingBody) := by
    rw [Set.range_list_map]
    intro body member
    obtain ⟨message, reported, rfl⟩ := List.mem_map.1 member
    obtain ⟨finding, found, rfl⟩ := List.mem_map.1 reported
    obtain ⟨_, _, _, _, v, _, _, _, said⟩ := Lint.exists_variable_of_mem_check found
    exact ⟨v.name, said.symm⟩
  obtain ⟨names, same⟩ := made
  exact ⟨names, same.symm⟩

/-- What is written about the messages of a document, each of them about one name: an entry for each
message, with the place of its range in the source text or the range itself.  There are as many
lines as messages and line feeds in their names, so the lines are the entries exactly where no name
holds a line feed. -/
theorem lines_of_report {settings : Settings} {filename document : String} {messages : List Message}
    (whole : '\n' ∉ filename.toList) (linted : settings.lint filename document = .ok messages) :
    ∃ (model : Model) (names : List String), Model.ofText document = .ok model ∧
      (∀ message ∈ messages,
        Located filename model.source message ∧ message.code = "no-shadow") ∧
      messages.map Message.body = names.map shadowingBody ∧
      (text false messages).toList =
        messages.flatMap (fun message => (entry message).toList ++ ['\n']) ∧
      (∀ rows, HasLines (text false messages).toList rows ↔ rows = lines messages) ∧
      (lines messages).length =
        messages.length + (names.flatMap String.toList).count '\n' ∧
      ((lines messages = messages.map fun message => (entry message).toList) ↔
        ∀ name ∈ names, '\n' ∉ name.toList) := by
  obtain ⟨model, loaded, rfl⟩ := Lint.lint_eq_ok_iff.1 linted
  obtain ⟨names, said⟩ := exists_names settings filename model
  have located := Lint.report_located settings filename model
  have coded : ∀ message ∈ settings.report filename model, message.code = "no-shadow" :=
    fun message member => (Lint.rule_of_mem_report member).2
  have hasLines := hasLines_text (settings.report filename model)
  refine ⟨model, names, loaded,
    fun message member => ⟨located message member, coded message member⟩, said, toList_text _,
    fun rows => ⟨fun has => has.unique hasLines, fun same => same ▸ hasLines⟩, ?_, ?_⟩
  · exact length_lines whole
      (fun message member => ⟨(located message member).filename_eq, coded message member⟩) said
  · calc (lines (settings.report filename model) =
          (settings.report filename model).map fun message => (entry message).toList)
      _ ↔ ∀ message ∈ settings.report filename model, '\n' ∉ (entry message).toList :=
          lines_eq_map_iff
      _ ↔ ∀ message ∈ settings.report filename model, '\n' ∉ message.body.toList := by
          refine forall₂_congr fun message member => ?_
          rw [← (located message member).filename_eq] at whole
          rw [← List.count_eq_zero, count_entry whole (coded message member), List.count_eq_zero]
      _ ↔ ∀ body ∈ names.map shadowingBody, '\n' ∉ body.toList := by
          rw [← said, List.forall_mem_map]
      _ ↔ ∀ name ∈ names, '\n' ∉ name.toList := by
          rw [List.forall_mem_map]
          refine forall₂_congr fun name _ => ?_
          rw [← List.count_eq_zero, count_shadowingBody, List.count_eq_zero]

/-- A parameter with the name of a global variable has a line of its own. -/
theorem lines_of_report_of_parameterOfGlobalName :
    ∃ messages, Settings.default.lint "f.json" Lint.parameterOfGlobalName.text = .ok messages ∧
      '\n' ∉ "f.json".toList ∧
      ∀ rows, HasLines (text false messages).toList rows ↔
        rows = ["f.json:2:12: no-shadow x is already declared in the upper scope.".toList] := by
  obtain ⟨model, loaded, bodies, entries⟩ : ∃ model,
      Model.ofGraph Lint.parameterOfGlobalName = .ok model ∧
        (Settings.default.report "f.json" model).map Message.body = [shadowingBody "x"] ∧
        (Settings.default.report "f.json" model).map (fun message => (entry message).toList) =
          ["f.json:2:12: no-shadow x is already declared in the upper scope.".toList] :=
    ⟨_, rfl, by decide +kernel, by decide +kernel⟩
  have linted : Settings.default.lint "f.json" Lint.parameterOfGlobalName.text =
      .ok (Settings.default.report "f.json" model) :=
    Lint.lint_eq_ok_iff.2 ⟨model, Lint.ofText_eq_ok (Scope.ofText_text _) loaded, rfl⟩
  have whole : '\n' ∉ "f.json".toList := by decide
  obtain ⟨_, names, _, _, said, _, rows_iff, _, own⟩ := lines_of_report whole linted
  have clean : ∀ name ∈ names, '\n' ∉ name.toList := by
    intro name member
    have body := List.mem_map_of_mem (f := shadowingBody) member
    rw [← said, bodies, List.mem_singleton] at body
    rw [← List.count_eq_zero, ← count_shadowingBody, body]
    decide
  refine ⟨_, linted, whole, fun rows => ?_⟩
  rw [rows_iff, own.2 clean, entries]

/-- A name that goes on behind a line feed as a finding about another name would. -/
def forgedName : String := "x is already declared in the upper scope.\nf.json:1..2: no-shadow y"

/-- A function that declares such a name of the global scope again. -/
def forgedFinding : ScopeGraph where
  source := none
  scopes := [⟨none, [⟨forgedName, [⟨1, 2, by decide⟩]⟩]⟩,
    ⟨some 0, [⟨forgedName, [⟨3, 4, by decide⟩]⟩]⟩]
  nodes := [⟨.functionExpression, 1, none⟩]

/-- The one finding in a document can have two lines, of which the second one looks like a finding
that there is not. -/
theorem two_lines_of_forgedFinding :
    ∃ message, Settings.default.lint "f.json" forgedFinding.text = .ok [message] ∧
      message.range = ⟨3, 4, by decide⟩ ∧
      ∀ rows, HasLines (text false [message]).toList rows ↔
        rows = ["f.json:3..4: no-shadow x is already declared in the upper scope.".toList,
          "f.json:1..2: no-shadow y is already declared in the upper scope.".toList] := by
  let message : Message :=
    ⟨"ShadowedVariable", shadowingBody forgedName, ⟨3, 4, by decide⟩, "f.json", none, none⟩
  obtain ⟨model, loaded, reported⟩ : ∃ model, Model.ofGraph forgedFinding = .ok model ∧
      Settings.default.report "f.json" model = [message] :=
    ⟨_, rfl, by decide +kernel⟩
  have linted := Lint.lint_eq_ok_iff.2
    ⟨model, Lint.ofText_eq_ok (Scope.ofText_text _) loaded, reported⟩
  have cut : lines [message] =
      ["f.json:3..4: no-shadow x is already declared in the upper scope.".toList,
        "f.json:1..2: no-shadow y is already declared in the upper scope.".toList] := by
    decide +kernel
  have has := hasLines_text [message]
  rw [cut] at has
  exact ⟨message, linted, rfl,
    fun rows => ⟨fun other => other.unique has, fun same => same ▸ has⟩⟩

end ShadowLint.Report
