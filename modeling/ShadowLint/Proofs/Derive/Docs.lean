import ShadowLint.Derive.Metadata
import ShadowLint.Proofs.Outcome

/-!
# Explanations are the documentation, line by line

Among the attributes of an item those with the path `doc` document it, and such an attribute says a
line: the text of its string literal without the one blank that separates it (`Documents`).  The
explanation is made of these lines, each with a line feed behind it, and of nothing else
(`explanation_eq_ok_iff`); so it can be cut into them again (`splitOn_join`).

Other attributes are passed over.  Collecting is reading the documentation attributes in a row, and
is refused where one of them holds no string literal (`explanation_eq`).
-/

namespace ShadowLint.Derive

/-! ## The line that an attribute says -/

/-- A text is a line with one blank in front of it, or a line that does not begin with a blank. -/
inductive Separates : (text line : String) → Prop
  | blank (line : String) : Separates (" " ++ line) line
  | plain {line : String} : line.toList.head? ≠ some ' ' → Separates line line

theorem separates_iff {text line : String} : Separates text line ↔ dropSeparator text = line := by
  constructor
  · intro separates
    cases separates with
    | blank =>
        rw [dropSeparator, String.toList_append]
        exact String.ofList_toList
    | plain begins =>
        unfold dropSeparator
        split
        · next rest cut =>
            rw [cut] at begins
            exact absurd rfl begins
        · rfl
  · rintro rfl
    unfold dropSeparator
    split
    · next rest cut =>
        have whole : text = " " ++ String.ofList rest := by
          rw [← String.toList_inj]
          simp [cut]
        rw [whole]
        exact .blank (String.ofList rest)
    · next other =>
        refine .plain fun begins => ?_
        obtain ⟨rest, cut⟩ := List.head?_eq_some_iff.1 begins
        exact other rest cut

/-- In a text without a line feed a line has none. -/
theorem Separates.newline_notMem {text line : String} (separates : Separates text line)
    (whole : '\n' ∉ text.toList) : '\n' ∉ line.toList := by
  cases separates with
  | blank =>
      rw [String.toList_append, List.mem_append, not_or] at whole
      exact whole.2
  | plain _ => exact whole

namespace Attribute

/-- An attribute holds a string literal, and its text says a line. -/
def Documents (a : Attribute) (line : String) : Prop :=
  ∃ text, a.content = .text text ∧ Separates text line

/-- The line that a documentation attribute says. -/
def line (a : Attribute) : Except DocError String :=
  match a.content with
  | .text text => .ok (dropSeparator text)
  | .other => .error .otherForm

theorem line_eq_ok_iff {a : Attribute} {said : String} : a.line = .ok said ↔ a.Documents said := by
  simp only [line, Documents, separates_iff]
  cases a.content <;> simp

theorem exists_line_eq_ok_iff {a : Attribute} :
    (∃ said, a.line = .ok said) ↔ ∃ text, a.content = .text text := by
  unfold line
  cases a.content <;> simp

end Attribute

/-! ## Collecting the lines -/

/-- Collecting reads the documentation attributes one by one and writes what they say. -/
theorem explanation_eq (attributes : List Attribute) :
    explanation attributes =
      ((attributes.filter fun a => a.path = ["doc"]).mapM Attribute.line).map fun lines =>
        String.join (lines.map (· ++ "\n")) := by
  induction attributes with
  | nil => rfl
  | cons a rest ih =>
      rw [explanation, Attribute.isDoc, List.filter_cons]
      split
      · rw [List.mapM_cons, Attribute.line, ih]
        cases a.content with
        | other => rfl
        | text value =>
            cases (rest.filter fun a => a.path = ["doc"]).mapM Attribute.line with
            | error refusal => rfl
            | ok lines =>
                simp [bind, Except.bind, pure, Except.pure, Except.map, String.join_cons]
      · exact ih

theorem explanation_eq_ok_iff {attributes : List Attribute} {text : String} :
    explanation attributes = .ok text ↔
      ∃ lines,
        List.Forall₂ Attribute.Documents (attributes.filter fun a => a.path = ["doc"]) lines ∧
        text = String.join (lines.map (· ++ "\n")) := by
  simp only [explanation_eq, Outcome.map_eq_ok_iff, Outcome.mapM_eq_ok_iff_forall₂,
    Attribute.line_eq_ok_iff]
  simp only [eq_comm]

theorem exists_explanation_iff {attributes : List Attribute} :
    (∃ text, explanation attributes = .ok text) ↔
      ∀ a ∈ attributes, a.path = ["doc"] → ∃ text, a.content = .text text := by
  have collected : (∃ text, explanation attributes = .ok text) ↔
      ∃ lines, (attributes.filter fun a => a.path = ["doc"]).mapM Attribute.line = .ok lines := by
    simp [explanation_eq, Outcome.map_eq_ok_iff]
  rw [collected, Outcome.exists_mapM_eq_ok_iff]
  simp [Attribute.exists_line_eq_ok_iff]

theorem explanation_eq_error_iff {attributes : List Attribute} {refusal : DocError} :
    explanation attributes = .error refusal ↔
      ∃ a ∈ attributes, a.path = ["doc"] ∧ a.content = .other := by
  have either : explanation attributes = .error refusal ↔
      ¬ ∃ text, explanation attributes = .ok text := by
    cases explanation attributes <;> simp
  have otherwise (a : Attribute) : (∀ text, a.content ≠ .text text) ↔ a.content = .other := by
    cases a.content <;> simp
  rw [either, exists_explanation_iff]
  simp only [← otherwise, not_forall, not_exists, exists_prop]

/-! ## Cutting an explanation -/

/-- Lines without line feeds are what their row is cut into at the line feeds; nothing is behind the
last of these. -/
theorem splitOn_join {lines : List String} (whole : ∀ line ∈ lines, '\n' ∉ line.toList) :
    (String.join (lines.map (· ++ "\n"))).toList.splitOn '\n' =
      lines.map String.toList ++ [[]] := by
  induction lines with
  | nil => rfl
  | cons line rest ih =>
      obtain ⟨first, others⟩ := List.forall_mem_cons.1 whole
      have head : (String.join ((line :: rest).map (· ++ "\n"))).toList =
          line.toList ++ '\n' :: (String.join (rest.map (· ++ "\n"))).toList := by
        simp [String.join_cons]
      rw [head, List.splitOn_append_cons_self_of_not_mem first, ih others]
      rfl

/-- What attributes without line feeds say are lines without line feeds. -/
theorem newline_notMem_of_documents {attributes : List Attribute} {lines : List String}
    (document : List.Forall₂ Attribute.Documents attributes lines)
    (whole : ∀ a ∈ attributes, ∀ text, a.content = .text text → '\n' ∉ text.toList) :
    ∀ line ∈ lines, '\n' ∉ line.toList := by
  induction document with
  | nil => simp
  | cons first _ ih =>
      obtain ⟨one, others⟩ := List.forall_mem_cons.1 whole
      obtain ⟨text, content, separates⟩ := first
      exact List.forall_mem_cons.2 ⟨separates.newline_notMem (one text content), ih others⟩

/-- The explanation in the metadata of a violation is that of its attributes, and there is no
metadata without an explanation. -/
theorem ViolationItem.explanation_metadata (item : ViolationItem) :
    item.metadata.map Metadata.explanation = explanation item.attributes := by
  rw [ViolationItem.metadata]
  cases explanation item.attributes <;> rfl

/-- Attributes have an explanation exactly where each with the path `doc` holds a string literal.
It is made of the lines that these say, in their order and with a line feed behind each, and it is
cut into the same lines again if no literal holds a line feed.  Otherwise there is only the
refusal. -/
theorem explanation_is_documentation (attributes : List Attribute) :
    ((∃ text, explanation attributes = .ok text) ↔
      ∀ a ∈ attributes, a.path = ["doc"] → ∃ text, a.content = .text text) ∧
    (∀ text, explanation attributes = .ok text ↔
      ∃ lines,
        List.Forall₂ Attribute.Documents (attributes.filter fun a => a.path = ["doc"]) lines ∧
        text = String.join (lines.map (· ++ "\n"))) ∧
    (∀ refusal, explanation attributes = .error refusal ↔
      (∃ a ∈ attributes, a.path = ["doc"] ∧ a.content = .other) ∧
        refusal.message = "unimplemented doc comment style") ∧
    (∀ text lines, explanation attributes = .ok text →
      List.Forall₂ Attribute.Documents (attributes.filter fun a => a.path = ["doc"]) lines →
      (∀ a ∈ attributes, a.path = ["doc"] → ∀ value, a.content = .text value →
        '\n' ∉ value.toList) →
      text.toList.splitOn '\n' = lines.map String.toList ++ [[]]) ∧
    ∀ item : ViolationItem, item.attributes = attributes →
      item.metadata.map Metadata.explanation = explanation attributes := by
  refine ⟨exists_explanation_iff, fun text => explanation_eq_ok_iff, fun refusal => ?_, ?_, ?_⟩
  · rw [explanation_eq_error_iff]
    exact (and_iff_left rfl).symm
  · intro text lines explained document whole
    have same : text = String.join (lines.map (· ++ "\n")) := by
      have again := explanation_eq_ok_iff.2 ⟨lines, document, rfl⟩
      rw [explained] at again
      exact Except.ok.inj again
    rw [same]
    refine splitOn_join (newline_notMem_of_documents document fun a member => ?_)
    obtain ⟨inside, documents⟩ := List.mem_filter.1 member
    exact whole a inside (of_decide_eq_true documents)
  · rintro item rfl
    exact item.explanation_metadata

/-- A violation with four lines of documentation, among them an empty and an indented one, and with
attributes between them that do not document it. -/
def documentedItem : ViolationItem where
  attributes := [.doc (.text " Flags a name."), ⟨["derive"], .other⟩, .doc (.text ""),
    ⟨["other", "doc"], .text " No part."⟩, .doc (.text "   indented"), .doc (.text "plain")]
  name := "Flagged"
  parameters := []
  predicates := []

theorem lines_documentedItem :
    List.Forall₂ Attribute.Documents (documentedItem.attributes.filter fun a => a.path = ["doc"])
      ["Flags a name.", "", "  indented", "plain"] := by
  simp [documentedItem, Attribute.doc, Attribute.Documents, separates_iff, dropSeparator]

/-- The four lines come back from the explanation as they are, and with an attribute of another form
behind them there is none. -/
theorem explanation_documentedItem :
    documentedItem.metadata.map Metadata.explanation =
        .ok "Flags a name.\n\n  indented\nplain\n" ∧
      "Flags a name.\n\n  indented\nplain\n".toList.splitOn '\n' =
        ["Flags a name.".toList, [], "  indented".toList, "plain".toList, []] ∧
      explanation (documentedItem.attributes ++ [.doc .other]) = .error .otherForm := by
  obtain ⟨_, explained, _, cut, metadata⟩ :=
    explanation_is_documentation documentedItem.attributes
  have text : explanation documentedItem.attributes =
      .ok "Flags a name.\n\n  indented\nplain\n" :=
    (explained _).2 ⟨_, lines_documentedItem, by decide⟩
  have whole : ∀ a ∈ documentedItem.attributes, a.path = ["doc"] →
      ∀ value, a.content = .text value → '\n' ∉ value.toList := by
    simp [documentedItem, Attribute.doc]
  refine ⟨(metadata documentedItem rfl).trans text, ?_, ?_⟩
  · exact cut _ _ text lines_documentedItem whole
  · exact ((explanation_is_documentation (documentedItem.attributes ++ [.doc .other])).2.2.1 _).2
      ⟨⟨.doc .other, by simp, rfl, rfl⟩, rfl⟩

end ShadowLint.Derive
