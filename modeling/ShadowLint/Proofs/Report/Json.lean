import ShadowLint.Proofs.Json.Spread
import ShadowLint.Proofs.Scope.Schema
import ShadowLint.Report.Json

/-!
# What a JSON report carries

A JSON report is the text of an array and a line feed behind it.  Each of its objects means one
message (`MeansMessage`), and the messages are in their order.  Since a text is the text of one
value at most, and a value means one of its parts at most, two lists of messages have the same
report exactly where they agree in everything that a report carries
(`json_carries_messages`): the kind of a finding is not carried, only the rule that it belongs to.
-/

namespace ShadowLint.Report

open Json
open Lint (Message Rule)
open Scope (MeansRange)
open Text (SourceLocation)

/-! ## The objects of a report -/

/-- A location is an object of its column and its row. -/
inductive MeansLocation : Meaning SourceLocation
  | mk {column row : Value} {place : SourceLocation} : Shape.IsLiteral column place.column →
      Shape.IsLiteral row place.row →
      MeansLocation (.object [("column", column), ("row", row)]) place

/-- A message is an object of six members in the order of their names.  Its code is null where its
kind belongs to no rule, and its locations are null where the source text is not known. -/
inductive MeansMessage : Meaning Message
  | mk {code stop filename start body range : Value} {message : Message} :
      MeansNullable MeansText code (message.rule?.map Rule.name) →
      MeansNullable MeansLocation stop message.stop → MeansText filename message.filename →
      MeansNullable MeansLocation start message.start → MeansText body message.body →
      MeansRange range message.range →
      MeansMessage (.object [("code", code), ("end_location", stop), ("filename", filename),
        ("location", start), ("message", body), ("range", range)]) message

theorem isLiteral_ofNat (n : Nat) : Shape.IsLiteral (.ofNat n) n :=
  ⟨Nat.toDigits 10 n, rfl, ofDigits_toDigits n⟩

theorem means_locationValue (place : Option SourceLocation) :
    MeansNullable MeansLocation (locationValue place) place := by
  cases place with
  | none => exact .null
  | some place =>
      exact .some Value.noConfusion
        (.mk (isLiteral_ofNat place.column) (isLiteral_ofNat place.row))

theorem means_ofString? (text : Option String) :
    MeansNullable MeansText (.ofString? text) text := by
  cases text with
  | none => exact .null
  | some text => exact .some Value.noConfusion .mk

theorem means_messageValue (message : Message) : MeansMessage (messageValue message) message := by
  refine .mk (means_ofString? _) (means_locationValue message.stop) .mk
    (means_locationValue message.start) .mk ?_
  exact .mk (means_ofNat message.range.start) (means_ofNat message.range.stop)

/-! ## Their texts -/

theorem spreads_ofString? (text : Option String) : (Value.ofString? text).Spreads := by
  cases text with
  | none => exact spreads_null
  | some text => exact spreads_string text

theorem spreads_locationValue (place : Option SourceLocation) :
    (locationValue place).Spreads := by
  cases place with
  | none => exact spreads_null
  | some place =>
      apply spreads_object
      simp [spreads_ofNat]

theorem spreads_messageValue (message : Message) : (messageValue message).Spreads := by
  have range : (Value.array
      [.ofNat message.range.start.toNat, .ofNat message.range.stop.toNat]).Spreads := by
    apply spreads_array
    simp [spreads_ofNat]
  apply spreads_object
  simp [spreads_ofString?, spreads_locationValue, spreads_string, range]

/-- The array of a report is spread over lines in one of its texts. -/
theorem renders_messageValues (messages : List Message) :
    (Value.array (messages.map messageValue)).Renders
      (Value.array (messages.map messageValue)).spreadText := by
  refine (spreads_array ?_).renders
  intro value member
  obtain ⟨message, _, rfl⟩ := List.mem_map.1 member
  exact spreads_messageValue message

/-! ## What is lost -/

/-- Two messages that a report does not tell apart. -/
structure SameEntry (one other : Message) : Prop where
  rule_eq : other.rule? = one.rule?
  body_eq : other.body = one.body
  filename_eq : other.filename = one.filename
  start_eq : other.start = one.start
  stop_eq : other.stop = one.stop
  range_eq : other.range = one.range

theorem name_injective : Function.Injective Rule.name := by
  intro one other _
  cases one
  cases other
  rfl

theorem rightUnique_meansLocation : Relator.RightUnique MeansLocation := by
  rintro value ⟨row, column⟩ ⟨otherRow, otherColumn⟩ first second
  cases first with
  | mk isColumn isRow =>
      cases second with
      | mk isOtherColumn isOtherRow =>
          obtain ⟨_, rfl, rfl⟩ := isColumn
          obtain ⟨_, rfl, rfl⟩ := isRow
          obtain ⟨_, sameColumn, rfl⟩ := isOtherColumn
          obtain ⟨_, sameRow, rfl⟩ := isOtherRow
          cases sameColumn
          cases sameRow
          rfl

/-- An object leaves nothing open about its message but the kind. -/
theorem MeansMessage.sameEntry {value : Value} {one other : Message}
    (first : MeansMessage value one) (second : MeansMessage value other) : SameEntry one other := by
  have uniqueText := realizes_string.rightUnique
  have uniquePlace := MeansNullable.rightUnique rightUnique_meansLocation
  cases first with
  | mk code stop filename start body range =>
      cases second with
      | mk otherCode otherStop otherFilename otherStart otherBody otherRange =>
          have sameName := MeansNullable.rightUnique uniqueText otherCode code
          exact
            { rule_eq := Option.map_injective name_injective sameName
              body_eq := uniqueText otherBody body
              filename_eq := uniqueText otherFilename filename
              start_eq := uniquePlace otherStart start
              stop_eq := uniquePlace otherStop stop
              range_eq := Scope.realizes_range.rightUnique otherRange range }

theorem messageValue_eq_iff {one other : Message} :
    messageValue one = messageValue other ↔ SameEntry one other := by
  constructor
  · intro same
    -- the one value means both messages
    have means := means_messageValue other
    rw [← same] at means
    exact (means_messageValue one).sameEntry means
  · intro same
    unfold messageValue
    rw [same.rule_eq, same.body_eq, same.filename_eq, same.start_eq, same.stop_eq, same.range_eq]

/-- The report of a list of messages is the text of one array, from its first bracket to its last,
and a line feed.  The items of the array mean the messages one by one, and nothing of that is lost:
the same report belongs to those lists of messages that agree one by one in what is carried. -/
theorem json_carries_messages :
    (∀ messages : List Message, ∃ (inside : String) (values : List Value),
      json messages = "[" ++ inside ++ "]" ++ "\n" ∧
        (Value.array values).Renders ("[" ++ inside ++ "]") ∧
        List.Forall₂ MeansMessage values messages) ∧
    ∀ messages others : List Message,
      json messages = json others ↔ List.Forall₂ SameEntry messages others := by
  constructor
  · intro messages
    obtain ⟨inside, text⟩ := exists_spreadText_array (messages.map messageValue)
    refine ⟨inside, messages.map messageValue, ?_, ?_, ?_⟩
    · rw [json, text]
    · rw [← text]
      exact renders_messageValues messages
    · rw [List.forall₂_map_left_iff, List.forall₂_same]
      intro message _
      exact means_messageValue message
  · intro messages others
    have sameValues : json messages = json others ↔
        messages.map messageValue = others.map messageValue := by
      constructor
      · intro same
        -- the texts agree without their line feeds, and a text has one value
        have texts := String.append_left_inj "\n" |>.1 same
        have first := renders_messageValues messages
        have second := renders_messageValues others
        rw [← texts] at second
        exact Value.array.inj (first.unique second)
      · intro same
        rw [json, json, same]
    rw [sameValues, ← List.forall₂_eq_eq_eq, List.forall₂_map_left_iff,
      List.forall₂_map_right_iff]
    simp only [messageValue_eq_iff]

/-- A finding of no rule, in a file of any name. -/
def unruly (kind filename : String) : Message :=
  ⟨kind, "a\tb", ⟨3, 5, by decide⟩, filename, some ⟨1, 4⟩, none⟩

/-- A file name that looks like the layout of a report does not pass for it, and a kind of no rule
is not told apart from another one. -/
theorem json_carries_layout_in_filename :
    json [unruly "K" "f\",\n    \"location\": null"] = String.join [
      "[\n  \x7b\n    \"code\": null,\n    \"end_location\": null,\n",
      "    \"filename\": \"f\\\",\\n    \\\"location\\\": null\",\n",
      "    \"location\": \x7b\n      \"column\": 4,\n      \"row\": 1\n    \x7d,\n",
      "    \"message\": \"a\\tb\",\n    \"range\": [\n      3,\n      5\n    ]\n  \x7d\n]\n"] ∧
    json [unruly "K" "f\",\n    \"location\": null"] ≠ json [unruly "K" "f"] ∧
    json [unruly "K" "f"] = json [unruly "L" "f"] := by
  obtain ⟨_, same_iff⟩ := json_carries_messages
  refine ⟨by decide +kernel, ?_, ?_⟩
  · intro same
    cases (same_iff _ _).1 same with
    | cons entry _ => exact absurd entry.filename_eq (by decide)
  · exact (same_iff _ _).2 (.cons ⟨by decide, rfl, rfl, rfl, rfl, rfl⟩ .nil)

end ShadowLint.Report
