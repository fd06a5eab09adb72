import ShadowLint.Proofs.Json.Compact

/-!
# Texts spread over lines

The text of a value that is spread over lines is one of its texts, whatever the level is that it
stands at: what is put between the tokens is a line feed and blanks in front of an item, a member
or a closing bracket, and a blank behind a colon.  As with compact texts, values are put together
from parts.
-/

namespace ShadowLint.Json

theorem blank_newLine (level : Nat) : Blank (newLine level) := by
  intro c member
  rcases List.mem_cons.1 member with rfl | indent
  · exact .inr (.inr (.inl rfl))
  · exact .inl (List.eq_of_mem_replicate indent)

theorem blank_space : Blank [' '] := by
  intro c member
  exact .inl (List.mem_singleton.1 member)

/-- At each level, a value that is spread over lines is written in one of its texts. -/
def Value.Spreads (value : Value) : Prop := ∀ level, Spaced value.tokens (value.spread level)

theorem Value.Spreads.renders {value : Value} (spreads : value.Spreads) :
    value.Renders value.spreadText := by
  rw [Renders, spreadText, String.toList_ofList]
  exact spreads 0

theorem spreads_null : Value.null.Spreads := fun _ => Token.Written.null.spaced

theorem spreads_string (text : String) : (Value.string text).Spreads := fun _ =>
  spaced_stringText text

theorem spreads_ofNat (n : Nat) : (Value.ofNat n).Spreads := fun _ =>
  (Token.Written.number (written_ofNat n)).spaced

/-! ## Arrays -/

theorem spaced_spreadItems {items : List Value} (each : ∀ item ∈ items, item.Spreads)
    (level : Nat) : Spaced (itemTokens items) (spreadItems level items) := by
  induction items with
  | nil => exact .nil blank_nil
  | cons head rest ih =>
      obtain ⟨first, others⟩ := List.forall_mem_cons.1 each
      have whole := spaced_itemTokens_cons (blank_newLine level) (first level) (ih others)
      simpa only [spreadItems, List.cons_append, List.append_assoc] using whole

theorem spreads_array {items : List Value} (each : ∀ item ∈ items, item.Spreads) :
    (Value.array items).Spreads := by
  intro level
  cases items with
  | nil => exact Token.Written.leftBracket.spaced.append Token.Written.rightBracket.spaced
  | cons head rest =>
      obtain ⟨first, others⟩ := List.forall_mem_cons.1 each
      have whole := spaced_array_cons (blank_newLine (level + 1)) (blank_newLine level)
        (first (level + 1)) (spaced_spreadItems others (level + 1))
      simpa only [Value.spread, List.cons_append, List.append_assoc] using whole

/-- An array begins and ends with its brackets. -/
theorem exists_spreadText_array (items : List Value) :
    ∃ inside, (Value.array items).spreadText = "[" ++ inside ++ "]" := by
  cases items with
  | nil => exact ⟨"", rfl⟩
  | cons head rest =>
      refine ⟨String.ofList
        (newLine 1 ++ (head.spread 1 ++ (spreadItems 1 rest ++ newLine 0))), ?_⟩
      rw [← String.toList_inj]
      simp [Value.spreadText, Value.spread]

/-! ## Objects -/

theorem Value.Spreads.member {value : Value} (spreads : value.Spreads) (key : String)
    (level : Nat) :
    Spaced (.string (some key) :: .colon :: value.tokens)
      (stringText key ++ ':' :: ' ' :: value.spread level) :=
  spaced_member (spaced_stringText key) blank_space (spreads level)

theorem spaced_spreadMembers {members : List (String × Value)}
    (each : ∀ member ∈ members, member.2.Spreads) (level : Nat) :
    Spaced (memberTokens members) (spreadMembers level members) := by
  induction members with
  | nil => exact .nil blank_nil
  | cons head rest ih =>
      obtain ⟨first, others⟩ := List.forall_mem_cons.1 each
      have whole := spaced_memberTokens_cons (blank_newLine level) (first.member head.1 level)
        (ih others)
      simpa only [spreadMembers, List.cons_append, List.append_assoc] using whole

theorem spreads_object {members : List (String × Value)}
    (each : ∀ member ∈ members, member.2.Spreads) : (Value.object members).Spreads := by
  intro level
  cases members with
  | nil => exact Token.Written.leftBrace.spaced.append Token.Written.rightBrace.spaced
  | cons head rest =>
      obtain ⟨first, others⟩ := List.forall_mem_cons.1 each
      have whole := spaced_object_cons (blank_newLine (level + 1)) (blank_newLine level)
        (first.member head.1 (level + 1)) (spaced_spreadMembers others (level + 1))
      simpa only [Value.spread, List.cons_append, List.append_assoc] using whole

end ShadowLint.Json
