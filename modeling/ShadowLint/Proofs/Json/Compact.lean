import Mathlib.Tactic.SplitIfs
import ShadowLint.Proofs.Json.Rendering
import ShadowLint.Proofs.Json.Reading

/-!
# Compact texts

The compact text of a value is one of its texts: every character is written in one of its
spellings, and no white space stands anywhere.  Values are put together from parts whose compact
texts are such, so numerals only have to be looked at where they are made.
-/

namespace ShadowLint.Json

/-! ## Strings -/

theorem hexValue?_hexDigit : ∀ d < 16, Text.hexValue? (Text.hexDigit d) = some d := by
  decide

theorem charWritten_stringChar (c : Char) : CharWritten c (stringChar c) := by
  unfold stringChar
  split_ifs with quote backslash backspace formFeed lineFeed lineReturn tab control
  · exact .letter (by rw [quote]; decide)
  · exact .letter (by rw [backslash]; decide)
  · exact .letter (by rw [backspace]; decide)
  · exact .letter (by rw [formFeed]; decide)
  · exact .letter (by rw [lineFeed]; decide)
  · exact .letter (by rw [lineReturn]; decide)
  · exact .letter (by rw [tab]; decide)
  · -- the other control characters are written by their numbers
    have digits := UnitWritten.mk (hexValue?_hexDigit 0 (by decide))
      (hexValue?_hexDigit 0 (by decide)) (hexValue?_hexDigit (c.toNat / 16) (by omega))
      (hexValue?_hexDigit (c.toNat % 16) (by omega))
    have number : ((0 * 16 + 0) * 16 + c.toNat / 16) * 16 + c.toNat % 16 = c.toNat := by omega
    rw [number] at digits
    exact .unit digits
  · exact .plain (Nat.le_of_not_lt control) quote backslash

theorem charsWritten_flatMap (text : List Char) :
    CharsWritten text (text.flatMap stringChar) := by
  induction text with
  | nil => exact .nil
  | cons c rest ih =>
      rw [List.flatMap_cons]
      exact .cons (charWritten_stringChar c) ih

theorem spaced_stringText (text : String) :
    Spaced [.string (some text)] (stringText text) := by
  have written := Token.Written.string (charsWritten_flatMap text.toList)
  exact written.spaced

/-! ## Numbers -/

theorem ofDigits_toDigits (n : Nat) : ofDigits (Nat.toDigits 10 n) = n := by
  have sum : ofDigits (Nat.toDigits 10 n) = Nat.ofDigitChars 10 (Nat.toDigits 10 n) 0 := by
    simp only [ofDigits, Nat.ofDigitChars, digitValue, Nat.mul_comm, Char.reduceToNat]
  rw [sum, Nat.ofDigitChars_ten_toDigits]

theorem digits_toDigits (n : Nat) : Digits (Nat.toDigits 10 n) := by
  refine ⟨Nat.toDigits_ne_nil, fun c inside => ?_⟩
  have digit := Nat.isDigit_of_mem_toDigits (by decide) (by decide) inside
  rw [Char.isDigit, Bool.and_eq_true, decide_eq_true_eq, decide_eq_true_eq] at digit
  rw [isDigit, Bool.and_eq_true, decide_eq_true_eq, decide_eq_true_eq]
  exact digit

/-- Only zero is written with a zero in front. -/
theorem toDigits_eq_zero {n : Nat} (zero : (Nat.toDigits 10 n).head? = some '0') :
    Nat.toDigits 10 n = ['0'] := by
  induction n using Nat.strongRecOn with
  | ind n ih =>
      rw [Nat.toDigits_eq_if (by decide)] at zero ⊢
      by_cases small : n < 10
      · rw [if_pos small, List.head?_cons, Option.some.injEq] at zero
        rw [if_pos small, zero]
      · rw [if_neg small, List.head?_append_of_ne_nil _ Nat.toDigits_ne_nil] at zero
        -- a zero in front would be that of the number without its last digit
        have front := congrArg ofDigits (ih (n / 10) (by omega) zero)
        rw [ofDigits_toDigits] at front
        have none : n / 10 = 0 := front
        omega

theorem written_ofNat (n : Nat) : (Numeral.ofNat n).Written (Numeral.ofNat n).text := by
  have text : (Numeral.ofNat n).text =
      (if (Numeral.ofNat n).negative then ['-'] else []) ++
        ((Numeral.ofNat n).whole ++ ([] ++ [])) := by
    simp [Numeral.text, Numeral.ofNat]
  rw [text]
  exact .mk (digits_toDigits n) toDigits_eq_zero .absent .absent

/-! ## Values -/

/-- The compact text of a value is one of its texts. -/
def Value.Compacts (value : Value) : Prop := Spaced value.tokens value.compact

theorem Value.Compacts.renders {value : Value} (compacts : value.Compacts) :
    value.Renders value.compactText := by
  rw [Renders, compactText, String.toList_ofList]
  exact compacts

theorem compacts_null : Value.null.Compacts := Token.Written.null.spaced

theorem compacts_string (text : String) : (Value.string text).Compacts := spaced_stringText text

theorem compacts_ofNat (n : Nat) : (Value.ofNat n).Compacts :=
  (Token.Written.number (written_ofNat n)).spaced

theorem spaced_compactItems {items : List Value} (each : ∀ item ∈ items, item.Compacts) :
    Spaced (itemTokens items) (compactItems items) := by
  induction items with
  | nil => exact .nil blank_nil
  | cons head rest ih =>
      obtain ⟨first, others⟩ := List.forall_mem_cons.1 each
      exact spaced_itemTokens_cons blank_nil first (ih others)

theorem compacts_array {items : List Value} (each : ∀ item ∈ items, item.Compacts) :
    (Value.array items).Compacts := by
  cases items with
  | nil => exact Token.Written.leftBracket.spaced.append Token.Written.rightBracket.spaced
  | cons head rest =>
      obtain ⟨first, others⟩ := List.forall_mem_cons.1 each
      have whole := spaced_array_cons blank_nil blank_nil first (spaced_compactItems others)
      simpa only [Value.Compacts, Value.compact, List.cons_append, List.nil_append,
        List.append_assoc] using whole

theorem Value.Compacts.member {value : Value} (compacts : value.Compacts) (key : String) :
    Spaced (.string (some key) :: .colon :: value.tokens)
      (stringText key ++ ':' :: value.compact) :=
  spaced_member (spaced_stringText key) blank_nil compacts

theorem spaced_compactMembers {members : List (String × Value)}
    (each : ∀ member ∈ members, member.2.Compacts) :
    Spaced (memberTokens members) (compactMembers members) := by
  induction members with
  | nil => exact .nil blank_nil
  | cons head rest ih =>
      obtain ⟨first, others⟩ := List.forall_mem_cons.1 each
      have whole := spaced_memberTokens_cons blank_nil (first.member head.1) (ih others)
      simpa only [compactMembers, List.cons_append, List.nil_append, List.append_assoc] using whole

theorem compacts_object {members : List (String × Value)}
    (each : ∀ member ∈ members, member.2.Compacts) : (Value.object members).Compacts := by
  cases members with
  | nil => exact Token.Written.leftBrace.spaced.append Token.Written.rightBrace.spaced
  | cons head rest =>
      obtain ⟨first, others⟩ := List.forall_mem_cons.1 each
      have whole := spaced_object_cons blank_nil blank_nil (first.member head.1)
        (spaced_compactMembers others)
      simpa only [Value.Compacts, Value.compact, List.cons_append, List.nil_append,
        List.append_assoc] using whole

/-- The literal of a number stands for the number. -/
theorem means_ofNat (n : UInt32) : MeansNatural32 (Value.ofNat n.toNat) n :=
  .mk (ofDigits_toDigits n.toNat)

end ShadowLint.Json
