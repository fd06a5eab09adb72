import Mathlib.Data.String.Basic
import Mathlib.Tactic.SplitIfs

/-!
# The order of texts is the order of their bytes

Texts are compared letter by letter.  UTF-8 keeps that order: a letter of more bytes begins with a
greater byte, and the bytes of letters of the same number of bytes are their digits to the base 64
(`encodeChar_append_lt`).  So texts stand in the order of their bytes (`lt_iff_bytes_lt`).
-/

namespace ShadowLint.Text

/-- The bytes of a text in UTF-8. -/
def bytes (text : String) : List UInt8 := text.toUTF8.data.toList

theorem bytes_eq (text : String) : bytes text = text.toList.flatMap String.utf8EncodeChar := by
  rw [bytes, String.toUTF8_eq_toByteArray, ← String.utf8Encode_toList, List.utf8Encode,
    List.data_toByteArray]

theorem ofNat_cons_lt_iff {a b : Nat} {rest others : List UInt8} (boundA : a < 256)
    (boundB : b < 256) :
    UInt8.ofNat a :: rest < UInt8.ofNat b :: others ↔ a < b ∨ a = b ∧ rest < others := by
  have valueA : (UInt8.ofNat a).toNat = a := UInt8.toNat_ofNat_of_lt' boundA
  have valueB : (UInt8.ofNat b).toNat = b := UInt8.toNat_ofNat_of_lt' boundB
  rw [List.cons_lt_cons_iff, UInt8.lt_iff_toNat_lt, ← UInt8.toNat_inj, valueA, valueB]

/-- The first digit to the base 64 that differs is smaller in the smaller number. -/
theorem digits_lt {v w : Nat} (less : v < w) :
    v / 262144 < w / 262144 ∨ v / 262144 = w / 262144 ∧
      (v / 4096 % 64 < w / 4096 % 64 ∨ v / 4096 % 64 = w / 4096 % 64 ∧
        (v / 64 % 64 < w / 64 % 64 ∨ v / 64 % 64 = w / 64 % 64 ∧ v % 64 < w % 64)) := by
  have last : v / 64 < w / 64 ∨ v / 64 = w / 64 ∧ v % 64 < w % 64 := by omega
  have third : v / 4096 < w / 4096 ∨ v / 4096 = w / 4096 ∧
      (v / 64 % 64 < w / 64 % 64 ∨ v / 64 % 64 = w / 64 % 64 ∧ v % 64 < w % 64) := by omega
  omega

/-- Whatever follows, the bytes of a smaller letter are smaller. -/
theorem encodeChar_append_lt {c d : Char} (less : c < d) (rest others : List UInt8) :
    String.utf8EncodeChar c ++ rest < String.utf8EncodeChar d ++ others := by
  have codes : c.val.toNat < d.val.toNat := UInt32.lt_iff_toNat_lt.1 less
  have bound : d.val.toNat < 1114112 := by
    have valid := d.valid
    simp only [UInt32.isValidChar, Nat.isValidChar] at valid
    omega
  unfold String.utf8EncodeChar
  generalize c.val.toNat = v at codes ⊢
  generalize d.val.toNat = w at codes bound ⊢
  have digits := digits_lt codes
  have leadV : v / 262144 % 8 = v / 262144 := Nat.mod_eq_of_lt (by omega)
  have leadW : w / 262144 % 8 = w / 262144 := Nat.mod_eq_of_lt (by omega)
  dsimp only
  -- by the numbers of bytes of the two letters
  split_ifs <;>
    simp (disch := omega) only [List.cons_append, List.nil_append, ofNat_cons_lt_iff, leadV,
      leadW] <;>
    omega

theorem flatMap_encodeChar_lt {text other : List Char} (less : text < other) :
    text.flatMap String.utf8EncodeChar < other.flatMap String.utf8EncodeChar := by
  induction less with
  | @nil d rest =>
      obtain ⟨lead, trail, split⟩ := List.exists_cons_of_ne_nil (@String.utf8EncodeChar_ne_nil d)
      rw [List.flatMap_nil, List.flatMap_cons, split]
      exact List.nil_lt_cons _ _
  | cons _ ih => exact List.append_left_lt ih
  | rel smaller => exact encodeChar_append_lt smaller _ _

theorem lt_iff_bytes_lt {text other : String} : text < other ↔ bytes text < bytes other := by
  rw [bytes_eq, bytes_eq]
  constructor
  · intro less
    exact flatMap_encodeChar_lt (String.lt_iff_toList_lt.1 less)
  · intro less
    rcases lt_trichotomy text other with smaller | same | greater
    · exact smaller
    · rw [same] at less
      exact absurd less (List.lt_irrefl _)
    · exact absurd less (List.lt_asymm (flatMap_encodeChar_lt (String.lt_iff_toList_lt.1 greater)))

end ShadowLint.Text
