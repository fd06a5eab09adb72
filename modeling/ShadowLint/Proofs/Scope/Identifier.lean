import ShadowLint.Scope.Id

/-!
# Identifiers and their indices

An identifier is determined by its index (`ScopeId.index_injective`), and the indices that
have one are those up to `ScopeId.maxIndex` (`ScopeId.exists_index_eq_iff`).  The readers
of 32-bit, 64-bit and plain numbers are all described by the index of what they return, so
nothing outside this module looks at how an identifier is stored.

`made_up_to_limit_and_stored` is about the arithmetic itself: words wrap around and are cut
down in silence, and it says that neither happens to a number that gets an identifier.
-/

namespace ShadowLint.Scope.ScopeId

/-- How an identifier stands for an index: its slot is one more, among the words that are not zero,
and every way to read the index gives it back. -/
structure StandsFor (id : ScopeId) (index : Nat) : Prop where
  slot : id.slot.toNat = index + 1
  positive : 1 ≤ id.slot.toNat
  bounded : id.slot.toNat ≤ 4294967295
  word : id.toUInt32.toNat = index
  index : id.index = index

theorem toNat_maxIndex : maxIndex.toNat = 4294967294 := rfl

theorem toNat_slot_pos (id : ScopeId) : 0 < id.slot.toNat := by
  have nonzero := id.slot_ne_zero
  rw [Ne, ← UInt32.toNat_inj] at nonzero
  exact Nat.pos_of_ne_zero nonzero

theorem index_eq (id : ScopeId) : id.index = id.slot.toNat - 1 := by
  have oneLe : (1 : UInt32) ≤ id.slot := UInt32.le_iff_toNat_le.2 id.toNat_slot_pos
  rw [index, toUInt32, UInt32.toNat_sub_of_le _ _ oneLe]
  rfl

theorem index_le (id : ScopeId) : id.index ≤ maxIndex.toNat := by
  have bound := id.slot.toNat_lt
  rw [index_eq, toNat_maxIndex]
  omega

theorem index_injective {a b : ScopeId} (same : a.index = b.index) : a = b := by
  have posA := a.toNat_slot_pos
  have posB := b.toNat_slot_pos
  rw [index_eq, index_eq] at same
  have slots : a.slot = b.slot := UInt32.toNat_inj.1 (by omega)
  cases a
  cases b
  cases slots
  rfl

theorem toNat_toUInt32 (id : ScopeId) : id.toUInt32.toNat = id.index := rfl

theorem index_succ {value : UInt32} (nonzero : value + 1 ≠ 0) :
    (⟨value + 1, nonzero⟩ : ScopeId).index = value.toNat := by
  rw [index, toUInt32, UInt32.add_sub_cancel]

theorem eq_iff_index_eq {a b : ScopeId} : a = b ↔ a.index = b.index :=
  ⟨congrArg index, index_injective⟩

theorem ofUInt32?_eq_some_iff {value : UInt32} {id : ScopeId} :
    ofUInt32? value = some id ↔ id.index = value.toNat := by
  unfold ofUInt32?
  split
  · rw [Option.some.injEq, eq_iff_index_eq, index_succ, eq_comm]
  · next large =>
      have bound := id.index_le
      rw [UInt32.le_iff_toNat_le] at large
      simp only [reduceCtorEq, false_iff]
      omega

theorem ofUInt32?_eq_none_iff {value : UInt32} :
    ofUInt32? value = none ↔ maxIndex.toNat < value.toNat := by
  unfold ofUInt32?
  split
  · next small =>
      rw [UInt32.le_iff_toNat_le] at small
      simp only [reduceCtorEq, false_iff]
      omega
  · next large =>
      rw [UInt32.le_iff_toNat_le] at large
      simp only [true_iff]
      omega

/-- A number that fits in 32 bits is not changed by being cut down to them. -/
theorem toNat_toUInt32_of_fits {value : UInt64} (fits : value.toNat ≤ 4294967295) :
    value.toUInt32.toNat = value.toNat := by
  rw [UInt64.toNat_toUInt32, Nat.mod_eq_of_lt (by omega)]

theorem ofUInt64?_eq_some_iff {value : UInt64} {id : ScopeId} :
    ofUInt64? value = some id ↔ id.index = value.toNat := by
  have limit : maxIndex.toUInt64.toNat = maxIndex.toNat := rfl
  unfold ofUInt64?
  split
  · next small =>
      rw [UInt64.le_iff_toNat_le, limit, toNat_maxIndex] at small
      rw [Option.some.injEq, eq_iff_index_eq, index_succ,
        toNat_toUInt32_of_fits (Nat.le_succ_of_le small), eq_comm]
  · next large =>
      have bound := id.index_le
      rw [UInt64.le_iff_toNat_le, limit] at large
      simp only [reduceCtorEq, false_iff]
      omega

theorem ofNat?_eq_some_iff {value : Nat} {id : ScopeId} :
    ofNat? value = some id ↔ id.index = value := by
  unfold ofNat?
  split
  · next fits =>
      have same : value.toUInt64.toNat = value := UInt64.toNat_ofNat_of_lt fits
      rw [ofUInt64?_eq_some_iff, same]
  · next wide =>
      have bound := id.index_le
      have size : UInt64.size = 18446744073709551616 := rfl
      rw [toNat_maxIndex] at bound
      simp only [reduceCtorEq, false_iff]
      omega

theorem exists_index_eq_iff {value : Nat} :
    (∃ id : ScopeId, id.index = value) ↔ value ≤ maxIndex.toNat := by
  constructor
  · rintro ⟨id, rfl⟩
    exact id.index_le
  · intro small
    rw [toNat_maxIndex] at small
    have succ : (UInt32.ofNat (value + 1)).toNat = value + 1 :=
      UInt32.toNat_ofNat_of_lt (by rw [UInt32.size]; omega)
    have nonzero : UInt32.ofNat (value + 1) ≠ 0 := by
      intro zero
      rw [zero] at succ
      cases succ
    refine ⟨⟨UInt32.ofNat (value + 1), nonzero⟩, ?_⟩
    rw [index_eq, succ]
    rfl

theorem ofNat?_eq_none_iff {value : Nat} : ofNat? value = none ↔ maxIndex.toNat < value := by
  constructor
  · intro absent
    refine Nat.lt_of_not_le fun small => ?_
    obtain ⟨id, stands⟩ := exists_index_eq_iff.2 small
    rw [ofNat?_eq_some_iff.2 stands] at absent
    cases absent
  · intro large
    cases made : ofNat? value with
    | none => rfl
    | some id =>
        have bound := id.index_le
        rw [ofNat?_eq_some_iff.1 made] at bound
        omega

/-! ## The arithmetic at the limits -/

theorem standsFor_index (id : ScopeId) : id.StandsFor id.index := by
  have positive := id.toNat_slot_pos
  have bounded := id.slot.toNat_lt
  have cut := id.index_eq
  exact ⟨by omega, positive, by omega, id.toNat_toUInt32, rfl⟩

theorem exists_ofUInt32?_iff {value : UInt32} :
    (∃ id, ofUInt32? value = some id) ↔ value.toNat ≤ 4294967294 := by
  simp only [ofUInt32?_eq_some_iff, exists_index_eq_iff, toNat_maxIndex]

theorem exists_ofUInt64?_iff {value : UInt64} :
    (∃ id, ofUInt64? value = some id) ↔ value.toNat ≤ 4294967294 := by
  simp only [ofUInt64?_eq_some_iff, exists_index_eq_iff, toNat_maxIndex]

/-- Adding one to a number within the limit does not wrap around. -/
theorem toNat_succ_of_small {value : UInt32} (small : value.toNat ≤ 4294967294) :
    (value + 1).toNat = value.toNat + 1 := by
  have one : (1 : UInt32).toNat = 1 := rfl
  rw [UInt32.toNat_add, one, Nat.mod_eq_of_lt (by omega)]

/-- A number that fits in 32 bits gets the same identifier from either reader, or none from both. -/
theorem ofUInt64?_eq_ofUInt32? {value : UInt64} (fits : value.toNat ≤ 4294967295) :
    ofUInt64? value = ofUInt32? value.toUInt32 := by
  refine Option.ext fun id => ?_
  rw [ofUInt64?_eq_some_iff, ofUInt32?_eq_some_iff, toNat_toUInt32_of_fits fits]

theorem ofNat?_eq_ofUInt64? (value : UInt64) : ofNat? value.toNat = ofUInt64? value := by
  refine Option.ext fun id => ?_
  rw [ofNat?_eq_some_iff, ofUInt64?_eq_some_iff]

/-- An identifier is made of exactly the numbers up to two below 2^32, of 64 bits, of 32 bits and of
any size alike.  No number is cut down or wraps around on the way to the slot, nor on the way back,
and no larger number gets the identifier of the index that its lower 32 bits spell. -/
theorem made_up_to_limit_and_stored :
    (∀ value : UInt64,
      ((∃ id, ofUInt64? value = some id) ↔ value.toNat ≤ 4294967294) ∧
      (∀ id, ofUInt64? value = some id →
        value.toUInt32.toNat = value.toNat ∧
        (value.toUInt32 + 1).toNat = value.toUInt32.toNat + 1 ∧
        id.slot = value.toUInt32 + 1 ∧ id.StandsFor value.toNat) ∧
      (value.toNat ≤ 4294967295 → ofUInt64? value = ofUInt32? value.toUInt32) ∧
      ofNat? value.toNat = ofUInt64? value) ∧
    (∀ value : UInt32,
      ((∃ id, ofUInt32? value = some id) ↔ value.toNat ≤ 4294967294) ∧
      ∀ id, ofUInt32? value = some id →
        (value + 1).toNat = value.toNat + 1 ∧ id.slot = value + 1 ∧ id.StandsFor value.toNat) ∧
    ∀ id : ScopeId,
      id.StandsFor id.index ∧
      (∀ other : ScopeId, id = other ↔ id.index = other.index) ∧
      ∀ value : UInt64, value.toNat % 4294967296 = id.index → value.toNat ≠ id.index →
        ofUInt64? value = none := by
  refine ⟨fun value => ⟨exists_ofUInt64?_iff, ?_, ?_, ofNat?_eq_ofUInt64? value⟩,
    fun value => ⟨exists_ofUInt32?_iff, ?_⟩, fun id => ⟨id.standsFor_index, ?_, ?_⟩⟩
  · intro id made
    have small := exists_ofUInt64?_iff.1 ⟨id, made⟩
    have whole := toNat_toUInt32_of_fits (Nat.le_succ_of_le small)
    have stands := id.standsFor_index
    rw [ofUInt64?_eq_some_iff.1 made] at stands
    have added := toNat_succ_of_small (whole ▸ small)
    exact ⟨whole, added, UInt32.toNat_inj.1 (by rw [stands.slot, added, whole]), stands⟩
  · intro fits
    exact ofUInt64?_eq_ofUInt32? fits
  · intro id made
    have stands := id.standsFor_index
    rw [ofUInt32?_eq_some_iff.1 made] at stands
    have added := toNat_succ_of_small (exists_ofUInt32?_iff.1 ⟨id, made⟩)
    exact ⟨added, UInt32.toNat_inj.1 (by rw [stands.slot, added]), stands⟩
  · exact fun other => eq_iff_index_eq
  · intro value congruent differs
    refine Option.eq_none_iff_forall_ne_some.2 fun other made => ?_
    have small := exists_ofUInt64?_iff.1 ⟨other, made⟩
    rw [Nat.mod_eq_of_lt (by omega)] at congruent
    exact differs congruent

/-- The largest index has an identifier, with the largest slot; the next number has none, and
neither has the number that is cut down to the index 7. -/
theorem made_up_to_limit_around_limit :
    (∃ id, ofUInt64? 4294967294 = some id ∧ id.slot = 4294967295 ∧ id.StandsFor 4294967294) ∧
    (∃ id, ofUInt32? 4294967294 = some id ∧ ofUInt64? 4294967294 = some id ∧
      id.StandsFor 4294967294) ∧
    (¬ ∃ id, ofUInt64? 4294967295 = some id) ∧
    (∃ id, ofUInt32? 7 = some id ∧ (4294967303 : UInt64).toNat % 4294967296 = id.index ∧
      (4294967303 : UInt64).toNat ≠ id.index ∧ ofUInt64? 4294967303 = none) := by
  obtain ⟨wide, narrow, all⟩ := made_up_to_limit_and_stored
  obtain ⟨id, made⟩ := (wide 4294967294).1.2 (by decide)
  obtain ⟨seven, found⟩ := (narrow 7).1.2 (by decide)
  have index : seven.index = 7 := ((narrow 7).2 seven found).2.2.index
  obtain ⟨_, _, slot, stands⟩ := (wide 4294967294).2.1 id made
  have same := (wide 4294967294).2.2.1 (by decide)
  have congruent : (4294967303 : UInt64).toNat % 4294967296 = seven.index := by
    rw [index]
    decide
  have differs : (4294967303 : UInt64).toNat ≠ seven.index := by
    rw [index]
    decide
  refine ⟨⟨id, made, slot, stands⟩, ⟨id, same ▸ made, made, stands⟩, ?_,
    ⟨seven, found, congruent, differs, (all seven).2.2 _ congruent differs⟩⟩
  exact fun made => absurd ((wide 4294967295).1.1 made) (by decide)

end ShadowLint.Scope.ScopeId
