/-!
# Scope identifiers

A `ScopeId` names a scope by its index.  It is stored as the index plus one in 32 bits,
so that zero is free to mean "no scope"; the largest index is therefore two below 2^32.
An identifier is made from a 32-bit or a 64-bit number.  A number that has no room is
refused before it is cut down to 32 bits, so two numbers that differ never share an
identifier.
-/

namespace ShadowLint.Scope

/-- The index of a scope, stored as the index plus one. -/
structure ScopeId where
  slot : UInt32
  slot_ne_zero : slot ≠ 0
  deriving DecidableEq

namespace ScopeId

/-- The largest index that has an identifier. -/
def maxIndex : UInt32 := 4294967294

/-- The index as a 32-bit number. -/
def toUInt32 (id : ScopeId) : UInt32 := id.slot - 1

/-- The index that an identifier stands for. -/
def index (id : ScopeId) : Nat := id.toUInt32.toNat

/-- Adding one to an index within the limit does not wrap around to zero. -/
theorem succ_ne_zero_of_le {value : UInt32} (h : value ≤ maxIndex) : value + 1 ≠ 0 := by
  intro hz
  have hv : value.toNat ≤ 4294967294 := UInt32.le_iff_toNat_le.1 h
  have hs := congrArg UInt32.toNat hz
  rw [UInt32.toNat_add] at hs
  simp at hs
  omega

/-- The identifier of a 32-bit index, or `none` for the largest 32-bit number. -/
def ofUInt32? (value : UInt32) : Option ScopeId :=
  if h : value ≤ maxIndex then some ⟨value + 1, succ_ne_zero_of_le h⟩ else none

/-- A 64-bit number within the limit is within it when it is cut down to 32 bits. -/
theorem toUInt32_le_of_le {value : UInt64} (h : value ≤ maxIndex.toUInt64) :
    value.toUInt32 ≤ maxIndex := by
  have hv : value.toNat ≤ 4294967294 := UInt64.le_iff_toNat_le.1 h
  rw [UInt32.le_iff_toNat_le, UInt64.toNat_toUInt32]
  exact Nat.le_trans (Nat.mod_le _ _) hv

/-- The identifier of a 64-bit index, or `none` where it exceeds the largest index. -/
def ofUInt64? (value : UInt64) : Option ScopeId :=
  if h : value ≤ maxIndex.toUInt64 then
    some ⟨value.toUInt32 + 1, succ_ne_zero_of_le (toUInt32_le_of_le h)⟩
  else none

/-- The identifier of an index, or `none` where it exceeds the largest index. -/
def ofNat? (value : Nat) : Option ScopeId :=
  if value < UInt64.size then ofUInt64? value.toUInt64 else none

/-- The scope that encloses all others. -/
def global : ScopeId := ⟨1, by decide⟩

/-- Whether an identifier is that of the scope that encloses all others. -/
def isGlobal (id : ScopeId) : Bool := decide (id = global)

/-- The written form of an identifier, as faults and log lines show it. -/
def text (id : ScopeId) : String := "ScopeId(" ++ toString id.index ++ ")"

instance : Repr ScopeId := ⟨fun id _ => id.text⟩

end ScopeId

end ShadowLint.Scope
