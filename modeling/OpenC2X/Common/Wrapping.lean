import Mathlib.Data.Int.Notation

/-!
# Integers of a fixed width

An expression of type `int` or `int64_t` has 32 or 64 bits in two's complement, and its
arithmetic wraps.  `int32 x` and `int64 x` are the values of such an expression whose
exact value is `x`.
-/

namespace OpenC2X

def int32 (x : ℤ) : ℤ := x.bmod 0x100000000

def int64 (x : ℤ) : ℤ := x.bmod 0x10000000000000000

/-- `x` is a value of type `int`. -/
def IsInt32 (x : ℤ) : Prop := -0x80000000 ≤ x ∧ x < 0x80000000

/-- `x` is a value of type `int64_t`. -/
def IsInt64 (x : ℤ) : Prop := -0x8000000000000000 ≤ x ∧ x < 0x8000000000000000

/-- `x` is a value of type `uint64_t`. -/
def IsUInt64 (x : ℤ) : Prop := 0 ≤ x ∧ x < 0x10000000000000000

theorem int32_of_isInt32 {x : ℤ} (h : IsInt32 x) : int32 x = x := by
  obtain ⟨hlow, hhigh⟩ := h
  apply Int.bmod_eq_of_le <;> omega

theorem int64_of_isInt64 {x : ℤ} (h : IsInt64 x) : int64 x = x := by
  obtain ⟨hlow, hhigh⟩ := h
  apply Int.bmod_eq_of_le <;> omega

theorem toInt_ofInt_of_isInt64 {x : ℤ} (h : IsInt64 x) : (Int64.ofInt x).toInt = x := by
  rw [Int64.toInt_ofInt]
  exact int64_of_isInt64 h

theorem toNat_ofInt_of_isUInt64 {x : ℤ} (h : IsUInt64 x) : ((UInt64.ofInt x).toNat : ℤ) = x := by
  obtain ⟨hlow, hhigh⟩ := h
  rw [UInt64.ofInt, UInt64.toNat_ofNat']
  omega

theorem ofInt_toNat (n : UInt32) : UInt64.ofInt n.toNat = n.toUInt64 := by
  have hlt := n.toNat_lt
  apply UInt64.toNat_inj.mp
  apply Int.natCast_inj.mp
  rw [toNat_ofInt_of_isUInt64 ⟨by omega, by omega⟩, UInt32.toNat_toUInt64]

theorem isInt32_int32 (x : ℤ) : IsInt32 (int32 x) := by
  have hlow := Int.le_bmod (x := x) (m := 0x100000000) (by omega)
  have hhigh := Int.bmod_lt (x := x) (m := 0x100000000) (by omega)
  rw [int32, IsInt32]
  omega

/-- A product wraps in the same way whether or not its factor has wrapped before. -/
theorem int32_mul (x y : ℤ) : int32 (int32 x * y) = int32 (x * y) :=
  Int.bmod_mul_bmod

/-- The value of an expression differs from the exact one by a multiple of `2 ^ 64`. -/
theorem exists_int64_eq (x : ℤ) : ∃ k : ℤ, int64 x = x + 0x10000000000000000 * k := by
  obtain ⟨k, hk⟩ := Int.dvd_bmod_sub_self (x := x) (m := 0x10000000000000000)
  refine ⟨k, ?_⟩
  rw [int64]
  omega

end OpenC2X
