import Mathlib.Data.Int.Log
import Mathlib.Data.Rat.Floor
import Mathlib.Tactic.Linarith

/-!
# Rounding to significant digits

`roundSignificant base digits x` is the number with at most `digits` digits in the base
that is nearest to `x`, of two nearest ones the one with the even last digit.  With base
10 it is the value of the text that a formatted output with that precision writes; with
base 2 and 53 digits it is the nearest floating point number of double precision that is
neither subnormal nor too large.

A number that has no more digits is not changed.
-/

/-- The nearest integer; of two nearest ones the even one. -/
def roundHalfEven (x : ℚ) : ℤ :=
  if x - ⌊x⌋ < 1 / 2 then ⌊x⌋
  else if 1 / 2 < x - ⌊x⌋ then ⌊x⌋ + 1
  else if ⌊x⌋ % 2 = 0 then ⌊x⌋
  else ⌊x⌋ + 1

@[simp] theorem roundHalfEven_intCast (n : ℤ) : roundHalfEven (n : ℚ) = n := by
  simp [roundHalfEven]

/-- The result of rounding is at most one half away. -/
theorem abs_sub_roundHalfEven_le (x : ℚ) : |x - roundHalfEven x| ≤ 1 / 2 := by
  have hfloor := Int.floor_le x
  have hlt := Int.lt_floor_add_one x
  unfold roundHalfEven
  split_ifs with hlow hhigh heven
  · rw [abs_of_nonneg (by linarith)]
    exact hlow.le
  · rw [Int.cast_add, Int.cast_one, abs_of_nonpos (by linarith)]
    linarith
  · rw [abs_of_nonneg (by linarith)]
    exact not_lt.mp hhigh
  · rw [Int.cast_add, Int.cast_one, abs_of_nonpos (by linarith)]
    linarith

/-- An integer that is less than one half away is the result of rounding. -/
theorem roundHalfEven_eq_of_abs_sub_lt {x : ℚ} {n : ℤ} (h : |x - n| < 1 / 2) :
    roundHalfEven x = n := by
  have hround := abs_sub_roundHalfEven_le x
  have hdist : |((n - roundHalfEven x : ℤ) : ℚ)| < 1 := by
    calc
      |((n - roundHalfEven x : ℤ) : ℚ)| = |(x - roundHalfEven x) - (x - n)| := by
        rw [Int.cast_sub]
        congr 1
        ring
      _ ≤ |x - roundHalfEven x| + |x - n| := abs_sub _ _
      _ < 1 := by linarith
  have hzero : |n - roundHalfEven x| < 1 := by exact_mod_cast hdist
  rw [Int.abs_lt_one_iff] at hzero
  omega

/-- The value of the last of the digits. -/
def lastDigit (base digits : ℕ) (x : ℚ) : ℚ :=
  (base : ℚ) ^ (Int.log base |x| + 1 - digits)

def roundSignificant (base digits : ℕ) (x : ℚ) : ℚ :=
  roundHalfEven (x / lastDigit base digits x) * lastDigit base digits x

/-- Rounding to multiples of `u` changes a number by at most the half of `u`. -/
theorem abs_sub_roundHalfEven_mul_le (x : ℚ) {u : ℚ} (hu : 0 < u) :
    |x - roundHalfEven (x / u) * u| ≤ u / 2 := by
  have hround := abs_sub_roundHalfEven_le (x / u)
  have hsplit : x - roundHalfEven (x / u) * u = (x / u - roundHalfEven (x / u)) * u := by
    rw [sub_mul, div_mul_cancel₀ x hu.ne']
  rw [hsplit, abs_mul, abs_of_pos hu]
  calc
    |x / u - roundHalfEven (x / u)| * u ≤ 1 / 2 * u := mul_le_mul_of_nonneg_right hround hu.le
    _ = u / 2 := by ring

/-- A multiple of the last digit is the result of rounding if it is less than the half of the
last digit away. -/
theorem roundSignificant_eq_of_abs_sub_lt {base digits : ℕ} {x : ℚ} {n : ℤ} (hbase : base ≠ 0)
    (h : |x - n * lastDigit base digits x| < lastDigit base digits x / 2) :
    roundSignificant base digits x = n * lastDigit base digits x := by
  have hu : 0 < lastDigit base digits x := zpow_pos (Nat.cast_pos.mpr (by omega)) _
  have hsplit : x / lastDigit base digits x - n =
      (x - n * lastDigit base digits x) / lastDigit base digits x := by
    rw [sub_div, mul_div_cancel_right₀ _ hu.ne']
  have hround : roundHalfEven (x / lastDigit base digits x) = n := by
    apply roundHalfEven_eq_of_abs_sub_lt
    rw [hsplit, abs_div, abs_of_pos hu, div_lt_iff₀ hu]
    linarith
  rw [roundSignificant, hround]

@[simp] theorem roundSignificant_zero (base digits : ℕ) : roundSignificant base digits 0 = 0 := by
  have hround : roundHalfEven 0 = 0 := roundHalfEven_intCast 0
  rw [roundSignificant, zero_div, hround, Int.cast_zero, zero_mul]

/-- A multiple of the last digit is not changed. -/
theorem roundSignificant_of_eq_mul {base digits : ℕ} {x : ℚ} {n : ℤ} (hbase : base ≠ 0)
    (hx : x = n * lastDigit base digits x) : roundSignificant base digits x = x := by
  have hpos : lastDigit base digits x ≠ 0 := zpow_ne_zero _ (Nat.cast_ne_zero.mpr hbase)
  have hdiv : x / lastDigit base digits x = n := by
    nth_rewrite 1 [hx]
    exact mul_div_cancel_right₀ _ hpos
  rw [roundSignificant, hdiv, roundHalfEven_intCast]
  exact hx.symm

/-- A number with at most that many digits is not changed. -/
theorem roundSignificant_eq_self {base digits : ℕ} (hbase : 1 < base) {m e : ℤ}
    (hm : |m| < (base : ℤ) ^ digits) :
    roundSignificant base digits ((m : ℚ) * (base : ℚ) ^ e) = (m : ℚ) * (base : ℚ) ^ e := by
  by_cases hzero : m = 0
  · rw [hzero, Int.cast_zero, zero_mul, roundSignificant_zero]
  have hb : (0 : ℚ) < base := Nat.cast_pos.mpr (by omega)
  set x : ℚ := (m : ℚ) * (base : ℚ) ^ e with hx
  have hpos : 0 < |x| := by
    rw [hx, abs_pos]
    exact mul_ne_zero (Int.cast_ne_zero.mpr hzero) (zpow_ne_zero _ hb.ne')
  -- the first digit stands at most `digits - 1` places before the last one
  have hlt : |x| < (base : ℚ) ^ (e + digits) := by
    have hcast : (|m| : ℚ) < (base : ℚ) ^ digits := by exact_mod_cast hm
    rw [hx, abs_mul, abs_of_pos (zpow_pos hb e), zpow_add₀ hb.ne', zpow_natCast, mul_comm]
    exact mul_lt_mul_of_pos_left hcast (zpow_pos hb e)
  have hlog : Int.log base |x| < e + digits := (Int.lt_zpow_iff_log_lt hbase hpos).mp hlt
  obtain ⟨k, hk⟩ := Int.eq_ofNat_of_zero_le (show 0 ≤ e - (Int.log base |x| + 1 - digits) by omega)
  apply roundSignificant_of_eq_mul (n := m * (base : ℤ) ^ k) (by omega)
  have he : e = k + (Int.log base |x| + 1 - digits) := by omega
  rw [lastDigit, Int.cast_mul, Int.cast_pow, Int.cast_natCast, mul_assoc, ← zpow_natCast,
    ← zpow_add₀ hb.ne', ← he]

/-- An integer that gives an odd number has not been rounded. -/
theorem eq_of_roundSignificant_two {digits : ℕ} {n k : ℤ} (hk : k % 2 = 1)
    (h : roundSignificant 2 digits n = k) : n = k := by
  have htwo : (2 : ℚ) ≠ 0 := two_ne_zero
  rcases le_or_gt (Int.log 2 |(n : ℚ)| + 1 - digits) 0 with hle | hlt
  · obtain ⟨j, hj⟩ := Int.eq_ofNat_of_zero_le (Int.neg_nonneg_of_nonpos hle)
    have hdigit : lastDigit 2 digits n = 2 ^ (-(j : ℤ)) := by
      rw [lastDigit, ← hj, neg_neg]
      rfl
    have hmul : (n : ℚ) = (n * 2 ^ j : ℤ) * lastDigit 2 digits n := by
      rw [hdigit, Int.cast_mul, mul_assoc, Int.cast_pow, Int.cast_ofNat, ← zpow_natCast,
        ← zpow_add₀ htwo, add_neg_cancel, zpow_zero, mul_one]
    rw [roundSignificant_of_eq_mul two_ne_zero hmul] at h
    exact_mod_cast h
  · obtain ⟨j, hj⟩ := Int.eq_ofNat_of_zero_le hlt.le
    have hdigit : lastDigit 2 digits n = 2 ^ (j : ℤ) := by
      rw [lastDigit, hj]
      rfl
    rw [roundSignificant, hdigit, zpow_natCast] at h
    have hint : roundHalfEven ((n : ℚ) / 2 ^ j) * 2 ^ j = k := by exact_mod_cast h
    have heven : (2 : ℤ) ∣ k := by
      rw [← hint]
      exact dvd_mul_of_dvd_right (dvd_pow_self 2 (by omega)) _
    omega
