import OpenC2X.Lib.Digits

/-!
# Floating point numbers of double precision

The values of a `double`, and the one that is nearest to a number: it has 53 binary digits, of
which the last one stands for at least 2⁻¹⁰⁷⁴, and numbers from about 2¹⁰²⁴ on become infinite.

Fifteen decimal digits survive in a `double`: if it is the nearest one to a number with fifteen
digits, rounding it to fifteen digits gives this number back.
-/

/-- The value of a `double`.  The two zeros are one value. -/
inductive Double
  | finite (x : ℚ)
  | infinity (negative : Bool)
  | nan (negative : Bool)
  deriving DecidableEq

namespace Double

instance : Inhabited Double := ⟨.finite 0⟩

def isFinite : Double → Bool
  | finite _ => true
  | _ => false

/-- The number, where it is finite. -/
def toRat : Double → ℚ
  | finite x => x
  | _ => 0

@[simp] theorem toRat_finite (x : ℚ) : (finite x).toRat = x := rfl

/-- The value of the last binary digit. -/
def lastBit (x : ℚ) : ℚ := max (lastDigit 2 53 x) (2 ^ (-1074 : ℤ))

def nearest (x : ℚ) : Double :=
  if |roundHalfEven (x / lastBit x) * lastBit x| < 2 ^ 1024 then
    finite (roundHalfEven (x / lastBit x) * lastBit x)
  else
    infinity (x < 0)

theorem nearest_zero : nearest 0 = finite 0 := by
  have hround : roundHalfEven 0 = 0 := roundHalfEven_intCast 0
  rw [nearest, zero_div, hround, Int.cast_zero, zero_mul, abs_zero, if_pos (pow_pos two_pos _)]

/-- An integer is rounded to 53 digits. -/
theorem nearest_intCast {n : ℤ} (hn : |n| < 2 ^ 1023) :
    nearest n = finite (roundSignificant 2 53 n) := by
  by_cases hzero : n = 0
  · rw [hzero, Int.cast_zero, nearest_zero, roundSignificant_zero]
  have hone : (1 : ℚ) ≤ |(n : ℚ)| := by exact_mod_cast Int.one_le_abs hzero
  have hpos : 0 < |(n : ℚ)| := lt_of_lt_of_le one_pos hone
  have hlog : 0 ≤ Int.log 2 |(n : ℚ)| := by
    rw [← Int.zpow_le_iff_le_log Nat.one_lt_two hpos, zpow_zero]
    exact hone
  have hbit : lastBit n = lastDigit 2 53 n := by
    apply max_eq_left
    rw [lastDigit, Nat.cast_ofNat]
    exact zpow_le_zpow_right₀ one_le_two (by push_cast; omega)
  have hdigit : lastDigit 2 53 n ≤ |(n : ℚ)| := by
    have hle := Int.zpow_log_le_self Nat.one_lt_two hpos
    rw [lastDigit]
    refine le_trans (zpow_le_zpow_right₀ (by norm_num) ?_) hle
    push_cast
    omega
  have hu : 0 < lastDigit 2 53 n := zpow_pos (by norm_num) _
  have hbound : |roundSignificant 2 53 n| < 2 ^ 1024 := by
    have hround := abs_sub_roundHalfEven_mul_le (n : ℚ) hu
    have htri := abs_sub_abs_le_abs_sub (roundSignificant 2 53 n) n
    rw [abs_sub_comm] at htri
    have hn' : |(n : ℚ)| < 2 ^ 1023 := by
      have hcast : ((|n| : ℤ) : ℚ) < ((2 ^ 1023 : ℤ) : ℚ) := Int.cast_lt.mpr hn
      rwa [Int.cast_abs, Int.cast_pow, Int.cast_ofNat] at hcast
    calc
      |roundSignificant 2 53 n| ≤ |(n : ℚ)| + |n - roundSignificant 2 53 n| := by linarith
      _ ≤ |(n : ℚ)| + |(n : ℚ)| := by
        rw [roundSignificant]
        linarith
      _ < 2 ^ 1023 + 2 ^ 1023 := add_lt_add hn' hn'
      _ = 2 ^ 1024 := by rw [← two_mul, ← pow_succ']
  rw [nearest, hbit]
  exact if_pos hbound

theorem nearest_intCast_eq_self {n : ℤ} (hn : |n| < 2 ^ 53) : nearest n = finite n := by
  have hself := @roundSignificant_eq_self 2 53 Nat.one_lt_two n 0 hn
  rw [zpow_zero, mul_one] at hself
  rw [nearest_intCast (hn.trans_le (pow_le_pow_right₀ (by omega) (by omega))), hself]

/-- Above the smallest normal number, the nearest double is off by one part in 2⁵³ at most. -/
theorem abs_sub_le_of_nearest {d x : ℚ} (hnormal : (2 : ℚ) ^ (-1022 : ℤ) ≤ |d|)
    (h : nearest d = finite x) : |x - d| ≤ |d| / 2 ^ 53 := by
  have hpos : 0 < |d| := lt_of_lt_of_le (zpow_pos two_pos _) hnormal
  have hlog : (-1022 : ℤ) ≤ Int.log 2 |d| := by
    rw [← Int.zpow_le_iff_le_log Nat.one_lt_two hpos]
    exact_mod_cast hnormal
  have hbit : lastBit d = lastDigit 2 53 d := by
    apply max_eq_left
    rw [lastDigit, Nat.cast_ofNat]
    exact zpow_le_zpow_right₀ one_le_two (by push_cast; omega)
  have hpow : (2 : ℚ) ^ Int.log 2 |d| ≤ |d| := by
    have hle := Int.zpow_log_le_self Nat.one_lt_two hpos
    exact_mod_cast hle
  have hdigit : lastDigit 2 53 d = 2 ^ Int.log 2 |d| * 2 / 2 ^ 53 := by
    have hsplit : Int.log 2 |d| + 1 - (53 : ℕ) = Int.log 2 |d| + 1 + -(53 : ℕ) := by ring
    rw [lastDigit, Nat.cast_ofNat, hsplit, zpow_add₀ two_ne_zero, zpow_add₀ two_ne_zero, zpow_neg,
      zpow_natCast, zpow_one]
    rfl
  have hu : 0 < lastDigit 2 53 d := by
    rw [hdigit]
    exact div_pos (mul_pos (zpow_pos two_pos _) two_pos) (pow_pos two_pos _)
  unfold nearest at h
  split_ifs at h
  have hx : x = roundHalfEven (d / lastDigit 2 53 d) * lastDigit 2 53 d := by
    rw [← hbit]
    exact (Double.finite.inj h).symm
  calc
    |x - d| = |d - x| := abs_sub_comm x d
    _ ≤ lastDigit 2 53 d / 2 := by
      rw [hx]
      exact abs_sub_roundHalfEven_mul_le d hu
    _ = 2 ^ Int.log 2 |d| / 2 ^ 53 := by
      rw [hdigit]
      ring
    _ ≤ |d| / 2 ^ 53 := by gcongr

/-- **Fifteen digits.**  A number with at most fifteen decimal digits is what rounding the
nearest double to fifteen digits gives. -/
theorem roundSignificant_nearest {m e : ℤ} {x : ℚ} (hm : |m| < 10 ^ 15)
    (hnormal : (2 : ℚ) ^ (-1022 : ℤ) ≤ |(m : ℚ) * (10 : ℕ) ^ e|)
    (h : nearest ((m : ℚ) * (10 : ℕ) ^ e) = finite x) :
    roundSignificant 10 15 x = (m : ℚ) * (10 : ℕ) ^ e := by
  set d : ℚ := (m : ℚ) * (10 : ℕ) ^ e with hd
  have hnear : |x - d| ≤ |d| / 2 ^ 53 := abs_sub_le_of_nearest hnormal h
  have hdpos : 0 < |d| := lt_of_lt_of_le (zpow_pos two_pos _) hnormal
  have hten : (0 : ℚ) < 10 := by norm_num
  -- the double is neither much larger nor much smaller
  have hupper : |x| ≤ |d| + |d| / 2 ^ 53 := by
    have htri := abs_add_le (x - d) d
    rw [sub_add_cancel] at htri
    linarith
  have hlower : |d| - |d| / 2 ^ 53 ≤ |x| := by
    have htri := abs_add_le (d - x) x
    rw [sub_add_cancel, abs_sub_comm] at htri
    linarith
  have hxpos : 0 < |x| := by linarith
  set k := Int.log 10 |x| with hk
  have hle : (10 : ℚ) ^ k ≤ |x| := by
    have hpow := Int.zpow_log_le_self (b := 10) (by decide) hxpos
    exact_mod_cast hpow
  have hlt : |x| < 10 ^ (k + 1) := by
    have hpow := Int.lt_zpow_succ_log_self (b := 10) (by decide) |x|
    exact_mod_cast hpow
  have hdigit : lastDigit 10 15 x = 10 ^ (k - 14) := by
    rw [lastDigit, ← hk, Nat.cast_ofNat]
    congr 1
    push_cast
    ring
  -- the decimal ends no later than the fifteenth digit of the double
  have hend : k - 14 ≤ e := by
    by_contra hearly
    have hpow : (10 : ℚ) ^ e ≤ 10 ^ (k - 15) := zpow_le_zpow_right₀ (by norm_num) (by omega)
    have hm' : |(m : ℚ)| ≤ 10 ^ 15 - 1 := by
      have hint : |m| ≤ 10 ^ 15 - 1 := by omega
      exact_mod_cast hint
    have hdle : |d| ≤ (10 ^ 15 - 1) * 10 ^ (k - 15) := by
      rw [hd, abs_mul, Nat.cast_ofNat, abs_of_pos (zpow_pos hten e)]
      exact mul_le_mul hm' hpow (zpow_pos hten e).le (by norm_num)
    have hk' : (10 : ℚ) ^ k = 10 ^ 15 * 10 ^ (k - 15) := by
      rw [← zpow_natCast, ← zpow_add₀ hten.ne']
      congr 1
      push_cast
      ring
    have hpos : (0 : ℚ) < 10 ^ (k - 15) := zpow_pos hten _
    rw [hk'] at hle
    linarith
  obtain ⟨j, hj⟩ := Int.eq_ofNat_of_zero_le (show 0 ≤ e - (k - 14) by omega)
  have hmul : d = (m * 10 ^ j : ℤ) * lastDigit 10 15 x := by
    have he : e = j + (k - 14) := by omega
    rw [hd, hdigit, Int.cast_mul, Int.cast_pow, Int.cast_ofNat, mul_assoc, ← zpow_natCast,
      ← zpow_add₀ hten.ne', ← he, Nat.cast_ofNat]
  rw [hmul]
  apply roundSignificant_eq_of_abs_sub_lt (by decide)
  rw [← hmul, hdigit]
  have hk' : (10 : ℚ) ^ (k + 1) = 10 ^ 15 * 10 ^ (k - 14) := by
    rw [← zpow_natCast, ← zpow_add₀ hten.ne']
    congr 1
    push_cast
    ring
  have hpos : (0 : ℚ) < 10 ^ (k - 14) := zpow_pos hten _
  rw [hk'] at hlt
  linarith

end Double
