import Mathlib.Analysis.SpecialFunctions.Complex.Arg
import Mathlib.Analysis.SpecialFunctions.Trigonometric.Bounds

/-!
# The angle of a point in the plane

`atan2 y x` is the angle of the point `(x, y)`, in `(-π, π]` from the positive `x`-axis.
The lemmas tell the half plane of the point from the angle, in radians and in degrees from
0 to 360.
-/

namespace PlaneAngle

noncomputable section

open Real

variable {x y : ℝ}

/-- The two-argument arctangent; 0 at the origin. -/
def atan2 (y x : ℝ) : ℝ := Complex.arg ⟨x, y⟩

theorem neg_pi_lt_atan2 (y x : ℝ) : -π < atan2 y x := Complex.neg_pi_lt_arg _

theorem atan2_le_pi (y x : ℝ) : atan2 y x ≤ π := Complex.arg_le_pi _

theorem atan2_nonneg_iff : 0 ≤ atan2 y x ↔ 0 ≤ y := Complex.arg_nonneg_iff

theorem atan2_neg_iff : atan2 y x < 0 ↔ y < 0 := Complex.arg_neg_iff

/-- The angle lies strictly between 0 and π above the `x`-axis. -/
theorem atan2_mem_Ioo_iff : 0 < atan2 y x ∧ atan2 y x < π ↔ 0 < y := by
  constructor
  · rintro ⟨hpos, hlt⟩
    have hnonneg : 0 ≤ y := atan2_nonneg_iff.mp hpos.le
    refine hnonneg.lt_of_ne fun hzero => ?_
    -- on the axis the angle is 0 or π
    rcases le_or_gt 0 x with hx | hx
    · have h : atan2 y x = 0 := Complex.arg_eq_zero_iff.mpr ⟨hx, hzero.symm⟩
      exact hpos.ne' h
    · have h : atan2 y x = π := Complex.arg_eq_pi_iff.mpr ⟨hx, hzero.symm⟩
      exact hlt.ne h
  · intro hy
    have hzero : atan2 y x ≠ 0 := fun h => hy.ne' (Complex.arg_eq_zero_iff.mp h).2
    have hpi : atan2 y x ≠ π := fun h => hy.ne' (Complex.arg_eq_pi_iff.mp h).2
    exact ⟨(atan2_nonneg_iff.mpr hy.le).lt_of_ne hzero.symm, (atan2_le_pi y x).lt_of_ne hpi⟩

/-- The angle is acute on the side of the positive `x`-axis, and at the origin. -/
theorem abs_atan2_lt_pi_div_two_iff : |atan2 y x| < π / 2 ↔ 0 < x ∨ x = 0 ∧ y = 0 := by
  rw [atan2, Complex.abs_arg_lt_pi_div_two_iff, Complex.ext_iff]
  rfl

/-- On the unit circle above the `x`-axis, the angle is at least the height. -/
theorem le_atan2 (hy : 0 ≤ y) (hcircle : x ^ 2 + y ^ 2 = 1) : y ≤ atan2 y x := by
  have hnorm : ‖(⟨x, y⟩ : ℂ)‖ = 1 := by
    rw [← sq_eq_sq₀ (norm_nonneg _) zero_le_one, one_pow, Complex.sq_norm, Complex.normSq_mk]
    linarith
  have hsin : sin (atan2 y x) = y := by
    rw [atan2, Complex.sin_arg, hnorm, div_one]
  calc y = sin (atan2 y x) := hsin.symm
    _ ≤ atan2 y x := sin_le (atan2_nonneg_iff.mpr hy)

/-! ## Degrees -/

/-- An angle between -π and π in degrees, from 0 to 360. -/
def degrees360 (phi : ℝ) : ℝ :=
  let phi := phi * 180.0 / π
  if phi < 0 then phi + 360.0 else phi

theorem straight_angle : (180.0 : ℝ) = 180 := by norm_num

theorem full_angle : (360.0 : ℝ) = 360 := by norm_num

section

variable {phi : ℝ}

theorem degrees360_eq (phi : ℝ) : degrees360 phi =
    if phi * 180 / π < 0 then phi * 180 / π + 360 else phi * 180 / π := by
  simp only [degrees360, straight_angle, full_angle]

theorem mul_div_pi_lt_iff {phi d : ℝ} : phi * 180 / π < d ↔ phi < d * (π / 180) := by
  rw [div_lt_iff₀ pi_pos]
  constructor <;>
  · intro h
    linarith

theorem lt_mul_div_pi_iff {phi d : ℝ} : d < phi * 180 / π ↔ d * (π / 180) < phi := by
  rw [lt_div_iff₀ pi_pos]
  constructor <;>
  · intro h
    linarith

theorem degrees360_mem (h : -π < phi) (h' : phi ≤ π) :
    0 ≤ degrees360 phi ∧ degrees360 phi < 360 := by
  have hpi := pi_pos
  have hlow : -180 < phi * 180 / π := lt_mul_div_pi_iff.mpr (by linarith)
  have hhigh : phi * 180 / π < 181 := mul_div_pi_lt_iff.mpr (by linarith)
  simp only [degrees360_eq]
  split_ifs with hneg
  · constructor <;> linarith
  · exact ⟨not_lt.mp hneg, by linarith⟩

theorem degrees360_lt_180_iff (h : -π < phi) :
    0 < degrees360 phi ∧ degrees360 phi < 180 ↔ 0 < phi ∧ phi < π := by
  have hlow : -180 < phi * 180 / π := lt_mul_div_pi_iff.mpr (by linarith)
  have hpos : 0 < phi * 180 / π ↔ 0 < phi := by rw [lt_mul_div_pi_iff, zero_mul]
  have hlt : phi * 180 / π < 180 ↔ phi < π := by
    rw [mul_div_pi_lt_iff, mul_div_cancel₀ π (by norm_num : (180 : ℝ) ≠ 0)]
  rw [← hpos, ← hlt]
  simp only [degrees360_eq]
  split_ifs with hneg
  · constructor
    · rintro ⟨-, h'⟩
      linarith
    · rintro ⟨h', -⟩
      linarith
  · rfl

theorem lt_degrees360_iff (h : -π < phi) (h' : phi ≤ π) :
    180 < degrees360 phi ∧ degrees360 phi < 360 ↔ phi < 0 := by
  have hlow : -180 < phi * 180 / π := lt_mul_div_pi_iff.mpr (by linarith)
  have hhigh : ¬180 < phi * 180 / π := by
    rw [lt_mul_div_pi_iff, mul_div_cancel₀ π (by norm_num : (180 : ℝ) ≠ 0)]
    exact not_lt.mpr h'
  have hneg : phi * 180 / π < 0 ↔ phi < 0 := by rw [mul_div_pi_lt_iff, zero_mul]
  rw [← hneg]
  simp only [degrees360_eq]
  split_ifs with hif
  · simp only [hif, iff_true]
    constructor <;> linarith
  · simp only [hif, iff_false]
    exact fun hbetween => hhigh hbetween.1

theorem degrees360_acute_iff (h : -π < phi) (h' : phi ≤ π) :
    (0 ≤ degrees360 phi ∧ degrees360 phi < 90) ∨ (270 < degrees360 phi ∧ degrees360 phi < 360) ↔
      |phi| < π / 2 := by
  have hlow : -180 < phi * 180 / π := lt_mul_div_pi_iff.mpr (by linarith)
  have hhigh : phi * 180 / π < 181 := mul_div_pi_lt_iff.mpr (by linarith [pi_pos])
  have hquarter : 90 * (π / 180) = π / 2 := by ring
  have hright : phi * 180 / π < 90 ↔ phi < π / 2 := by rw [mul_div_pi_lt_iff, hquarter]
  have hleft : -90 < phi * 180 / π ↔ -(π / 2) < phi := by
    rw [lt_mul_div_pi_iff, neg_mul, hquarter]
  rw [abs_lt, ← hleft, ← hright]
  simp only [degrees360_eq]
  split_ifs with hneg
  · constructor
    · rintro (⟨-, hlt⟩ | ⟨hgt, -⟩)
      · linarith
      · exact ⟨by linarith, by linarith⟩
    · rintro ⟨hgt, -⟩
      exact .inr ⟨by linarith, by linarith⟩
  · rw [not_lt] at hneg
    constructor
    · rintro (⟨-, hlt⟩ | ⟨hgt, hlt⟩)
      · exact ⟨by linarith, hlt⟩
      · linarith
    · rintro ⟨-, hlt⟩
      exact .inl ⟨hneg, hlt⟩

end

end

end PlaneAngle
