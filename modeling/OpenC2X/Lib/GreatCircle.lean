import OpenC2X.Lib.Atan2
import Mathlib.Analysis.InnerProductSpace.PiL2
import Mathlib.Geometry.Euclidean.Angle.Unoriented.Basic

/-!
# Great circles

A position on the sphere, of latitude `φ` and longitude `l` in radians, is the unit vector
`unitVector φ l`.  The distance of two positions along the great circle is the angle between
their vectors.

The haversine formula computes this angle.  It comes from the inner product of the vectors,
which is `1 - 2 * a` for the haversine `a` (`inner_unitVector`); `angle_eq_two_mul_atan2` is
the rest, for any two unit vectors.
-/

namespace GreatCircle

noncomputable section

open Real InnerProductGeometry PlaneAngle

/-! ## Unit vectors -/

section

variable {V : Type*} [NormedAddCommGroup V] [InnerProductSpace ℝ V] {u v : V} {a : ℝ}

/-- The haversine of the angle between unit vectors lies between 0 and 1. -/
theorem haversine_mem (hu : ‖u‖ = 1) (hv : ‖v‖ = 1) (hinner : inner ℝ u v = 1 - 2 * a) :
    0 ≤ a ∧ a ≤ 1 := by
  have habs := abs_real_inner_le_norm u v
  rw [hu, hv, hinner, one_mul, abs_le] at habs
  constructor <;> linarith

theorem cos_angle_of_norm_one (hu : ‖u‖ = 1) (hv : ‖v‖ = 1) : cos (angle u v) = inner ℝ u v := by
  rw [cos_angle, hu, hv, one_mul, div_one]

/-- On the unit circle, `atan2` is the angle. -/
theorem atan2_sin_cos {t : ℝ} (hlow : -π < t) (hhigh : t ≤ π) : atan2 (sin t) (cos t) = t := by
  have hpoint : (⟨cos t, sin t⟩ : ℂ) = Complex.cos t + Complex.sin t * Complex.I := by
    rw [← Complex.ofReal_cos, ← Complex.ofReal_sin]
    exact Complex.mk_eq_add_mul_I _ _
  rw [atan2, hpoint]
  exact Complex.arg_cos_add_sin_mul_I ⟨hlow, hhigh⟩

/-- **The haversine formula.** -/
theorem angle_eq_two_mul_atan2 (hu : ‖u‖ = 1) (hv : ‖v‖ = 1) (hinner : inner ℝ u v = 1 - 2 * a) :
    angle u v = 2 * atan2 √a √(1 - a) := by
  have hnonneg := angle_nonneg u v
  have hpi := angle_le_pi u v
  have hcos : cos (2 * (angle u v / 2)) = 1 - 2 * a := by
    rw [mul_div_cancel₀ _ two_ne_zero, cos_angle_of_norm_one hu hv, hinner]
  have hsin_sq : a = sin (angle u v / 2) ^ 2 := by
    rw [cos_two_mul, cos_sq'] at hcos
    linarith
  have hcos_sq : 1 - a = cos (angle u v / 2) ^ 2 := by
    rw [hsin_sq, cos_sq']
  -- half the angle lies in the first quadrant, so the roots are its sine and its cosine
  have hsin : √a = sin (angle u v / 2) := by
    have hsin_nonneg : 0 ≤ sin (angle u v / 2) :=
      sin_nonneg_of_nonneg_of_le_pi (by linarith) (by linarith)
    rw [hsin_sq, sqrt_sq hsin_nonneg]
  have hcos_half : √(1 - a) = cos (angle u v / 2) := by
    have hcos_nonneg : 0 ≤ cos (angle u v / 2) :=
      cos_nonneg_of_mem_Icc ⟨by linarith [pi_pos], by linarith⟩
    rw [hcos_sq, sqrt_sq hcos_nonneg]
  calc angle u v = 2 * (angle u v / 2) := (mul_div_cancel₀ _ two_ne_zero).symm
    _ = 2 * atan2 (sin (angle u v / 2)) (cos (angle u v / 2)) := by
        rw [atan2_sin_cos (by linarith [pi_pos]) (by linarith)]
    _ = 2 * atan2 √a √(1 - a) := by rw [hsin, hcos_half]

theorem angle_eq_zero_iff_of_norm_one (hu : ‖u‖ = 1) (hv : ‖v‖ = 1) : angle u v = 0 ↔ u = v := by
  constructor
  · intro h
    have hinner : inner ℝ u v = 1 := by rw [← cos_angle_of_norm_one hu hv, h, cos_zero]
    exact (inner_eq_one_iff_of_norm_eq_one hu hv).mp hinner
  · rintro rfl
    have hne : u ≠ 0 := by
      rintro rfl
      simp at hu
    exact angle_self hne

end

/-! ## Positions -/

/-- The position of latitude `φ` and longitude `l`. -/
def unitVector (φ l : ℝ) : EuclideanSpace ℝ (Fin 3) :=
  (EuclideanSpace.equiv (Fin 3) ℝ).symm ![cos φ * cos l, cos φ * sin l, sin φ]

theorem inner_unitVector_eq (φ₁ l₁ φ₂ l₂ : ℝ) :
    inner ℝ (unitVector φ₁ l₁) (unitVector φ₂ l₂) =
      sin φ₁ * sin φ₂ + cos φ₁ * cos φ₂ * cos (l₂ - l₁) := by
  have hcoordinates (φ l : ℝ) : unitVector φ l 0 = cos φ * cos l ∧
      unitVector φ l 1 = cos φ * sin l ∧ unitVector φ l 2 = sin φ := ⟨rfl, rfl, rfl⟩
  obtain ⟨hx₁, hy₁, hz₁⟩ := hcoordinates φ₁ l₁
  obtain ⟨hx₂, hy₂, hz₂⟩ := hcoordinates φ₂ l₂
  rw [PiLp.inner_apply, Fin.sum_univ_three, hx₁, hy₁, hz₁, hx₂, hy₂, hz₂, cos_sub]
  simp only [RCLike.inner_apply, conj_trivial]
  ring

theorem norm_unitVector (φ l : ℝ) : ‖unitVector φ l‖ = 1 := by
  have hinner : inner ℝ (unitVector φ l) (unitVector φ l) = (1 : ℝ) := by
    rw [inner_unitVector_eq, sub_self, cos_zero, mul_one, ← sq, ← sq, sin_sq_add_cos_sq]
  rw [real_inner_self_eq_norm_sq] at hinner
  exact (pow_eq_one_iff_of_nonneg (norm_nonneg _) two_ne_zero).mp hinner

theorem sin_half_sq (x : ℝ) : sin (x / 2) * sin (x / 2) = (1 - cos x) / 2 := by
  have hdouble := cos_two_mul' (x / 2)
  rw [mul_div_cancel₀ _ two_ne_zero, cos_sq'] at hdouble
  linarith

/-- The haversine of two positions. -/
theorem inner_unitVector (φ₁ l₁ φ₂ l₂ : ℝ) :
    inner ℝ (unitVector φ₁ l₁) (unitVector φ₂ l₂) =
      1 - 2 * (sin ((φ₂ - φ₁) / 2) * sin ((φ₂ - φ₁) / 2) +
        sin ((l₂ - l₁) / 2) * sin ((l₂ - l₁) / 2) * cos φ₁ * cos φ₂) := by
  rw [inner_unitVector_eq, sin_half_sq, sin_half_sq, cos_sub φ₂ φ₁]
  ring

end

end GreatCircle
