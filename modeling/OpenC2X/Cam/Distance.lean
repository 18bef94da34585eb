import OpenC2X.Cam.Heading
import OpenC2X.Lib.GreatCircle

/-!
# The distance between two positions

`getDistance` over exact real numbers is the length of the great circle on a sphere with a
radius of 6371 km: the radius times the angle between the unit vectors of the positions.
What it takes roots of is never negative, at the poles and for opposite positions either.
-/

namespace OpenC2X.Cam

open GreatCircle InnerProductGeometry PlaneAngle RealEnv Real

noncomputable section

/-- The unit vector of a position in degrees. -/
def position (lat lon : ℝ) : EuclideanSpace ℝ (Fin 3) :=
  unitVector (lat * π / 180.0) (lon * π / 180.0)

theorem norm_position (lat lon : ℝ) : ‖position lat lon‖ = 1 := norm_unitVector _ _

/-- `a` of `getDistance` is the haversine of the positions. -/
theorem inner_position (lat₁ lon₁ lat₂ lon₂ : ℝ) :
    inner ℝ (position lat₁ lon₁) (position lat₂ lon₂) =
      1 - 2 * haversine lat₁ lon₁ lat₂ lon₂ := by
  rw [position, position, inner_unitVector, ← sub_div, ← sub_div, ← sub_mul, ← sub_mul]
  rfl

theorem haversine_mem_unit (lat₁ lon₁ lat₂ lon₂ : ℝ) :
    0 ≤ haversine lat₁ lon₁ lat₂ lon₂ ∧ haversine lat₁ lon₁ lat₂ lon₂ ≤ 1 :=
  haversine_mem (norm_position _ _) (norm_position _ _) (inner_position _ _ _ _)

theorem getDistance_eq_angle (lat₁ lon₁ lat₂ lon₂ : ℝ) :
    getDistance lat₁ lon₁ lat₂ lon₂ =
      6371000 * angle (position lat₁ lon₁) (position lat₂ lon₂) := by
  rw [getDistance, angle_eq_two_mul_atan2 (norm_position _ _) (norm_position _ _)
    (inner_position lat₁ lon₁ lat₂ lon₂)]
  ring

/-- **Distance.**  The roots are of numbers between 0 and 1, and the result is the length of
the great circle between the positions. -/
theorem distance_greatCircle (lat₁ lon₁ lat₂ lon₂ : ℝ) :
    (0 ≤ haversine lat₁ lon₁ lat₂ lon₂ ∧ haversine lat₁ lon₁ lat₂ lon₂ ≤ 1) ∧
      (0 ≤ getDistance lat₁ lon₁ lat₂ lon₂ ∧
        getDistance lat₁ lon₁ lat₂ lon₂ ≤ π * 6371000) ∧
      getDistance lat₂ lon₂ lat₁ lon₁ = getDistance lat₁ lon₁ lat₂ lon₂ ∧
      getDistance lat₁ lon₁ lat₂ lon₂ =
        6371000 * angle (position lat₁ lon₁) (position lat₂ lon₂) ∧
      (getDistance lat₁ lon₁ lat₂ lon₂ = 0 ↔ position lat₁ lon₁ = position lat₂ lon₂) := by
  have hangle := getDistance_eq_angle lat₁ lon₁ lat₂ lon₂
  have hnonneg := angle_nonneg (position lat₁ lon₁) (position lat₂ lon₂)
  have hpi := angle_le_pi (position lat₁ lon₁) (position lat₂ lon₂)
  refine ⟨haversine_mem_unit _ _ _ _, ⟨?_, ?_⟩, ?_, hangle, ?_⟩
  · rw [hangle]
    positivity
  · rw [hangle]
    linarith
  · rw [hangle, getDistance_eq_angle, angle_comm]
  · rw [hangle, mul_eq_zero_iff_left (by norm_num),
      angle_eq_zero_iff_of_norm_one (norm_position _ _) (norm_position _ _)]

end

end OpenC2X.Cam
