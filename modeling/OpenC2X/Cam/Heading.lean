import OpenC2X.Lib.Atan2
import OpenC2X.Cam.CaService

/-!
# The heading between two positions

`getDistance` and the angle that `getHeading` computes, read over exact real numbers.

The angle is the one of a point whose coordinates are the difference of the latitudes and
the difference of the longitudes scaled by the sine of the latitude, where the length of a
degree of longitude is proportional to the cosine.  The sine has the sign of the latitude:
north of the equator the heading lies on the right side, south of it east and west are
exchanged, and on the equator it is north or south only.
-/

namespace OpenC2X.Cam

open Asn1 PlaneAngle Real

noncomputable section

/-! ## The functions over real numbers -/

namespace RealEnv

/-- `a` of `getDistance`, for angles in degrees. -/
def haversine (lat₁ lon₁ lat₂ lon₂ : ℝ) : ℝ :=
  let dLat := (lat₂ - lat₁) * π / 180.0
  let dLon := (lon₂ - lon₁) * π / 180.0
  let lat₁ := lat₁ * π / 180.0
  let lat₂ := lat₂ * π / 180.0
  sin (dLat / 2) * sin (dLat / 2) + sin (dLon / 2) * sin (dLon / 2) * cos lat₁ * cos lat₂

def getDistance (lat₁ lon₁ lat₂ lon₂ : ℝ) : ℝ :=
  -- in km
  let R := 6371
  let a := haversine lat₁ lon₁ lat₂ lon₂
  let c := 2 * atan2 √a √(1 - a)
  R * c * 1000

/-- What `getHeading` returns if the positions are not too close. -/
def bearing (lat₁ lon₁ lat₂ lon₂ : ℝ) : ℝ :=
  let dLat := (lat₂ - lat₁) * π / 180.0
  let dLon := (lon₂ - lon₁) * π / 180.0
  let lat₁ := lat₁ * π / 180.0
  let phi := atan2 (sin lat₁ * dLon) dLat
  let phi := phi * 180.0 / π
  if phi < 0 then phi + 360.0 else phi

end RealEnv

open RealEnv

/-- The functions of `CaService`, with any encoder.  Over the real numbers every root that
`getDistance` takes exists. -/
def realEnv (uper_encode : CAM → Option (List UInt8)) : Env ℝ where
  getDistance lat₁ lon₁ lat₂ lon₂ := some (getDistance lat₁ lon₁ lat₂ lon₂)
  bearing := bearing
  uper_encode := uper_encode

/-- A position has no distance to itself. -/
theorem getDistance_self (lat lon : ℝ) : getDistance lat lon lat lon = 0 := by
  have hzero : haversine lat lon lat lon = 0 := by simp [haversine]
  have hangle : atan2 0 1 = 0 := Complex.arg_one
  simp [getDistance, hzero, hangle]

theorem bearing_eq (lat₁ lon₁ lat₂ lon₂ : ℝ) :
    bearing lat₁ lon₁ lat₂ lon₂ =
      degrees360 (atan2 (sin (lat₁ * π / 180) * ((lon₂ - lon₁) * π / 180))
        ((lat₂ - lat₁) * π / 180)) := by
  rw [← straight_angle]
  rfl

theorem bearing_mem (lat₁ lon₁ lat₂ lon₂ : ℝ) :
    0 ≤ bearing lat₁ lon₁ lat₂ lon₂ ∧ bearing lat₁ lon₁ lat₂ lon₂ < 360 :=
  degrees360_mem (neg_pi_lt_atan2 _ _) (atan2_le_pi _ _)

/-! ## The quadrants -/

section

variable {lat₁ lon₁ lat₂ lon₂ : ℝ}

/-- The difference of the longitudes as `getHeading` scales it. -/
def scaledLongitude (lat₁ lon₁ lon₂ : ℝ) : ℝ := sin (lat₁ * π / 180.0) * (lon₂ - lon₁)

theorem scaledLongitude_eq (lat₁ lon₁ lon₂ : ℝ) :
    scaledLongitude lat₁ lon₁ lon₂ = sin (lat₁ * π / 180) * (lon₂ - lon₁) := by
  rw [scaledLongitude, straight_angle]

theorem mul_pi_div_pos_iff {x : ℝ} : 0 < x * π / 180 ↔ 0 < x := by
  rw [mul_div_assoc]
  exact mul_pos_iff_of_pos_right (by positivity)

theorem mul_pi_div_eq_zero_iff {x : ℝ} : x * π / 180 = 0 ↔ x = 0 := by
  simp [pi_ne_zero]

theorem scaled_eq (lat₁ lon₁ lon₂ : ℝ) : sin (lat₁ * π / 180) * ((lon₂ - lon₁) * π / 180) =
    scaledLongitude lat₁ lon₁ lon₂ * π / 180 := by
  rw [scaledLongitude_eq]
  ring

theorem bearing_east_iff :
    0 < bearing lat₁ lon₁ lat₂ lon₂ ∧ bearing lat₁ lon₁ lat₂ lon₂ < 180 ↔
      0 < scaledLongitude lat₁ lon₁ lon₂ := by
  rw [bearing_eq, degrees360_lt_180_iff (neg_pi_lt_atan2 _ _), atan2_mem_Ioo_iff, scaled_eq,
    mul_pi_div_pos_iff]

theorem bearing_west_iff :
    180 < bearing lat₁ lon₁ lat₂ lon₂ ∧ bearing lat₁ lon₁ lat₂ lon₂ < 360 ↔
      scaledLongitude lat₁ lon₁ lon₂ < 0 := by
  rw [bearing_eq, lt_degrees360_iff (neg_pi_lt_atan2 _ _) (atan2_le_pi _ _), atan2_neg_iff,
    scaled_eq, ← neg_pos, ← neg_pos, ← neg_div, ← neg_mul, mul_pi_div_pos_iff]

theorem bearing_north_iff (hne : lat₁ ≠ lat₂ ∨ scaledLongitude lat₁ lon₁ lon₂ ≠ 0) :
    (0 ≤ bearing lat₁ lon₁ lat₂ lon₂ ∧ bearing lat₁ lon₁ lat₂ lon₂ < 90) ∨
        (270 < bearing lat₁ lon₁ lat₂ lon₂ ∧ bearing lat₁ lon₁ lat₂ lon₂ < 360) ↔
      lat₁ < lat₂ := by
  rw [bearing_eq, degrees360_acute_iff (neg_pi_lt_atan2 _ _) (atan2_le_pi _ _),
    abs_atan2_lt_pi_div_two_iff, scaled_eq, mul_pi_div_pos_iff, sub_pos]
  refine or_iff_left ?_
  rintro ⟨hlat, hlon⟩
  rw [mul_pi_div_eq_zero_iff] at hlat hlon
  rcases hne with hne | hne
  · exact hne (sub_eq_zero.mp hlat).symm
  · exact hne hlon

/-- North of the equator the longitude keeps its sign. -/
theorem scaledLongitude_of_pos (hpos : 0 < lat₁) (hlt : lat₁ < 90) :
    (0 < scaledLongitude lat₁ lon₁ lon₂ ↔ lon₁ < lon₂) ∧
      (scaledLongitude lat₁ lon₁ lon₂ < 0 ↔ lon₂ < lon₁) := by
  have hsin : 0 < sin (lat₁ * π / 180) := by
    refine sin_pos_of_pos_of_lt_pi (mul_pi_div_pos_iff.mpr hpos) ?_
    rw [div_lt_iff₀ (by norm_num)]
    nlinarith [pi_pos]
  constructor
  · rw [scaledLongitude_eq, mul_pos_iff_of_pos_left hsin, sub_pos]
  · rw [scaledLongitude_eq, ← neg_pos, ← mul_neg, mul_pos_iff_of_pos_left hsin, neg_pos, sub_neg]

/-- South of it the longitude changes its sign. -/
theorem scaledLongitude_of_neg (hneg : lat₁ < 0) (hlt : -90 < lat₁) :
    (0 < scaledLongitude lat₁ lon₁ lon₂ ↔ lon₂ < lon₁) ∧
      (scaledLongitude lat₁ lon₁ lon₂ < 0 ↔ lon₁ < lon₂) := by
  have hmirror : scaledLongitude lat₁ lon₁ lon₂ = scaledLongitude (-lat₁) lon₂ lon₁ := by
    rw [scaledLongitude_eq, scaledLongitude_eq, neg_mul, neg_div, sin_neg]
    ring
  rw [hmirror]
  exact scaledLongitude_of_pos (neg_pos.mpr hneg) (by linarith)

theorem scaledLongitude_zero (lon₁ lon₂ : ℝ) : scaledLongitude 0 lon₁ lon₂ = 0 := by
  simp [scaledLongitude]

/-! ## The right way -/

/-- Two different positions between the poles, on the sides of the shorter way round. -/
structure OnMap (lat₁ lon₁ lat₂ lon₂ : ℝ) : Prop where
  lat₁_mem : -90 < lat₁ ∧ lat₁ < 90
  lat₂_mem : -90 < lat₂ ∧ lat₂ < 90
  lon_near : |lon₂ - lon₁| < 180
  ne : lat₁ ≠ lat₂ ∨ lon₁ ≠ lon₂

/-- The heading is on the side of the second position. -/
structure PointsRight (heading lat₁ lon₁ lat₂ lon₂ : ℝ) : Prop where
  mem : 0 ≤ heading ∧ heading < 360
  east_iff : 0 < heading ∧ heading < 180 ↔ lon₁ < lon₂
  west_iff : 180 < heading ∧ heading < 360 ↔ lon₂ < lon₁
  north_iff : (0 ≤ heading ∧ heading < 90) ∨ (270 < heading ∧ heading < 360) ↔ lat₁ < lat₂

/-- North of the equator, and on a meridian, the signs are right. -/
theorem scaledLongitude_signs (hlat : lat₁ < 90) (h : 0 < lat₁ ∨ lon₁ = lon₂) :
    (0 < scaledLongitude lat₁ lon₁ lon₂ ↔ lon₁ < lon₂) ∧
      (scaledLongitude lat₁ lon₁ lon₂ < 0 ↔ lon₂ < lon₁) := by
  rcases h with hpos | rfl
  · exact scaledLongitude_of_pos hpos hlat
  · simp [scaledLongitude]

theorem pointsRight_of_signs (hne : lat₁ ≠ lat₂ ∨ lon₁ ≠ lon₂)
    (heast : 0 < scaledLongitude lat₁ lon₁ lon₂ ↔ lon₁ < lon₂)
    (hwest : scaledLongitude lat₁ lon₁ lon₂ < 0 ↔ lon₂ < lon₁) :
    PointsRight (bearing lat₁ lon₁ lat₂ lon₂) lat₁ lon₁ lat₂ lon₂ := by
  refine ⟨bearing_mem _ _ _ _, bearing_east_iff.trans heast, bearing_west_iff.trans hwest,
    bearing_north_iff ?_⟩
  refine hne.imp_right fun hlon hzero => ?_
  rcases lt_or_gt_of_ne hlon with hlt | hgt
  · exact (heast.mpr hlt).ne' hzero
  · exact (hwest.mpr hgt).ne hzero

/-- On the equator and south of it, a second position that is not on the meridian is on the
other side. -/
theorem not_pointsRight (hlat₁ : -90 < lat₁) (hlat : lat₁ ≤ 0) (hlon : lon₁ ≠ lon₂) :
    ¬PointsRight (bearing lat₁ lon₁ lat₂ lon₂) lat₁ lon₁ lat₂ lon₂ := by
  rintro ⟨-, heast, hwest, -⟩
  rw [bearing_east_iff] at heast
  rw [bearing_west_iff] at hwest
  rcases hlat.lt_or_eq with hneg | rfl
  · rw [(scaledLongitude_of_neg hneg hlat₁).1] at heast
    -- the second position would be further east exactly if it is further west
    rcases lt_or_gt_of_ne hlon with hlt | hgt
    · exact hlt.not_gt (heast.mpr hlt)
    · exact hgt.not_gt (heast.mp hgt)
  · rw [scaledLongitude_zero] at heast hwest
    rcases lt_or_gt_of_ne hlon with hlt | hgt
    · exact (heast.mpr hlt).false
    · exact (hwest.mpr hgt).false

theorem pointsRight_iff (hmap : OnMap lat₁ lon₁ lat₂ lon₂) :
    PointsRight (bearing lat₁ lon₁ lat₂ lon₂) lat₁ lon₁ lat₂ lon₂ ↔
      0 < lat₁ ∨ lon₁ = lon₂ := by
  constructor
  · intro hright
    by_contra hneither
    rw [not_or, not_lt] at hneither
    exact not_pointsRight hmap.lat₁_mem.1 hneither.1 hneither.2 hright
  · intro h
    obtain ⟨heast, hwest⟩ := scaledLongitude_signs hmap.lat₁_mem.2 h
    exact pointsRight_of_signs hmap.ne heast hwest

/-- Beyond the threshold the heading is the direction to the second position. -/
theorem getHeading_of_far {uper_encode : CAM → Option (List UInt8)} {s : CaService ℝ}
    (hfar : s.mConfig.mThresholdRadiusForHeading ≤ getDistance lat₁ lon₁ lat₂ lon₂) :
    s.getHeading (realEnv uper_encode) lat₁ lon₁ lat₂ lon₂ = bearing lat₁ lon₁ lat₂ lon₂ := by
  apply if_neg
  rintro ⟨distance, hdistance, hnear⟩
  obtain rfl := Option.some.inj hdistance
  exact hfar.not_gt hnear

/-- **Heading.**  For two different positions that are not closer than the threshold, the
result of `getHeading` lies on the side of the second one if and only if the first one lies
north of the equator or the longitudes are the same. -/
theorem headingPointsRight_iff {uper_encode : CAM → Option (List UInt8)} {s : CaService ℝ}
    (hmap : OnMap lat₁ lon₁ lat₂ lon₂)
    (hfar : s.mConfig.mThresholdRadiusForHeading ≤ getDistance lat₁ lon₁ lat₂ lon₂) :
    PointsRight (s.getHeading (realEnv uper_encode) lat₁ lon₁ lat₂ lon₂) lat₁ lon₁ lat₂ lon₂ ↔
      0 < lat₁ ∨ lon₁ = lon₂ := by
  rw [getHeading_of_far hfar]
  exact pointsRight_iff hmap

end

/-! ## A hundred metres to the east -/

theorem haversine_of_lat_eq (lat lon₁ lon₂ : ℝ) :
    haversine lat lon₁ lat lon₂ =
      (sin ((lon₂ - lon₁) * π / 180 / 2) * cos (lat * π / 180)) ^ 2 := by
  simp only [haversine, straight_angle, sub_self, zero_mul, zero_div, sin_zero, mul_zero, zero_add]
  ring

/-- The great circle is at least as long as the chord. -/
theorem le_getDistance {lat lon₁ lon₂ chord : ℝ} (hnonneg : 0 ≤ chord)
    (hchord : chord ≤ sin ((lon₂ - lon₁) * π / 180 / 2) * cos (lat * π / 180)) :
    12742000 * chord ≤ getDistance lat lon₁ lat lon₂ := by
  set h := sin ((lon₂ - lon₁) * π / 180 / 2) * cos (lat * π / 180) with hh
  have hle : h ^ 2 ≤ 1 := by
    rw [hh, mul_pow]
    exact mul_le_one₀ (sin_sq_le_one _) (sq_nonneg _) (cos_sq_le_one _)
  have hpos : 0 ≤ h := hnonneg.trans hchord
  have hcircle : √(1 - h ^ 2) ^ 2 + h ^ 2 = 1 := by
    rw [sq_sqrt (by linarith)]
    ring
  have hdistance : getDistance lat lon₁ lat lon₂ = 12742000 * atan2 h √(1 - h ^ 2) := by
    rw [getDistance, haversine_of_lat_eq, ← hh, sqrt_sq hpos]
    ring
  rw [hdistance]
  have hangle := le_atan2 hpos hcircle
  linarith

/-- A thousandth of a degree to the east, 30 degrees from the equator. -/
theorem far_at_thirty {lat : ℝ} (hlat : lat = 30 ∨ lat = -30) :
    3 / 10 ≤ getDistance lat 0 lat (1 / 1000) := by
  have hcos : 1 / 2 ≤ cos (lat * π / 180) := by
    have hsixth : cos (lat * π / 180) = √3 / 2 := by
      rw [← cos_pi_div_six]
      rcases hlat with rfl | rfl
      · congr 1
        ring
      · rw [← cos_neg]
        congr 1
        ring
    have hsqrt : 1 ≤ √3 := by
      rw [one_le_sqrt]
      norm_num
    rw [hsixth]
    linarith
  have hsin : 1 / 180000 ≤ sin ((1 / 1000 - 0) * π / 180 / 2) := by
    have hle := mul_le_sin (x := (1 / 1000 - 0) * π / 180 / 2) (by positivity)
      (by linarith [pi_pos])
    refine le_trans (le_of_eq ?_) hle
    field_simp
    norm_num
  have hchord : 1 / 180000 * (1 / 2) ≤
      sin ((1 / 1000 - 0) * π / 180 / 2) * cos (lat * π / 180) :=
    mul_le_mul hsin hcos (by norm_num) (le_trans (by norm_num) hsin)
  exact le_trans (by norm_num) (le_getDistance (by norm_num) hchord)

theorem onMap_at_thirty {lat : ℝ} (hlat : lat = 30 ∨ lat = -30) :
    OnMap lat 0 lat (1 / 1000) := by
  have hmem : -90 < lat ∧ lat < 90 := by
    rcases hlat with rfl | rfl <;> norm_num
  exact ⟨hmem, hmem, by norm_num [abs_of_pos], .inr (by norm_num)⟩

/-- The service with the shipped threshold. -/
def realService : CaService ℝ :=
  .new ⟨1, 10, 10, 3 / 10, false⟩ 1 0

theorem headingPointsRight_north : PointsRight
    (realService.getHeading (realEnv fun _ => none) 30 0 30 (1 / 1000)) 30 0 30 (1 / 1000) :=
  (headingPointsRight_iff (onMap_at_thirty (.inl rfl)) (far_at_thirty (.inl rfl))).mpr
    (.inl (by norm_num))

/-- South of the equator the heading is to the west. -/
theorem not_headingPointsRight_south :
    OnMap (-30) 0 (-30) (1 / 1000) ∧
      realService.mConfig.mThresholdRadiusForHeading ≤ getDistance (-30) 0 (-30) (1 / 1000) ∧
      ¬PointsRight (realService.getHeading (realEnv fun _ => none) (-30) 0 (-30) (1 / 1000))
        (-30) 0 (-30) (1 / 1000) := by
  have hfar := far_at_thirty (.inr rfl)
  have hmap := onMap_at_thirty (.inr rfl)
  refine ⟨hmap, hfar, fun hright => ?_⟩
  rw [getHeading_of_far hfar] at hright
  exact not_pointsRight (by norm_num) (by norm_num) (by norm_num) hright

end

end OpenC2X.Cam
