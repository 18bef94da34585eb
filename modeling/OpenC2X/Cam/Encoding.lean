import OpenC2X.Cam.Alarms
import Mathlib.Tactic.NormNum
import Mathlib.Tactic.Linarith

/-!
# CAMs that cannot be encoded

`uper_encode` fails if a field is outside of the range of its ASN.1 type, and the
exception that `encodeMessage` then throws leaves the handler of the alarm and ends the
process.  With sensor data in physical range all fields of a CAM but one are in range.
The exception is `generationDeltaTime`: the milliseconds since the last CAM are not
reduced modulo 65536.
-/

namespace OpenC2X.Cam

open Asn1 PartialRun

variable {R : Type*} [Field R] [LinearOrder R] [FloorRing R]

/-! ## Sensor data in physical range -/

structure GPS.InRange (gps : GPS R) : Prop where
  latitude : -90 ≤ gps.latitude ∧ gps.latitude ≤ 90
  longitude : -180 ≤ gps.longitude ∧ gps.longitude ≤ 180
  altitude : -1000 ≤ gps.altitude ∧ gps.altitude ≤ 8000

/-- The speed field lies in the range of `SpeedValue`. -/
def OBD2.InRange (obd2 : OBD2 R) : Prop := 0 ≤ obd2.speed ∧ obd2.speed ≤ 16383

def Input.InRange : Input R → Prop
  | .gps latest => latest.InRange
  | .obd2 latest => latest.InRange
  | .alarm _ => True

/-- The latest data of a service is in physical range. -/
structure LatestInRange (s : CaService R) : Prop where
  gps : s.mLatestGps.InRange
  obd2 : s.mLatestObd2.InRange

theorem step_latestInRange {env : Env R} {input : Input R} {st st' : Station R}
    (hinput : input.InRange) (hinv : LatestInRange st.service)
    (h : st.step env input = some st') : LatestInRange st'.service := by
  obtain ⟨hgps, hobd2⟩ := hinv
  cases input with
  | gps latest =>
      obtain rfl := Option.some.inj h
      exact ⟨hinput, hobd2⟩
  | obd2 latest =>
      obtain rfl := Option.some.inj h
      exact ⟨hgps, hinput⟩
  | alarm r =>
      rcases Station.step_alarm h with ⟨-, rfl⟩ | ⟨out, -, hservice, -, -⟩
      · exact ⟨hgps, hobd2⟩
      · rw [hservice]
        exact ⟨hgps, hobd2⟩

variable [IsStrictOrderedRing R]

theorem latestInRange {env : Env R} {mConfig : CaServiceConfig R} {mStationID : UInt32}
    {lastHeading : R} (inputs : List (Input R)) (st : Station R)
    (hinputs : ∀ input ∈ inputs, input.InRange)
    (h : run (Station.step env) (.start mConfig mStationID lastHeading) inputs = some st) :
    LatestInRange st.service := by
  refine run_induction (P := fun inputs st => (∀ input ∈ inputs, input.InRange) →
    LatestInRange st.service) ?_ ?_ inputs st h hinputs
  · intro _
    refine ⟨⟨?_, ?_, ?_⟩, ?_⟩ <;>
      norm_num [Station.start, CaService.new, OBD2.InRange]
  · intro inputs input st st' _ hinv hstep hall
    refine step_latestInRange (hall input (by simp)) (hinv fun i hi => hall i ?_) hstep
    exact List.mem_append_left _ hi

/-! ## The fields of a CAM -/

theorem truncate_mem {x : R} {lower upper : ℤ} (hlower : (lower : R) ≤ x) (hupper : x ≤ upper) :
    lower ≤ truncate x ∧ truncate x ≤ upper := by
  unfold truncate
  split
  · exact ⟨Int.le_floor.mpr hlower, Int.cast_le.mp ((Int.floor_le x).trans hupper)⟩
  · exact ⟨Int.cast_le.mp (hlower.trans (Int.le_ceil x)), Int.ceil_le.mpr hupper⟩

theorem position_inRange {latitude longitude altitudeValue : ℤ}
    (hlatitude : (Latitude latitude).InRange) (hlongitude : (Longitude longitude).InRange)
    (haltitude : (AltitudeValue altitudeValue).InRange) :
    ∀ field ∈ (CaService.position latitude longitude altitudeValue).fields, field.InRange := by
  unfold ReferencePosition.fields CaService.position
  simp only [List.forall_mem_cons]
  refine ⟨hlatitude, hlongitude, by decide, by decide, by decide, haltitude, by decide, ?_⟩
  exact nofun

/-- The position that a CAM carries is in range. -/
theorem referencePosition_inRange {s : CaService R} (env : Env R)
    (hgps : s.mLatestGps.InRange) :
    ∀ field ∈ (s.referencePosition env).2.fields, field.InRange := by
  obtain ⟨⟨hsouth, hnorth⟩, ⟨hwest, heast⟩, hdown, hup⟩ := hgps
  unfold CaService.referencePosition
  split
  · have hlatitude : -900000000 ≤ truncate (s.mLatestGps.latitude * 10000000) ∧
        truncate (s.mLatestGps.latitude * 10000000) ≤ 900000000 := by
      apply truncate_mem <;> push_cast <;> linarith
    have hlongitude : -1800000000 ≤ truncate (s.mLatestGps.longitude * 10000000) ∧
        truncate (s.mLatestGps.longitude * 10000000) ≤ 1800000000 := by
      apply truncate_mem <;> push_cast <;> linarith
    have haltitude : -1000 ≤ truncate s.mLatestGps.altitude ∧
        truncate s.mLatestGps.altitude ≤ 8000 := by
      apply truncate_mem <;> push_cast <;> assumption
    apply position_inRange
    · exact ⟨hlatitude.1, by simp only [Latitude]; omega⟩
    · exact ⟨hlongitude.1, by simp only [Longitude]; omega⟩
    · simp only [Bounded.InRange, AltitudeValue]
      omega
  · exact position_inRange (by decide) (by decide) (by decide)

omit [Field R] [LinearOrder R] [FloorRing R] [IsStrictOrderedRing R] in
theorem vehicleContainer_inRange {speedValue : ℤ} (hspeed : (SpeedValue speedValue).InRange) :
    ∀ field ∈ (HighFrequencyContainer.basicVehicleContainerHighFrequency
      (CaService.vehicleContainer speedValue)).fields, field.InRange := by
  unfold HighFrequencyContainer.fields CaService.vehicleContainer
  simp only [List.forall_mem_cons]
  exact ⟨by decide, by decide, hspeed, by decide⟩

/-- The container of a CAM is in range. -/
theorem highFrequencyContainer_inRange {s : CaService R} (hobd2 : s.mLatestObd2.InRange) :
    ∀ field ∈ s.highFrequencyContainer.2.fields, field.InRange := by
  have hspeed : 0 ≤ truncate s.mLatestObd2.speed ∧ truncate s.mLatestObd2.speed ≤ 16383 := by
    obtain ⟨hlow, hhigh⟩ := hobd2
    apply truncate_mem <;> push_cast <;> assumption
  unfold CaService.highFrequencyContainer CaService.basicVehicleContainer
  cases s.mConfig.mIsRSU with
  | true => exact nofun
  | false =>
      cases s.mObd2Valid with
      | true => exact vehicleContainer_inRange hspeed
      | false => exact vehicleContainer_inRange (by decide)

/-- With sensor data in range a CAM can be encoded if and only if its
`generationDeltaTime` is in range. -/
theorem generateCam_inRange_iff {s : CaService R} (env : Env R) (currTime : ℤ)
    (hlatest : LatestInRange s) :
    (s.generateCam env currTime).2.InRange ↔
      (GenerationDeltaTime (s.generationDeltaTime currTime)).InRange := by
  have hposition := referencePosition_inRange env hlatest.gps
  have hcontainer := highFrequencyContainer_inRange hlatest.obd2
  have hstation : (StationID s.mStationID.toNat).InRange := by
    have := s.mStationID.toNat_lt
    exact ⟨Int.natCast_nonneg _, by simp only [StationID]; omega⟩
  unfold CAM.InRange CAM.fields
  rw [CaService.generateCam_referencePosition, CaService.generateCam_highFrequencyContainer,
    CaService.generateCam_generationDeltaTime]
  simp only [List.forall_mem_append, List.forall_mem_singleton]
  constructor
  · exact fun h => h.1.1.1.2
  · intro hdelta
    refine ⟨⟨⟨⟨?_, hdelta⟩, ?_⟩, hposition⟩, hcontainer⟩
    · show ∀ field ∈ [ProtocolVersion protocolVersion_currentVersion, MessageID messageID_cam,
        StationID s.mStationID.toNat], field.InRange
      simp only [List.forall_mem_cons]
      exact ⟨by decide, by decide, hstation, nofun⟩
    · show (StationType (if s.mConfig.mIsRSU then _ else _)).InRange
      cases s.mConfig.mIsRSU <;> decide

/-! ## The time between two CAMs -/

/-- The time since the last CAM, if there is one, is less than 65536 ms. -/
def TimelyCam (s : CaService R) (currTime : ℤ) : Prop :=
  s.mLastSentCamInfo.timestamp = 0 ∨
    currTime - s.mLastSentCamInfo.timestamp < 65536 * 1000000

omit [Field R] [LinearOrder R] [FloorRing R] [IsStrictOrderedRing R] in
theorem generationDeltaTime_inRange_iff {s : CaService R} {currTime : ℤ}
    (hclock : s.mLastSentCamInfo.timestamp = 0 ∨ s.mLastSentCamInfo.timestamp ≤ currTime) :
    (GenerationDeltaTime (s.generationDeltaTime currTime)).InRange ↔ TimelyCam s currTime := by
  unfold CaService.generationDeltaTime TimelyCam
  by_cases hzero : s.mLastSentCamInfo.timestamp = 0
  · simp [hzero, Bounded.InRange, GenerationDeltaTime]
  · rw [if_pos hzero]
    have hle : 0 ≤ currTime - s.mLastSentCamInfo.timestamp := by
      have := hclock.resolve_left hzero
      omega
    simp only [hzero, false_or, Bounded.InRange, GenerationDeltaTime]
    rw [Int.tdiv_eq_ediv_of_nonneg hle]
    omega

omit [Field R] [LinearOrder R] [FloorRing R] [IsStrictOrderedRing R] in
theorem Nondecreasing.of_append {inputs inputs' : List (Input R)}
    (h : Nondecreasing (inputs ++ inputs')) : Nondecreasing inputs := by
  rw [Nondecreasing, List.flatMap_append, List.pairwise_append] at h
  exact h.1

/-- A CAM that is generated in a run can be encoded if and only if it is timely. -/
theorem generatedCam_inRange_iff {env : Env R} {mConfig : CaServiceConfig R}
    {mStationID : UInt32} {lastHeading : R} {inputs : List (Input R)} {st : Station R}
    {r : Readings} {cam : CAM} (hinputs : ∀ input ∈ inputs, input.InRange)
    (hclock : Nondecreasing (inputs ++ [.alarm r]))
    (hrun : run (Station.step env) (.start mConfig mStationID lastHeading) inputs = some st)
    (hcam : st.service.generatedCam env r = some cam) :
    cam.InRange ↔ TimelyCam st.service r.generate := by
  have hlatest : LatestInRange (st.service.flagged env r) := by
    obtain ⟨hgps, hobd2⟩ := latestInRange inputs st hinputs hrun
    exact ⟨hgps, hobd2⟩
  have hinv := remembers inputs st hrun
  have htimestamp : st.service.mLastSentCamInfo.timestamp = 0 ∨
      st.service.mLastSentCamInfo.timestamp ≤ r.generate := by
    rw [hinv.timestamp]
    by_cases hnil : st.sent = []
    · exact Or.inl (lastCamTime_of_sent_nil hnil)
    · exact Or.inr (hinv.lastCamTime_le hclock hnil (by simp [Input.readings]))
  obtain ⟨-, rfl⟩ := CaService.generatedCam_eq_some_iff.mp hcam
  rw [generateCam_inRange_iff env r.generate hlatest]
  exact generationDeltaTime_inRange_iff htimestamp

/-! ## Runs without exceptions -/

/-- **Encoding of CAMs.**  In a run with sensor data in physical range and a clock that
does not go back, no exception leaves an alarm and all fields of all generated CAMs are
in range, if and only if every alarm that sends a CAM comes less than 65536 ms after the
last CAM. -/
theorem encodable_iff {env : Env R} {mConfig : CaServiceConfig R} {mStationID : UInt32}
    {lastHeading : R} {inputs : List (Input R)}
    (hencode : ∀ cam, env.uper_encode cam = none ↔ ¬cam.InRange)
    (hinputs : ∀ input ∈ inputs, input.InRange) (hclock : Nondecreasing inputs) :
    ((∃ st, run (Station.step env) (.start mConfig mStationID lastHeading) inputs = some st) ∧
        ∀ before r after st cam, inputs = before ++ .alarm r :: after →
          run (Station.step env) (.start mConfig mStationID lastHeading) before = some st →
          st.service.generatedCam env r = some cam → cam.InRange) ↔
      ∀ before r after st, inputs = before ++ .alarm r :: after →
        run (Station.step env) (.start mConfig mStationID lastHeading) before = some st →
        ¬st.service.Silent env r → TimelyCam st.service r.generate := by
  have hbefore : ∀ before r after, inputs = before ++ .alarm r :: after →
      (∀ input ∈ before, input.InRange) ∧ Nondecreasing (before ++ [.alarm r]) := by
    rintro before r after rfl
    refine ⟨fun input hinput => hinputs input (List.mem_append_left _ hinput), ?_⟩
    rw [List.append_cons] at hclock
    exact hclock.of_append
  constructor
  · rintro ⟨-, hall⟩ before r after st heq hrun hfired
    obtain ⟨hrange, hclock'⟩ := hbefore before r after heq
    have hcam := CaService.generatedCam_eq_some_iff.mpr ⟨hfired, rfl⟩
    exact (generatedCam_inRange_iff hrange hclock' hrun hcam).mp
      (hall before r after st _ heq hrun hcam)
  · intro htimely
    have hcams : ∀ before r after st cam, inputs = before ++ .alarm r :: after →
        run (Station.step env) (.start mConfig mStationID lastHeading) before = some st →
        st.service.generatedCam env r = some cam → cam.InRange := by
      intro before r after st cam heq hrun hcam
      obtain ⟨hrange, hclock'⟩ := hbefore before r after heq
      have hfired := (CaService.generatedCam_eq_some_iff.mp hcam).1
      exact (generatedCam_inRange_iff hrange hclock' hrun hcam).mpr
        (htimely before r after st heq hrun hfired)
    have hruns : ∃ st, run (Station.step env) (.start mConfig mStationID lastHeading) inputs =
        some st ∧ True := by
      apply exists_run (P := fun _ _ => True) trivial
      intro before input after st heq hrun _
      cases input with
      | gps latest | obd2 latest => exact ⟨_, rfl, trivial⟩
      | alarm r =>
          -- an alarm fails only with a CAM that is out of range
          cases halarm : st.service.alarm env r with
          | none =>
              obtain ⟨cam, hcam, hnone⟩ := CaService.alarm_eq_none_iff.mp halarm
              exact absurd (hcams before r after st cam heq hrun hcam) ((hencode cam).mp hnone)
          | some next => exact ⟨_, by rw [Station.step, halarm]; rfl, trivial⟩
    exact ⟨hruns.imp fun _ h => h.1, hcams⟩

/-! ## A pause between two alarms -/

theorem meridianEnv_uper_encode (cam : CAM) :
    meridianEnv.uper_encode cam = none ↔ ¬cam.InRange := by
  unfold meridianEnv
  simp

theorem encodable_standing :
    ∃ st, run (Station.step meridianEnv) (.start defaultConfig 1 0) standingInputs = some st := by
  have hinputs : ∀ input ∈ standingInputs, input.InRange := by
    unfold standingInputs
    simp only [List.forall_mem_cons]
    refine ⟨⟨?_, ?_, ?_⟩, trivial, nofun⟩ <;> norm_num
  have hclock : Nondecreasing standingInputs := by
    unfold Nondecreasing
    decide
  refine ((encodable_iff meridianEnv_uper_encode hinputs hclock).mpr ?_).1
  intro before r after st heq hrun _
  -- the only alarm is the second input
  left
  match before, heq with
  | [_], heq =>
      obtain ⟨rfl, -⟩ := List.cons.inj heq
      obtain rfl := Option.some.inj (run_singleton.mp hrun)
      rfl
  | [_, _], heq => simp [standingInputs] at heq
  | _ :: _ :: _ :: _, heq => simp [standingInputs] at heq

/-- Two alarms 100 s apart. -/
def pausedInputs : List (Input ℚ) :=
  [.alarm firstAlarm, .alarm (.at (201 * second))]

/-- The second CAM has a `generationDeltaTime` of 100000, and the exception leaves the
alarm. -/
theorem not_encodable_paused :
    (∀ cam, meridianEnv.uper_encode cam = none ↔ ¬cam.InRange) ∧
      (∀ input ∈ pausedInputs, input.InRange) ∧ Nondecreasing pausedInputs ∧
      run (Station.step meridianEnv) (.start defaultConfig 1 0) pausedInputs = none := by
  refine ⟨meridianEnv_uper_encode, ?_, ?_, ?_⟩
  · unfold pausedInputs
    simp [Input.InRange]
  · unfold Nondecreasing
    decide
  · have hnone : (run (Station.step meridianEnv) (.start defaultConfig 1 0)
        pausedInputs).isNone := by decide +kernel
    exact Option.isNone_iff_eq_none.mp hnone

end OpenC2X.Cam
