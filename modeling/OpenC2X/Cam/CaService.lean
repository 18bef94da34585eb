import OpenC2X.Common.Asn1
import OpenC2X.Common.Data
import OpenC2X.Common.Wrapping
import OpenC2X.Lib.PartialRun
import Mathlib.Algebra.Order.Field.Basic
import Mathlib.Algebra.Order.Floor.Ring

/-!
# The CA service

`CaService` keeps the latest GPS and OBD2 data and decides every 100 ms, in `alarm`,
whether to send a CAM: four rules compare the data and the clock with what the last CAM
carried.  The threads that receive GPS and OBD2 data only replace the latest data, so a
run is a sequence of updates and alarms.

Numbers of type `double` are elements of an ordered field `R`.  The functions that
`CaService` calls for the great circle, and the encoder, are parameters; the distance may be
`NaN`, with which every comparison is false.  Every alarm has its own clock readings, one for
each call of `Utils::currentTime`.
-/

namespace OpenC2X.Cam

open Asn1

variable {R : Type*}

/-! ## The data -/

/-- The fields of a GPS message that `CaService` reads. -/
structure GPS (R : Type*) where
  latitude : R
  longitude : R
  altitude : R
  time : ℤ
  deriving DecidableEq, Repr

/-- The fields of an OBD2 message that `CaService` reads. -/
structure OBD2 (R : Type*) where
  time : ℤ
  speed : R
  deriving DecidableEq, Repr

structure CaServiceConfig (R : Type*) where
  mExpirationTime : ℤ
  mMaxGpsAge : ℤ
  mMaxObd2Age : ℤ
  mThresholdRadiusForHeading : R
  mIsRSU : Bool

structure LastSentCamInfo (R : Type*) where
  hasGPS : Bool
  lastGps : GPS R
  hasOBD2 : Bool
  lastObd2 : OBD2 R
  lastHeading : R
  timestamp : ℤ

structure CaService (R : Type*) where
  mConfig : CaServiceConfig R
  mStationID : UInt32
  mLatestGps : GPS R
  mGpsValid : Bool
  mLatestObd2 : OBD2 R
  mObd2Valid : Bool
  mLastSentCamInfo : LastSentCamInfo R

/-- What sets off a CAM, with the arguments of its `sendCamInfo`. -/
structure Trigger (R : Type*) where
  triggerReason : String
  delta : R

/-- The message about a trigger for the LDM. -/
structure CamInfo (R : Type*) where
  time : ℤ
  triggerReason : String
  delta : R

/-- What an alarm that sends a CAM gives to the outside. -/
structure Sent (R : Type*) where
  camInfo : CamInfo R
  cam : CAM
  data : DATA

/-- The clock readings of one alarm, in the order in which they are taken: in
`isGPSdataValid`, `isSpeedChanged`, `isTimeToTriggerCAM`, `sendCamInfo`, `generateCam` and
`send`.  Those of functions that the alarm does not call are not looked at. -/
structure Readings where
  gps : ℤ
  obd2 : ℤ
  time : ℤ
  info : ℤ
  generate : ℤ
  send : ℤ
  deriving DecidableEq, Repr

/-- The functions that are parameters: the distance in metres and the bearing in degrees
between two positions, given as latitude and longitude twice, and `uper_encode` for CAMs,
which fails with `none`.  A distance `none` is `NaN`. -/
structure Env (R : Type*) where
  getDistance : R → R → R → R → Option R
  bearing : R → R → R → R → R
  uper_encode : CAM → Option (List UInt8)

/-- The comparison `getDistance(lat1, lon1, lat2, lon2) < radius`. -/
def Env.Within [LT R] (env : Env R) (radius lat₁ lon₁ lat₂ lon₂ : R) : Prop :=
  ∃ distance ∈ env.getDistance lat₁ lon₁ lat₂ lon₂, distance < radius

instance [LT R] [DecidableLT R] (env : Env R) (radius lat₁ lon₁ lat₂ lon₂ : R) :
    Decidable (env.Within radius lat₁ lon₁ lat₂ lon₂) :=
  inferInstanceAs (Decidable (∃ distance ∈ env.getDistance lat₁ lon₁ lat₂ lon₂, distance < radius))

def second : ℤ := 1000 * 1000 * 1000

/-- The conversion of a `double` to an integer type: the fraction is cut off. -/
def truncate [Ring R] [LinearOrder R] [FloorRing R] (x : R) : ℤ :=
  if 0 ≤ x then ⌊x⌋ else ⌈x⌉

namespace CaService

variable [Field R]

/-- The constructor.  Messages without content have all fields zero, and `lastHeading` is
not initialized. -/
def new (mConfig : CaServiceConfig R) (mStationID : UInt32) (lastHeading : R) : CaService R where
  mConfig := mConfig
  mStationID := mStationID
  mLatestGps := ⟨0, 0, 0, 0⟩
  mGpsValid := false
  mLatestObd2 := ⟨0, 0⟩
  mObd2Valid := false
  mLastSentCamInfo :=
    { hasGPS := false
      lastGps := ⟨0, 0, 0, 0⟩
      hasOBD2 := false
      lastObd2 := ⟨0, 0⟩
      lastHeading := lastHeading
      timestamp := 0 }

/-! ## The rules -/

variable [LinearOrder R]

/-- `getHeading`: -1 if the two positions are too close to each other. -/
def getHeading (s : CaService R) (env : Env R) (lat₁ lon₁ lat₂ lon₂ : R) : R :=
  if env.Within s.mConfig.mThresholdRadiusForHeading lat₁ lon₁ lat₂ lon₂ then
    -1
  else
    env.bearing lat₁ lon₁ lat₂ lon₂

/-- The distance from the position of the last CAM to the latest one. -/
def distance (s : CaService R) (env : Env R) : Option R :=
  env.getDistance s.mLastSentCamInfo.lastGps.latitude s.mLastSentCamInfo.lastGps.longitude
    s.mLatestGps.latitude s.mLatestGps.longitude

/-- The heading from the position of the last CAM to the latest one. -/
def currentHeading (s : CaService R) (env : Env R) : R :=
  s.getHeading env s.mLastSentCamInfo.lastGps.latitude s.mLastSentCamInfo.lastGps.longitude
    s.mLatestGps.latitude s.mLatestGps.longitude

/-- The latest GPS data is not too old. -/
def isGpsFresh (s : CaService R) (currentTime : ℤ) : Bool :=
  if currentTime - s.mLatestGps.time > s.mConfig.mMaxGpsAge * 1000 * 1000 * 1000 then
    false
  else
    true

def isGPSdataValid (s : CaService R) (currentTime : ℤ) : CaService R × Bool :=
  ({ s with mGpsValid := s.isGpsFresh currentTime }, s.isGpsFresh currentTime)

def isPositionChanged (s : CaService R) (env : Env R) : Option (Trigger R) :=
  match s.distance env with
  | some distance => if distance > 5 then some ⟨"distance", distance⟩ else none
  | none => none

/-- The difference of two headings, between -180 and 180 degrees. -/
def deltaHeading (currentHeading lastHeading : R) : R :=
  let deltaHeading := currentHeading - lastHeading
  if deltaHeading > 180 then
    deltaHeading - 360
  else if deltaHeading < -180 then
    deltaHeading + 360
  else
    deltaHeading

def isHeadingChanged (s : CaService R) (env : Env R) : Option (Trigger R) :=
  let currentHeading := s.currentHeading env
  if currentHeading ≠ -1 then
    let delta := deltaHeading currentHeading s.mLastSentCamInfo.lastHeading
    if |delta| > 4 then some ⟨"heading", delta⟩ else none
  else
    none

/-- The latest OBD2 data is not too old. -/
def isObd2Fresh (s : CaService R) (currentTime : ℤ) : Bool :=
  if currentTime - s.mLatestObd2.time > s.mConfig.mMaxObd2Age * 1000 * 1000 * 1000 then
    false
  else
    true

/-- `deltaSpeed` of `isSpeedChanged`. -/
def deltaSpeed (s : CaService R) : R :=
  |s.mLatestObd2.speed - s.mLastSentCamInfo.lastObd2.speed|

def isSpeedChanged (s : CaService R) (currentTime : ℤ) : CaService R × Option (Trigger R) :=
  if s.isObd2Fresh currentTime then
    ({ s with mObd2Valid := true },
      if s.deltaSpeed > 1 then some ⟨"speed", s.deltaSpeed⟩ else none)
  else
    ({ s with mObd2Valid := false }, none)

def isTimeToTriggerCAM (s : CaService R) (currentTime : ℤ) : Option (Trigger R) :=
  let deltaTime := currentTime - s.mLastSentCamInfo.timestamp
  if deltaTime ≥ second then some ⟨"time", deltaTime⟩ else none

/-- The rules of `alarm` that need a valid position. -/
def gpsRules (s : CaService R) (env : Env R) : Option (Trigger R) :=
  if !s.mLastSentCamInfo.hasGPS then
    some ⟨"First GPS data", -1⟩
  else
    (s.isPositionChanged env).or (s.isHeadingChanged env)

/-- The rules of `alarm`, up to the first one that fires. -/
def rules (s : CaService R) (env : Env R) (r : Readings) : CaService R × Option (Trigger R) :=
  let (s, gpsValid) := s.isGPSdataValid r.gps
  match if gpsValid then s.gpsRules env else none with
  | some t => (s, some t)
  | none =>
      match s.isSpeedChanged r.obd2 with
      | (s, some t) => (s, some t)
      | (s, none) => (s, s.isTimeToTriggerCAM r.time)

/-! ### What the rules do -/

/-- The rule for the GPS data that fires at an alarm. -/
def gpsTrigger (s : CaService R) (env : Env R) (currentTime : ℤ) : Option (Trigger R) :=
  if s.isGpsFresh currentTime then s.gpsRules env else none

/-- The speed rule at an alarm at which no rule for the GPS data fires. -/
def speedTrigger (s : CaService R) (currentTime : ℤ) : Option (Trigger R) :=
  if s.isObd2Fresh currentTime then
    if s.deltaSpeed > 1 then some ⟨"speed", s.deltaSpeed⟩ else none
  else
    none

/-- `mObd2Valid` after the rules: it is only computed if no rule for the GPS data fires. -/
def obd2ValidAfter (s : CaService R) (env : Env R) (r : Readings) : Bool :=
  if (s.gpsTrigger env r.gps).isSome then s.mObd2Valid else s.isObd2Fresh r.obd2

/-- The rules change the two flags and nothing else. -/
def flagged (s : CaService R) (env : Env R) (r : Readings) : CaService R :=
  { s with mGpsValid := s.isGpsFresh r.gps, mObd2Valid := s.obd2ValidAfter env r }

theorem isSpeedChanged_eq (s : CaService R) (currentTime : ℤ) :
    s.isSpeedChanged currentTime =
      ({ s with mObd2Valid := s.isObd2Fresh currentTime }, s.speedTrigger currentTime) := by
  unfold isSpeedChanged speedTrigger
  cases s.isObd2Fresh currentTime <;> rfl

theorem rules_eq (s : CaService R) (env : Env R) (r : Readings) :
    s.rules env r = (s.flagged env r, (s.gpsTrigger env r.gps).or
      ((s.speedTrigger r.obd2).or (s.isTimeToTriggerCAM r.time))) := by
  have hgps : { s with mGpsValid := s.isGpsFresh r.gps }.gpsRules env = s.gpsRules env := rfl
  have hspeed : { s with mGpsValid := s.isGpsFresh r.gps }.speedTrigger r.obd2 =
    s.speedTrigger r.obd2 := rfl
  unfold rules isGPSdataValid flagged obd2ValidAfter
  simp only [hgps, isSpeedChanged_eq, hspeed]
  rw [show (if s.isGpsFresh r.gps then s.gpsRules env else none) = s.gpsTrigger env r.gps from rfl]
  cases s.gpsTrigger env r.gps with
  | some t => rfl
  | none => cases s.speedTrigger r.obd2 <;> rfl

/-- No rule fires at an alarm. -/
structure Silent (s : CaService R) (env : Env R) (r : Readings) : Prop where
  gps : s.gpsTrigger env r.gps = none
  speed : s.speedTrigger r.obd2 = none
  time : s.isTimeToTriggerCAM r.time = none

theorem rules_snd_eq_none_iff {s : CaService R} {env : Env R} {r : Readings} :
    (s.rules env r).2 = none ↔ s.Silent env r := by
  rw [rules_eq]
  simp only [Option.or_eq_none_iff]
  constructor
  · rintro ⟨hgps, hspeed, htime⟩
    exact ⟨hgps, hspeed, htime⟩
  · rintro ⟨hgps, hspeed, htime⟩
    exact ⟨hgps, hspeed, htime⟩

theorem gpsTrigger_eq_none_iff {s : CaService R} {env : Env R} {currentTime : ℤ} :
    s.gpsTrigger env currentTime = none ↔ (s.isGpsFresh currentTime = true →
      s.mLastSentCamInfo.hasGPS = true ∧ (∀ distance ∈ s.distance env, distance ≤ 5) ∧
        s.isHeadingChanged env = none) := by
  unfold gpsTrigger gpsRules isPositionChanged
  cases s.isGpsFresh currentTime <;> cases s.mLastSentCamInfo.hasGPS <;>
    cases s.distance env <;> simp

/-- The headings at which the heading rule does not fire. -/
def HeadingUnchanged (currentHeading lastHeading : R) : Prop :=
  currentHeading = -1 ∨ |deltaHeading currentHeading lastHeading| ≤ 4

instance (currentHeading lastHeading : R) :
    Decidable (HeadingUnchanged currentHeading lastHeading) :=
  inferInstanceAs (Decidable (_ ∨ _))

theorem isHeadingChanged_eq_none_iff {s : CaService R} {env : Env R} :
    s.isHeadingChanged env = none ↔
      HeadingUnchanged (s.currentHeading env) s.mLastSentCamInfo.lastHeading := by
  unfold isHeadingChanged HeadingUnchanged
  by_cases hheading : s.currentHeading env = -1 <;> simp [hheading]

theorem speedTrigger_eq_none_iff {s : CaService R} {currentTime : ℤ} :
    s.speedTrigger currentTime = none ↔
      (s.isObd2Fresh currentTime = true → s.deltaSpeed ≤ 1) := by
  unfold speedTrigger
  cases s.isObd2Fresh currentTime <;> simp

omit [LinearOrder R] in
theorem isTimeToTriggerCAM_eq_none_iff {s : CaService R} {currentTime : ℤ} :
    s.isTimeToTriggerCAM currentTime = none ↔
      currentTime - s.mLastSentCamInfo.timestamp < second := by
  unfold isTimeToTriggerCAM
  simp

/-! ## The CAM -/

variable [FloorRing R]

/-- A reference position; `generateCam` leaves the confidences at fixed values. -/
def position (latitude longitude altitudeValue : ℤ) : ReferencePosition where
  latitude := latitude
  longitude := longitude
  positionConfidenceEllipse :=
    { semiMajorConfidence := 0, semiMinorConfidence := 0, semiMajorOrientation := 0 }
  altitude :=
    { altitudeValue := altitudeValue, altitudeConfidence := AltitudeConfidence_unavailable }

/-- The part of `generateCam` that takes the position, under `mMutexLatestGps`. -/
def referencePosition (s : CaService R) (env : Env R) : LastSentCamInfo R × ReferencePosition :=
  if s.mGpsValid then
    ({ s.mLastSentCamInfo with
        hasGPS := true
        lastGps := s.mLatestGps
        lastHeading := s.currentHeading env },
      -- latitude and longitude in tenths of microdegrees
      position (truncate (s.mLatestGps.latitude * 10000000))
        (truncate (s.mLatestGps.longitude * 10000000)) (truncate s.mLatestGps.altitude))
  else
    ({ s.mLastSentCamInfo with hasGPS := false },
      position Latitude_unavailable Longitude_unavailable AltitudeValue_unavailable)

/-- The container of a vehicle, of which `generateCam` only knows the speed. -/
def vehicleContainer (speedValue : ℤ) : BasicVehicleContainerHighFrequency where
  heading := ⟨HeadingValue_unavailable, HeadingConfidence_unavailable⟩
  speed := ⟨speedValue, SpeedConfidence_unavailable⟩
  driveDirection := DriveDirection_unavailable
  vehicleLength := ⟨VehicleLengthValue_unavailable, VehicleLengthConfidenceIndication_unavailable⟩
  vehicleWidth := VehicleWidth_unavailable
  longitudinalAcceleration :=
    ⟨LongitudinalAccelerationValue_unavailable, AccelerationConfidence_unavailable⟩
  curvature := ⟨CurvatureValue_unavailable, CurvatureConfidence_unavailable⟩
  curvatureCalculationMode := CurvatureCalculationMode_unavailable
  yawRate := ⟨YawRateValue_unavailable, YawRateConfidence_unavailable⟩

/-- The part of `generateCam` for vehicles, which takes the speed under
`mMutexLatestObd2`. -/
def basicVehicleContainer (s : CaService R) :
    LastSentCamInfo R × BasicVehicleContainerHighFrequency :=
  if s.mObd2Valid then
    ({ s.mLastSentCamInfo with hasOBD2 := true, lastObd2 := s.mLatestObd2 },
      vehicleContainer (truncate s.mLatestObd2.speed))
  else
    ({ s.mLastSentCamInfo with hasOBD2 := false }, vehicleContainer SpeedValue_unavailable)

/-- The choice of the high frequency container. -/
def highFrequencyContainer (s : CaService R) : LastSentCamInfo R × HighFrequencyContainer :=
  if s.mConfig.mIsRSU then
    (s.mLastSentCamInfo, .rsuContainerHighFrequency)
  else
    let (info, container) := s.basicVehicleContainer
    (info, .basicVehicleContainerHighFrequency container)

/-- `generationDeltaTime`: the milliseconds since the last CAM, 0 for the first one. -/
def generationDeltaTime (s : CaService R) (currTime : ℤ) : ℤ :=
  if s.mLastSentCamInfo.timestamp ≠ 0 then
    (currTime - s.mLastSentCamInfo.timestamp).tdiv 1000000
  else
    0

def generateCam (s : CaService R) (env : Env R) (currTime : ℤ) : CaService R × CAM :=
  let deltaTime := s.generationDeltaTime currTime
  let s := { s with mLastSentCamInfo := { s.mLastSentCamInfo with timestamp := currTime } }
  let (info, position) := s.referencePosition env
  let s := { s with mLastSentCamInfo := info }
  let (info, container) := s.highFrequencyContainer
  let s := { s with mLastSentCamInfo := info }
  (s,
    { header := ⟨protocolVersion_currentVersion, messageID_cam, s.mStationID.toNat⟩
      cam :=
        { generationDeltaTime := deltaTime
          camParameters :=
            { basicContainer :=
                { stationType :=
                    if s.mConfig.mIsRSU then StationType_roadSideUnit else StationType_passengerCar
                  referencePosition := position }
              highFrequencyContainer := container } } })

/-- `currTime + mConfig.mExpirationTime*1000*1000*1000`, where the product is of type
`int`. -/
def validUntil (s : CaService R) (currTime : ℤ) : ℤ :=
  int64 (currTime +
    int32 (int32 (int32 (s.mConfig.mExpirationTime * 1000) * 1000) * 1000))

/-- The `DATA` package that carries an encoded CAM to DCC. -/
def dataPackage (s : CaService R) (currTime : ℤ) (encodedCam : List UInt8) : DATA where
  id := messageID_cam
  type := .CAM
  priority := .AC_BE
  validUntil := some (s.validUntil currTime)
  content := encodedCam

/-- Generates and encodes a CAM.  If it cannot be encoded, `encodeMessage` throws. -/
def send (s : CaService R) (env : Env R) (r : Readings) : Option (CaService R × CAM × DATA) :=
  let (s, cam) := s.generateCam env r.generate
  (env.uper_encode cam).map fun encodedCam => (s, cam, s.dataPackage r.send encodedCam)

/-- One alarm; `none` if an exception leaves it. -/
def alarm (s : CaService R) (env : Env R) (r : Readings) :
    Option (CaService R × Option (Sent R)) :=
  match s.rules env r with
  | (s, none) => some (s, none)
  | (s, some t) =>
      (s.send env r).map fun (s, cam, data) =>
        (s, some ⟨⟨r.info, t.triggerReason, t.delta⟩, cam, data⟩)

/-- The CAM that an alarm generates, whether or not it can be encoded. -/
def generatedCam (s : CaService R) (env : Env R) (r : Readings) : Option CAM :=
  match s.rules env r with
  | (s, some _) => some (s.generateCam env r.generate).2
  | (_, none) => none

/-! ### What a CAM changes and carries -/

/-- What is remembered of a CAM: the position and the heading only if there is a valid
position, the OBD2 data only by vehicles with valid OBD2 data. -/
theorem generateCam_info (s : CaService R) (env : Env R) (currTime : ℤ) :
    (s.generateCam env currTime).1.mLastSentCamInfo =
      { hasGPS := s.mGpsValid
        lastGps := if s.mGpsValid then s.mLatestGps else s.mLastSentCamInfo.lastGps
        hasOBD2 := if s.mConfig.mIsRSU then s.mLastSentCamInfo.hasOBD2 else s.mObd2Valid
        lastObd2 :=
          if !s.mConfig.mIsRSU && s.mObd2Valid then s.mLatestObd2
          else s.mLastSentCamInfo.lastObd2
        lastHeading :=
          if s.mGpsValid then s.currentHeading env else s.mLastSentCamInfo.lastHeading
        timestamp := currTime } := by
  obtain ⟨⟨_, _, _, _, mIsRSU⟩, _, _, mGpsValid, _, mObd2Valid, _⟩ := s
  cases mGpsValid <;> cases mIsRSU <;> cases mObd2Valid <;> rfl

theorem generateCam_generationDeltaTime (s : CaService R) (env : Env R) (currTime : ℤ) :
    (s.generateCam env currTime).2.cam.generationDeltaTime = s.generationDeltaTime currTime := rfl

theorem generateCam_referencePosition (s : CaService R) (env : Env R) (currTime : ℤ) :
    (s.generateCam env currTime).2.cam.camParameters.basicContainer.referencePosition =
      (s.referencePosition env).2 := by
  obtain ⟨_, _, _, mGpsValid, _, _, _⟩ := s
  cases mGpsValid <;> rfl

theorem generateCam_highFrequencyContainer (s : CaService R) (env : Env R) (currTime : ℤ) :
    (s.generateCam env currTime).2.cam.camParameters.highFrequencyContainer =
      s.highFrequencyContainer.2 := by
  obtain ⟨⟨_, _, _, _, mIsRSU⟩, _, _, mGpsValid, _, mObd2Valid, _⟩ := s
  cases mGpsValid <;> cases mIsRSU <;> cases mObd2Valid <;> rfl

/-! ### What an alarm does -/

theorem alarm_eq (s : CaService R) (env : Env R) (r : Readings) :
    s.alarm env r = match (s.rules env r).2 with
      | none => some (s.flagged env r, none)
      | some t => ((s.flagged env r).send env r).map fun (s, cam, data) =>
          (s, some ⟨⟨r.info, t.triggerReason, t.delta⟩, cam, data⟩) := by
  unfold alarm
  rw [rules_eq]
  cases ((s.gpsTrigger env r.gps).or ((s.speedTrigger r.obd2).or (s.isTimeToTriggerCAM r.time)))
    <;> rfl

/-- An alarm without a CAM only sets the flags. -/
theorem alarm_silent_iff {s s' : CaService R} {env : Env R} {r : Readings} :
    s.alarm env r = some (s', none) ↔ s.Silent env r ∧ s' = s.flagged env r := by
  rw [alarm_eq, ← rules_snd_eq_none_iff]
  cases (s.rules env r).2 with
  | none => simp [eq_comm]
  | some t => simp

/-- An alarm with a CAM generates it after the flags are set. -/
theorem alarm_sent {s s' : CaService R} {env : Env R} {r : Readings} {sent : Sent R}
    (h : s.alarm env r = some (s', some sent)) :
    ¬s.Silent env r ∧ s' = ((s.flagged env r).generateCam env r.generate).1 ∧
      sent.cam = ((s.flagged env r).generateCam env r.generate).2 := by
  rw [alarm_eq] at h
  rw [← rules_snd_eq_none_iff]
  cases htrigger : (s.rules env r).2 with
  | none => simp [htrigger] at h
  | some t =>
      rw [htrigger] at h
      unfold send at h
      simp only [Option.map_map, Option.map_eq_some_iff, Function.comp_apply, Prod.mk.injEq,
        Option.some.injEq] at h
      obtain ⟨encodedCam, -, rfl, rfl⟩ := h
      exact ⟨nofun, rfl, rfl⟩

theorem generatedCam_eq_some_iff {s : CaService R} {env : Env R} {r : Readings} {cam : CAM} :
    s.generatedCam env r = some cam ↔
      ¬s.Silent env r ∧ ((s.flagged env r).generateCam env r.generate).2 = cam := by
  have hfst : (s.rules env r).1 = s.flagged env r := by rw [rules_eq]
  rw [← rules_snd_eq_none_iff, ← hfst]
  unfold generatedCam
  cases hrules : s.rules env r with
  | mk s' trigger => cases trigger <;> simp

/-- An exception leaves an alarm if its CAM cannot be encoded. -/
theorem alarm_eq_none_iff {s : CaService R} {env : Env R} {r : Readings} :
    s.alarm env r = none ↔ ∃ cam, s.generatedCam env r = some cam ∧ env.uper_encode cam = none := by
  unfold alarm generatedCam
  cases hrules : s.rules env r with
  | mk s' trigger =>
      cases trigger with
      | none => simp
      | some t => simp [send, Option.map_eq_none_iff]

end CaService

end OpenC2X.Cam
