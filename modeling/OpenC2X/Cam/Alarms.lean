import OpenC2X.Cam.CaService
import Mathlib.Data.Rat.Floor

/-!
# Runs of the CA service

A run is a sequence of GPS updates, OBD2 updates and alarms in any order, with the log of
the CAMs sent.  The memory of the service, `mLastSentCamInfo`, agrees with the last entry
of the log after every run, and from this follows how old the last CAM can be when an
alarm sends none.  How far away its position can be follows only if the distance is a number:
for (almost) opposite positions `getDistance` may take the root of a negative number, and no
distance is too far then.
-/

namespace OpenC2X.Cam

open Asn1 PartialRun

variable {R : Type*} [Field R] [LinearOrder R] [FloorRing R]

/-! ## Runs -/

inductive Input (R : Type*) where
  | gps (latest : GPS R)
  | obd2 (latest : OBD2 R)
  | alarm (r : Readings)

/-- The service and the CAMs it has sent, each with the readings of its alarm. -/
structure Station (R : Type*) where
  service : CaService R
  sent : List (Readings × Sent R)

namespace Station

def start (mConfig : CaServiceConfig R) (mStationID : UInt32) (lastHeading : R) : Station R where
  service := .new mConfig mStationID lastHeading
  sent := []

/-- One update or one alarm; `none` if an exception leaves the alarm. -/
def step (env : Env R) : Input R → Station R → Option (Station R)
  | .gps latest, st => some { st with service := { st.service with mLatestGps := latest } }
  | .obd2 latest, st => some { st with service := { st.service with mLatestObd2 := latest } }
  | .alarm r, st =>
      (st.service.alarm env r).map fun (s, sent) =>
        { service := s, sent := st.sent ++ sent.toList.map fun out => (r, out) }

/-- The three things that can happen at an alarm that throws no exception. -/
theorem step_alarm {env : Env R} {r : Readings} {st st' : Station R}
    (h : step env (.alarm r) st = some st') :
    (st.service.Silent env r ∧ st' = { st with service := st.service.flagged env r }) ∨
      ∃ out, ¬st.service.Silent env r ∧
        st'.service = ((st.service.flagged env r).generateCam env r.generate).1 ∧
        out.cam = ((st.service.flagged env r).generateCam env r.generate).2 ∧
        st'.sent = st.sent ++ [(r, out)] := by
  unfold step at h
  obtain ⟨⟨s', out⟩, halarm, rfl⟩ := Option.map_eq_some_iff.mp h
  cases out with
  | none =>
      obtain ⟨hsilent, rfl⟩ := CaService.alarm_silent_iff.mp halarm
      exact .inl ⟨hsilent, by simp⟩
  | some out =>
      obtain ⟨hfired, hs', hcam⟩ := CaService.alarm_sent halarm
      exact .inr ⟨out, hfired, hs', hcam, rfl⟩

end Station

/-- Nothing changes the configuration. -/
theorem mConfig_eq {env : Env R} {mConfig : CaServiceConfig R} {mStationID : UInt32}
    {lastHeading : R} (inputs : List (Input R)) (st : Station R)
    (h : run (Station.step env) (.start mConfig mStationID lastHeading) inputs = some st) :
    st.service.mConfig = mConfig := by
  refine run_induction (P := fun _ st => st.service.mConfig = mConfig) rfl
    (fun _ input st st' _ hinv hstep => ?_) inputs st h
  cases input with
  | gps latest | obd2 latest =>
      obtain rfl := Option.some.inj hstep
      exact hinv
  | alarm r =>
      rcases Station.step_alarm hstep with ⟨-, rfl⟩ | ⟨out, -, hservice, -, -⟩
      · exact hinv
      · rw [hservice]
        exact hinv

/-! ## The clock -/

/-- The readings of an input, in the order in which they are taken. -/
def Input.readings : Input R → List ℤ
  | .alarm r => [r.gps, r.obd2, r.time, r.info, r.generate, r.send]
  | _ => []

/-- The clock does not go back from reading to reading. -/
def Nondecreasing (inputs : List (Input R)) : Prop :=
  (inputs.flatMap Input.readings).Pairwise (· ≤ ·)

omit [Field R] [LinearOrder R] [FloorRing R] in
/-- No reading of an alarm lies before one of an earlier alarm. -/
theorem Nondecreasing.le_of_mem {inputs : List (Input R)} {r₀ r : Readings}
    (h : Nondecreasing (inputs ++ [.alarm r])) (hr₀ : Input.alarm r₀ ∈ inputs) {x y : ℤ}
    (hx : x ∈ (Input.alarm r₀ : Input R).readings) (hy : y ∈ (Input.alarm r : Input R).readings) :
    x ≤ y := by
  rw [Nondecreasing, List.flatMap_append, List.pairwise_append] at h
  exact h.2.2 x (List.mem_flatMap.mpr ⟨_, hr₀, hx⟩) y (by simpa using hy)

/-! ## What is remembered of the last CAM -/

/-- The CAM carries this position. -/
structure CarriesPosition (cam : CAM) (gps : GPS R) : Prop where
  latitude : cam.cam.camParameters.basicContainer.referencePosition.latitude =
    truncate (gps.latitude * 10000000)
  longitude : cam.cam.camParameters.basicContainer.referencePosition.longitude =
    truncate (gps.longitude * 10000000)
  altitude : cam.cam.camParameters.basicContainer.referencePosition.altitude.altitudeValue =
    truncate gps.altitude

/-- The time at which the last CAM was generated, 0 if there is none. -/
def Station.lastCamTime (st : Station R) : ℤ :=
  (st.sent.getLast?.map fun entry => entry.1.generate).getD 0

/-- `mLastSentCamInfo` describes the last CAM in the log. -/
structure Remembers (inputs : List (Input R)) (st : Station R) : Prop where
  sent_mem : ∀ entry ∈ st.sent, Input.alarm entry.1 ∈ inputs
  timestamp : st.service.mLastSentCamInfo.timestamp = st.lastCamTime
  position : st.service.mLastSentCamInfo.hasGPS = true → ∃ entry, st.sent.getLast? = some entry ∧
    CarriesPosition entry.2.cam st.service.mLastSentCamInfo.lastGps

theorem carriesPosition_generateCam {s : CaService R} (env : Env R) (currTime : ℤ)
    (hvalid : s.mGpsValid = true) :
    CarriesPosition (s.generateCam env currTime).2 s.mLatestGps := by
  constructor <;>
  · rw [CaService.generateCam_referencePosition, CaService.referencePosition, if_pos hvalid]
    rfl

theorem step_remembers {env : Env R} {inputs : List (Input R)} {input : Input R}
    {st st' : Station R} (hinv : Remembers inputs st) (h : st.step env input = some st') :
    Remembers (inputs ++ [input]) st' := by
  obtain ⟨hmem, htimestamp, hposition⟩ := hinv
  have hmem' : ∀ entry ∈ st.sent, Input.alarm entry.1 ∈ inputs ++ [input] :=
    fun entry hentry => List.mem_append_left _ (hmem entry hentry)
  cases input with
  | gps latest | obd2 latest =>
      obtain rfl := Option.some.inj h
      exact ⟨hmem', htimestamp, hposition⟩
  | alarm r =>
      rcases Station.step_alarm h with ⟨-, rfl⟩ | ⟨out, -, hservice, hcam, hsent⟩
      · exact ⟨hmem', htimestamp, hposition⟩
      · refine ⟨fun entry hentry => ?_, ?_, fun hgps => ⟨(r, out), by simp [hsent], ?_⟩⟩
        · rw [hsent] at hentry
          rcases List.mem_append.mp hentry with hold | hnew
          · exact hmem' entry hold
          · rw [List.mem_singleton.mp hnew]
            exact List.mem_append_right _ (List.mem_singleton_self _)
        · rw [hservice, CaService.generateCam_info]
          simp [Station.lastCamTime, hsent]
        · rw [hservice, CaService.generateCam_info] at hgps ⊢
          simp only [hcam]
          rw [if_pos hgps]
          exact carriesPosition_generateCam env r.generate hgps

theorem remembers {env : Env R} {mConfig : CaServiceConfig R} {mStationID : UInt32}
    {lastHeading : R} (inputs : List (Input R)) (st : Station R)
    (h : run (Station.step env) (.start mConfig mStationID lastHeading) inputs = some st) :
    Remembers inputs st := by
  refine run_induction (P := Remembers) ?_ (fun _ _ _ _ _ hinv hstep => ?_) inputs st h
  · constructor
    · simp [Station.start]
    · simp [Station.start, CaService.new, Station.lastCamTime]
    · simp [Station.start, CaService.new]
  · exact step_remembers hinv hstep

omit [Field R] [LinearOrder R] [FloorRing R] in
theorem lastCamTime_of_sent_nil {st : Station R} (h : st.sent = []) : st.lastCamTime = 0 := by
  rw [Station.lastCamTime, h]
  rfl

/-- The last CAM was generated before every reading of the next alarm. -/
theorem Remembers.lastCamTime_le {inputs : List (Input R)} {st : Station R} {r : Readings}
    (h : Remembers inputs st) (hclock : Nondecreasing (inputs ++ [.alarm r]))
    (hne : st.sent ≠ []) {reading : ℤ} (hmem : reading ∈ (Input.alarm r : Input R).readings) :
    st.lastCamTime ≤ reading := by
  have hlast : (st.sent.getLast hne).1.generate ≤ reading :=
    hclock.le_of_mem (h.sent_mem _ (List.getLast_mem hne)) (by simp [Input.readings]) hmem
  rw [Station.lastCamTime, List.getLast?_eq_some_getLast hne]
  exact hlast

/-! ## How old the last CAM is -/

/-- What holds at an alarm of `st` that sends no CAM and leaves the service as `s`. -/
structure RecentCam (env : Env R) (st : Station R) (r : Readings) (s : CaService R) : Prop where
  timestamp : s.mLastSentCamInfo.timestamp = st.lastCamTime
  elapsed_lt : r.time - s.mLastSentCamInfo.timestamp < second
  elapsed_nonneg : st.sent ≠ [] → 0 ≤ r.time - s.mLastSentCamInfo.timestamp
  /-- From the first second of the clock on there is a last CAM. -/
  sent_ne_nil : second ≤ r.time → st.sent ≠ []
  position : s.mGpsValid = true → ∃ entry distance, st.sent.getLast? = some entry ∧
    CarriesPosition entry.2.cam s.mLastSentCamInfo.lastGps ∧
    env.getDistance s.mLastSentCamInfo.lastGps.latitude s.mLastSentCamInfo.lastGps.longitude
      s.mLatestGps.latitude s.mLatestGps.longitude = some distance ∧ distance ≤ 5

/-- **Bounded staleness.**  Whenever an alarm ends without sending a CAM, the last CAM is
less than a second old, and if the GPS data is valid, it carried a position that is at
most 5 m away from the current one, if and only if their distance is a number where the GPS
data is fresh. -/
theorem boundedStaleness_iff {env : Env R} {mConfig : CaServiceConfig R} {mStationID : UInt32}
    {lastHeading : R} {inputs : List (Input R)} {st : Station R} {r : Readings} {s : CaService R}
    (hrun : run (Station.step env) (.start mConfig mStationID lastHeading) inputs = some st)
    (hclock : Nondecreasing (inputs ++ [.alarm r]))
    (hnone : st.service.alarm env r = some (s, none)) :
    RecentCam env st r s ↔
      (st.service.isGpsFresh r.gps = true → (st.service.distance env).isSome) := by
  have hinv := remembers inputs st hrun
  obtain ⟨⟨hgps, -, htime⟩, rfl⟩ := CaService.alarm_silent_iff.mp hnone
  have htimestamp : (st.service.flagged env r).mLastSentCamInfo.timestamp = st.lastCamTime :=
    hinv.timestamp
  have helapsed : r.time - st.lastCamTime < second := by
    rw [← hinv.timestamp]
    exact CaService.isTimeToTriggerCAM_eq_none_iff.mp htime
  constructor
  · intro hrecent hfresh
    obtain ⟨entry, distance, -, -, hdistance, -⟩ := hrecent.position hfresh
    have hnumber : st.service.distance env = some distance := hdistance
    rw [hnumber]
    rfl
  · intro hnumber
    refine ⟨htimestamp, htimestamp ▸ helapsed, fun hne => ?_, fun hlate hnil => ?_,
      fun hvalid => ?_⟩
    · have hle := hinv.lastCamTime_le hclock hne (show r.time ∈ _ by simp [Input.readings])
      omega
    · rw [lastCamTime_of_sent_nil hnil] at helapsed
      omega
    · obtain ⟨hhas, hnear, -⟩ := CaService.gpsTrigger_eq_none_iff.mp hgps hvalid
      obtain ⟨entry, hentry, hcarries⟩ := hinv.position hhas
      obtain ⟨distance, hdistance⟩ := Option.isSome_iff_exists.mp (hnumber hvalid)
      exact ⟨entry, distance, hentry, hcarries, hdistance, hnear distance hdistance⟩

/-! ## Sample inputs

Positions move along a meridian, where a degree is about 111195 m and the bearing is 0 or
180 degrees. -/

def meridianEnv : Env ℚ where
  getDistance lat₁ _ lat₂ _ := some (111195 * |lat₂ - lat₁|)
  bearing lat₁ _ lat₂ _ := if lat₁ ≤ lat₂ then 0 else 180
  uper_encode cam := if cam.InRange then some [1, 2] else none

/-- The configuration as it is shipped. -/
def defaultConfig : CaServiceConfig ℚ where
  mExpirationTime := 1
  mMaxGpsAge := 10
  mMaxObd2Age := 10
  mThresholdRadiusForHeading := 3 / 10
  mIsRSU := false

/-- An alarm whose readings of the clock are all the same. -/
def Readings.at (now : ℤ) : Readings := ⟨now, now, now, now, now, now⟩

def firstAlarm : Readings := .at (101 * second)

/-- First GPS and OBD2 data of a station that moves at 2 m/s. -/
def movingInputs : List (Input ℚ) :=
  [.gps ⟨0, 0, 0, 100 * second⟩, .obd2 ⟨100 * second, 2⟩]

def standingInputs : List (Input ℚ) :=
  [.gps ⟨0, 0, 0, 100 * second⟩, .alarm firstAlarm]

theorem boundedStaleness_standing : ∃ st s,
    run (Station.step meridianEnv) (.start defaultConfig 1 0) standingInputs = some st ∧
      s.mGpsValid = true ∧
      RecentCam meridianEnv st (.at (101 * second + 100000000)) s := by
  have hsilent : (run (Station.step meridianEnv) (.start defaultConfig 1 0) standingInputs).any
      fun st => (st.service.alarm meridianEnv (.at (101 * second + 100000000))).any
        fun next => next.2.isNone && next.1.mGpsValid := by decide +kernel
  obtain ⟨st, hrun, hst⟩ := (Option.any_eq_true _ _).mp hsilent
  obtain ⟨⟨s, sent⟩, halarm, hs⟩ := (Option.any_eq_true _ _).mp hst
  obtain ⟨hnone, hvalid⟩ := Bool.and_eq_true_iff.mp hs
  obtain rfl : sent = none := Option.isNone_iff_eq_none.mp hnone
  refine ⟨st, s, hrun, hvalid, (boundedStaleness_iff hrun ?_ halarm).mpr fun _ => rfl⟩
  unfold Nondecreasing
  decide

/-- What the functions compute for the positions of `oppositeInputs`, rounded to whole numbers.
The last two of them are opposite, and there 1 - a is -2^(-52). -/
def globeEnv : Env ℚ where
  getDistance lat₁ lon₁ lat₂ lon₂ :=
    if lat₁ = lat₂ ∧ lon₁ = lon₂ then some 0
    else if (lat₁, lon₁, lat₂, lon₂) = (0.08, 0, -0.08, 180) then none
    else some 5003800
  bearing lat₁ _ _ _ := if lat₁ = 0 then 0 else 122
  uper_encode cam := if cam.InRange then some [1, 2] else none

/-- Three positions within half a second, with an alarm at each of the first two. -/
def oppositeInputs : List (Input ℚ) :=
  [.gps ⟨0.16, -45, 0, 100 * second⟩, .alarm firstAlarm,
    .gps ⟨0.08, 0, 0, 101 * second⟩, .alarm (.at (101 * second + 100000000)),
    .gps ⟨-0.08, 180, 0, 101 * second⟩]

/-- The station is on the other side of the globe, and no CAM is sent. -/
theorem not_boundedStaleness_opposite : ∃ st s,
    (∀ lat lon, globeEnv.getDistance lat lon lat lon = some 0) ∧
      run (Station.step globeEnv) (.start defaultConfig 1 0) oppositeInputs = some st ∧
      Nondecreasing (oppositeInputs ++ [.alarm (.at (101 * second + 200000000))]) ∧
      st.service.alarm globeEnv (.at (101 * second + 200000000)) = some (s, none) ∧
      ¬RecentCam globeEnv st (.at (101 * second + 200000000)) s := by
  have hsilent : (run (Station.step globeEnv) (.start defaultConfig 1 0) oppositeInputs).any
      fun st => (st.service.alarm globeEnv (.at (101 * second + 200000000))).any
        fun next => next.2.isNone &&
          (next.1.mGpsValid && (next.1.distance globeEnv).isNone) := by decide +kernel
  obtain ⟨st, hrun, hst⟩ := (Option.any_eq_true _ _).mp hsilent
  obtain ⟨⟨s, sent⟩, halarm, hs⟩ := (Option.any_eq_true _ _).mp hst
  simp only [Bool.and_eq_true, Option.isNone_iff_eq_none] at hs
  obtain ⟨rfl, hvalid, hnan⟩ := hs
  refine ⟨st, s, fun lat lon => if_pos ⟨rfl, rfl⟩, hrun, ?_, halarm, ?_⟩
  · unfold Nondecreasing
    decide
  · intro hrecent
    obtain ⟨entry, distance, -, -, hdistance, -⟩ := hrecent.position hvalid
    have hnumber : s.distance globeEnv = some distance := hdistance
    rw [hnan] at hnumber
    cases hnumber

end OpenC2X.Cam
