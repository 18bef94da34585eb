import OpenC2X.Cam.Alarms

/-!
# Repeated triggers

After an alarm that sends a CAM, the next alarm should have no reason to send another one
as long as there is no new data, the data keeps its validity and the last CAM is younger
than a second.  Each rule compares with a value that `generateCam` remembers, but not on
all of its paths: road side units never remember OBD2 data, and a vehicle does not if a
rule for the GPS data fired while `mObd2Valid` was false from earlier.  The heading rule
compares the heading of a zero movement with the last one if no distance is required.
-/

namespace OpenC2X.Cam

open PartialRun

variable {R : Type*} [Field R] [LinearOrder R] [FloorRing R]

/-- The next alarm after the one with the readings `r` sees the data as valid or invalid as
that one did, and less than a second has passed since its CAM. -/
def NoNews (s : CaService R) (r r' : Readings) : Prop :=
  s.isGpsFresh r'.gps = s.isGpsFresh r.gps ∧ s.isObd2Fresh r'.obd2 = s.isObd2Fresh r.obd2 ∧
    r'.time - r.generate < second

omit [Field R] [LinearOrder R] [FloorRing R] in
instance (s : CaService R) (r r' : Readings) : Decidable (NoNews s r r') :=
  inferInstanceAs (Decidable (_ ∧ _ ∧ _))

/-- The heading without movement is not far from the current one. -/
def HeadingSettled (env : Env R) (s : CaService R) : Prop :=
  let here := s.getHeading env s.mLatestGps.latitude s.mLatestGps.longitude
    s.mLatestGps.latitude s.mLatestGps.longitude
  CaService.HeadingUnchanged here (s.currentHeading env)

omit [FloorRing R] in
instance (env : Env R) (s : CaService R) : Decidable (HeadingSettled env s) :=
  inferInstanceAs (Decidable (CaService.HeadingUnchanged _ _))

/-- The next speed comparison is with the latest speed, or with one close to it. -/
def SpeedSettled (env : Env R) (s : CaService R) (r : Readings) : Prop :=
  if s.mConfig.mIsRSU then |s.mLatestObd2.speed| ≤ 1
  else s.deltaSpeed ≤ 1 ∨ s.gpsTrigger env r.gps = none ∨ s.mObd2Valid = true

/-! ## Road side units have no last OBD2 data -/

/-- A road side unit keeps the empty OBD2 message. -/
def RsuKeepsNoSpeed (s : CaService R) : Prop :=
  s.mConfig.mIsRSU = true → s.mLastSentCamInfo.lastObd2 = ⟨0, 0⟩

theorem step_rsuKeepsNoSpeed {env : Env R} {input : Input R} {st st' : Station R}
    (hinv : RsuKeepsNoSpeed st.service) (h : st.step env input = some st') :
    RsuKeepsNoSpeed st'.service := by
  cases input with
  | gps latest | obd2 latest =>
      obtain rfl := Option.some.inj h
      exact hinv
  | alarm r =>
      rcases Station.step_alarm h with ⟨-, rfl⟩ | ⟨out, -, hservice, -, -⟩
      · exact hinv
      · intro hrsu
        rw [hservice] at hrsu ⊢
        have hrsu' : (st.service.flagged env r).mConfig.mIsRSU = true := hrsu
        rw [CaService.generateCam_info]
        simp only [hrsu', Bool.not_true, Bool.false_and, Bool.false_eq_true, if_false]
        exact hinv hrsu

theorem rsuKeepsNoSpeed {env : Env R} {mConfig : CaServiceConfig R} {mStationID : UInt32}
    {lastHeading : R} (inputs : List (Input R)) (st : Station R)
    (h : run (Station.step env) (.start mConfig mStationID lastHeading) inputs = some st) :
    RsuKeepsNoSpeed st.service := by
  refine run_induction (P := fun _ st => RsuKeepsNoSpeed st.service) ?_
    (fun _ _ _ _ _ hinv hstep => step_rsuKeepsNoSpeed hinv hstep) inputs st h
  exact fun _ => rfl

/-! ## The alarm after a CAM -/

section NextAlarm

variable [IsStrictOrderedRing R] {env : Env R} {s : CaService R} {r r' : Readings}

/-- After a CAM the rules for the GPS data are silent if the heading is settled. -/
theorem gpsTrigger_generateCam (hself : ∀ lat lon, env.getDistance lat lon lat lon = some 0)
    (hfresh : s.isGpsFresh r'.gps = s.isGpsFresh r.gps) :
    ((s.flagged env r).generateCam env r.generate).1.gpsTrigger env r'.gps = none ↔
      (s.isGpsFresh r.gps = true → HeadingSettled env s) := by
  have hinfo := CaService.generateCam_info (s.flagged env r) env r.generate
  set s₁ := ((s.flagged env r).generateCam env r.generate).1
  have hfresh₁ : s₁.isGpsFresh r'.gps = s.isGpsFresh r.gps := hfresh
  rw [CaService.gpsTrigger_eq_none_iff, hfresh₁]
  refine imp_congr_right fun hvalid => ?_
  have hflag : (s.flagged env r).mGpsValid = true := hvalid
  rw [hflag] at hinfo
  simp only [if_true] at hinfo
  have hdistance : s₁.distance env = some 0 := by
    unfold CaService.distance
    rw [hinfo]
    exact hself _ _
  have hhere : s₁.currentHeading env = s.getHeading env s.mLatestGps.latitude
      s.mLatestGps.longitude s.mLatestGps.latitude s.mLatestGps.longitude := by
    unfold CaService.currentHeading
    rw [hinfo]
    rfl
  have hlast : s₁.mLastSentCamInfo.lastHeading = s.currentHeading env := by
    rw [hinfo]
    rfl
  rw [CaService.isHeadingChanged_eq_none_iff, hdistance, hhere, hlast]
  constructor
  · exact fun h => h.2.2
  · intro h
    exact ⟨by rw [hinfo], by simp, h⟩

/-- After a CAM the speed rule is silent if the speed is settled. -/
theorem speedTrigger_generateCam
    (hfresh : s.isObd2Fresh r'.obd2 = s.isObd2Fresh r.obd2)
    (hlast : RsuKeepsNoSpeed s) :
    ((s.flagged env r).generateCam env r.generate).1.speedTrigger r'.obd2 = none ↔
      (s.isObd2Fresh r.obd2 = true → SpeedSettled env s r) := by
  have hinfo := CaService.generateCam_info (s.flagged env r) env r.generate
  set s₁ := ((s.flagged env r).generateCam env r.generate).1
  have hfresh₁ : s₁.isObd2Fresh r'.obd2 = s.isObd2Fresh r.obd2 := hfresh
  have hlatest : s₁.mLatestObd2 = s.mLatestObd2 := rfl
  rw [CaService.speedTrigger_eq_none_iff, hfresh₁]
  refine imp_congr_right fun hvalid => ?_
  have hlastObd2 : s₁.mLastSentCamInfo.lastObd2 =
      if !s.mConfig.mIsRSU && s.obd2ValidAfter env r then s.mLatestObd2
      else s.mLastSentCamInfo.lastObd2 := by
    rw [hinfo]
    rfl
  unfold SpeedSettled CaService.deltaSpeed
  rw [hlatest, hlastObd2]
  cases hrsu : s.mConfig.mIsRSU with
  | true => simp [hlast hrsu]
  | false =>
      -- the flag is the old one if a rule for the GPS data fired, else that of this alarm
      unfold CaService.obd2ValidAfter
      rw [hvalid]
      cases s.gpsTrigger env r.gps with
      | none => simp
      | some t => cases s.mObd2Valid <;> simp

end NextAlarm

/-- **No repeated trigger.**  In every reachable state: if an alarm sends a CAM, and until
the next alarm no data arrives, the data keeps its validity and less than a second passes
from that CAM, then the next alarm sends none if and only if the heading is settled where
the position is valid, and the speed is settled where the OBD2 data is valid. -/
theorem noRepeatedTrigger_iff [IsStrictOrderedRing R] {env : Env R}
    {mConfig : CaServiceConfig R} {mStationID : UInt32} {lastHeading : R}
    {inputs : List (Input R)} {st : Station R} {r r' : Readings} {s₁ : CaService R}
    {sent : Sent R}
    (hself : ∀ lat lon, env.getDistance lat lon lat lon = some 0)
    (hrun : run (Station.step env) (.start mConfig mStationID lastHeading) inputs = some st)
    (hsent : st.service.alarm env r = some (s₁, some sent))
    (hnews : NoNews st.service r r') :
    (∃ s₂, s₁.alarm env r' = some (s₂, none)) ↔
      (st.service.isGpsFresh r.gps = true → HeadingSettled env st.service) ∧
        (st.service.isObd2Fresh r.obd2 = true → SpeedSettled env st.service r) := by
  obtain ⟨-, rfl, -⟩ := CaService.alarm_sent hsent
  obtain ⟨hgps, hobd2, htime⟩ := hnews
  have htimestamp : ((st.service.flagged env r).generateCam env
      r.generate).1.mLastSentCamInfo.timestamp = r.generate := by
    rw [CaService.generateCam_info]
  rw [← gpsTrigger_generateCam hself hgps,
    ← speedTrigger_generateCam hobd2 (rsuKeepsNoSpeed inputs st hrun)]
  constructor
  · rintro ⟨s₂, hnone⟩
    obtain ⟨⟨hgps₁, hspeed₁, -⟩, -⟩ := CaService.alarm_silent_iff.mp hnone
    exact ⟨hgps₁, hspeed₁⟩
  · rintro ⟨hgps₁, hspeed₁⟩
    refine ⟨_, CaService.alarm_silent_iff.mpr ⟨⟨hgps₁, hspeed₁, ?_⟩, rfl⟩⟩
    rw [CaService.isTimeToTriggerCAM_eq_none_iff, htimestamp]
    exact htime

/-! ## Two alarms, 100 ms apart -/

def nextAlarm : Readings := .at (101 * second + 100000000)

/-- After these inputs the first alarm sends a CAM and the next one comes without news;
`p` tells about the service before the first alarm and after it. -/
def sendsWithoutNews (mConfig : CaServiceConfig ℚ) (inputs : List (Input ℚ))
    (p : CaService ℚ → CaService ℚ → Bool) : Bool :=
  (run (Station.step meridianEnv) (.start mConfig 1 0) inputs).any fun st =>
    (st.service.alarm meridianEnv firstAlarm).any fun next =>
      next.2.isSome && decide (NoNews st.service firstAlarm nextAlarm) && p st.service next.1

theorem exists_of_sendsWithoutNews {mConfig : CaServiceConfig ℚ} {inputs : List (Input ℚ)}
    {p : CaService ℚ → CaService ℚ → Bool} (h : sendsWithoutNews mConfig inputs p = true) :
    ∃ st s₁ sent, run (Station.step meridianEnv) (.start mConfig 1 0) inputs = some st ∧
      st.service.alarm meridianEnv firstAlarm = some (s₁, some sent) ∧
      NoNews st.service firstAlarm nextAlarm ∧ p st.service s₁ = true := by
  obtain ⟨st, hrun, hst⟩ := (Option.any_eq_true _ _).mp h
  obtain ⟨⟨s₁, out⟩, halarm, hs₁⟩ := (Option.any_eq_true _ _).mp hst
  simp only [Bool.and_eq_true, decide_eq_true_eq] at hs₁
  obtain ⟨⟨hsome, hnews⟩, hp⟩ := hs₁
  obtain ⟨sent, rfl⟩ := Option.isSome_iff_exists.mp hsome
  exact ⟨st, s₁, sent, hrun, halarm, hnews, hp⟩

theorem meridianEnv_self (lat lon : ℚ) : meridianEnv.getDistance lat lon lat lon = some 0 := by
  simp [meridianEnv]

/-- A vehicle that stands still without OBD2 data. -/
theorem noRepeatedTrigger_standing : ∃ st s₁ sent,
    run (Station.step meridianEnv) (.start defaultConfig 1 0) [.gps ⟨0, 0, 0, 100 * second⟩] =
        some st ∧
      st.service.alarm meridianEnv firstAlarm = some (s₁, some sent) ∧
      ∃ s₂, s₁.alarm meridianEnv nextAlarm = some (s₂, none) := by
  have heval : sendsWithoutNews defaultConfig [.gps ⟨0, 0, 0, 100 * second⟩] fun s _ =>
      decide (HeadingSettled meridianEnv s) && !s.isObd2Fresh firstAlarm.obd2 := by
    decide +kernel
  obtain ⟨st, s₁, sent, hrun, hsent, hnews, hp⟩ := exists_of_sendsWithoutNews heval
  rw [Bool.and_eq_true, decide_eq_true_eq, Bool.not_eq_true'] at hp
  refine ⟨st, s₁, sent, hrun, hsent, ?_⟩
  refine (noRepeatedTrigger_iff meridianEnv_self hrun hsent hnews).mpr ⟨fun _ => hp.1, ?_⟩
  intro hfresh
  rw [hp.2] at hfresh
  exact nomatch hfresh

/-- With this configuration a second CAM follows the first one without news. -/
def RepeatsTrigger (mConfig : CaServiceConfig ℚ) : Prop :=
  ∃ st s₁ sent, run (Station.step meridianEnv) (.start mConfig 1 0) movingInputs = some st ∧
    st.service.alarm meridianEnv firstAlarm = some (s₁, some sent) ∧
    NoNews st.service firstAlarm nextAlarm ∧
    ¬∃ s₂, s₁.alarm meridianEnv nextAlarm = some (s₂, none)

theorem repeatsTrigger_of_eval {mConfig : CaServiceConfig ℚ}
    (h : sendsWithoutNews mConfig movingInputs fun _ s₁ =>
      !(s₁.alarm meridianEnv nextAlarm).any fun next => next.2.isNone) :
    RepeatsTrigger mConfig := by
  obtain ⟨st, s₁, sent, hrun, hsent, hnews, hp⟩ := exists_of_sendsWithoutNews h
  refine ⟨st, s₁, sent, hrun, hsent, hnews, ?_⟩
  rintro ⟨s₂, hnone⟩
  simp [hnone] at hp

/-- The first GPS data sets off a CAM, which does not remember the speed: the speed rule
fires at the next alarm. -/
theorem not_noRepeatedTrigger_moving :
    RepeatsTrigger defaultConfig ∧ RepeatsTrigger { defaultConfig with mIsRSU := true } :=
  ⟨repeatsTrigger_of_eval (by decide +kernel), repeatsTrigger_of_eval (by decide +kernel)⟩

end OpenC2X.Cam
