import OpenC2X.Cam.Alarms

/-!
# The speed in a CAM

A vehicle puts the latest OBD2 speed into a CAM if `mObd2Valid` is set.  The flag stands
for "OBD2 data was received and is not too old", but only `isSpeedChanged` computes it,
and `alarm` does not come to that if a rule for the GPS data fires.  Then the flag is the
one that an earlier alarm left behind.
-/

namespace OpenC2X.Cam

open Asn1 PartialRun

variable {R : Type*} [Field R] [LinearOrder R] [FloorRing R]

/-- OBD2 data has been received in the run up to an alarm and is not too old there. -/
def Obd2Available (inputs : List (Input R)) (s : CaService R) (r : Readings) : Prop :=
  (∃ latest, Input.obd2 latest ∈ inputs) ∧ s.isObd2Fresh r.obd2 = true

/-- The CAM of a vehicle carries the latest speed, or no speed if there is none. -/
def CarriesFreshSpeed (inputs : List (Input R)) (s : CaService R) (r : Readings) (cam : CAM) :
    Prop :=
  ∃ container,
    cam.cam.camParameters.highFrequencyContainer = .basicVehicleContainerHighFrequency container ∧
      (Obd2Available inputs s r → container.speed.speedValue = truncate s.mLatestObd2.speed) ∧
      (¬Obd2Available inputs s r → container.speed.speedValue = SpeedValue_unavailable)

/-- `mObd2Valid` is current when the CAM is generated: the old flag if a rule for the GPS
data fires, else the age test. -/
def FlagCurrent (env : Env R) (inputs : List (Input R)) (s : CaService R) (r : Readings) : Prop :=
  if (s.gpsTrigger env r.gps).isSome then
    s.mObd2Valid = true ↔ Obd2Available inputs s r
  else
    s.isObd2Fresh r.obd2 = true → ∃ latest, Input.obd2 latest ∈ inputs

omit [FloorRing R] in
/-- The flag that `generateCam` reads is the right one. -/
theorem flagCurrent_iff {env : Env R} {inputs : List (Input R)} {s : CaService R}
    {r : Readings} : FlagCurrent env inputs s r ↔
      ((s.flagged env r).mObd2Valid = true ↔ Obd2Available inputs s r) := by
  unfold FlagCurrent CaService.flagged CaService.obd2ValidAfter Obd2Available
  cases (s.gpsTrigger env r.gps).isSome with
  | true => simp
  | false =>
      simp only [Bool.false_eq_true, if_false]
      constructor
      · exact fun h => ⟨fun hfresh => ⟨h hfresh, hfresh⟩, fun h' => h'.2⟩
      · exact fun h hfresh => (h.mp hfresh).1

/-- What a vehicle puts into the speed field. -/
theorem speedValue_generateCam {s : CaService R} (env : Env R) (currTime : ℤ)
    (hvehicle : s.mConfig.mIsRSU = false) : ∃ container,
    (s.generateCam env currTime).2.cam.camParameters.highFrequencyContainer =
        .basicVehicleContainerHighFrequency container ∧
      container.speed.speedValue =
        if s.mObd2Valid then truncate s.mLatestObd2.speed else SpeedValue_unavailable := by
  refine ⟨s.basicVehicleContainer.2, ?_, ?_⟩
  · rw [CaService.generateCam_highFrequencyContainer, CaService.highFrequencyContainer, hvehicle]
    rfl
  · unfold CaService.basicVehicleContainer
    cases s.mObd2Valid <;> rfl

/-- **Speed in a CAM.**  In every run of a vehicle, a CAM that an alarm generates carries
the latest OBD2 speed if such data was received and is not too old, and else no speed, if
and only if the flag is current at that alarm or the latest speed reads as "unavailable"
anyway. -/
theorem speedFreshness_iff {env : Env R} {mConfig : CaServiceConfig R} {mStationID : UInt32}
    {lastHeading : R} {inputs : List (Input R)} {st : Station R} {r : Readings} {cam : CAM}
    (hrun : run (Station.step env) (.start mConfig mStationID lastHeading) inputs = some st)
    (hvehicle : mConfig.mIsRSU = false)
    (hcam : st.service.generatedCam env r = some cam) :
    CarriesFreshSpeed inputs st.service r cam ↔
      FlagCurrent env inputs st.service r ∨
        truncate st.service.mLatestObd2.speed = SpeedValue_unavailable := by
  obtain ⟨-, rfl⟩ := CaService.generatedCam_eq_some_iff.mp hcam
  have hconfig : (st.service.flagged env r).mConfig.mIsRSU = false :=
    (congrArg CaServiceConfig.mIsRSU (mConfig_eq inputs st hrun)).trans hvehicle
  obtain ⟨container, hcontainer, hvalue⟩ := speedValue_generateCam env r.generate hconfig
  have hlatest : (st.service.flagged env r).mLatestObd2 = st.service.mLatestObd2 := rfl
  rw [hlatest] at hvalue
  rw [flagCurrent_iff]
  have hiff : CarriesFreshSpeed inputs st.service r
      ((st.service.flagged env r).generateCam env r.generate).2 ↔
        (Obd2Available inputs st.service r →
          container.speed.speedValue = truncate st.service.mLatestObd2.speed) ∧
        (¬Obd2Available inputs st.service r →
          container.speed.speedValue = SpeedValue_unavailable) := by
    constructor
    · rintro ⟨container', hcontainer', h⟩
      rw [hcontainer, HighFrequencyContainer.basicVehicleContainerHighFrequency.injEq]
        at hcontainer'
      exact hcontainer' ▸ h
    · exact fun h => ⟨container, hcontainer, h⟩
  rw [hiff, hvalue]
  by_cases havailable : Obd2Available inputs st.service r <;>
    cases (st.service.flagged env r).mObd2Valid <;> simp [havailable, eq_comm]

/-! ## The first CAM of a vehicle -/

/-- Without GPS data the speed rule sets off the CAM, and the flag is current. -/
theorem speedFreshness_withoutGps : ∃ st cam,
    run (Station.step meridianEnv) (.start defaultConfig 1 0) [.obd2 ⟨100 * second, 2⟩] =
        some st ∧
      st.service.generatedCam meridianEnv firstAlarm = some cam ∧
      CarriesFreshSpeed [.obd2 ⟨100 * second, 2⟩] st.service firstAlarm cam := by
  have heval : (run (Station.step meridianEnv) (.start defaultConfig 1 0)
      [.obd2 ⟨100 * second, 2⟩]).any fun st =>
        (st.service.generatedCam meridianEnv firstAlarm).isSome &&
          !(st.service.gpsTrigger meridianEnv firstAlarm.gps).isSome := by decide +kernel
  obtain ⟨st, hrun, hst⟩ := (Option.any_eq_true _ _).mp heval
  obtain ⟨hsome, htrigger⟩ := Bool.and_eq_true_iff.mp hst
  obtain ⟨cam, hcam⟩ := Option.isSome_iff_exists.mp hsome
  refine ⟨st, cam, hrun, hcam, (speedFreshness_iff hrun rfl hcam).mpr (Or.inl ?_)⟩
  rw [FlagCurrent, if_neg (by simpa using htrigger)]
  exact fun _ => ⟨⟨100 * second, 2⟩, List.mem_singleton_self _⟩

/-- The first GPS data sets off a CAM while the flag is still false: the CAM carries no
speed, although OBD2 data of one second ago is there. -/
theorem not_speedFreshness_moving : ∃ st cam,
    run (Station.step meridianEnv) (.start defaultConfig 1 0) movingInputs = some st ∧
      st.service.generatedCam meridianEnv firstAlarm = some cam ∧
      ¬CarriesFreshSpeed movingInputs st.service firstAlarm cam := by
  have heval : (run (Station.step meridianEnv) (.start defaultConfig 1 0) movingInputs).any
      fun st => (st.service.generatedCam meridianEnv firstAlarm).isSome &&
        (st.service.isObd2Fresh firstAlarm.obd2 &&
          (!(st.service.flagged meridianEnv firstAlarm).mObd2Valid &&
            truncate st.service.mLatestObd2.speed == 2)) := by decide +kernel
  obtain ⟨st, hrun, hst⟩ := (Option.any_eq_true _ _).mp heval
  obtain ⟨hsome, hst⟩ := Bool.and_eq_true_iff.mp hst
  obtain ⟨hfresh, hst⟩ := Bool.and_eq_true_iff.mp hst
  obtain ⟨hflag, hlatest⟩ := Bool.and_eq_true_iff.mp hst
  obtain ⟨cam, hcam⟩ := Option.isSome_iff_exists.mp hsome
  refine ⟨st, cam, hrun, hcam, ?_⟩
  obtain ⟨-, rfl⟩ := CaService.generatedCam_eq_some_iff.mp hcam
  have hvehicle : (st.service.flagged meridianEnv firstAlarm).mConfig.mIsRSU = false :=
    congrArg CaServiceConfig.mIsRSU (mConfig_eq movingInputs st hrun)
  obtain ⟨container, hcontainer, hvalue⟩ :=
    speedValue_generateCam meridianEnv firstAlarm.generate hvehicle
  rw [Bool.not_eq_true'] at hflag
  rw [hflag, if_neg Bool.false_ne_true] at hvalue
  rintro ⟨container', hcontainer', havailable, -⟩
  rw [hcontainer] at hcontainer'
  obtain rfl := HighFrequencyContainer.basicVehicleContainerHighFrequency.inj hcontainer'
  have hreceived : ∃ latest, Input.obd2 latest ∈ movingInputs :=
    ⟨⟨100 * second, 2⟩, by simp [movingInputs]⟩
  rw [havailable ⟨hreceived, hfresh⟩, eq_of_beq hlatest] at hvalue
  exact absurd hvalue (by decide)

end OpenC2X.Cam
