import OpenC2X.Cam.SpeedFreshness
import OpenC2X.Common.Buffers
import Mathlib.Tactic.Linarith

/-!
# The unit of the speed

`Obd2Service` reads the speed in m/s and sends it in units of 0.01 m/s, as the CAM expects
it.  `CaService` copies this number into the CAM, and it also compares its change with 1,
which its documentation calls 1 m/s.  So the speed rule fires at changes of more than
0.01 m/s.
-/

namespace OpenC2X.Obd2

open Buffers

/-! ## The OBD2 service -/

/-- One iteration of `receiveData` with the results of `readSpeed` and `readRpm`, which are
-1 for an invalid answer; `none` if nothing is sent. -/
def receiveData (speed : ℚ) (rpm : Int32) (currentTime : Int64) : Option OBD2 :=
  if speed ≠ -1 then
    some
      { time := some currentTime
        -- in 0.01 m/s
        speed := some (.finite (speed * 100))
        rpm := if rpm ≠ -1 then some rpm else none }
  else
    none

/-- One iteration of `simulateData` with the result of `simulateSpeed`. -/
def simulateData (simulatedSpeed : ℚ) (currentTime : Int64) : OBD2 where
  speed := some (.finite (simulatedSpeed * 100))
  time := some currentTime

/-- The service sends the message at the speed `v` in m/s, measured or simulated. -/
def SentAt (v : ℚ) (obd2 : OBD2) : Prop :=
  (∃ rpm currentTime, receiveData v rpm currentTime = some obd2) ∨
    ∃ currentTime, simulateData v currentTime = obd2

theorem SentAt.speed_eq {v : ℚ} {obd2 : OBD2} (h : SentAt v obd2) :
    obd2.speed.value = .finite (v * 100) := by
  rcases h with ⟨rpm, currentTime, hsent⟩ | ⟨currentTime, rfl⟩
  · by_cases hv : v ≠ -1
    · rw [receiveData, if_pos hv] at hsent
      obtain rfl := Option.some.inj hsent
      rfl
    · rw [receiveData, if_neg hv] at hsent
      cases hsent
  · rfl

/-- A speed that can be read is sent. -/
theorem exists_receiveData {v : ℚ} (hv : 0 ≤ v) (rpm : Int32) (currentTime : Int64) :
    ∃ obd2, receiveData v rpm currentTime = some obd2 := by
  have hne : v ≠ -1 := by
    rintro rfl
    exact absurd hv (by decide)
  exact ⟨_, if_pos hne⟩

end OpenC2X.Obd2

namespace OpenC2X.Cam

open Asn1 PartialRun Obd2

/-- What `receiveObd2Data` takes from a message.  The service sends finite speeds only
(`SentAt.speed_eq`). -/
def receiveObd2Data (newObd2 : Buffers.OBD2) : OBD2 ℚ where
  time := newObd2.time.value.toInt
  speed := newObd2.speed.value.toRat

variable {env : Env ℚ} {mConfig : CaServiceConfig ℚ} {mStationID : UInt32} {lastHeading : ℚ}
  {inputs : List (Input ℚ)} {st st' : Station ℚ} {latest : OBD2 ℚ}

/-! ## The latest speed and the last one sent -/

/-- The OBD2 data received last. -/
def LastReceived (inputs : List (Input ℚ)) (latest : OBD2 ℚ) : Prop :=
  ∃ before after, inputs = before ++ .obd2 latest :: after ∧ ∀ obd2, Input.obd2 obd2 ∉ after

/-- The alarm sends a CAM that carries a speed. -/
def SendsSpeed (env : Env ℚ) (s : CaService ℚ) (r : Readings) : Prop :=
  ¬s.Silent env r ∧ s.mConfig.mIsRSU = false ∧ (s.flagged env r).mObd2Valid = true

/-- The OBD2 data at the last alarm that sent a CAM with a speed. -/
def LastSpeedSent (env : Env ℚ) (start : Station ℚ) (inputs : List (Input ℚ))
    (latest : OBD2 ℚ) : Prop :=
  ∃ before r after st, inputs = before ++ .alarm r :: after ∧
    run (Station.step env) start before = some st ∧ SendsSpeed env st.service r ∧
    st.service.mLatestObd2 = latest ∧
    ∀ middle r' after' st', after = middle ++ .alarm r' :: after' →
      run (Station.step env) start (before ++ .alarm r :: middle) = some st' →
      ¬SendsSpeed env st'.service r'

theorem mLatestObd2_step {input : Input ℚ} (h : st.step env input = some st') :
    st'.service.mLatestObd2 =
      match input with
      | .obd2 latest => latest
      | _ => st.service.mLatestObd2 := by
  cases input with
  | gps latest | obd2 latest =>
      obtain rfl := Option.some.inj h
      rfl
  | alarm r =>
      rcases Station.step_alarm h with ⟨-, rfl⟩ | ⟨out, -, hservice, -, -⟩
      · rfl
      · rw [hservice]
        rfl

/-- The service keeps the OBD2 data received last. -/
theorem mLatestObd2_eq {start : Station ℚ} (hrun : run (Station.step env) start inputs = some st)
    (hlast : LastReceived inputs latest) : st.service.mLatestObd2 = latest := by
  obtain ⟨before, after, rfl, hnone⟩ := hlast
  rw [← List.singleton_append, ← List.append_assoc, run_append_eq_some] at hrun
  obtain ⟨st₁, hbefore, hafter⟩ := hrun
  obtain ⟨st₀, -, hstep⟩ := run_concat_eq_some.mp hbefore
  refine run_induction (P := fun inputs st => (∀ obd2, Input.obd2 obd2 ∉ inputs) →
    st.service.mLatestObd2 = latest) (fun _ => mLatestObd2_step hstep) ?_ after st hafter hnone
  intro as input st st' _ hinv hstep hnone
  rw [mLatestObd2_step hstep]
  have hold := hinv fun obd2 hmem => hnone obd2 (List.mem_append_left _ hmem)
  cases input with
  | obd2 latest' =>
      exact absurd (List.mem_append_right _ (List.mem_singleton_self _)) (hnone latest')
  | gps | alarm => exact hold

/-- Only an alarm that sends a speed changes the OBD2 data remembered with the last CAM. -/
theorem lastObd2_step {input : Input ℚ} (h : st.step env input = some st')
    (hvehicle : st.service.mConfig.mIsRSU = false) :
    st'.service.mLastSentCamInfo.lastObd2 = st.service.mLastSentCamInfo.lastObd2 ∨
      ∃ r, input = .alarm r ∧ SendsSpeed env st.service r := by
  cases input with
  | gps latest | obd2 latest =>
      obtain rfl := Option.some.inj h
      exact .inl rfl
  | alarm r =>
      rcases Station.step_alarm h with ⟨-, rfl⟩ | ⟨out, hfired, hservice, -, -⟩
      · exact .inl rfl
      · cases hvalid : (st.service.flagged env r).mObd2Valid with
        | true => exact .inr ⟨r, rfl, hfired, hvehicle, hvalid⟩
        | false =>
            refine .inl ?_
            rw [hservice, CaService.generateCam_info, hvalid]
            dsimp only
            rw [Bool.and_false]
            rfl

theorem lastObd2_of_sendsSpeed {r : Readings} (h : st.step env (.alarm r) = some st')
    (hsends : SendsSpeed env st.service r) :
    st'.service.mLastSentCamInfo.lastObd2 = st.service.mLatestObd2 := by
  obtain ⟨hfired, hvehicle, hvalid⟩ := hsends
  rcases Station.step_alarm h with ⟨hsilent, -⟩ | ⟨out, -, hservice, -, -⟩
  · exact absurd hsilent hfired
  · have hconfig : (st.service.flagged env r).mConfig.mIsRSU = false := hvehicle
    rw [hservice, CaService.generateCam_info, hvalid, hconfig]
    rfl

/-- What is remembered with the last CAM is the OBD2 data of the last one that carried a
speed. -/
theorem lastObd2_eq
    (hrun : run (Station.step env) (.start mConfig mStationID lastHeading) inputs = some st)
    (hlast : LastSpeedSent env (.start mConfig mStationID lastHeading) inputs latest) :
    st.service.mLastSentCamInfo.lastObd2 = latest := by
  obtain ⟨before, r, after, st₀, rfl, hbefore, hsends, hlatest, hnone⟩ := hlast
  have hvehicle : mConfig.mIsRSU = false := mConfig_eq before st₀ hbefore ▸ hsends.2.1
  rw [← List.singleton_append, ← List.append_assoc, run_append_eq_some] at hrun
  obtain ⟨st₁, hsent, hafter⟩ := hrun
  obtain ⟨st₀', hbefore', hstep⟩ := run_concat_eq_some.mp hsent
  obtain rfl : st₀ = st₀' := Option.some.inj (hbefore.symm.trans hbefore')
  refine run_induction (P := fun middle st => ∀ rest, after = middle ++ rest →
    st.service.mLastSentCamInfo.lastObd2 = latest) ?_ ?_ after st hafter [] (by simp)
  · intro rest _
    rw [lastObd2_of_sendsSpeed hstep hsends, hlatest]
  · intro middle input st' st'' hmiddle hinv hstep' rest heq
    have hrun' : run (Station.step env) (.start mConfig mStationID lastHeading)
        (before ++ [.alarm r] ++ middle) = some st' :=
      run_append_eq_some.mpr ⟨st₁, hsent, hmiddle⟩
    have hconfig := congrArg CaServiceConfig.mIsRSU (mConfig_eq _ _ hrun')
    rw [List.append_assoc] at heq
    rcases lastObd2_step hstep' (hconfig.trans hvehicle) with hkept | ⟨r', rfl, hsends'⟩
    · rw [hkept]
      exact hinv _ heq
    · refine absurd hsends' (hnone middle r' rest st' heq ?_)
      rwa [List.append_assoc] at hrun'

/-! ## The speed rule -/

/-- The comparison of two speeds that are scaled by 100 with 1. -/
theorem one_lt_scaled_iff {v₀ v₁ : ℚ} : 1 < |v₁ * 100 - v₀ * 100| ↔ 1 / 100 < |v₁ - v₀| := by
  have hscaled : |v₁ * 100 - v₀ * 100| = |v₁ - v₀| * 100 := by
    rw [← sub_mul, abs_mul, abs_of_pos (by norm_num : (0 : ℚ) < 100)]
  rw [hscaled]
  constructor <;>
  · intro h
    linarith

/-- **Unit of the speed rule.**  In every run of a vehicle that gets its OBD2 data from
`Obd2Service`, with the speeds `v₀` at the last CAM that carried one and `v₁` now, the speed
rule fires exactly at changes of more than 1 m/s if and only if the change is at most
0.01 m/s or more than 1 m/s. -/
theorem speedRule_iff {v₀ v₁ : ℚ} {obd2₀ obd2₁ : Buffers.OBD2}
    (hv₀ : SentAt v₀ obd2₀) (hv₁ : SentAt v₁ obd2₁)
    (hrun : run (Station.step env) (.start mConfig mStationID lastHeading) inputs = some st)
    (hlast : LastSpeedSent env (.start mConfig mStationID lastHeading) inputs
      (receiveObd2Data obd2₀))
    (hnow : LastReceived inputs (receiveObd2Data obd2₁))
    {currentTime : ℤ} (hfresh : st.service.isObd2Fresh currentTime = true) :
    ((st.service.isSpeedChanged currentTime).2.isSome = true ↔ 1 < |v₁ - v₀|) ↔
      |v₁ - v₀| ≤ 1 / 100 ∨ 1 < |v₁ - v₀| := by
  have hdelta : st.service.deltaSpeed = |v₁ * 100 - v₀ * 100| := by
    rw [CaService.deltaSpeed, mLatestObd2_eq hrun hnow, lastObd2_eq hrun hlast]
    simp only [receiveObd2Data, hv₀.speed_eq, hv₁.speed_eq, Double.toRat_finite]
  have hfires : (st.service.isSpeedChanged currentTime).2.isSome = true ↔ 1 / 100 < |v₁ - v₀| := by
    rw [CaService.isSpeedChanged_eq, CaService.speedTrigger, if_pos hfresh, ← one_lt_scaled_iff,
      hdelta]
    split_ifs with hfire <;> simp [hfire]
  rw [hfires]
  constructor
  · intro hiff
    by_cases hfire : 1 / 100 < |v₁ - v₀|
    · exact .inr (hiff.mp hfire)
    · exact .inl (not_lt.mp hfire)
  · rintro (hsmall | hlarge)
    · constructor <;> intro h <;> linarith
    · constructor <;> intro h <;> linarith

/-! ## A vehicle that accelerates from 10 m/s -/

/-- The message at a measured speed, without the engine speed. -/
def measured (v : ℚ) (time : Int64) : Buffers.OBD2 where
  time := some time
  speed := some (.finite (v * 100))

theorem sentAt_measured {v : ℚ} (hv : v ≠ -1) (time : Int64) : SentAt v (measured v time) :=
  .inl ⟨-1, time, if_pos hv⟩

def startInputs : List (Input ℚ) := [.obd2 (receiveObd2Data (measured 10 100000000000))]

/-- The vehicle sends a CAM at 10 m/s, and then the speed is `v`. -/
def acceleratingInputs (v : ℚ) : List (Input ℚ) :=
  startInputs ++ [.alarm firstAlarm, .obd2 (receiveObd2Data (measured v 102000000000))]

/-- After the start the first alarm sends a CAM with the speed. -/
theorem exists_sendsSpeed : ∃ st₀ st₁,
    run (Station.step meridianEnv) (.start defaultConfig 1 0) startInputs = some st₀ ∧
      st₀.step meridianEnv (.alarm firstAlarm) = some st₁ ∧
      SendsSpeed meridianEnv st₀.service firstAlarm := by
  have heval : (run (Station.step meridianEnv) (.start defaultConfig 1 0) startInputs).any
      fun st => (st.service.rules meridianEnv firstAlarm).2.isSome &&
        ((st.service.flagged meridianEnv firstAlarm).mObd2Valid &&
          (st.step meridianEnv (.alarm firstAlarm)).isSome) := by decide +kernel
  obtain ⟨st₀, hrun, hst₀⟩ := (Option.any_eq_true _ _).mp heval
  obtain ⟨hfires, hst₀⟩ := Bool.and_eq_true_iff.mp hst₀
  obtain ⟨hvalid, halarm⟩ := Bool.and_eq_true_iff.mp hst₀
  obtain ⟨st₁, hst₁⟩ := Option.isSome_iff_exists.mp halarm
  have hfired : ¬st₀.service.Silent meridianEnv firstAlarm := by
    intro hsilent
    rw [CaService.rules_snd_eq_none_iff.mpr hsilent] at hfires
    cases hfires
  have hvehicle : st₀.service.mConfig.mIsRSU = false :=
    congrArg CaServiceConfig.mIsRSU (mConfig_eq _ _ hrun)
  exact ⟨st₀, st₁, hrun, hst₁, hfired, hvehicle, hvalid⟩

theorem exists_accelerating (v : ℚ) : ∃ st,
    run (Station.step meridianEnv) (.start defaultConfig 1 0) (acceleratingInputs v) = some st ∧
      LastSpeedSent meridianEnv (.start defaultConfig 1 0) (acceleratingInputs v)
        (receiveObd2Data (measured 10 100000000000)) ∧
      LastReceived (acceleratingInputs v) (receiveObd2Data (measured v 102000000000)) ∧
      st.service.isObd2Fresh (102 * second) = true := by
  obtain ⟨st₀, st₁, hrun, hst₁, hsends⟩ := exists_sendsSpeed
  have hconfig := mConfig_eq _ _ (run_concat_eq_some.mpr ⟨st₀, hrun, hst₁⟩)
  have hlatest : st₀.service.mLatestObd2 = receiveObd2Data (measured 10 100000000000) :=
    mLatestObd2_eq hrun ⟨[], [], rfl, by simp⟩
  refine ⟨_, run_append_eq_some.mpr ⟨st₀, hrun, run_pair.mpr ⟨st₁, hst₁, rfl⟩⟩, ?_, ?_, ?_⟩
  · refine ⟨startInputs, firstAlarm, _, st₀, rfl, hrun, hsends, hlatest, ?_⟩
    -- no alarm follows
    intro middle r' after' st' heq
    have hmem : Input.alarm r' ∈ [Input.obd2 (receiveObd2Data (measured v 102000000000))] := by
      rw [heq]
      exact List.mem_append_right _ List.mem_cons_self
    cases List.mem_singleton.mp hmem
  · exact ⟨startInputs ++ [.alarm firstAlarm], [], by simp [acceleratingInputs], by simp⟩
  · simp only [CaService.isObd2Fresh, hconfig]
    rfl

/-- A change of 2 m/s sets off the rule, as it should. -/
theorem speedRule_twelve : ∃ st,
    run (Station.step meridianEnv) (.start defaultConfig 1 0) (acceleratingInputs 12) = some st ∧
      ((st.service.isSpeedChanged (102 * second)).2.isSome = true ↔ (1 : ℚ) < |12 - 10|) := by
  obtain ⟨st, hrun, hlast, hnow, hfresh⟩ := exists_accelerating 12
  have hiff := speedRule_iff (sentAt_measured (by decide) _) (sentAt_measured (by decide) _)
    hrun hlast hnow hfresh
  exact ⟨st, hrun, hiff.mpr (.inr (by norm_num))⟩

/-- A change of 0.5 m/s sets it off as well. -/
theorem not_speedRule_half : ∃ st,
    run (Station.step meridianEnv) (.start defaultConfig 1 0) (acceleratingInputs (21 / 2)) =
        some st ∧
      LastSpeedSent meridianEnv (.start defaultConfig 1 0) (acceleratingInputs (21 / 2))
        (receiveObd2Data (measured 10 100000000000)) ∧
      LastReceived (acceleratingInputs (21 / 2))
        (receiveObd2Data (measured (21 / 2) 102000000000)) ∧
      st.service.isObd2Fresh (102 * second) = true ∧
      ¬((st.service.isSpeedChanged (102 * second)).2.isSome = true ↔ (1 : ℚ) < |21 / 2 - 10|) := by
  obtain ⟨st, hrun, hlast, hnow, hfresh⟩ := exists_accelerating (21 / 2)
  refine ⟨st, hrun, hlast, hnow, hfresh, ?_⟩
  have hdelta : st.service.deltaSpeed = 50 := by
    rw [CaService.deltaSpeed, mLatestObd2_eq hrun hnow, lastObd2_eq hrun hlast]
    decide +kernel
  rw [CaService.isSpeedChanged_eq, CaService.speedTrigger, if_pos hfresh, hdelta]
  norm_num

end OpenC2X.Cam
