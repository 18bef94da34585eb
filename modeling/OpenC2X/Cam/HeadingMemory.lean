import OpenC2X.Cam.Alarms
import Mathlib.Tactic.Linarith

/-!
# The heading that is remembered

The heading rule compares the current heading with `lastHeading`, which `generateCam`
computes from the position of the CAM before and the one it sends.  At the first CAM with
a position there is none before, and at a CAM that was set off without much movement the
heading is -1; `generateCam` remembers it all the same, and the next comparison is with
this number.

To say where a remembered heading comes from, a run is annotated with the positions that
were received and that CAMs carried.
-/

namespace OpenC2X.Cam

open PartialRun

variable {R : Type*} [Field R] [LinearOrder R] [FloorRing R]

/-! ## Runs with the origins of positions -/

/-- Which received GPS data the service has used, `none` where there was none. -/
structure Origins (R : Type*) where
  latest : Option (GPS R)
  /-- The data in the last CAM with a position. -/
  carried : Option (GPS R)
  /-- The data in the CAM with a position before that one. -/
  carriedBefore : Option (GPS R)

/-- The alarm sends a CAM with a position. -/
def sendsPosition (env : Env R) (s : CaService R) (r : Readings) : Bool :=
  (s.rules env r).2.isSome && s.isGpsFresh r.gps

/-- What an input to the service `s` does to the origins. -/
def Origins.note (env : Env R) (s : CaService R) (o : Origins R) : Input R → Origins R
  | .gps latest => { o with latest := some latest }
  | .obd2 _ => o
  | .alarm r =>
      if sendsPosition env s r then
        { o with carried := o.latest, carriedBefore := o.carried }
      else
        o

structure Traced (R : Type*) where
  station : Station R
  origins : Origins R

namespace Traced

def start (mConfig : CaServiceConfig R) (mStationID : UInt32) (lastHeading : R) : Traced R where
  station := .start mConfig mStationID lastHeading
  origins := ⟨none, none, none⟩

def step (env : Env R) (input : Input R) (t : Traced R) : Option (Traced R) :=
  (t.station.step env input).map fun st => ⟨st, t.origins.note env t.station.service input⟩

theorem step_eq_some {env : Env R} {input : Input R} {t t' : Traced R} :
    t.step env input = some t' ↔ t.station.step env input = some t'.station ∧
      t'.origins = t.origins.note env t.station.service input := by
  obtain ⟨st', o'⟩ := t'
  simp [step, eq_comm]

/-- The origins are a note beside the run of the station. -/
theorem run_iff {env : Env R} {t : Traced R} {inputs : List (Input R)} {st : Station R} :
    run (Station.step env) t.station inputs = some st ↔
      ∃ o, run (Traced.step env) t inputs = some ⟨st, o⟩ := by
  induction inputs generalizing t with
  | nil =>
      obtain ⟨st₀, o₀⟩ := t
      simp
  | cons input inputs ih =>
      simp only [run_cons, Option.bind_eq_some_iff]
      constructor
      · rintro ⟨st₁, hstep, hrun⟩
        let t₁ : Traced R := ⟨st₁, t.origins.note env t.station.service input⟩
        obtain ⟨o, hrun'⟩ := (ih (t := t₁)).mp hrun
        exact ⟨o, t₁, step_eq_some.mpr ⟨hstep, rfl⟩, hrun'⟩
      · rintro ⟨o, t₁, hstep, hrun⟩
        exact ⟨t₁.station, (step_eq_some.mp hstep).1, ih.mpr ⟨o, hrun⟩⟩

end Traced

/-! ## Where the remembered heading comes from -/

/-- The data itself, or the empty message. -/
def Origins.data (origin : Option (GPS R)) : GPS R := origin.getD ⟨0, 0, 0, 0⟩

/-- The result of `getHeading` from one position to another. -/
def headingBetween (env : Env R) (s : CaService R) (p q : GPS R) : R :=
  s.getHeading env p.latitude p.longitude q.latitude q.longitude

/-- The service keeps the data that its origins tell. -/
structure Accounted (env : Env R) (t : Traced R) : Prop where
  latest : t.station.service.mLatestGps = Origins.data t.origins.latest
  carried : t.station.service.mLastSentCamInfo.lastGps = Origins.data t.origins.carried
  heading : t.station.service.mLastSentCamInfo.hasGPS = true →
    t.station.service.mLastSentCamInfo.lastHeading =
      headingBetween env t.station.service (Origins.data t.origins.carriedBefore)
        (Origins.data t.origins.carried)

omit [FloorRing R] in
theorem accounted_start (env : Env R) (mConfig : CaServiceConfig R) (mStationID : UInt32)
    (lastHeading : R) : Accounted env (Traced.start mConfig mStationID lastHeading) where
  latest := rfl
  carried := rfl
  heading hgps := by cases hgps

omit [FloorRing R] in
theorem sendsPosition_of_silent {env : Env R} {s : CaService R} {r : Readings}
    (hsilent : s.Silent env r) : sendsPosition env s r = false := by
  rw [sendsPosition, CaService.rules_snd_eq_none_iff.mpr hsilent]
  rfl

omit [FloorRing R] in
/-- A CAM carries a position if the flag that `generateCam` reads is set. -/
theorem sendsPosition_of_fired {env : Env R} {s : CaService R} {r : Readings}
    (hfired : ¬s.Silent env r) : sendsPosition env s r = (s.flagged env r).mGpsValid := by
  have hsome : (s.rules env r).2.isSome = true := by
    rw [← Option.ne_none_iff_isSome, ne_eq, CaService.rules_snd_eq_none_iff]
    exact hfired
  rw [sendsPosition, hsome, Bool.true_and]
  rfl

theorem step_accounted {env : Env R} {input : Input R} {t t' : Traced R}
    (hinv : Accounted env t) (h : t.step env input = some t') : Accounted env t' := by
  obtain ⟨hstep, horigins⟩ := Traced.step_eq_some.mp h
  obtain ⟨hlatest, hcarried, hheading⟩ := hinv
  obtain ⟨st', o'⟩ := t'
  obtain rfl : o' = _ := horigins
  cases input with
  | gps latest =>
      obtain rfl := Option.some.inj hstep
      exact ⟨rfl, hcarried, hheading⟩
  | obd2 latest =>
      obtain rfl := Option.some.inj hstep
      exact ⟨hlatest, hcarried, hheading⟩
  | alarm r =>
      rcases Station.step_alarm hstep with ⟨hsilent, hst'⟩ | ⟨out, hfired, hservice, -, -⟩
      · obtain rfl : st' = _ := hst'
        rw [Origins.note, sendsPosition_of_silent hsilent, if_neg Bool.false_ne_true]
        exact ⟨hlatest, hcarried, hheading⟩
      · have hinfo := CaService.generateCam_info (t.station.service.flagged env r) env r.generate
        have hlatest' : st'.service.mLatestGps = Origins.data t.origins.latest :=
          (congrArg CaService.mLatestGps hservice).trans hlatest
        rw [← hservice] at hinfo
        rw [Origins.note, sendsPosition_of_fired hfired]
        cases hvalid : (t.station.service.flagged env r).mGpsValid with
        | true =>
            -- the CAM carries the latest position
            rw [hvalid] at hinfo
            rw [if_pos rfl]
            refine ⟨hlatest', (congrArg LastSentCamInfo.lastGps hinfo).trans hlatest, fun _ => ?_⟩
            have hremembered : st'.service.mLastSentCamInfo.lastHeading =
                headingBetween env t.station.service
                  t.station.service.mLastSentCamInfo.lastGps t.station.service.mLatestGps :=
              congrArg LastSentCamInfo.lastHeading hinfo
            rw [hremembered, hcarried, hlatest, hservice]
            rfl
        | false =>
            rw [hvalid] at hinfo
            rw [if_neg Bool.false_ne_true]
            refine ⟨hlatest',
              (congrArg LastSentCamInfo.lastGps hinfo).trans hcarried, fun hgps => ?_⟩
            rw [hinfo] at hgps
            cases hgps

theorem accounted {env : Env R} {mConfig : CaServiceConfig R} {mStationID : UInt32}
    {lastHeading : R} (inputs : List (Input R)) (t : Traced R)
    (h : run (Traced.step env) (.start mConfig mStationID lastHeading) inputs = some t) :
    Accounted env t :=
  run_induction (P := fun _ t => Accounted env t)
    (accounted_start env mConfig mStationID lastHeading)
    (fun _ _ _ _ _ hinv hstep => step_accounted hinv hstep) inputs t h

/-! ## The heading rule -/

/-- `alarm` comes to `isHeadingChanged`, and the vehicle has moved since the last CAM. -/
structure EvaluatesHeading (env : Env R) (s : CaService R) (r : Readings) : Prop where
  valid : s.isGpsFresh r.gps = true
  hasGPS : s.mLastSentCamInfo.hasGPS = true
  position : (s.isPositionChanged env).isNone = true
  moved : s.currentHeading env ≠ -1

/-- The angle between two headings, on the shorter side. -/
def circularAngle (heading heading' : R) : R :=
  min |heading - heading'| (360.0 - |heading - heading'|)

/-- The comparison is with a heading between two received positions, and it is the one of
the angle between the headings with 4 degrees. -/
structure RealHeading (env : Env R) (t : Traced R) : Prop where
  received : ∃ p q, t.origins.carriedBefore = some p ∧ t.origins.carried = some q ∧
    t.station.service.mLastSentCamInfo.lastHeading = headingBetween env t.station.service p q
  nonneg : 0 ≤ t.station.service.mLastSentCamInfo.lastHeading
  lt_360 : t.station.service.mLastSentCamInfo.lastHeading < 360
  fires_iff : (t.station.service.isHeadingChanged env).isSome = true ↔
    4 < circularAngle (t.station.service.currentHeading env)
      t.station.service.mLastSentCamInfo.lastHeading

section

variable [IsStrictOrderedRing R]

omit [FloorRing R] in
theorem circularAngle_eq (heading heading' : R) :
    circularAngle heading heading' = min |heading - heading'| (360 - |heading - heading'|) := by
  norm_num [circularAngle]

omit [FloorRing R] in
/-- The correction of `isHeadingChanged` gives the angle between two headings. -/
theorem abs_deltaHeading {heading heading' : R} (h₀ : 0 ≤ heading) (h₃₆₀ : heading < 360)
    (h₀' : 0 ≤ heading') (h₃₆₀' : heading' < 360) :
    |CaService.deltaHeading heading heading'| = circularAngle heading heading' := by
  simp only [CaService.deltaHeading, circularAngle_eq]
  rcases le_total 0 (heading - heading') with hpos | hneg
  · rw [abs_of_nonneg hpos]
    split_ifs with hfar hfar'
    · rw [abs_of_neg (by linarith), min_eq_right (by linarith)]
      ring
    · linarith
    · rw [abs_of_nonneg hpos, min_eq_left (by linarith)]
  · rw [abs_of_nonpos hneg]
    split_ifs with hfar hfar'
    · linarith
    · rw [abs_of_pos (by linarith), min_eq_right (by linarith)]
      ring
    · rw [abs_of_nonpos hneg, min_eq_left (by linarith)]

omit [FloorRing R] in
theorem headingBetween_eq_neg_one_iff {env : Env R} {s : CaService R} {p q : GPS R}
    (hbearing : ∀ lat₁ lon₁ lat₂ lon₂, 0 ≤ env.bearing lat₁ lon₁ lat₂ lon₂) :
    headingBetween env s p q = -1 ↔ env.Within s.mConfig.mThresholdRadiusForHeading
      p.latitude p.longitude q.latitude q.longitude := by
  unfold headingBetween CaService.getHeading
  split_ifs with hnear
  · simp [hnear]
  · have hnonneg := hbearing p.latitude p.longitude q.latitude q.longitude
    simp only [hnear, iff_false]
    intro hneg
    linarith

omit [FloorRing R] [IsStrictOrderedRing R] in
/-- A heading that is not -1 is one. -/
theorem headingBetween_mem {env : Env R} {s : CaService R} {p q : GPS R}
    (hbearing : ∀ lat₁ lon₁ lat₂ lon₂, 0 ≤ env.bearing lat₁ lon₁ lat₂ lon₂ ∧
      env.bearing lat₁ lon₁ lat₂ lon₂ < 360)
    (hmoved : headingBetween env s p q ≠ -1) :
    0 ≤ headingBetween env s p q ∧ headingBetween env s p q < 360 := by
  unfold headingBetween CaService.getHeading at hmoved ⊢
  split_ifs at hmoved ⊢ with hnear
  · exact absurd rfl hmoved
  · exact hbearing _ _ _ _

/-- **A real heading.**  In every run, whenever an alarm evaluates the heading rule with a
current heading, the rule compares it with the heading between two received positions, by
the angle between them, if and only if the last CAM and the one with a position before it
carried received positions that are not closer to each other than the threshold. -/
theorem realHeading_iff {env : Env R} {mConfig : CaServiceConfig R} {mStationID : UInt32}
    {lastHeading : R} {inputs : List (Input R)} {t : Traced R} {r : Readings}
    (hbearing : ∀ lat₁ lon₁ lat₂ lon₂, 0 ≤ env.bearing lat₁ lon₁ lat₂ lon₂ ∧
      env.bearing lat₁ lon₁ lat₂ lon₂ < 360)
    (hrun : run (Traced.step env) (.start mConfig mStationID lastHeading) inputs = some t)
    (heval : EvaluatesHeading env t.station.service r) :
    RealHeading env t ↔ ∃ p q, t.origins.carriedBefore = some p ∧ t.origins.carried = some q ∧
      ¬env.Within mConfig.mThresholdRadiusForHeading
        p.latitude p.longitude q.latitude q.longitude := by
  have hnonneg := fun lat₁ lon₁ lat₂ lon₂ => (hbearing lat₁ lon₁ lat₂ lon₂).1
  have hstation := Traced.run_iff.mpr ⟨t.origins, hrun⟩
  have hconfig := mConfig_eq inputs t.station hstation
  have hheading := (accounted inputs t hrun).heading heval.hasGPS
  constructor
  · rintro ⟨⟨p, q, hp, hq, hlast⟩, hreal, -, -⟩
    refine ⟨p, q, hp, hq, ?_⟩
    by_contra hnear
    rw [← hconfig, ← headingBetween_eq_neg_one_iff hnonneg, ← hlast] at hnear
    linarith
  · rintro ⟨p, q, hp, hq, hfar⟩
    rw [hp, hq] at hheading
    have hlast : t.station.service.mLastSentCamInfo.lastHeading =
        headingBetween env t.station.service p q := hheading
    have hmoved : headingBetween env t.station.service p q ≠ -1 := by
      rw [ne_eq, headingBetween_eq_neg_one_iff hnonneg, hconfig]
      exact hfar
    obtain ⟨h₀', h₃₆₀'⟩ := headingBetween_mem hbearing hmoved
    have hcurrent : 0 ≤ t.station.service.currentHeading env ∧
        t.station.service.currentHeading env < 360 := headingBetween_mem hbearing heval.moved
    refine ⟨⟨p, q, hp, hq, hlast⟩, hlast ▸ h₀', hlast ▸ h₃₆₀', ?_⟩
    rw [← abs_deltaHeading hcurrent.1 hcurrent.2 (hlast ▸ h₀') (hlast ▸ h₃₆₀')]
    unfold CaService.isHeadingChanged
    rw [if_pos heval.moved]
    dsimp only
    split_ifs with hfire <;> simp [hfire]

end

/-! ## A vehicle that goes on to the north -/

theorem meridianEnv_bearing (lat₁ lon₁ lat₂ lon₂ : ℚ) :
    0 ≤ meridianEnv.bearing lat₁ lon₁ lat₂ lon₂ ∧
      meridianEnv.bearing lat₁ lon₁ lat₂ lon₂ < 360 := by
  simp only [meridianEnv]
  split_ifs <;> norm_num

/-- The position `d` degrees to the north of the first one, at a second of the clock. -/
def northOf (d : ℚ) (time : ℤ) : GPS ℚ := ⟨49 + d, 12, 0, time * second⟩

def thirdAlarm : Readings := .at (103 * second)

/-- A CAM at the first position, a CAM more than 5 m further, and a metre after it. -/
def drivingInputs : List (Input ℚ) :=
  [.gps (northOf 0 100), .alarm (.at (101 * second)), .gps (northOf (6 / 100000) 101),
    .alarm (.at (101 * second + 100000000)), .gps (northOf (7 / 100000) 102)]

/-- A CAM at the first position, another one after a second there, and a metre after it. -/
def startingInputs : List (Input ℚ) :=
  [.gps (northOf 0 100), .alarm (.at (101 * second)), .alarm (.at (102 * second)),
    .gps (northOf (1 / 100000) 102)]

/-- The third alarm evaluates the heading rule. -/
def evaluates (s : CaService ℚ) : Bool :=
  s.isGpsFresh thirdAlarm.gps && (s.mLastSentCamInfo.hasGPS &&
    ((s.isPositionChanged meridianEnv).isNone && decide (s.currentHeading meridianEnv ≠ -1)))

theorem evaluatesHeading_of_evaluates {s : CaService ℚ} (h : evaluates s = true) :
    EvaluatesHeading meridianEnv s thirdAlarm := by
  obtain ⟨hvalid, h⟩ := Bool.and_eq_true_iff.mp h
  obtain ⟨hgps, h⟩ := Bool.and_eq_true_iff.mp h
  obtain ⟨hposition, hmoved⟩ := Bool.and_eq_true_iff.mp h
  exact ⟨hvalid, hgps, hposition, of_decide_eq_true hmoved⟩

/-- The CAM on the way remembers the heading of the way. -/
theorem realHeading_driving : ∃ t,
    run (Traced.step meridianEnv) (.start defaultConfig 1 0) drivingInputs = some t ∧
      EvaluatesHeading meridianEnv t.station.service thirdAlarm ∧ RealHeading meridianEnv t := by
  have heval : (run (Traced.step meridianEnv) (.start defaultConfig 1 0) drivingInputs).any
      fun t => evaluates t.station.service &&
        (decide (t.origins.carriedBefore = some (northOf 0 100)) &&
          decide (t.origins.carried = some (northOf (6 / 100000) 101))) := by decide +kernel
  obtain ⟨t, hrun, ht⟩ := (Option.any_eq_true _ _).mp heval
  obtain ⟨hevaluates, ht⟩ := Bool.and_eq_true_iff.mp ht
  obtain ⟨hbefore, hcarried⟩ := Bool.and_eq_true_iff.mp ht
  have hrule := evaluatesHeading_of_evaluates hevaluates
  refine ⟨t, hrun, hrule, (realHeading_iff meridianEnv_bearing hrun hrule).mpr ?_⟩
  exact ⟨_, _, of_decide_eq_true hbefore, of_decide_eq_true hcarried, by decide +kernel⟩

/-- The CAM after a second of standing remembers the heading -1. -/
theorem not_realHeading_starting : ∃ t,
    run (Traced.step meridianEnv) (.start defaultConfig 1 0) startingInputs = some t ∧
      EvaluatesHeading meridianEnv t.station.service thirdAlarm ∧ ¬RealHeading meridianEnv t := by
  have heval : (run (Traced.step meridianEnv) (.start defaultConfig 1 0) startingInputs).any
      fun t => evaluates t.station.service &&
        decide (t.station.service.mLastSentCamInfo.lastHeading = -1) := by decide +kernel
  obtain ⟨t, hrun, ht⟩ := (Option.any_eq_true _ _).mp heval
  obtain ⟨hevaluates, hlast⟩ := Bool.and_eq_true_iff.mp ht
  refine ⟨t, hrun, evaluatesHeading_of_evaluates hevaluates, fun hreal => ?_⟩
  have hnonneg := hreal.nonneg
  rw [of_decide_eq_true hlast] at hnonneg
  exact absurd hnonneg (by decide)

end OpenC2X.Cam
