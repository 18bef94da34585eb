import OpenC2X.Dcc.Netlink
import OpenC2X.Lib.PartialRun
import Mathlib.Algebra.Order.Field.Basic
import Mathlib.Algebra.Order.Floor.Semifield
import Mathlib.Data.Rat.Floor
import Mathlib.Tactic.Linarith
import Mathlib.Tactic.NormNum

/-!
# The channel prober

`receivedNetlinkMsg` computes the channel load from the survey of the channel in use: the
share of the busy time in the total time since the last message.  Both are cumulative
counters of 64 bits.

The divisor is not tested.  It is zero if the total time has not advanced since the last
message, and that ends the process.  `channelLoad_iff` says that nothing else goes wrong:
below `2 ^ 57` no product wraps, and the quotient is the share in percent.
-/

namespace OpenC2X.Dcc

open Netlink

variable {R : Type}

/-! ## The message -/

/-- The attributes in `NL80211_ATTR_SURVEY_INFO` that are used. -/
structure SurveyInfo where
  IN_USE : Bool
  FREQUENCY : Option UInt32
  NOISE : Option UInt8
  CHANNEL_TIME : Option UInt64
  CHANNEL_TIME_BUSY : Option UInt64
  deriving DecidableEq, Repr

structure SurveyMsg where
  IFINDEX : Option UInt32
  SURVEY_INFO : Nested SurveyInfo
  deriving DecidableEq, Repr

/-! ## The prober -/

structure Channelload (R : Type) where
  noise : UInt8
  totalTimeLast : UInt64
  busyTimeLast : UInt64
  load : R
  deriving DecidableEq, Repr

/-- The two cumulative counters. -/
structure Times where
  total : UInt64
  busy : UInt64
  deriving DecidableEq

/-- The counters of the last message. -/
def Channelload.times (load : Channelload R) : Times := ⟨load.totalTimeLast, load.busyTimeLast⟩

namespace ChannelProber

variable [Field R]

/-- What `init` leaves in memory that `calloc` has cleared. -/
def init : Channelload R where
  noise := 0
  totalTimeLast := 0
  busyTimeLast := 0
  load := -1

/-- The update of the statistics at the end of `receivedNetlinkMsg`. -/
def updateStatistics (noise : Int8) (total_time busy_time : UInt64) (load : Channelload R) :
    Checked (Channelload R) :=
  let busy_time_diff := busy_time - load.busyTimeLast
  let total_time_diff := total_time - load.totalTimeLast
  if total_time_diff = 0 then
    .error .divideByZero
  else
    .ok
      { load := ((100 * busy_time_diff) / total_time_diff).toNat / 100.0
        totalTimeLast := total_time
        busyTimeLast := busy_time
        noise := noise.toUInt8 }

/-- `receivedNetlinkMsg`.  The local variable `noise` is not initialized; `noise₀` is what it
happens to hold. -/
def receivedNetlinkMsg (noise₀ : Int8) (msg : SurveyMsg) (load : Channelload R) :
    Checked (Channelload R) := do
  let _ifindex ← nlaGet msg.IFINDEX
  match msg.SURVEY_INFO with
  | .absent => return load
  | .malformed => return load
  | .parsed sinfo =>
      if !sinfo.IN_USE then
        return load
      else
        let _channel ← nlaGetIfPresent sinfo.FREQUENCY 0
        let noise ← nlaGetIfPresent (sinfo.NOISE.map UInt8.toInt8) noise₀
        let total_time ← nlaGetIfPresent sinfo.CHANNEL_TIME 0
        let busy_time ← nlaGetIfPresent sinfo.CHANNEL_TIME_BUSY 0
        updateStatistics noise total_time busy_time load

/-- What the messages do that have an interface index. -/
theorem receivedNetlinkMsg_ifindex (noise₀ : Int8) (ifindex : UInt32) (info : Nested SurveyInfo)
    (load : Channelload R) :
    receivedNetlinkMsg noise₀ ⟨some ifindex, info⟩ load =
      match info with
      | .absent | .malformed => .ok load
      | .parsed sinfo =>
          if sinfo.IN_USE then
            updateStatistics ((sinfo.NOISE.map UInt8.toInt8).getD noise₀)
              (sinfo.CHANNEL_TIME.getD 0) (sinfo.CHANNEL_TIME_BUSY.getD 0) load
          else .ok load := by
  cases info with
  | absent => rfl
  | malformed => rfl
  | parsed sinfo =>
      obtain ⟨inUse, frequency, noise, channelTime, channelTimeBusy⟩ := sinfo
      cases inUse
      · rfl
      · simp only [receivedNetlinkMsg, nlaGetIfPresent_eq]
        rfl

/-- Without an interface index a null pointer is read. -/
theorem receivedNetlinkMsg_no_ifindex (noise₀ : Int8) (info : Nested SurveyInfo)
    (load : Channelload R) :
    receivedNetlinkMsg noise₀ ⟨none, info⟩ load = .error .nullRead := rfl

/-- The update succeeds if and only if the total time differs from the last one. -/
theorem updateStatistics_eq_ok {noise : Int8} {total_time busy_time : UInt64}
    {load load' : Channelload R} :
    updateStatistics noise total_time busy_time load = .ok load' ↔
      total_time ≠ load.totalTimeLast ∧
        load' =
          { load := ((100 * (busy_time - load.busyTimeLast)) /
              (total_time - load.totalTimeLast)).toNat / 100.0
            totalTimeLast := total_time
            busyTimeLast := busy_time
            noise := noise.toUInt8 } := by
  have hzero : total_time - load.totalTimeLast = 0 ↔ total_time = load.totalTimeLast := by
    rw [UInt64.sub_eq_iff_eq_add, UInt64.zero_add]
  unfold updateStatistics
  by_cases h : total_time = load.totalTimeLast
  · rw [if_pos (hzero.mpr h)]
    simp [h]
  · rw [if_neg (mt hzero.mp h), Except.ok.injEq]
    exact ⟨fun heq => ⟨h, heq.symm⟩, fun heq => heq.2.symm⟩

/-! ## Runs of surveys of the channel in use -/

/-- A message about the channel in use, and what `noise` holds before it. -/
structure Survey where
  noise₀ : Int8
  ifindex : Option UInt32
  sinfo : SurveyInfo
  inUse : sinfo.IN_USE = true

namespace Survey

def msg (survey : Survey) : SurveyMsg := ⟨survey.ifindex, .parsed survey.sinfo⟩

/-- An absent counter counts as 0. -/
def times (survey : Survey) : Times where
  total := survey.sinfo.CHANNEL_TIME.getD 0
  busy := survey.sinfo.CHANNEL_TIME_BUSY.getD 0

end Survey

/-- The counters of the last message, or what `init` leaves. -/
def lastTimes (surveys : List Survey) : Times := (surveys.getLast?.map Survey.times).getD ⟨0, 0⟩

@[simp] theorem lastTimes_nil : lastTimes [] = ⟨0, 0⟩ := rfl

@[simp] theorem lastTimes_concat (surveys : List Survey) (survey : Survey) :
    lastTimes (surveys ++ [survey]) = survey.times := by
  simp [lastTimes]

/-- The counters go on from `t` to `t'`. -/
structure Advance (t t' : Times) : Prop where
  total_le : t.total.toNat ≤ t'.total.toNat
  busy_le : t.busy.toNat ≤ t'.busy.toNat
  busy_le_total : t'.busy.toNat - t.busy.toNat ≤ t'.total.toNat - t.total.toNat
  total_lt : t'.total.toNat < 2 ^ 57
  busy_lt : t'.busy.toNat < 2 ^ 57

/-- A relation between the counters of every message and those before it. -/
def Successive (rel : Times → Times → Prop) (surveys : List Survey) : Prop :=
  ∀ before survey after, surveys = before ++ survey :: after → rel (lastTimes before) survey.times

theorem successive_nil (rel : Times → Times → Prop) : Successive rel [] := by
  intro before survey after hsplit
  simp at hsplit

theorem successive_concat {rel : Times → Times → Prop} {surveys : List Survey} {survey : Survey}
    (hbefore : Successive rel surveys) (hlast : rel (lastTimes surveys) survey.times) :
    Successive rel (surveys ++ [survey]) := by
  intro before next after hsplit
  obtain rfl | ⟨later, last, rfl⟩ := after.eq_nil_or_concat
  · obtain ⟨rfl, heq⟩ := List.append_inj' hsplit rfl
    obtain rfl : survey = next := by simpa using heq
    exact hlast
  · rw [List.concat_eq_append, ← List.cons_append, ← List.append_assoc] at hsplit
    obtain ⟨hsurveys, -⟩ := List.append_inj' hsplit rfl
    exact hbefore before next later hsurveys

theorem successive_pair {rel : Times → Times → Prop} {first second : Survey}
    (hfirst : rel ⟨0, 0⟩ first.times) (hsecond : rel first.times second.times) :
    Successive rel [first, second] := by
  have hone : Successive rel [first] := successive_concat (successive_nil rel) hfirst
  exact successive_concat hone hsecond

/-- The message is handled; `none` is a fault. -/
def surveyStep (survey : Survey) (load : Channelload R) : Option (Channelload R) :=
  (receivedNetlinkMsg survey.noise₀ survey.msg load).toOption

theorem surveyStep_eq_some {survey : Survey} {load load' : Channelload R} :
    surveyStep survey load = some load' ↔ survey.ifindex.isSome = true ∧
      updateStatistics ((survey.sinfo.NOISE.map UInt8.toInt8).getD survey.noise₀)
        survey.times.total survey.times.busy load = .ok load' := by
  obtain ⟨noise₀, ifindex, sinfo, inUse⟩ := survey
  cases ifindex with
  | none => simp [surveyStep, Survey.msg, receivedNetlinkMsg_no_ifindex, Except.toOption]
  | some ifindex =>
      simp only [surveyStep, Survey.msg, receivedNetlinkMsg_ifindex, inUse, if_true,
        Option.isSome_some, true_and, Survey.times]
      cases updateStatistics ((sinfo.NOISE.map UInt8.toInt8).getD noise₀)
        (sinfo.CHANNEL_TIME.getD 0) (sinfo.CHANNEL_TIME_BUSY.getD 0) load <;>
        simp [Except.toOption]

theorem times_of_surveyStep {survey : Survey} {load load' : Channelload R}
    (h : surveyStep survey load = some load') : load'.times = survey.times := by
  obtain ⟨-, hupdate⟩ := surveyStep_eq_some.mp h
  obtain ⟨-, rfl⟩ := updateStatistics_eq_ok.mp hupdate
  rfl

theorem times_of_run {surveys : List Survey} {load : Channelload R}
    (hrun : PartialRun.run surveyStep (init : Channelload R) surveys = some load) :
    load.times = lastTimes surveys := by
  revert hrun
  revert load surveys
  apply PartialRun.run_induction
  · rfl
  · intro before survey load load' _ _ hstep
    rw [lastTimes_concat]
    exact times_of_surveyStep hstep

theorem exists_surveyStep {survey : Survey} {load : Channelload R}
    (hindex : survey.ifindex.isSome = true) (hne : survey.times.total ≠ load.totalTimeLast) :
    ∃ load', surveyStep survey load = some load' :=
  ⟨_, surveyStep_eq_some.mpr ⟨hindex, updateStatistics_eq_ok.mpr ⟨hne, rfl⟩⟩⟩

/-- Where the total time advances, a run gets to every message. -/
theorem exists_run_of_advances {surveys before after : List Survey} {survey : Survey}
    (hindex : ∀ survey ∈ surveys, survey.ifindex.isSome = true)
    (hadvances : Successive (fun t t' => t.total < t'.total) surveys)
    (hsplit : surveys = before ++ survey :: after) :
    ∃ load, PartialRun.run surveyStep (init : Channelload R) (before ++ [survey]) = some load ∧
      load.times = lastTimes (before ++ [survey]) := by
  apply PartialRun.exists_run (P := fun before (load : Channelload R) =>
    load.times = lastTimes before) rfl
  intro earlier next later load hsplit' _ htimes
  have hsurveys : surveys = earlier ++ next :: (later ++ after) := by
    rw [hsplit, ← List.cons_append, ← List.append_assoc, ← hsplit', List.append_assoc]
    rfl
  have hlt := hadvances earlier next _ hsurveys
  have hmem : next ∈ surveys := by
    rw [hsurveys]
    exact List.mem_append_right _ List.mem_cons_self
  have hne : next.times.total ≠ load.totalTimeLast := by
    intro heq
    rw [← htimes, heq] at hlt
    exact UInt64.lt_irrefl _ hlt
  obtain ⟨load', hstep⟩ := exists_surveyStep (hindex next hmem) hne
  exact ⟨load', hstep, (times_of_surveyStep hstep).trans (lastTimes_concat _ _).symm⟩

/-- The share of the busy time in the total time between two messages, in percent without
a fraction. -/
def percentBusy (t t' : Times) : ℕ :=
  ⌊(100 * ((t'.busy.toNat - t.busy.toNat : ℕ) : ℚ)) / ((t'.total.toNat - t.total.toNat : ℕ) : ℚ)⌋₊

theorem percentBusy_eq_div (t t' : Times) :
    percentBusy t t' =
      100 * (t'.busy.toNat - t.busy.toNat) / (t'.total.toNat - t.total.toNat) := by
  rw [percentBusy, ← Nat.floor_div_eq_div (K := ℚ), Nat.cast_mul]
  rfl

/-- Without wrapping the quotient of the program is the share. -/
theorem toNat_quotient {t t' : Times} (h : Advance t t') :
    ((100 * (t'.busy - t.busy)) / (t'.total - t.total)).toNat = percentBusy t t' := by
  have hbusy : (t'.busy - t.busy).toNat = t'.busy.toNat - t.busy.toNat :=
    UInt64.toNat_sub_of_le _ _ (UInt64.le_iff_toNat_le.mpr h.busy_le)
  have htotal : (t'.total - t.total).toNat = t'.total.toNat - t.total.toNat :=
    UInt64.toNat_sub_of_le _ _ (UInt64.le_iff_toNat_le.mpr h.total_le)
  have hproduct : (100 * (t'.busy - t.busy)).toNat = 100 * (t'.busy.toNat - t.busy.toNat) := by
    have hlt := h.busy_lt
    have hhundred : (100 : UInt64).toNat = 100 := rfl
    rw [UInt64.toNat_mul, hbusy, hhundred]
    omega
  calc ((100 * (t'.busy - t.busy)) / (t'.total - t.total)).toNat
      = (100 * (t'.busy - t.busy)).toNat / (t'.total - t.total).toNat := UInt64.toNat_div _ _
    _ = 100 * (t'.busy.toNat - t.busy.toNat) / (t'.total.toNat - t.total.toNat) := by
        rw [hproduct, htotal]
    _ = percentBusy t t' := (percentBusy_eq_div t t').symm

theorem percentBusy_le {t t' : Times} (h : Advance t t') : percentBusy t t' ≤ 100 := by
  have hle := h.busy_le_total
  rw [percentBusy_eq_div]
  apply Nat.div_le_of_le_mul
  omega

section

variable [LinearOrder R] [IsStrictOrderedRing R]

/-- The load that is right between two messages. -/
structure LoadBetween (t t' : Times) (load : R) : Prop where
  load_eq : load = (percentBusy t t' : R) / 100
  nonneg : 0 ≤ load
  le_one : load ≤ 1

theorem loadBetween_of_advance {t t' : Times} (h : Advance t t') :
    LoadBetween t t' ((percentBusy t t' : R) / 100) := by
  have hle : (percentBusy t t' : R) ≤ 100 := by exact_mod_cast percentBusy_le h
  refine ⟨rfl, by positivity, ?_⟩
  rw [div_le_one (by norm_num)]
  exact hle

/-- A message that is handled leaves the right load. -/
theorem loadBetween_of_surveyStep {survey : Survey} {load load' : Channelload R}
    (hadvance : Advance load.times survey.times)
    (hstep : surveyStep survey load = some load') :
    LoadBetween load.times survey.times load'.load := by
  obtain ⟨-, hupdate⟩ := surveyStep_eq_some.mp hstep
  obtain ⟨-, rfl⟩ := updateStatistics_eq_ok.mp hupdate
  have hload : ((percentBusy load.times survey.times : ℕ) : R) / 100.0 =
      (percentBusy load.times survey.times : R) / 100 := by norm_num
  have hquotient := toNat_quotient hadvance
  simp only [Channelload.times] at hquotient
  rw [hquotient]
  exact hload ▸ loadBetween_of_advance hadvance

/-- After every message of the run its load is stored, without a fault. -/
def LoadsRight (R : Type) [Field R] [LinearOrder R] [IsStrictOrderedRing R]
    (surveys : List Survey) : Prop :=
  ∀ before survey after, surveys = before ++ survey :: after → ∃ load,
    PartialRun.run surveyStep (init : Channelload R) (before ++ [survey]) = some load ∧
      LoadBetween (lastTimes before) survey.times load.load

/-- **Channel load.**  For cumulative counters, every message of a run stores the load since
the message before, and none ends the process, if and only if each has its interface index
and the total time advances from every message to the next. -/
theorem channelLoad_iff {surveys : List Survey} (hcounters : Successive Advance surveys) :
    LoadsRight R surveys ↔ (∀ survey ∈ surveys, survey.ifindex.isSome = true) ∧
      Successive (fun t t' => t.total < t'.total) surveys := by
  constructor
  · intro hright
    have hstep : ∀ before survey after, surveys = before ++ survey :: after →
        survey.ifindex.isSome = true ∧ survey.times.total ≠ (lastTimes before).total := by
      intro before survey after hsplit
      obtain ⟨load', hrun, -⟩ := hright before survey after hsplit
      obtain ⟨load, hbefore, hlast⟩ := PartialRun.run_concat_eq_some.mp hrun
      obtain ⟨hindex, hupdate⟩ := surveyStep_eq_some.mp hlast
      rw [← times_of_run hbefore]
      exact ⟨hindex, (updateStatistics_eq_ok.mp hupdate).1⟩
    constructor
    · intro survey hmem
      obtain ⟨before, after, hsplit⟩ := List.append_of_mem hmem
      exact (hstep before survey after hsplit).1
    · intro before survey after hsplit
      have hle := (hcounters before survey after hsplit).total_le
      have hne := (hstep before survey after hsplit).2
      exact UInt64.lt_of_le_of_ne (UInt64.le_iff_toNat_le.mpr hle) hne.symm
  · rintro ⟨hindex, hadvances⟩ before survey after hsplit
    obtain ⟨load', hrun, -⟩ := exists_run_of_advances (R := R) hindex hadvances hsplit
    obtain ⟨load, hbefore, hlast⟩ := PartialRun.run_concat_eq_some.mp hrun
    have hadvance := hcounters before survey after hsplit
    rw [← times_of_run hbefore] at hadvance ⊢
    exact ⟨load', hrun, loadBetween_of_surveyStep hadvance hlast⟩

end

/-- A survey of interface 1. -/
def surveyOf (total_time busy_time : UInt64) : Survey where
  noise₀ := 0
  ifindex := some 1
  sinfo :=
    { IN_USE := true
      FREQUENCY := some 5900
      NOISE := some 161
      CHANNEL_TIME := some total_time
      CHANNEL_TIME_BUSY := some busy_time }
  inUse := rfl

/-- Two seconds, of which the channel was busy for 200 and for 300 milliseconds. -/
theorem channelLoad_twoSeconds : LoadsRight ℚ [surveyOf 1000 200, surveyOf 2000 500] := by
  have hcounters : Successive Advance [surveyOf 1000 200, surveyOf 2000 500] := by
    apply successive_pair
    · constructor <;> decide
    · constructor <;> decide
  apply (channelLoad_iff hcounters).mpr
  exact ⟨by decide, successive_pair (by decide) (by decide)⟩

/-- Two messages that arrive while the counters stand still end the process. -/
theorem not_channelLoad_fastMessages :
    Successive Advance [surveyOf 1000 200, surveyOf 1000 200] ∧
      (∀ survey ∈ [surveyOf 1000 200, surveyOf 1000 200],
        survey.sinfo.CHANNEL_TIME.isSome = survey.sinfo.CHANNEL_TIME_BUSY.isSome) ∧
      ¬ LoadsRight ℚ [surveyOf 1000 200, surveyOf 1000 200] := by
  refine ⟨?_, by decide, ?_⟩
  · apply successive_pair
    · constructor <;> decide
    · constructor <;> decide
  · intro hright
    obtain ⟨load', hrun, -⟩ := hright [surveyOf 1000 200] (surveyOf 1000 200) [] rfl
    obtain ⟨load, hbefore, hlast⟩ := PartialRun.run_concat_eq_some.mp hrun
    obtain ⟨-, hupdate⟩ := surveyStep_eq_some.mp hlast
    have hne := (updateStatistics_eq_ok.mp hupdate).1
    have heq : load.totalTimeLast = 1000 := congrArg Times.total (times_of_run hbefore)
    exact hne heq.symm

/-! ## Absent attributes -/

/-- No absent attribute is read, and the noise stored is the one of the message or the one
before it, whatever the local variable happens to hold. -/
def NoiseSound (msg : SurveyMsg) (load : Channelload R) : Prop :=
  ∀ noise₀, receivedNetlinkMsg noise₀ msg load ≠ .error .nullRead ∧
    ∀ load', receivedNetlinkMsg noise₀ msg load = .ok load' → load'.noise = load.noise ∨
      ∃ sinfo, msg.SURVEY_INFO = .parsed sinfo ∧ sinfo.NOISE = some load'.noise

/-- The message has its interface index, and if its statistics are stored, then its noise. -/
def NoisePresent (msg : SurveyMsg) (load : Channelload R) : Prop :=
  msg.IFINDEX.isSome = true ∧
    ∀ sinfo, msg.SURVEY_INFO = .parsed sinfo → sinfo.IN_USE = true →
      sinfo.CHANNEL_TIME.getD 0 ≠ load.totalTimeLast → sinfo.NOISE.isSome = true

theorem updateStatistics_ne_nullRead (noise : Int8) (total_time busy_time : UInt64)
    (load : Channelload R) :
    updateStatistics noise total_time busy_time load ≠ .error .nullRead := by
  intro h
  unfold updateStatistics at h
  dsimp only at h
  split at h <;> simp at h

/-- Where the statistics are stored, the noise that is stored is the local variable. -/
theorem exists_updateStatistics {total_time : UInt64} {load : Channelload R}
    (hne : total_time ≠ load.totalTimeLast) (noise : Int8) (busy_time : UInt64) :
    ∃ load', updateStatistics noise total_time busy_time load = .ok load' ∧
      load'.noise = noise.toUInt8 :=
  ⟨_, updateStatistics_eq_ok.mpr ⟨hne, rfl⟩, rfl⟩

/-- A message without noise whose statistics are stored stores what is left in memory. -/
theorem not_noiseSound_of_noise_none {ifindex : Option UInt32} {sinfo : SurveyInfo}
    {load : Channelload R} (hinUse : sinfo.IN_USE = true) (hnoise : sinfo.NOISE = none)
    (hne : sinfo.CHANNEL_TIME.getD 0 ≠ load.totalTimeLast) :
    ¬ NoiseSound ⟨ifindex, .parsed sinfo⟩ load := by
  intro hsound
  cases ifindex with
  | none => exact (hsound 0).1 (receivedNetlinkMsg_no_ifindex 0 _ load)
  | some ifindex =>
      have hstep (noise₀ : Int8) : receivedNetlinkMsg noise₀ ⟨some ifindex, .parsed sinfo⟩ load =
          updateStatistics noise₀ (sinfo.CHANNEL_TIME.getD 0)
            (sinfo.CHANNEL_TIME_BUSY.getD 0) load := by
        rw [receivedNetlinkMsg_ifindex]
        simp [hinUse, hnoise]
      have hkept (noise₀ : Int8) : noise₀.toUInt8 = load.noise := by
        obtain ⟨load', hupdate, hnoise'⟩ := exists_updateStatistics hne noise₀
          (sinfo.CHANNEL_TIME_BUSY.getD 0)
        obtain hsame | ⟨sinfo', heq, hpresent⟩ :=
          (hsound noise₀).2 load' ((hstep noise₀).trans hupdate)
        · rw [← hnoise', hsame]
        · obtain rfl : sinfo = sinfo' := by simpa using heq
          simp [hnoise] at hpresent
      -- two values of the local variable cannot both be the noise stored before
      have hclash : (0 : Int8).toUInt8 = (1 : Int8).toUInt8 := by rw [hkept 0, hkept 1]
      exact absurd hclash (by decide)

theorem noiseSound_of_present {msg : SurveyMsg} {load : Channelload R}
    (h : NoisePresent msg load) : NoiseSound msg load := by
  obtain ⟨ifindex, info⟩ := msg
  obtain ⟨hindex, hnoise⟩ := h
  obtain ⟨ifindex, rfl⟩ := Option.isSome_iff_exists.mp hindex
  intro noise₀
  rw [receivedNetlinkMsg_ifindex]
  cases info with
  | absent => simp
  | malformed => simp
  | parsed sinfo =>
      by_cases hinUse : sinfo.IN_USE = true
      · simp only [hinUse, if_true]
        refine ⟨updateStatistics_ne_nullRead _ _ _ _, ?_⟩
        intro load' hupdate
        obtain ⟨hne, rfl⟩ := updateStatistics_eq_ok.mp hupdate
        obtain ⟨value, hvalue⟩ :=
          Option.isSome_iff_exists.mp (hnoise sinfo rfl hinUse hne)
        exact Or.inr ⟨sinfo, rfl, by simp [hvalue]⟩
      · simp [hinUse]

/-- The noise is sound if and only if the attributes it needs are present. -/
theorem noiseSound_iff {msg : SurveyMsg} {load : Channelload R} :
    NoiseSound msg load ↔ NoisePresent msg load := by
  constructor
  · intro hsound
    obtain ⟨ifindex, info⟩ := msg
    constructor
    · by_contra hnone
      obtain rfl : ifindex = none := by simpa using hnone
      exact (hsound 0).1 (receivedNetlinkMsg_no_ifindex 0 info load)
    · rintro sinfo rfl hinUse hne
      by_contra hnone
      exact not_noiseSound_of_noise_none hinUse (by simpa using hnone) hne hsound
  · exact noiseSound_of_present

end ChannelProber

end OpenC2X.Dcc
