import OpenC2X.Dcc.ChannelProber

/-!
# The packet statistics collector

`receivedNetlinkMsg` stores eight counters of the driver, two for each access category.
Each attribute is tested on its own before it is read, but all eight local variables are
stored at the end, and none of them is initialized.  `attributesSound_iff` says which
messages this handler and the one of the channel prober treat right.
-/

namespace OpenC2X.Dcc

open Netlink

/-! ## The message -/

/-- The attributes in `NL80211_ATTR_FLUSH_INFO`. -/
structure FlushInfo where
  FLUSH_REQ_BE : Option UInt32
  FLUSH_NOT_REQ_BE : Option UInt32
  FLUSH_REQ_BK : Option UInt32
  FLUSH_NOT_REQ_BK : Option UInt32
  FLUSH_REQ_VI : Option UInt32
  FLUSH_NOT_REQ_VI : Option UInt32
  FLUSH_REQ_VO : Option UInt32
  FLUSH_NOT_REQ_VO : Option UInt32
  deriving DecidableEq, Repr

structure FlushMsg where
  IFINDEX : Option UInt32
  FLUSH_INFO : Nested FlushInfo
  deriving DecidableEq, Repr

/-! ## The statistics -/

structure PktStats where
  be_flush_req : UInt32
  be_flush_not_req : UInt32
  bk_flush_req : UInt32
  bk_flush_not_req : UInt32
  vi_flush_req : UInt32
  vi_flush_not_req : UInt32
  vo_flush_req : UInt32
  vo_flush_not_req : UInt32
  deriving DecidableEq, Repr

/-- The names of the eight counters. -/
inductive FlushCounter where
  | be_flush_req
  | be_flush_not_req
  | bk_flush_req
  | bk_flush_not_req
  | vi_flush_req
  | vi_flush_not_req
  | vo_flush_req
  | vo_flush_not_req
  deriving DecidableEq, Repr

/-- The attribute of a counter. -/
def FlushInfo.get (sinfo : FlushInfo) : FlushCounter → Option UInt32
  | .be_flush_req => sinfo.FLUSH_REQ_BE
  | .be_flush_not_req => sinfo.FLUSH_NOT_REQ_BE
  | .bk_flush_req => sinfo.FLUSH_REQ_BK
  | .bk_flush_not_req => sinfo.FLUSH_NOT_REQ_BK
  | .vi_flush_req => sinfo.FLUSH_REQ_VI
  | .vi_flush_not_req => sinfo.FLUSH_NOT_REQ_VI
  | .vo_flush_req => sinfo.FLUSH_REQ_VO
  | .vo_flush_not_req => sinfo.FLUSH_NOT_REQ_VO

def PktStats.get (stats : PktStats) : FlushCounter → UInt32
  | .be_flush_req => stats.be_flush_req
  | .be_flush_not_req => stats.be_flush_not_req
  | .bk_flush_req => stats.bk_flush_req
  | .bk_flush_not_req => stats.bk_flush_not_req
  | .vi_flush_req => stats.vi_flush_req
  | .vi_flush_not_req => stats.vi_flush_not_req
  | .vo_flush_req => stats.vo_flush_req
  | .vo_flush_not_req => stats.vo_flush_not_req

/-- All counters have the same value. -/
def PktStats.const (value : UInt32) : PktStats :=
  ⟨value, value, value, value, value, value, value, value⟩

@[simp] theorem PktStats.get_const (value : UInt32) (counter : FlushCounter) :
    (const value).get counter = value := by
  cases counter <;> rfl

namespace PktStatsCollector

/-! ## The handler -/

/-- `receivedNetlinkMsg`.  The local variables are not initialized; `uninit` is what they
happen to hold. -/
def receivedNetlinkMsg (uninit : PktStats) (msg : FlushMsg) (stats : PktStats) :
    Checked PktStats := do
  let _ifindex ← nlaGet msg.IFINDEX
  match msg.FLUSH_INFO with
  | .absent => return stats
  | .malformed => return stats
  | .parsed sinfo =>
      let be_flush_req ← nlaGetIfPresent sinfo.FLUSH_REQ_BE uninit.be_flush_req
      let be_flush_not_req ← nlaGetIfPresent sinfo.FLUSH_NOT_REQ_BE uninit.be_flush_not_req
      let bk_flush_req ← nlaGetIfPresent sinfo.FLUSH_REQ_BK uninit.bk_flush_req
      let bk_flush_not_req ← nlaGetIfPresent sinfo.FLUSH_NOT_REQ_BK uninit.bk_flush_not_req
      let vi_flush_req ← nlaGetIfPresent sinfo.FLUSH_REQ_VI uninit.vi_flush_req
      let vi_flush_not_req ← nlaGetIfPresent sinfo.FLUSH_NOT_REQ_VI uninit.vi_flush_not_req
      let vo_flush_req ← nlaGetIfPresent sinfo.FLUSH_REQ_VO uninit.vo_flush_req
      let vo_flush_not_req ← nlaGetIfPresent sinfo.FLUSH_NOT_REQ_VO uninit.vo_flush_not_req
      .ok
        { be_flush_not_req := be_flush_not_req
          be_flush_req := be_flush_req
          bk_flush_not_req := bk_flush_not_req
          bk_flush_req := bk_flush_req
          vi_flush_not_req := vi_flush_not_req
          vi_flush_req := vi_flush_req
          vo_flush_not_req := vo_flush_not_req
          vo_flush_req := vo_flush_req }

/-- Without an interface index a null pointer is read. -/
theorem receivedNetlinkMsg_no_ifindex (uninit : PktStats) (info : Nested FlushInfo)
    (stats : PktStats) :
    receivedNetlinkMsg uninit ⟨none, info⟩ stats = .error .nullRead := rfl

/-- A message whose attributes are parsed stores each counter of the message, or what the
local variable holds. -/
theorem receivedNetlinkMsg_parsed (uninit : PktStats) (ifindex : UInt32) (sinfo : FlushInfo)
    (stats : PktStats) :
    ∃ stats', receivedNetlinkMsg uninit ⟨some ifindex, .parsed sinfo⟩ stats = .ok stats' ∧
      ∀ counter, stats'.get counter = (sinfo.get counter).getD (uninit.get counter) := by
  refine ⟨_, by simp only [receivedNetlinkMsg, nlaGetIfPresent_eq]; rfl, ?_⟩
  intro counter
  cases counter <;> rfl

/-! ## Absent attributes -/

/-- No absent attribute is read, and every counter stored is the one of the message or the
one before it, whatever the local variables happen to hold. -/
def FlushesSound (msg : FlushMsg) (stats : PktStats) : Prop :=
  ∀ uninit, receivedNetlinkMsg uninit msg stats ≠ .error .nullRead ∧
    ∀ stats', receivedNetlinkMsg uninit msg stats = .ok stats' →
      ∀ counter, stats'.get counter = stats.get counter ∨
        ∃ sinfo, msg.FLUSH_INFO = .parsed sinfo ∧ sinfo.get counter = some (stats'.get counter)

/-- The message has its interface index, and all eight counters or none of them. -/
def FlushesPresent (msg : FlushMsg) : Prop :=
  msg.IFINDEX.isSome = true ∧
    ∀ sinfo, msg.FLUSH_INFO = .parsed sinfo → ∀ counter, (sinfo.get counter).isSome = true

theorem present_of_flushesSound {ifindex : UInt32} {sinfo : FlushInfo} {stats : PktStats}
    (hsound : FlushesSound ⟨some ifindex, .parsed sinfo⟩ stats) (counter : FlushCounter) :
    (sinfo.get counter).isSome = true := by
  by_contra hnone
  have habsent : sinfo.get counter = none := by simpa using hnone
  have hkept (value : UInt32) : value = stats.get counter := by
    obtain ⟨stats', hstep, hcounters⟩ :=
      receivedNetlinkMsg_parsed (PktStats.const value) ifindex sinfo stats
    have hvalue : stats'.get counter = value := by simp [hcounters counter, habsent]
    obtain hsame | ⟨sinfo', heq, hpresent⟩ := (hsound _).2 stats' hstep counter
    · rw [← hvalue, hsame]
    · obtain rfl : sinfo = sinfo' := by simpa using heq
      simp [habsent] at hpresent
  -- two values of the local variable cannot both be the counter stored before
  have hclash : (0 : UInt32) = 1 := (hkept 0).trans (hkept 1).symm
  exact absurd hclash (by decide)

theorem flushesSound_of_present {msg : FlushMsg} (h : FlushesPresent msg) (stats : PktStats) :
    FlushesSound msg stats := by
  obtain ⟨ifindex, info⟩ := msg
  obtain ⟨hindex, hpresent⟩ := h
  obtain ⟨ifindex, rfl⟩ := Option.isSome_iff_exists.mp hindex
  intro uninit
  cases info with
  | absent => simp [receivedNetlinkMsg]
  | malformed => simp [receivedNetlinkMsg]
  | parsed sinfo =>
      obtain ⟨stats', hstep, hcounters⟩ := receivedNetlinkMsg_parsed uninit ifindex sinfo stats
      rw [hstep]
      refine ⟨by simp, ?_⟩
      rintro _ ⟨rfl⟩ counter
      obtain ⟨value, hvalue⟩ := Option.isSome_iff_exists.mp (hpresent sinfo rfl counter)
      refine Or.inr ⟨sinfo, rfl, ?_⟩
      rw [hcounters counter, hvalue, Option.getD_some]

/-- The counters are sound if and only if the attributes are present. -/
theorem flushesSound_iff {msg : FlushMsg} {stats : PktStats} :
    FlushesSound msg stats ↔ FlushesPresent msg := by
  constructor
  · intro hsound
    obtain ⟨ifindex, info⟩ := msg
    cases ifindex with
    | none => exact absurd (receivedNetlinkMsg_no_ifindex _ info stats) (hsound stats).1
    | some ifindex =>
        refine ⟨rfl, ?_⟩
        rintro sinfo rfl counter
        exact present_of_flushesSound hsound counter
  · exact fun hpresent => flushesSound_of_present hpresent stats

/-- **Absent attributes.**  The two handlers read no absent attribute and store nothing else
than the values of the message or those before it, if and only if the message has its
interface index, and with it the noise if statistics are stored and all eight counters. -/
theorem attributesSound_iff {R : Type} [Field R] (survey : SurveyMsg) (load : Channelload R)
    (msg : FlushMsg) (stats : PktStats) :
    (ChannelProber.NoiseSound survey load ↔ ChannelProber.NoisePresent survey load) ∧
      (FlushesSound msg stats ↔ FlushesPresent msg) :=
  ⟨ChannelProber.noiseSound_iff, flushesSound_iff⟩

/-- A message that has all counters but one. -/
def withoutVoice : FlushMsg where
  IFINDEX := some 1
  FLUSH_INFO := .parsed
    { FLUSH_REQ_BE := some 1
      FLUSH_NOT_REQ_BE := some 2
      FLUSH_REQ_BK := some 3
      FLUSH_NOT_REQ_BK := some 4
      FLUSH_REQ_VI := some 5
      FLUSH_NOT_REQ_VI := some 6
      FLUSH_REQ_VO := none
      FLUSH_NOT_REQ_VO := some 8 }

/-- What the local variable holds is stored for the counter that is absent. -/
theorem not_flushesSound_withoutVoice : ¬ FlushesSound withoutVoice (PktStats.const 7) := by
  intro hsound
  have hpresent := present_of_flushesSound hsound .vo_flush_req
  exact absurd hpresent (by decide)

end PktStatsCollector

end OpenC2X.Dcc
