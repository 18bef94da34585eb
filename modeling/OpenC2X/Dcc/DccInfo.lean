import OpenC2X.Common.Buffers
import OpenC2X.Dcc.ActiveStates
import OpenC2X.Dcc.PktStatsCollector
import OpenC2X.Dcc.TokenPacing

/-!
# DccInfos

DCC periodically reports its state to the LDM, with a message for each access category.  The
handler runs in the strand of the other handlers, so that the state stays the same in the
meantime, but the receiving threads go on working with the buckets.

One message object is used for all categories.  The text of the state is not set for an active
state other than the first, where it would stay what it was; no run comes to such a state
(`stateText_of_run`).
-/

namespace OpenC2X.Dcc

open Buffers

/-! ## The code -/

namespace DCC

variable {R : Type}

def currentDcc (d : DCC R) (ac : AccessCategory) : Option DccMechanism :=
  d.mCurrentState.map fun state => (state.asDcc.ac ac).val

def currentTxPower (d : DCC R) (ac : AccessCategory) : Option R :=
  d.mCurrentState.map fun state => (state.asTxPower.ac ac).val

def currentDatarate (d : DCC R) (ac : AccessCategory) : Option R :=
  d.mCurrentState.map fun state => (state.asDatarate.ac ac).val

def currentCarrierSense (d : DCC R) (ac : AccessCategory) : Option R :=
  d.mCurrentState.map fun state => (state.asCarrierSense.ac ac).val

end DCC

/-- What a message about `ac` has as its state, if it is set. -/
def stateText (mCurrentStateId : ℤ) : Option String :=
  if mCurrentStateId = STATE_RELAXED then some "relaxed"
  else if mCurrentStateId = STATE_ACTIVE1 then some "active"
  else if mCurrentStateId = STATE_RESTRICTED then some "restricted"
  else none

def accessCategoryText : AccessCategory → String
  | .AC_VI => "VI"
  | .AC_VO => "VO"
  | .AC_BE => "BE"
  | .AC_BK => "BK"

def PktStats.flushReq (mPktStats : PktStats) : AccessCategory → UInt32
  | .AC_VI => mPktStats.vi_flush_req
  | .AC_VO => mPktStats.vo_flush_req
  | .AC_BE => mPktStats.be_flush_req
  | .AC_BK => mPktStats.bk_flush_req

def PktStats.flushNotReq (mPktStats : PktStats) : AccessCategory → UInt32
  | .AC_VI => mPktStats.vi_flush_not_req
  | .AC_VO => mPktStats.vo_flush_not_req
  | .AC_BE => mPktStats.be_flush_not_req
  | .AC_BK => mPktStats.bk_flush_not_req

/-- What is read for a message besides the members that only handlers change: the time, and the
bucket of the access category. -/
structure InfoReadings where
  currentTime : Int64
  availableTokens : Int32
  queuedPackets : Int32

/-- The members of DCC that the messages are made of, except for the buckets. -/
structure InfoMembers where
  machine : DCC ℚ
  mChannelLoad : ℚ
  mPktStats : PktStats

namespace InfoMembers

/-- A handler of the machine.  `measureChannel` keeps the load as well. -/
def handle (handler : Handler ℚ) (s : InfoMembers) : Option InfoMembers := do
  let machine ← Dcc.handle handler s.machine
  match handler with
  | .channel (.measureChannel mChannelLoad) =>
      return { s with machine := machine, mChannelLoad := mChannelLoad }
  | _ => return { s with machine := machine }

def measurePktStats (mPktStats : PktStats) (s : InfoMembers) : InfoMembers :=
  { s with mPktStats := mPktStats }

/-- The loop body of `sendDccInfo`, up to the sending.  `dccInfo` is the message as the iteration
before has left it. -/
def setDccInfo (s : InfoMembers) (ac : AccessCategory) (r : InfoReadings) (dccInfo : DccInfo) :
    Option DccInfo := do
  let dccInfo := { dccInfo with
    time := some r.currentTime
    channelLoad := some (.finite s.mChannelLoad) }
  let dccInfo := match stateText s.machine.mCurrentStateId with
    | some state => { dccInfo with state := some state }
    | none => dccInfo
  let dccInfo := { dccInfo with
    accessCategory := some (accessCategoryText ac)
    flushReqPackets := some (s.mPktStats.flushReq ac).toInt32
    flushNotReqPackets := some (s.mPktStats.flushNotReq ac).toInt32 }
  let dccInfo := { dccInfo with
    availableTokens := some r.availableTokens
    queuedPackets := some r.queuedPackets }
  let dcc ← s.machine.currentDcc ac
  let txPower ← s.machine.currentTxPower ac
  let tokenInterval ← s.machine.currentTokenInterval ac
  let datarate ← s.machine.currentDatarate ac
  let carrierSense ← s.machine.currentCarrierSense ac
  return { dccInfo with
    dccMechanism := some (.ofInt dcc)
    txPower := some (.finite txPower)
    tokenInterval := some (.finite tokenInterval)
    datarate := some (.finite datarate)
    carrierSense := some (.finite carrierSense) }

end InfoMembers

/-! ## The messages -/

/-- The message about an access category in a state. -/
def infoOf (s : InfoMembers) (ac : AccessCategory) (r : InfoReadings) (text : String)
    (current : State ℚ) : DccInfo where
  time := some r.currentTime
  channelLoad := some (.finite s.mChannelLoad)
  state := some text
  accessCategory := some (accessCategoryText ac)
  availableTokens := some r.availableTokens
  queuedPackets := some r.queuedPackets
  dccMechanism := some (.ofInt (current.asDcc.ac ac).val)
  txPower := some (.finite (current.asTxPower.ac ac).val)
  tokenInterval := some (.finite (current.asPacketInterval.ac ac).val)
  datarate := some (.finite (current.asDatarate.ac ac).val)
  carrierSense := some (.finite (current.asCarrierSense.ac ac).val)
  flushReqPackets := some (s.mPktStats.flushReq ac).toInt32
  flushNotReqPackets := some (s.mPktStats.flushNotReq ac).toInt32

/-- In a state with a text nothing of the message before is left. -/
theorem setDccInfo_eq {s : InfoMembers} {text : String} {current : State ℚ}
    (htext : stateText s.machine.mCurrentStateId = some text)
    (hcurrent : s.machine.mCurrentState = some current) (ac : AccessCategory) (r : InfoReadings)
    (before : DccInfo) : s.setDccInfo ac r before = some (infoOf s ac r text current) := by
  unfold InfoMembers.setDccInfo DCC.currentDcc DCC.currentTxPower DCC.currentTokenInterval
    DCC.currentDatarate DCC.currentCarrierSense
  rw [htext, hcurrent]
  rfl

theorem setDccInfo_eq_some {s : InfoMembers} {ac : AccessCategory} {r : InfoReadings}
    {before dccInfo : DccInfo} {text : String}
    (htext : stateText s.machine.mCurrentStateId = some text)
    (h : s.setDccInfo ac r before = some dccInfo) :
    ∃ current, s.machine.mCurrentState = some current ∧ dccInfo = infoOf s ac r text current := by
  cases hcurrent : s.machine.mCurrentState with
  | none => simp [InfoMembers.setDccInfo, DCC.currentDcc, hcurrent] at h
  | some current =>
      rw [setDccInfo_eq htext hcurrent] at h
      exact ⟨current, rfl, (Option.some.inj h).symm⟩

theorem mem_mAccessCategories (ac : AccessCategory) : ac ∈ mAccessCategories := by
  cases ac <;> decide

theorem stateText_of_target {state : ℤ}
    (h : state = STATE_RELAXED ∨ state = STATE_ACTIVE1 ∨ state = STATE_RESTRICTED) :
    ∃ text, stateText state = some text := by
  rcases h with rfl | rfl | rfl
  · exact ⟨"relaxed", rfl⟩
  · exact ⟨"active", rfl⟩
  · exact ⟨"restricted", rfl⟩

/-- A handler enters a state with a text, or none at all. -/
theorem stateText_handle {handler : Handler ℚ} {d d' : DCC ℚ} (h : handle handler d = some d')
    (htext : ∃ text, stateText d.mCurrentStateId = some text) :
    ∃ text, stateText d'.mCurrentStateId = some text := by
  cases handler with
  | channel step =>
      cases step with
      | measureChannel load =>
          obtain ⟨up, down, -, -, rfl⟩ := DCC.measureChannel_eq_some h
          exact htext
      | updateState now =>
          obtain ⟨clMin, clMax, -, -, ⟨-, rfl⟩ | ⟨state, hnext, hset⟩⟩ :=
            DCC.updateState_eq_some h
          · exact htext
          · obtain ⟨states, current, -, -, rfl⟩ := DCC.setCurrentState_eq_some hset
            exact stateText_of_target (nextState_target hnext)
  | timerExpires ac =>
      obtain ⟨timer, -, rfl⟩ := DCC.withTimer_eq_some h
      exact htext
  | addToken now ec ac =>
      cases ec with
      | success =>
          obtain ⟨interval, timer, -, -, rfl⟩ := handle_addToken_eq_some h
          exact htext
      | operation_aborted =>
          obtain ⟨mid, hmid, haborted⟩ := Option.bind_eq_some_iff.mp h
          obtain rfl := Option.some.inj haborted
          obtain ⟨timer, -, rfl⟩ := DCC.withTimer_eq_some hmid
          exact htext

theorem stateText_start {c : DccConfig ℚ} {constructed started : ℤ} {d : DCC ℚ}
    (h : DCC.start c constructed started = some d) :
    ∃ text, stateText d.mCurrentStateId = some text := by
  obtain ⟨states, current, -, -, rfl⟩ := DCC.start_eq_some h
  exact ⟨"relaxed", rfl⟩

theorem InfoMembers.handle_eq_some {handler : Handler ℚ} {s s' : InfoMembers}
    (h : s.handle handler = some s') : Dcc.handle handler s.machine = some s'.machine := by
  obtain ⟨machine, hmachine, hreturn⟩ := Option.bind_eq_some_iff.mp h
  rw [hmachine]
  split at hreturn <;> obtain rfl := Option.some.inj hreturn <;> rfl

end OpenC2X.Dcc
