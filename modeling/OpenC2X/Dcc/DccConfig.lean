import OpenC2X.Common.Data
import Mathlib.Data.Nat.Basic
import Mathlib.Data.Rat.Defs
import Mathlib.Logic.Function.Basic
import Mathlib.Tactic.Common

/-!
# Configuration and states of DCC

Every state of the DCC state machine comes with limits: the DCC mechanism, the TX power,
the packet interval (which is the token interval), the data rate and the carrier sense, for
each access category.  In the configuration of an active state a limit can be a reference
(`isRef`); its value is then set when the state is entered.

The values are read from the configuration file as `double`.  They are only compared,
copied and, in the case of the packet interval, converted to milliseconds, so `R` is any
type that allows for this.
-/

namespace OpenC2X.Dcc

def STATE_UNDEF : ℤ := -1

def STATE_RELAXED : ℤ := 0

def STATE_ACTIVE1 : ℤ := 1

def STATE_RESTRICTED : ℤ := 2

/-- Conversion of an `int` to the key type `size_t` of the maps below, of 64 bits. -/
def stateKey (id : ℤ) : ℕ := (id % 0x10000000000000000).toNat

@[simp] theorem stateKey_relaxed : stateKey STATE_RELAXED = 0 := rfl

@[simp] theorem stateKey_active1 : stateKey STATE_ACTIVE1 = 1 := rfl

@[simp] theorem stateKey_restricted : stateKey STATE_RESTRICTED = 2 := rfl

/-- `dcc_Mechanism_t`; the values in the configuration file are cast to it unchecked. -/
abbrev DccMechanism := ℤ

def dcc_ALL : DccMechanism := 63

/-- `std::map<size_t, V>` -/
abbrev StateMap (V : Type) := ℕ → Option V

/-- `insert`: an entry that is there stays as it is. -/
def StateMap.insert {V : Type} (m : StateMap V) (key : ℕ) (v : V) : StateMap V :=
  Function.update m key (some ((m key).getD v))

/-! ## Limits -/

structure DccNdlValue (T : Type) where
  isRef : Bool
  val : T
  deriving DecidableEq

structure DccNdlParam (T : Type) where
  ac : AccessCategory → DccNdlValue T

/-- The five parameters of a state and of its configuration. -/
structure Limits (R : Type) where
  asDcc : DccNdlParam DccMechanism
  asTxPower : DccNdlParam R
  asPacketInterval : DccNdlParam R
  asDatarate : DccNdlParam R
  asCarrierSense : DccNdlParam R

structure DccStateConfig (R : Type) extends Limits R where
  asStateId : ℕ
  asChanLoad : R

structure State (R : Type) extends Limits R where
  asStateId : ℕ
  asChanLoad : R

variable {R : Type}

def DccNdlParam.const {T : Type} (val : T) : DccNdlParam T where
  ac _ := { isRef := false, val := val }

/-- The constructor of `DCC_State_Config`. -/
def DccStateConfig.new (asStateId : ℕ) (asChanLoad : R) (asDcc_def : DccMechanism)
    (asTxPower_def asPacketInterval_def asDatarate_def asCarrierSense_def : R) :
    DccStateConfig R where
  asStateId := asStateId
  asChanLoad := asChanLoad
  asDcc := .const asDcc_def
  asTxPower := .const asTxPower_def
  asPacketInterval := .const asPacketInterval_def
  asDatarate := .const asDatarate_def
  asCarrierSense := .const asCarrierSense_def

def State.new (cfg : DccStateConfig R) : State R where
  toLimits := cfg.toLimits
  asStateId := cfg.asStateId
  asChanLoad := cfg.asChanLoad

/-- A relation between values holds between all limits of `l` and those of `m`. -/
def Limits.Forall (rel : ∀ {T : Type}, DccNdlValue T → DccNdlValue T → Prop)
    (l m : Limits R) : Prop :=
  ∀ ac, rel (l.asDcc.ac ac) (m.asDcc.ac ac) ∧
    rel (l.asTxPower.ac ac) (m.asTxPower.ac ac) ∧
    rel (l.asPacketInterval.ac ac) (m.asPacketInterval.ac ac) ∧
    rel (l.asDatarate.ac ac) (m.asDatarate.ac ac) ∧
    rel (l.asCarrierSense.ac ac) (m.asCarrierSense.ac ac)

/-! ## The configuration -/

/-- The members of `DccConfig` that the state machine depends on. -/
structure DccConfig (R : Type) where
  NDL_minPacketInterval : R
  NDL_maxPacketInterval : R
  NDL_maxTxPower : R
  NDL_minTxPower : R
  NDL_minDatarate : R
  NDL_maxDatarate : R
  NDL_minCarrierSense : R
  NDL_maxCarrierSense : R
  NDL_minChannelLoad : R
  NDL_maxChannelLoad : R
  /-- `NDL_timeUp / DCC_measure_interval_Tm` -/
  sizeTimeUp : ℕ
  /-- `NDL_timeDown / DCC_measure_interval_Tm` -/
  sizeTimeDown : ℕ
  NDL_numActiveState : ℕ
  /-- what is read for the active state `i`: any flags and any values -/
  active : ℕ → DccStateConfig R

namespace DccConfig

def relaxed (c : DccConfig R) : DccStateConfig R :=
  .new 0 c.NDL_minChannelLoad dcc_ALL c.NDL_maxTxPower c.NDL_minPacketInterval c.NDL_minDatarate
    c.NDL_minCarrierSense

def restricted (c : DccConfig R) : DccStateConfig R :=
  .new (c.NDL_numActiveState + 1) c.NDL_maxChannelLoad dcc_ALL c.NDL_minTxPower
    c.NDL_maxPacketInterval c.NDL_maxDatarate c.NDL_maxCarrierSense

/-- The map that `load_NDL_Parameters` fills. -/
def stateConfig (c : DccConfig R) : StateMap (DccStateConfig R) :=
  let relaxed : StateMap (DccStateConfig R) := StateMap.insert (fun _ => none) 0 c.relaxed
  let active := (List.range' 1 c.NDL_numActiveState).foldl
    (fun stateConfig i => stateConfig.insert i (c.active i)) relaxed
  active.insert (c.NDL_numActiveState + 1) c.restricted

/-- `DCC::initStates`; `none` if the configuration of a state is missing. -/
def initStates (c : DccConfig R) : Option (StateMap (State R)) := do
  let cfg ← c.stateConfig (stateKey STATE_RELAXED)
  let relaxed := StateMap.insert (fun _ => none) (stateKey STATE_RELAXED) (State.new cfg)
  let active ← (List.range' 1 c.NDL_numActiveState).foldlM (fun states i => do
    let cfg ← c.stateConfig i
    return StateMap.insert states i (State.new cfg)) relaxed
  let cfg ← c.stateConfig (stateKey STATE_RESTRICTED)
  return active.insert (stateKey STATE_RESTRICTED) (State.new cfg)

theorem initStates_one {c : DccConfig R} (hone : c.NDL_numActiveState = 1) :
    ∃ states, c.initStates = some states ∧ states 0 = some (State.new c.relaxed) ∧
      states 1 = some (State.new (c.active 1)) ∧ states 2 = some (State.new c.restricted) := by
  have hrelaxed : c.stateConfig 0 = some c.relaxed := by
    simp [stateConfig, hone, StateMap.insert]
  have hactive : c.stateConfig 1 = some (c.active 1) := by
    simp [stateConfig, hone, StateMap.insert]
  have hrestricted : c.stateConfig 2 = some c.restricted := by
    simp [stateConfig, hone, StateMap.insert]
  have hinit : c.initStates = some
      (((StateMap.insert (fun _ => none) 0 (State.new c.relaxed)).insert 1
        (State.new (c.active 1))).insert 2 (State.new c.restricted)) := by
    simp [initStates, hone, hrelaxed, hactive, hrestricted]
  refine ⟨_, hinit, ?_, ?_, ?_⟩ <;> simp [StateMap.insert]

/-- The configuration that comes with the sources, in `config/openc2x_dcc`. -/
def shipped : DccConfig ℚ where
  NDL_minPacketInterval := 0.04
  NDL_maxPacketInterval := 1.00
  NDL_maxTxPower := 33.00
  NDL_minTxPower := -10.00
  NDL_minDatarate := 3.00
  NDL_maxDatarate := 12.00
  NDL_minCarrierSense := -95.0
  NDL_maxCarrierSense := -65.0
  NDL_minChannelLoad := 0.15
  NDL_maxChannelLoad := 0.40
  sizeTimeUp := 1
  sizeTimeDown := 5
  NDL_numActiveState := 1
  active i :=
    { asStateId := i
      asChanLoad := 0.20
      asDcc := { ac := fun
        | .AC_VI => { isRef := false, val := 0 }
        | _ => { isRef := false, val := 1 } }
      asTxPower := { ac := fun
        | .AC_VI => { isRef := true, val := 23.00 }
        | .AC_VO => { isRef := false, val := 25.00 }
        | .AC_BE => { isRef := false, val := 20.00 }
        | .AC_BK => { isRef := false, val := 15.00 } }
      asPacketInterval := { ac := fun _ => { isRef := true, val := 0.50 } }
      asDatarate := { ac := fun _ => { isRef := true, val := 6.00 } }
      asCarrierSense := { ac := fun _ => { isRef := true, val := -85.0 } } }

end DccConfig

end OpenC2X.Dcc
