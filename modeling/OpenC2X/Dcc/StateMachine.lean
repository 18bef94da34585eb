import OpenC2X.Dcc.DccConfig
import OpenC2X.Dcc.RingBuffer
import OpenC2X.Lib.DeadlineTimer

/-!
# The DCC state machine

The handlers that run on the strand of DCC: `measureChannel` stores a channel load in both
ring buffers, `updateState` looks at them and possibly enters another state, `addToken`
adds a token to the bucket of an access category and re-arms its timer.  Entering a state
moves these timers as well.  Handlers run one after another; `none` stands for undefined
behaviour or a failed assertion.

The bucket that `addToken` fills is the subject of `Dcc.Threads`; here it is only seen as
the timer that paces it.  The timers of `measureChannel` and `updateState` are left out: they
are never moved, and the results below hold for these handlers at any times.
-/

namespace OpenC2X.Dcc

/-- The milliseconds of a `double` that counts seconds: the argument `x * 1000.00` of
`boost::posix_time::milliseconds`, converted to a whole number. -/
class WholeMs (R : Type) where
  wholeMs : R → ℤ

export WholeMs (wholeMs)

instance : WholeMs ℚ where
  wholeMs x := (x * 1000).num.tdiv (x * 1000).den

/-- `boost::posix_time::milliseconds`, in microseconds. -/
def milliseconds (n : ℤ) : ℤ := 1000 * n

variable {R : Type}

/-- The token interval `interval` as the timers see it. -/
def tokenTime [WholeMs R] (interval : R) : ℤ := milliseconds (wholeMs interval)

/-! ## References -/

/-- The copy loop of `setCurrentState` for one parameter. -/
def DccNdlParam.setRefs {T : Type} (current old : DccNdlParam T) : DccNdlParam T where
  ac a :=
    if (current.ac a).isRef then { current.ac a with val := (old.ac a).val } else current.ac a

theorem DccNdlParam.setRefs_ac {T : Type} (current old : DccNdlParam T) (a : AccessCategory) :
    (current.setRefs old).ac a =
      if (current.ac a).isRef then { current.ac a with val := (old.ac a).val }
      else current.ac a := rfl

/-- The copy loop of `setCurrentState`. -/
def State.setRefs (current old : State R) : State R :=
  { current with
    asDcc := current.asDcc.setRefs old.asDcc
    asTxPower := current.asTxPower.setRefs old.asTxPower
    asPacketInterval := current.asPacketInterval.setRefs old.asPacketInterval
    asDatarate := current.asDatarate.setRefs old.asDatarate
    asCarrierSense := current.asCarrierSense.setRefs old.asCarrierSense }

/-! ## Token clocks -/

/-- The error codes that a handler distinguishes. -/
inductive ErrorCode where
  | success
  | operation_aborted
  deriving DecidableEq

/-- The members that pace the tokens of one access category.  `mLastTokenAt` is
`not_a_date_time` before the first token, when it is not read. -/
structure TokenClock where
  mTimerAddToken : DeadlineTimer ℤ
  mLastTokenAt : ℤ
  mAddedFirstToken : Bool
  deriving DecidableEq

namespace TokenClock

variable [WholeMs R]

/-- Before there is a timer. -/
def unset : TokenClock where
  mTimerAddToken := .new 0
  mLastTokenAt := 0
  mAddedFirstToken := false

/-- The end of the constructor of `DCC`: the timer expires `interval` from `now` on. -/
def new (now : ℤ) (interval : R) : TokenClock :=
  { unset with mTimerAddToken := .new (now + tokenTime interval) }

/-- The part of `init` that starts the timer. -/
def start (now : ℤ) (clock : TokenClock) : TokenClock :=
  { clock with mTimerAddToken := clock.mTimerAddToken.asyncWait now }

/-- The part of `addToken` that deals with the timer. -/
def addToken (now : ℤ) (interval : R) (clock : TokenClock) : TokenClock :=
  let mLastTokenAt := clock.mTimerAddToken.expiresAt
  { mLastTokenAt := mLastTokenAt
    mAddedFirstToken := true
    mTimerAddToken := clock.mTimerAddToken.rearm (mLastTokenAt + tokenTime interval) now }

def rescheduleAddToken (now : ℤ) (interval : R) (clock : TokenClock) : TokenClock :=
  if clock.mAddedFirstToken then
    { clock with
      mTimerAddToken :=
        clock.mTimerAddToken.rearm (clock.mLastTokenAt + tokenTime interval) now }
  else
    clock

end TokenClock

/-! ## The machine -/

/-- The members of `DCC` that the handlers work on.  `mCurrentState` is the entry of
`states` for `mCurrentStateId`. -/
structure DCC (R : Type) where
  mConfig : DccConfig R
  mChannelLoadInTimeUp : RingBuffer R
  mChannelLoadInTimeDown : RingBuffer R
  states : StateMap (State R)
  mCurrentStateId : ℤ
  clock : AccessCategory → TokenClock

/-- The states other than undefined, relaxed and restricted. -/
def IsActive (id : ℤ) : Prop := id ≠ STATE_UNDEF ∧ id ≠ STATE_RELAXED ∧ id ≠ STATE_RESTRICTED

instance (id : ℤ) : Decidable (IsActive id) := inferInstanceAs (Decidable (_ ∧ _ ∧ _))

namespace DCC

def mCurrentState (d : DCC R) : Option (State R) := d.states (stateKey d.mCurrentStateId)

def setClock (d : DCC R) (ac : AccessCategory) (clock : TokenClock) : DCC R :=
  { d with clock := Function.update d.clock ac clock }

@[simp] theorem setClock_clock_self (d : DCC R) (ac : AccessCategory) (clock : TokenClock) :
    (d.setClock ac clock).clock ac = clock := Function.update_self _ _ _

theorem setClock_clock_of_ne (d : DCC R) {ac other : AccessCategory} (clock : TokenClock)
    (h : other ≠ ac) : (d.setClock ac clock).clock other = d.clock other :=
  Function.update_of_ne h _ _

def currentTokenInterval (d : DCC R) (ac : AccessCategory) : Option R :=
  d.mCurrentState.map fun state => (state.asPacketInterval.ac ac).val

/-- The states once `setCurrentState` has set the references of the state entered. -/
def enterState (d : DCC R) (state : ℤ) : Option (StateMap (State R)) := do
  let new ← d.states (stateKey state)
  if d.mCurrentStateId ≠ STATE_UNDEF ∧ state ≠ STATE_RELAXED ∧ state ≠ STATE_RESTRICTED then
    -- transition to an active state: set "refs" based on the previous state
    let oldState ← d.mCurrentState
    return Function.update d.states (stateKey state) (some (new.setRefs oldState))
  else
    return d.states

variable [WholeMs R]

/-- `setCurrentState`, at the time `now`. -/
def setCurrentState (now state : ℤ) (d : DCC R) : Option (DCC R) := do
  let states ← d.enterState state
  let current ← states (stateKey state)
  return { d with
    mCurrentStateId := state
    states := states
    clock := fun ac => (d.clock ac).rescheduleAddToken now (current.asPacketInterval.ac ac).val }

/-- The members when the constructor comes to `setCurrentState`. -/
def undef (mConfig : DccConfig R) (states : StateMap (State R)) : DCC R where
  mConfig := mConfig
  mChannelLoadInTimeUp := .reset mConfig.sizeTimeUp
  mChannelLoadInTimeDown := .reset mConfig.sizeTimeDown
  states := states
  mCurrentStateId := STATE_UNDEF
  clock _ := .unset

/-- The constructor, at the time `now`. -/
def new (mConfig : DccConfig R) (now : ℤ) : Option (DCC R) := do
  let states ← mConfig.initStates
  let d ← (undef mConfig states).setCurrentState now STATE_RELAXED
  let current ← d.mCurrentState
  return { d with clock := fun ac => .new now (current.asPacketInterval.ac ac).val }

/-- The part of `init` that starts the token timers. -/
def init (now : ℤ) (d : DCC R) : DCC R :=
  { d with clock := fun ac => (d.clock ac).start now }

/-- `measureChannel` with the measured load. -/
def measureChannel (mChannelLoad : R) (d : DCC R) : Option (DCC R) := do
  let up ← d.mChannelLoadInTimeUp.insert mChannelLoad
  let down ← d.mChannelLoadInTimeDown.insert mChannelLoad
  return { d with mChannelLoadInTimeUp := up, mChannelLoadInTimeDown := down }

/-- `updateState`, at the time `now`. -/
def updateState [LinearOrder R] (now : ℤ) (d : DCC R) : Option (DCC R) := do
  let clMinInTimeUp ← d.mChannelLoadInTimeUp.min
  let clMaxInTimeDown ← d.mChannelLoadInTimeDown.max
  if d.mCurrentStateId = STATE_RELAXED ∧ clMinInTimeUp ≥ d.mConfig.NDL_minChannelLoad then
    d.setCurrentState now STATE_ACTIVE1
  else if d.mCurrentStateId = STATE_RESTRICTED ∧
      clMaxInTimeDown < d.mConfig.NDL_maxChannelLoad then
    d.setCurrentState now STATE_ACTIVE1
  else if IsActive d.mCurrentStateId ∧ clMaxInTimeDown < d.mConfig.NDL_minChannelLoad then
    d.setCurrentState now STATE_RELAXED
  else if IsActive d.mCurrentStateId ∧ clMinInTimeUp ≥ d.mConfig.NDL_maxChannelLoad then
    d.setCurrentState now STATE_RESTRICTED
  else
    return d

/-- `addToken`, at the time `now`. -/
def addToken (now : ℤ) (ec : ErrorCode) (ac : AccessCategory) (d : DCC R) : Option (DCC R) :=
  match ec with
  | .operation_aborted => some d
  | .success => do
      let interval ← d.currentTokenInterval ac
      return d.setClock ac ((d.clock ac).addToken now interval)

/-- The machine when its timers have been started. -/
def start (mConfig : DccConfig R) (constructed started : ℤ) : Option (DCC R) :=
  (new mConfig constructed).map (init started)

/-! ## What a handler can do -/

omit [WholeMs R] in
theorem enterState_of_not_active {d : DCC R} {state : ℤ} {current : State R}
    (hentry : d.states (stateKey state) = some current)
    (hstate : ¬(state ≠ STATE_RELAXED ∧ state ≠ STATE_RESTRICTED)) :
    d.enterState state = some d.states := by
  have hcond : ¬(d.mCurrentStateId ≠ STATE_UNDEF ∧ state ≠ STATE_RELAXED ∧
      state ≠ STATE_RESTRICTED) := fun h => hstate h.2
  simp only [enterState, hentry, Option.bind_eq_bind, Option.bind_some, if_neg hcond,
    Option.pure_def]

omit [WholeMs R] in
theorem enterState_of_active {d : DCC R} {state : ℤ} {current old : State R}
    (hdefined : d.mCurrentStateId ≠ STATE_UNDEF)
    (hstate : state ≠ STATE_RELAXED ∧ state ≠ STATE_RESTRICTED)
    (hentry : d.states (stateKey state) = some current) (hold : d.mCurrentState = some old) :
    d.enterState state =
      some (Function.update d.states (stateKey state) (some (current.setRefs old))) := by
  simp only [enterState, hentry, hold, Option.bind_eq_bind, Option.bind_some,
    if_pos (And.intro hdefined hstate), Option.pure_def]

theorem setCurrentState_of_enterState {d : DCC R} (now : ℤ) {state : ℤ}
    {states : StateMap (State R)} {current : State R} (hstates : d.enterState state = some states)
    (hcurrent : states (stateKey state) = some current) :
    d.setCurrentState now state = some { d with
      mCurrentStateId := state
      states := states
      clock := fun ac =>
        (d.clock ac).rescheduleAddToken now (current.asPacketInterval.ac ac).val } := by
  simp only [setCurrentState, hstates, hcurrent, Option.bind_eq_bind, Option.bind_some,
    Option.pure_def]

theorem setCurrentState_eq_some {d d' : DCC R} {now state : ℤ}
    (h : d.setCurrentState now state = some d') :
    ∃ states current, d.enterState state = some states ∧ states (stateKey state) = some current ∧
      d' = { d with
        mCurrentStateId := state
        states := states
        clock := fun ac =>
          (d.clock ac).rescheduleAddToken now (current.asPacketInterval.ac ac).val } := by
  simp only [setCurrentState, Option.bind_eq_bind, Option.bind_eq_some_iff, Option.pure_def,
    Option.some.injEq] at h
  obtain ⟨states, hstates, current, hcurrent, rfl⟩ := h
  exact ⟨states, current, hstates, hcurrent, rfl⟩

/-- The machine that `start` makes: relaxed, without samples, and with timers that expire
one token interval after the construction. -/
def initial (c : DccConfig R) (states : StateMap (State R)) (current : State R)
    (constructed started : ℤ) : DCC R where
  mConfig := c
  mChannelLoadInTimeUp := .reset c.sizeTimeUp
  mChannelLoadInTimeDown := .reset c.sizeTimeDown
  states := states
  mCurrentStateId := STATE_RELAXED
  clock ac := (TokenClock.new constructed (current.asPacketInterval.ac ac).val).start started

theorem start_of_initStates {c : DccConfig R} {states : StateMap (State R)} {current : State R}
    (hinit : c.initStates = some states) (hentry : states (stateKey STATE_RELAXED) = some current)
    (constructed started : ℤ) :
    start c constructed started = some (initial c states current constructed started) := by
  have henter : (undef c states).enterState STATE_RELAXED = some states :=
    enterState_of_not_active hentry (by simp)
  simp only [start, new, hinit, setCurrentState_of_enterState constructed henter hentry,
    Option.bind_eq_bind, Option.bind_some, mCurrentState, hentry, Option.pure_def,
    Option.map_some]
  rfl

theorem start_eq_some {c : DccConfig R} {constructed started : ℤ} {d : DCC R}
    (h : start c constructed started = some d) :
    ∃ states current, c.initStates = some states ∧
      states (stateKey STATE_RELAXED) = some current ∧
      d = initial c states current constructed started := by
  cases hinit : c.initStates with
  | none => simp [start, new, hinit] at h
  | some states =>
      cases hentry : states (stateKey STATE_RELAXED) with
      | none =>
          have hentry' : states 0 = none := hentry
          simp [start, new, hinit, setCurrentState, enterState, undef, hentry'] at h
      | some current =>
          rw [start_of_initStates hinit hentry] at h
          exact ⟨states, current, rfl, hentry, (Option.some.inj h).symm⟩

omit [WholeMs R] in
theorem measureChannel_eq_some {d d' : DCC R} {mChannelLoad : R}
    (h : d.measureChannel mChannelLoad = some d') :
    ∃ up down, d.mChannelLoadInTimeUp.insert mChannelLoad = some up ∧
      d.mChannelLoadInTimeDown.insert mChannelLoad = some down ∧
      d' = { d with mChannelLoadInTimeUp := up, mChannelLoadInTimeDown := down } := by
  simp only [measureChannel, Option.bind_eq_bind, Option.bind_eq_some_iff, Option.pure_def,
    Option.some.injEq] at h
  obtain ⟨up, hup, down, hdown, rfl⟩ := h
  exact ⟨up, down, hup, hdown, rfl⟩

theorem addToken_eq_some {d d' : DCC R} {now : ℤ} {ac : AccessCategory}
    (h : d.addToken now .success ac = some d') :
    ∃ interval, d.currentTokenInterval ac = some interval ∧
      d' = d.setClock ac ((d.clock ac).addToken now interval) := by
  simp only [addToken, Option.bind_eq_bind, Option.bind_eq_some_iff, Option.pure_def,
    Option.some.injEq] at h
  obtain ⟨interval, hinterval, rfl⟩ := h
  exact ⟨interval, hinterval, rfl⟩

variable [LinearOrder R]

/-- The state that `updateState` enters, if it enters one. -/
def nextState (c : DccConfig R) (id : ℤ) (clMinInTimeUp clMaxInTimeDown : R) : Option ℤ :=
  if id = STATE_RELAXED ∧ clMinInTimeUp ≥ c.NDL_minChannelLoad then some STATE_ACTIVE1
  else if id = STATE_RESTRICTED ∧ clMaxInTimeDown < c.NDL_maxChannelLoad then some STATE_ACTIVE1
  else if IsActive id ∧ clMaxInTimeDown < c.NDL_minChannelLoad then some STATE_RELAXED
  else if IsActive id ∧ clMinInTimeUp ≥ c.NDL_maxChannelLoad then some STATE_RESTRICTED
  else none

omit [WholeMs R] in
theorem nextState_ne_self {c : DccConfig R} {id state : ℤ} {clMinInTimeUp clMaxInTimeDown : R}
    (h : nextState c id clMinInTimeUp clMaxInTimeDown = some state) : state ≠ id := by
  unfold nextState at h
  split_ifs at h with hrelaxed hrestricted hlow hhigh
  · rw [← Option.some.inj h, hrelaxed.1]
    decide
  · rw [← Option.some.inj h, hrestricted.1]
    decide
  · rw [← Option.some.inj h]
    exact hlow.1.2.1.symm
  · rw [← Option.some.inj h]
    exact hhigh.1.2.2.symm

omit [WholeMs R] in
theorem ne_undef_of_nextState {c : DccConfig R} {id state : ℤ}
    {clMinInTimeUp clMaxInTimeDown : R}
    (h : nextState c id clMinInTimeUp clMaxInTimeDown = some state) : id ≠ STATE_UNDEF := by
  unfold nextState at h
  split_ifs at h with hrelaxed hrestricted hlow hhigh
  · rw [hrelaxed.1]
    decide
  · rw [hrestricted.1]
    decide
  · exact hlow.1.1
  · exact hhigh.1.1

theorem updateState_eq {d : DCC R} {clMinInTimeUp clMaxInTimeDown : R} (now : ℤ)
    (hmin : d.mChannelLoadInTimeUp.min = some clMinInTimeUp)
    (hmax : d.mChannelLoadInTimeDown.max = some clMaxInTimeDown) :
    d.updateState now =
      ((nextState d.mConfig d.mCurrentStateId clMinInTimeUp clMaxInTimeDown).elim (some d)
        fun state => d.setCurrentState now state) := by
  simp only [updateState, hmin, hmax, Option.bind_eq_bind, Option.bind_some, nextState]
  split_ifs <;> rfl

theorem updateState_eq_some {d d' : DCC R} {now : ℤ} (h : d.updateState now = some d') :
    ∃ clMinInTimeUp clMaxInTimeDown, d.mChannelLoadInTimeUp.min = some clMinInTimeUp ∧
      d.mChannelLoadInTimeDown.max = some clMaxInTimeDown ∧
      ((nextState d.mConfig d.mCurrentStateId clMinInTimeUp clMaxInTimeDown = none ∧ d' = d) ∨
        ∃ state, nextState d.mConfig d.mCurrentStateId clMinInTimeUp clMaxInTimeDown = some state ∧
          d.setCurrentState now state = some d') := by
  obtain ⟨clMin, hmin⟩ : ∃ clMin, d.mChannelLoadInTimeUp.min = some clMin := by
    cases hmin : d.mChannelLoadInTimeUp.min with
    | none => simp [updateState, hmin] at h
    | some clMin => exact ⟨clMin, rfl⟩
  obtain ⟨clMax, hmax⟩ : ∃ clMax, d.mChannelLoadInTimeDown.max = some clMax := by
    cases hmax : d.mChannelLoadInTimeDown.max with
    | none => simp [updateState, hmin, hmax] at h
    | some clMax => exact ⟨clMax, rfl⟩
  rw [updateState_eq now hmin hmax] at h
  refine ⟨clMin, clMax, hmin, hmax, ?_⟩
  cases hnext : nextState d.mConfig d.mCurrentStateId clMin clMax with
  | none =>
      rw [hnext] at h
      exact Or.inl ⟨rfl, (Option.some.inj h).symm⟩
  | some state =>
      rw [hnext] at h
      exact Or.inr ⟨state, rfl, h⟩

end DCC

end OpenC2X.Dcc
