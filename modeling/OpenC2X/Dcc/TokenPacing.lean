import OpenC2X.Dcc.TokenClock
import Mathlib.Data.List.Chain

/-!
# Token pacing

Runs in real time: the handler of a wait runs exactly when it is due, at the later of the
expiry and the moment the wait was armed.

As long as a timer is never armed for a moment that has passed, a token is added exactly at
the expiry, `mLastTokenAt` is the time of the last token, and the next token comes one
interval later (`tokenPacing`).  But a switch to a state with a shorter interval sets the
expiry relative to the last token and not to the switch.  The token is then added late, while
`mLastTokenAt` is set to the expiry in the past, and the tokens that were missed meanwhile
follow in a burst (`burst`, `not_paced_shipped`).
-/

namespace OpenC2X.Dcc

variable {R : Type}

def mAccessCategories : List AccessCategory := [.AC_VI, .AC_VO, .AC_BE, .AC_BK]

/-- A token: when it was added and the token interval in force then. -/
structure Token where
  time : ℤ
  interval : ℤ
  deriving DecidableEq

/-- The machine in real time, with the tokens added so far. -/
structure Timed (R : Type) where
  dcc : DCC R
  now : ℤ
  tokens : AccessCategory → List Token

inductive TimedEvent (R : Type) where
  | measureChannel (mChannelLoad : R)
  | updateState
  /-- the timer expires and the handler of its wait runs -/
  | addToken (ac : AccessCategory)
  /-- the handler of an aborted wait runs -/
  | aborted (ac : AccessCategory)

/-- The handlers that run in an event at the time `time`. -/
def TimedEvent.handlers (time : ℤ) : TimedEvent R → List (Handler R)
  | .measureChannel mChannelLoad => [.channel (.measureChannel mChannelLoad)]
  | .updateState => [.channel (.updateState time)]
  | .addToken ac => [.timerExpires ac, .addToken time .success ac]
  | .aborted ac => [.addToken time .operation_aborted ac]

namespace Timed

/-- No wait is overdue at the time `time`. -/
def Punctual (s : Timed R) (time : ℤ) : Prop :=
  s.now ≤ time ∧ ∀ ac ∈ mAccessCategories, ∀ armedAt ∈ (s.dcc.clock ac).mTimerAddToken.armed,
    time ≤ (s.dcc.clock ac).mTimerAddToken.due armedAt

instance (s : Timed R) (time : ℤ) : Decidable (s.Punctual time) :=
  inferInstanceAs (Decidable (_ ∧ _))

/-- A wait of `ac` is due at the time `time`. -/
def Due (s : Timed R) (time : ℤ) (ac : AccessCategory) : Prop :=
  ∃ armedAt ∈ (s.dcc.clock ac).mTimerAddToken.armed,
    time = (s.dcc.clock ac).mTimerAddToken.due armedAt

instance (s : Timed R) (time : ℤ) (ac : AccessCategory) : Decidable (s.Due time ac) :=
  inferInstanceAs (Decidable (∃ _ ∈ _, _))

/-- A token is only added when its wait is due. -/
def Allowed (s : Timed R) (time : ℤ) : TimedEvent R → Prop
  | .addToken ac => s.Due time ac
  | _ => True

instance (s : Timed R) (time : ℤ) : (event : TimedEvent R) → Decidable (s.Allowed time event)
  | .addToken ac => inferInstanceAs (Decidable (s.Due time ac))
  | .measureChannel _ => inferInstanceAs (Decidable True)
  | .updateState => inferInstanceAs (Decidable True)
  | .aborted _ => inferInstanceAs (Decidable True)

variable [WholeMs R]

/-- The token of a run of `addToken` at the time `time` for the bucket of `ac`.  A run counts as
a token also when `increment` finds the bucket full. -/
def added (s : Timed R) (time : ℤ) (ac : AccessCategory) : TimedEvent R → List Token
  | .addToken other =>
      if ac = other then
        ((s.dcc.currentTokenInterval ac).map fun interval => ⟨time, tokenTime interval⟩).toList
      else
        []
  | _ => []

variable [LinearOrder R]

/-- An event at a time at which no wait is overdue. -/
def step (e : ℤ × TimedEvent R) (s : Timed R) : Option (Timed R) :=
  if s.Punctual e.1 ∧ s.Allowed e.1 e.2 then
    (PartialRun.run handle s.dcc (e.2.handlers e.1)).map fun dcc =>
      { dcc := dcc
        now := e.1
        tokens := fun ac => s.tokens ac ++ s.added e.1 ac e.2 }
  else
    none

theorem step_eq_some {s s' : Timed R} {time : ℤ} {event : TimedEvent R}
    (h : step (time, event) s = some s') :
    s.Punctual time ∧ s.Allowed time event ∧
      PartialRun.run handle s.dcc (event.handlers time) = some s'.dcc ∧ s'.now = time ∧
      ∀ ac, s'.tokens ac = s.tokens ac ++ s.added time ac event := by
  unfold step at h
  by_cases hguard : s.Punctual time ∧ s.Allowed time event
  · rw [if_pos hguard] at h
    obtain ⟨dcc, hdcc, rfl⟩ := Option.map_eq_some_iff.mp h
    exact ⟨hguard.1, hguard.2, hdcc, rfl, fun _ => rfl⟩
  · rw [if_neg hguard] at h
    cases h

theorem run_handlers {s s' : Timed R} :
    ∀ {events : List (ℤ × TimedEvent R)}, PartialRun.run step s events = some s' →
      PartialRun.run handle s.dcc (events.flatMap fun e => e.2.handlers e.1) = some s'.dcc := by
  intro events
  induction events generalizing s with
  | nil =>
      intro h
      obtain rfl : s = s' := Option.some.inj h
      rfl
  | cons e events ih =>
      intro h
      rw [PartialRun.run_cons, Option.bind_eq_some_iff] at h
      obtain ⟨mid, hstep, hrest⟩ := h
      obtain ⟨-, -, hrun, -, -⟩ := step_eq_some hstep
      rw [List.flatMap_cons, PartialRun.run_append, hrun]
      exact ih hrest

def start (c : DccConfig R) (constructed started : ℤ) : Option (Timed R) :=
  (DCC.start c constructed started).map fun dcc =>
    { dcc := dcc, now := started, tokens := fun _ => [] }

omit [LinearOrder R] in
theorem start_dcc {c : DccConfig R} {constructed started : ℤ} {s₀ : Timed R}
    (h : start c constructed started = some s₀) :
    DCC.start c constructed started = some s₀.dcc := by
  obtain ⟨dcc, hdcc, rfl⟩ := Option.map_eq_some_iff.mp h
  exact hdcc

end Timed

/-! ## Switches -/

/-- The token interval that the state `state` will have when it is entered: a reference of
an active state takes it from the current state. -/
def DCC.intervalIn (d : DCC R) (state : ℤ) (ac : AccessCategory) : Option R :=
  (d.states (stateKey state)).bind fun new =>
    if (state ≠ STATE_RELAXED ∧ state ≠ STATE_RESTRICTED) ∧
        (new.asPacketInterval.ac ac).isRef = true then
      d.currentTokenInterval ac
    else
      some (new.asPacketInterval.ac ac).val

theorem DCC.setCurrentState_interval [WholeMs R] {d d' : DCC R} {now state : ℤ}
    (h : d.setCurrentState now state = some d') (hdefined : d.mCurrentStateId ≠ STATE_UNDEF)
    (ac : AccessCategory) : d'.currentTokenInterval ac = d.intervalIn state ac := by
  obtain ⟨states, current, henter, hcurrent, rfl⟩ := DCC.setCurrentState_eq_some h
  have hinterval : ({ d with
      mCurrentStateId := state
      states := states
      clock := fun ac => (d.clock ac).rescheduleAddToken now
        (current.asPacketInterval.ac ac).val } : DCC R).currentTokenInterval ac =
        some (current.asPacketInterval.ac ac).val :=
    congrArg (Option.map fun state : State R => (state.asPacketInterval.ac ac).val) hcurrent
  rw [hinterval, DCC.intervalIn]
  cases hnew : d.states (stateKey state) with
  | none => simp [DCC.enterState, hnew] at henter
  | some new =>
      rw [Option.bind_some]
      by_cases hactive : state ≠ STATE_RELAXED ∧ state ≠ STATE_RESTRICTED
      · cases hold : d.mCurrentState with
        | none => simp [DCC.enterState, hnew, hold, hdefined, hactive] at henter
        | some old =>
            rw [DCC.enterState_of_active hdefined hactive hnew hold] at henter
            rw [← Option.some.inj henter, Function.update_self] at hcurrent
            rw [← Option.some.inj hcurrent, DCC.currentTokenInterval, hold]
            show some (((new.asPacketInterval.setRefs old.asPacketInterval).ac ac).val) = _
            rw [DccNdlParam.setRefs_ac]
            by_cases href : (new.asPacketInterval.ac ac).isRef = true
            · rw [if_pos href, if_pos ⟨hactive, href⟩]
              rfl
            · rw [if_neg href, if_neg fun h => href h.2]
      · rw [DCC.enterState_of_not_active hnew hactive] at henter
        rw [← Option.some.inj henter, hnew] at hcurrent
        rw [← Option.some.inj hcurrent, if_neg fun h => hactive h.1]

/-- If an update at the time `time` switches the state, then the next token of `ac` is not
overdue yet under the interval of the state that is entered. -/
def DCC.TimelySwitch [LinearOrder R] [WholeMs R] (d : DCC R) (time : ℤ) (ac : AccessCategory) :
    Prop :=
  ∀ clMinInTimeUp clMaxInTimeDown state interval,
    d.mChannelLoadInTimeUp.min = some clMinInTimeUp →
    d.mChannelLoadInTimeDown.max = some clMaxInTimeDown →
    DCC.nextState d.mConfig d.mCurrentStateId clMinInTimeUp clMaxInTimeDown = some state →
    d.intervalIn state ac = some interval →
    (d.clock ac).mAddedFirstToken = true →
    time ≤ (d.clock ac).mLastTokenAt + tokenTime interval

/-! ## What an event does to the clock of one access category -/

variable [WholeMs R]

/-- Nothing that the pacing of `ac` depends on is different in `d'`. -/
structure SameWait (ac : AccessCategory) (d d' : DCC R) : Prop where
  expiresAt : (d'.clock ac).mTimerAddToken.expiresAt = (d.clock ac).mTimerAddToken.expiresAt
  armed : (d'.clock ac).mTimerAddToken.armed = (d.clock ac).mTimerAddToken.armed
  mLastTokenAt : (d'.clock ac).mLastTokenAt = (d.clock ac).mLastTokenAt
  mAddedFirstToken : (d'.clock ac).mAddedFirstToken = (d.clock ac).mAddedFirstToken
  interval : d'.currentTokenInterval ac = d.currentTokenInterval ac

theorem sameWait_aborted [LinearOrder R] {d d' : DCC R} {time : ℤ} {other : AccessCategory}
    (h : handle (.addToken time .operation_aborted other) d = some d') (ac : AccessCategory) :
    SameWait ac d d' := by
  obtain ⟨mid, hmid, haborted⟩ := Option.bind_eq_some_iff.mp h
  obtain ⟨timer, htake, rfl⟩ := DCC.withTimer_eq_some hmid
  obtain rfl := Option.some.inj haborted
  obtain ⟨-, rfl⟩ := DeadlineTimer.takeAborted_eq_some.mp htake
  by_cases hac : ac = other
  · subst hac
    constructor <;> first | rw [DCC.setClock_clock_self] | rfl
  · constructor <;> first | rw [DCC.setClock_clock_of_ne d _ hac] | rfl

/-- A wait expires and its handler runs: the clock moves on from the expiry. -/
structure TokenAdded (time : ℤ) (interval : R) (ac : AccessCategory) (d d' : DCC R) : Prop where
  expiresAt : (d'.clock ac).mTimerAddToken.expiresAt =
    (d.clock ac).mTimerAddToken.expiresAt + tokenTime interval
  armed : (d'.clock ac).mTimerAddToken.armed = [time]
  mLastTokenAt : (d'.clock ac).mLastTokenAt = (d.clock ac).mTimerAddToken.expiresAt
  mAddedFirstToken : (d'.clock ac).mAddedFirstToken = true
  interval : d'.currentTokenInterval ac = some interval

theorem currentTokenInterval_of_handle [LinearOrder R] {d expired d' : DCC R} {time : ℤ}
    {ac : AccessCategory} (hexpire : handle (.timerExpires ac) d = some expired)
    (hadd : handle (.addToken time .success ac) expired = some d') :
    ∃ interval, d.currentTokenInterval ac = some interval := by
  obtain ⟨timer, -, rfl⟩ := DCC.withTimer_eq_some hexpire
  obtain ⟨interval, -, hinterval, -⟩ := handle_addToken_eq_some hadd
  exact ⟨interval, hinterval⟩

theorem tokenAdded [LinearOrder R] {d expired d' : DCC R} {time : ℤ} {ac : AccessCategory}
    {interval : R} (hinterval : d.currentTokenInterval ac = some interval)
    (hexpire : handle (.timerExpires ac) d = some expired)
    (hadd : handle (.addToken time .success ac) expired = some d') :
    TokenAdded time interval ac d d' ∧ ∀ other, other ≠ ac → SameWait other d d' := by
  obtain ⟨timer, htimer, rfl⟩ := DCC.withTimer_eq_some hexpire
  obtain ⟨-, rfl⟩ := DeadlineTimer.expire_eq_some.mp htimer
  obtain ⟨interval', timer, hinterval', htake, rfl⟩ := handle_addToken_eq_some hadd
  obtain ⟨-, rfl⟩ := DeadlineTimer.takeFired_eq_some.mp htake
  obtain rfl : interval = interval' := Option.some.inj (hinterval.symm.trans hinterval')
  refine ⟨?_, fun other hother => ?_⟩
  · constructor <;>
      simp only [DCC.setClock_clock_self, TokenClock.addToken, DeadlineTimer.rearm_expiresAt,
        DeadlineTimer.rearm_armed]
    exact hinterval'
  · constructor <;>
      first
      | rw [DCC.setClock_clock_of_ne _ _ hother, DCC.setClock_clock_of_ne d _ hother]
      | rfl

/-! ## Pacing -/

/-- Two consecutive tokens are far enough apart. -/
def Paced (a b : Token) : Prop := min a.interval b.interval ≤ b.time - a.time

/-- The tokens of `ac` are paced, and the next one will be: unless an interval is negative,
`mLastTokenAt` is the time of the last token and the wait was armed before its expiry. -/
structure Pace (ac : AccessCategory) (s : Timed R) : Prop where
  paced : (s.tokens ac).IsChain Paced
  time_le : ∀ token ∈ (s.tokens ac).getLast?, token.time ≤ s.now
  before_first : (s.dcc.clock ac).mAddedFirstToken = false → s.tokens ac = [] ∧
    ∀ armedAt ∈ (s.dcc.clock ac).mTimerAddToken.armed,
      armedAt ≤ (s.dcc.clock ac).mTimerAddToken.expiresAt
  in_time : (s.dcc.clock ac).mAddedFirstToken = true →
    ∀ interval, s.dcc.currentTokenInterval ac = some interval → 0 ≤ tokenTime interval →
      ∀ armedAt ∈ (s.dcc.clock ac).mTimerAddToken.armed,
        armedAt ≤ (s.dcc.clock ac).mTimerAddToken.expiresAt
  last_eq : (s.dcc.clock ac).mAddedFirstToken = true →
    ∀ token ∈ (s.tokens ac).getLast?, 0 ≤ token.interval →
      (s.dcc.clock ac).mLastTokenAt = token.time

namespace Pace

variable {ac : AccessCategory} {s s' : Timed R}

theorem idle (h : Pace ac s) (hsame : SameWait ac s.dcc s'.dcc)
    (htokens : s'.tokens ac = s.tokens ac) (hnow : s.now ≤ s'.now) : Pace ac s' where
  paced := by
    rw [htokens]
    exact h.paced
  time_le token htoken := by
    rw [htokens] at htoken
    exact (h.time_le token htoken).trans hnow
  before_first := by
    rw [htokens, hsame.armed, hsame.expiresAt, hsame.mAddedFirstToken]
    exact h.before_first
  in_time := by
    rw [hsame.armed, hsame.expiresAt, hsame.mAddedFirstToken, hsame.interval]
    exact h.in_time
  last_eq := by
    rw [htokens, hsame.mLastTokenAt, hsame.mAddedFirstToken]
    exact h.last_eq

/-- A switch re-arms the timer, in time by assumption, if a token was added before. -/
theorem switched (h : Pace ac s) {time : ℤ} {current : State R}
    (hclock : s'.dcc.clock ac = (s.dcc.clock ac).rescheduleAddToken time
      (current.asPacketInterval.ac ac).val)
    (htimely : (s.dcc.clock ac).mAddedFirstToken = true →
      time ≤ (s.dcc.clock ac).mLastTokenAt + tokenTime (current.asPacketInterval.ac ac).val)
    (htokens : s'.tokens ac = s.tokens ac) (hnow : s.now ≤ s'.now) : Pace ac s' := by
  by_cases hfirst : (s.dcc.clock ac).mAddedFirstToken = true
  · -- The timer is armed anew, relative to the last token, which stays the same.
    rw [TokenClock.rescheduleAddToken, if_pos hfirst] at hclock
    have hadded : (s'.dcc.clock ac).mAddedFirstToken = true := by
      rw [hclock]
      exact hfirst
    refine ⟨htokens ▸ h.paced, ?_, ?_, ?_, ?_⟩
    · intro token htoken
      rw [htokens] at htoken
      exact (h.time_le token htoken).trans hnow
    · intro hnot
      exact absurd (hadded.symm.trans hnot) (by decide)
    · intro _ _ _ _ armedAt harmed
      rw [hclock] at harmed ⊢
      obtain rfl : armedAt = time := List.mem_singleton.mp harmed
      exact htimely hfirst
    · intro _ token htoken hnonneg
      rw [htokens] at htoken
      rw [hclock]
      exact h.last_eq hfirst token htoken hnonneg
  · -- Without a token to start from, the timer goes on as it is.
    rw [TokenClock.rescheduleAddToken, if_neg hfirst] at hclock
    have hnot : (s.dcc.clock ac).mAddedFirstToken = false := by simpa using hfirst
    have hnot' : (s'.dcc.clock ac).mAddedFirstToken = false := by
      rw [hclock]
      exact hnot
    obtain ⟨hnil, hearly⟩ := h.before_first hnot
    refine ⟨htokens ▸ h.paced, ?_, ?_, ?_, ?_⟩
    · intro token htoken
      rw [htokens, hnil] at htoken
      cases htoken
    · intro _
      rw [htokens, hclock]
      exact ⟨hnil, hearly⟩
    · intro hadded
      exact absurd (hnot'.symm.trans hadded) (by decide)
    · intro hadded
      exact absurd (hnot'.symm.trans hadded) (by decide)

/-- A token whose interval is not negative is added exactly at the expiry. -/
theorem time_eq_expiresAt (h : Pace ac s) {time : ℤ} {interval : R} (hdue : s.Due time ac)
    (hinterval : s.dcc.currentTokenInterval ac = some interval)
    (hnonneg : 0 ≤ tokenTime interval) :
    time = (s.dcc.clock ac).mTimerAddToken.expiresAt := by
  obtain ⟨armedAt, harmed, htime⟩ := hdue
  have hearly : armedAt ≤ (s.dcc.clock ac).mTimerAddToken.expiresAt := by
    by_cases hfirst : (s.dcc.clock ac).mAddedFirstToken = true
    · exact h.in_time hfirst interval hinterval hnonneg armedAt harmed
    · exact (h.before_first (by simpa using hfirst)).2 armedAt harmed
  rw [htime, DeadlineTimer.due, max_eq_left hearly]

theorem paced_next (h : Pace ac s) (hfits : ClockFits ac s.dcc) {time : ℤ} {interval : R}
    (hpunctual : s.now ≤ time) (hdue : s.Due time ac)
    (hinterval : s.dcc.currentTokenInterval ac = some interval) :
    ∀ token ∈ (s.tokens ac).getLast?, Paced token ⟨time, tokenTime interval⟩ := by
  intro token htoken
  unfold Paced
  show min token.interval (tokenTime interval) ≤ time - token.time
  by_cases hsign : 0 ≤ token.interval ∧ 0 ≤ tokenTime interval
  · obtain ⟨hold, hnew⟩ := hsign
    have hfirst : (s.dcc.clock ac).mAddedFirstToken = true := by
      by_contra hnot
      rw [(h.before_first (by simpa using hnot)).1] at htoken
      cases htoken
    obtain ⟨interval', hinterval', hinv⟩ := hfits
    obtain rfl : interval' = interval := Option.some.inj (hinterval'.symm.trans hinterval)
    have hexpires := hinv.expiresAt_eq hfirst
    have hlast := h.last_eq hfirst token htoken hold
    have hwhen := h.time_eq_expiresAt hdue hinterval hnew
    calc
      min token.interval (tokenTime interval') ≤ tokenTime interval' := min_le_right _ _
      _ = time - token.time := by omega
  · -- one of the intervals is negative: the later token is enough
    have hlater := h.time_le token htoken
    omega

/-- The next token.  Only if its interval is negative may the wait have been armed after its
expiry. -/
theorem added (h : Pace ac s) (hfits : ClockFits ac s.dcc) {time : ℤ} {interval : R}
    (hpunctual : s.now ≤ time) (hdue : s.Due time ac)
    (hinterval : s.dcc.currentTokenInterval ac = some interval)
    (hadded : TokenAdded time interval ac s.dcc s'.dcc)
    (htokens : s'.tokens ac = s.tokens ac ++ [⟨time, tokenTime interval⟩])
    (hnow : s'.now = time) : Pace ac s' := by
  have hexact : 0 ≤ tokenTime interval →
      time = (s.dcc.clock ac).mTimerAddToken.expiresAt := fun hnonneg =>
    h.time_eq_expiresAt hdue hinterval hnonneg
  refine ⟨?_, ?_, ?_, ?_, ?_⟩
  · rw [htokens, List.isChain_append]
    refine ⟨h.paced, List.isChain_singleton _, ?_⟩
    intro token htoken next hnext
    obtain rfl : _ = next := by simpa using hnext
    exact h.paced_next hfits hpunctual hdue hinterval token htoken
  · intro token htoken
    obtain rfl : _ = token := by simpa [htokens] using htoken
    exact hnow.ge
  · intro hnot
    exact absurd (hadded.mAddedFirstToken.symm.trans hnot) (by decide)
  · intro _ interval' hinterval' hnonneg armedAt' harmed'
    obtain rfl : interval = interval' :=
      Option.some.inj (hadded.interval.symm.trans hinterval')
    rw [hadded.armed] at harmed'
    obtain rfl : armedAt' = time := List.mem_singleton.mp harmed'
    calc
      armedAt' = (s.dcc.clock ac).mTimerAddToken.expiresAt := hexact hnonneg
      _ ≤ (s.dcc.clock ac).mTimerAddToken.expiresAt + tokenTime interval :=
        le_add_of_nonneg_right hnonneg
      _ = (s'.dcc.clock ac).mTimerAddToken.expiresAt := hadded.expiresAt.symm
  · intro _ token htoken hnonneg
    obtain rfl : _ = token := by simpa [htokens] using htoken
    rw [hadded.mLastTokenAt]
    exact (hexact hnonneg).symm

theorem step [LinearOrder R] (h : Pace ac s) (hfits : ClockFits ac s.dcc) {time : ℤ}
    {event : TimedEvent R} (hstep : Timed.step (time, event) s = some s')
    (htimely : event = .updateState → s.dcc.TimelySwitch time ac) : Pace ac s' := by
  obtain ⟨⟨hnow, -⟩, hallowed, hrun, hnow', htokens⟩ := Timed.step_eq_some hstep
  have hle : s.now ≤ s'.now := hnow.trans hnow'.ge
  cases event with
  | measureChannel load =>
      obtain ⟨up, down, -, -, hdcc⟩ :=
        DCC.measureChannel_eq_some (PartialRun.run_singleton.mp hrun)
      refine h.idle ?_ ((htokens ac).trans (List.append_nil _)) hle
      rw [hdcc]
      exact ⟨rfl, rfl, rfl, rfl, rfl⟩
  | updateState =>
      have htokens' : s'.tokens ac = s.tokens ac := (htokens ac).trans (List.append_nil _)
      obtain ⟨clMin, clMax, hmin, hmax, ⟨-, hdcc⟩ | ⟨state, hnext, hset⟩⟩ :=
        DCC.updateState_eq_some (PartialRun.run_singleton.mp hrun)
      · refine h.idle ?_ htokens' hle
        rw [hdcc]
        exact ⟨rfl, rfl, rfl, rfl, rfl⟩
      · obtain ⟨current, hcurrent, hclock⟩ := DCC.setCurrentState_clock hset
        refine h.switched (hclock ac) ?_ htokens' hle
        intro hfirst
        have hinterval : s.dcc.intervalIn state ac =
            some (current.asPacketInterval.ac ac).val := by
          rw [← DCC.setCurrentState_interval hset (DCC.ne_undef_of_nextState hnext) ac]
          exact congrArg _ hcurrent
        exact htimely rfl clMin clMax state _ hmin hmax hnext hinterval hfirst
  | addToken other =>
      obtain ⟨expired, hexpire, hadd⟩ := PartialRun.run_pair.mp hrun
      obtain ⟨interval, hinterval⟩ := currentTokenInterval_of_handle hexpire hadd
      obtain ⟨hadded, hothers⟩ := tokenAdded hinterval hexpire hadd
      by_cases hac : ac = other
      · subst hac
        refine h.added hfits hnow hallowed hinterval hadded ?_ hnow'
        rw [htokens ac, Timed.added, if_pos rfl, hinterval]
        rfl
      · refine h.idle (hothers ac hac) ?_ hle
        rw [htokens ac, Timed.added, if_neg hac, List.append_nil]
  | aborted other =>
      exact h.idle (sameWait_aborted (PartialRun.run_singleton.mp hrun) ac)
        ((htokens ac).trans (List.append_nil _)) hle

theorem start [LinearOrder R] {c : DccConfig R} {constructed started : ℤ} {s₀ : Timed R}
    (hstart : Timed.start c constructed started = some s₀)
    (hinit : started ≤ (s₀.dcc.clock ac).mTimerAddToken.expiresAt) : Pace ac s₀ := by
  obtain ⟨dcc, hdcc, rfl⟩ := Option.map_eq_some_iff.mp hstart
  obtain ⟨states, current, -, -, rfl⟩ := DCC.start_eq_some hdcc
  refine ⟨List.isChain_nil, ?_, ?_, ?_, ?_⟩
  · intro token htoken
    cases htoken
  · intro _
    refine ⟨rfl, fun armedAt harmed => ?_⟩
    obtain rfl : armedAt = started := List.mem_singleton.mp harmed
    exact hinit
  · intro hadded
    cases hadded
  · intro hadded
    cases hadded

end Pace

/-- **Token pacing.**  If the timer is never armed too late, neither at the start nor at a
switch, then two consecutive tokens are never closer than the smaller of their intervals. -/
theorem tokenPacing [LinearOrder R] {c : DccConfig R} {constructed started : ℤ} {s₀ s : Timed R}
    (hstart : Timed.start c constructed started = some s₀) {events : List (ℤ × TimedEvent R)}
    (hrun : PartialRun.run Timed.step s₀ events = some s) (ac : AccessCategory)
    (hinit : started ≤ (s₀.dcc.clock ac).mTimerAddToken.expiresAt)
    (htimely : ∀ before time after t, events = before ++ (time, .updateState) :: after →
      PartialRun.run Timed.step s₀ before = some t → t.dcc.TimelySwitch time ac) :
    (s.tokens ac).IsChain Paced := by
  have hpace : ∀ before s, PartialRun.run Timed.step s₀ before = some s →
      (∃ after, events = before ++ after) → Pace ac s := by
    apply PartialRun.run_induction
    · exact fun _ => Pace.start hstart hinit
    · rintro before ⟨time, event⟩ s s' hbefore ih hstep ⟨after, heq⟩
      have heq' : events = before ++ (time, event) :: after := by simpa using heq
      obtain ⟨hfits, -⟩ :=
        clockFits_of_run (Timed.start_dcc hstart) ac _ _ (Timed.run_handlers hbefore)
      refine (ih ⟨_, heq'⟩).step hfits hstep ?_
      rintro rfl
      exact htimely before time after s heq' hbefore
  exact (hpace events s hrun ⟨[], (List.append_nil _).symm⟩).paced

/-- A wait that was armed too late: the token it brings and the next one are too close. -/
theorem burst [LinearOrder R] {s s₁ s₂ : Timed R} {ac : AccessCategory} {t₁ t₂ armedAt : ℤ}
    {interval : R} (hfits : ClockFits ac s.dcc)
    (hinterval : s.dcc.currentTokenInterval ac = some interval)
    (hpositive : 0 < tokenTime interval)
    (harmed : armedAt ∈ (s.dcc.clock ac).mTimerAddToken.armed)
    (hlate : (s.dcc.clock ac).mTimerAddToken.expiresAt < armedAt)
    (hfirst : Timed.step (t₁, .addToken ac) s = some s₁)
    (hsecond : Timed.step (t₂, .addToken ac) s₁ = some s₂) :
    ¬Paced ⟨t₁, tokenTime interval⟩ ⟨t₂, tokenTime interval⟩ ∧
      s₂.tokens ac =
        s.tokens ac ++ [⟨t₁, tokenTime interval⟩, ⟨t₂, tokenTime interval⟩] := by
  obtain ⟨-, hdue₁, hrun₁, -, htokens₁⟩ := Timed.step_eq_some hfirst
  obtain ⟨-, hdue₂, -, -, htokens₂⟩ := Timed.step_eq_some hsecond
  obtain ⟨expired, hexpire, hadd⟩ := PartialRun.run_pair.mp hrun₁
  obtain ⟨hadded, -⟩ := tokenAdded hinterval hexpire hadd
  constructor
  · -- the only wait runs at once, the next one follows the expiry that has passed
    have ht₁ : t₁ = armedAt := by
      obtain ⟨armedAt', harmed', htime⟩ := hdue₁
      obtain ⟨interval', -, hinv⟩ := hfits
      have hsame : armedAt' = armedAt := hinv.oneWait.eq_of_mem harmed' harmed
      rw [htime, hsame, DeadlineTimer.due, max_eq_right hlate.le]
    obtain ⟨armedAt₂, harmed₂, ht₂⟩ := hdue₂
    rw [hadded.armed] at harmed₂
    obtain rfl : armedAt₂ = t₁ := List.mem_singleton.mp harmed₂
    rw [DeadlineTimer.due, hadded.expiresAt] at ht₂
    unfold Paced
    show ¬min (tokenTime interval) (tokenTime interval) ≤ t₂ - armedAt₂
    omega
  · rw [htokens₂ ac, htokens₁ ac, Timed.added, Timed.added, if_pos rfl, if_pos rfl, hinterval,
      hadded.interval, List.append_assoc]
    rfl

theorem tokenPacing_shipped :
    ∃ s₀ s, Timed.start DccConfig.shipped 0 0 = some s₀ ∧
      PartialRun.run Timed.step s₀ [(40000, .addToken .AC_VI), (40000, .addToken .AC_VO),
        (40000, .addToken .AC_BE), (40000, .addToken .AC_BK), (80000, .addToken .AC_VI)] =
        some s ∧
      (s.tokens .AC_VI).IsChain Paced := by
  have hrun : ((Timed.start DccConfig.shipped 0 0).bind fun s₀ =>
      (PartialRun.run Timed.step s₀ [(40000, .addToken .AC_VI), (40000, .addToken .AC_VO),
        (40000, .addToken .AC_BE), (40000, .addToken .AC_BK), (80000, .addToken .AC_VI)]).map
        fun _ => decide (0 ≤ (s₀.dcc.clock .AC_VI).mTimerAddToken.expiresAt)) = some true := by
    decide +kernel
  simp only [Option.bind_eq_some_iff, Option.map_eq_some_iff] at hrun
  obtain ⟨s₀, hstart, s, hrun, hinit⟩ := hrun
  refine ⟨s₀, s, hstart, hrun,
    tokenPacing hstart hrun .AC_VI (of_decide_eq_true hinit) ?_⟩
  intro before time after t heq
  have hmem : (time, .updateState) ∈ before ++ (time, .updateState) :: after :=
    List.mem_append_right _ List.mem_cons_self
  rw [← heq] at hmem
  simp at hmem

/-- A token at 40 ms, a switch to the restricted state at 50 ms, and back to the relaxed
state at 500 ms. -/
def lateSwitch : List (ℤ × TimedEvent ℚ) :=
  mAccessCategories.map (fun ac => (40000, .addToken ac)) ++
    [(50000, .measureChannel 0.5), (50000, .updateState), (50000, .updateState)] ++
    List.replicate 5 (500000, .measureChannel 0) ++
    [(500000, .updateState), (500000, .updateState), (500000, .addToken .AC_VI),
      (500000, .addToken .AC_VI)]

theorem not_paced_shipped :
    ∃ s₀ s, Timed.start DccConfig.shipped 0 0 = some s₀ ∧
      PartialRun.run Timed.step s₀ lateSwitch = some s ∧ ¬(s.tokens .AC_VI).IsChain Paced := by
  have hrun : ((Timed.start DccConfig.shipped 0 0).bind fun s₀ =>
      (PartialRun.run Timed.step s₀ lateSwitch).map fun s => s.tokens .AC_VI) =
      some [⟨40000, 40000⟩, ⟨500000, 40000⟩, ⟨500000, 40000⟩] := by decide +kernel
  simp only [Option.bind_eq_some_iff, Option.map_eq_some_iff] at hrun
  obtain ⟨s₀, hstart, s, hrun, htokens⟩ := hrun
  refine ⟨s₀, s, hstart, hrun, ?_⟩
  rw [htokens]
  simp [Paced]

end OpenC2X.Dcc
