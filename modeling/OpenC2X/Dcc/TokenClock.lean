import OpenC2X.Dcc.ChannelStates

/-!
# The token clock

The timer of one access category is moved by `addToken`, by `rescheduleAddToken` on every
state switch, and by nobody else.  Handlers run in any order; in particular an `addToken`
whose wait has already expired may still be queued when the timer is moved.

Each time the timer is moved it is also re-armed, for `mLastTokenAt` plus the interval of
the state that is then current.  So exactly one wait is going at any time and the
expiry always fits the current state: `ClockInvariant`.
-/

namespace OpenC2X.Dcc

variable {R : Type}

/-- What the strand and the event loop can do next. -/
inductive Handler (R : Type) where
  | channel (step : ChannelStep R)
  /-- the timer expires; the handler of its wait is queued -/
  | timerExpires (ac : AccessCategory)
  /-- a queued handler runs -/
  | addToken (now : ℤ) (ec : ErrorCode) (ac : AccessCategory)

/-- An operation on the timer of one access category. -/
def DCC.withTimer (ac : AccessCategory) (f : DeadlineTimer ℤ → Option (DeadlineTimer ℤ))
    (d : DCC R) : Option (DCC R) :=
  (f (d.clock ac).mTimerAddToken).map fun timer =>
    d.setClock ac { d.clock ac with mTimerAddToken := timer }

variable [WholeMs R]

def handle [LinearOrder R] : Handler R → DCC R → Option (DCC R)
  | .channel step, d => channelStep step d
  | .timerExpires ac, d => d.withTimer ac DeadlineTimer.expire
  | .addToken now .success ac, d =>
      (d.withTimer ac DeadlineTimer.takeFired).bind fun d => d.addToken now .success ac
  | .addToken now .operation_aborted ac, d =>
      (d.withTimer ac DeadlineTimer.takeAborted).bind fun d =>
        d.addToken now .operation_aborted ac

/-! ## The invariant of one clock -/

/-- One wait is going, and after the first token the expiry is one interval after the
last token. -/
structure ClockInvariant (interval : R) (clock : TokenClock) : Prop where
  oneWait : clock.mTimerAddToken.OneWait
  expiresAt_eq : clock.mAddedFirstToken = true →
    clock.mTimerAddToken.expiresAt = clock.mLastTokenAt + tokenTime interval

namespace ClockInvariant

variable {interval interval' : R} {clock : TokenClock}

theorem start (constructed started : ℤ) (interval : R) :
    ClockInvariant interval ((TokenClock.new constructed interval).start started) where
  oneWait := DeadlineTimer.oneWait_asyncWait_new _ _
  expiresAt_eq h := by cases h

theorem addToken (now : ℤ) (interval : R) (clock : TokenClock) :
    ClockInvariant interval (clock.addToken now interval) where
  oneWait := DeadlineTimer.oneWait_rearm _ _ _
  expiresAt_eq _ := rfl

theorem rescheduleAddToken (h : ClockInvariant interval clock) (now : ℤ) (interval' : R) :
    ClockInvariant interval' (clock.rescheduleAddToken now interval') := by
  unfold TokenClock.rescheduleAddToken
  split_ifs with hfirst
  · exact ⟨DeadlineTimer.oneWait_rearm _ _ _, fun _ => rfl⟩
  · exact ⟨h.oneWait, fun hfirst' => absurd hfirst' hfirst⟩

theorem expire (h : ClockInvariant interval clock) {timer : DeadlineTimer ℤ}
    (hexpire : clock.mTimerAddToken.expire = some timer) :
    ClockInvariant interval { clock with mTimerAddToken := timer } where
  oneWait := h.oneWait.expire hexpire
  expiresAt_eq hfirst := by
    obtain ⟨-, rfl⟩ := DeadlineTimer.expire_eq_some.mp hexpire
    exact h.expiresAt_eq hfirst

theorem takeAborted (h : ClockInvariant interval clock) {timer : DeadlineTimer ℤ}
    (htake : clock.mTimerAddToken.takeAborted = some timer) :
    ClockInvariant interval { clock with mTimerAddToken := timer } where
  oneWait := h.oneWait.takeAborted htake
  expiresAt_eq hfirst := by
    obtain ⟨-, rfl⟩ := DeadlineTimer.takeAborted_eq_some.mp htake
    exact h.expiresAt_eq hfirst

end ClockInvariant

/-! ## What a handler does to the clocks -/

section Handlers

variable {c : DccConfig R} {d d' : DCC R}

omit [WholeMs R] in
theorem DCC.withTimer_eq_some {ac : AccessCategory}
    {f : DeadlineTimer ℤ → Option (DeadlineTimer ℤ)} (h : d.withTimer ac f = some d') :
    ∃ timer, f (d.clock ac).mTimerAddToken = some timer ∧
      d' = d.setClock ac { d.clock ac with mTimerAddToken := timer } := by
  obtain ⟨timer, htimer, rfl⟩ := Option.map_eq_some_iff.mp h
  exact ⟨timer, htimer, rfl⟩

/-- A run of `addToken` that is not aborted: the handler is taken from the queue and the
clock moves on.  Nothing else changes. -/
theorem handle_addToken_eq_some [LinearOrder R] {now : ℤ} {ac : AccessCategory}
    (h : handle (.addToken now .success ac) d = some d') :
    ∃ interval timer, d.currentTokenInterval ac = some interval ∧
      (d.clock ac).mTimerAddToken.takeFired = some timer ∧
      d' = d.setClock ac
        (TokenClock.addToken now interval { d.clock ac with mTimerAddToken := timer }) := by
  obtain ⟨mid, hmid, hadd⟩ := Option.bind_eq_some_iff.mp h
  obtain ⟨timer, htimer, rfl⟩ := DCC.withTimer_eq_some hmid
  obtain ⟨interval, hinterval, rfl⟩ := DCC.addToken_eq_some hadd
  refine ⟨interval, timer, hinterval, htimer, ?_⟩
  simp only [DCC.setClock, Function.update_self, Function.update_idem]

/-- A switch reschedules all clocks for the state that is current afterwards. -/
theorem DCC.setCurrentState_clock {now state : ℤ} (h : d.setCurrentState now state = some d') :
    ∃ current, d'.mCurrentState = some current ∧
      ∀ ac, d'.clock ac =
        (d.clock ac).rescheduleAddToken now (current.asPacketInterval.ac ac).val := by
  obtain ⟨states, current, -, hcurrent, rfl⟩ := DCC.setCurrentState_eq_some h
  exact ⟨current, hcurrent, fun _ => rfl⟩

end Handlers

/-- What a handler does to the clock of `ac`. -/
inductive ClockStep (ac : AccessCategory) (d d' : DCC R) : Handler R → Prop where
  | idle {handler : Handler R} (hother : ∀ now, handler ≠ .addToken now .success ac)
      (hclock : d'.clock ac = d.clock ac) (hcurrent : d'.mCurrentState = d.mCurrentState) :
      ClockStep ac d d' handler
  | queued {handler : Handler R} (hother : ∀ now, handler ≠ .addToken now .success ac)
      (timer : DeadlineTimer ℤ)
      (htimer : (d.clock ac).mTimerAddToken.expire = some timer ∨
        (d.clock ac).mTimerAddToken.takeAborted = some timer)
      (hclock : d'.clock ac = { d.clock ac with mTimerAddToken := timer })
      (hcurrent : d'.mCurrentState = d.mCurrentState) : ClockStep ac d d' handler
  | added (now : ℤ) (interval : R) (timer : DeadlineTimer ℤ)
      (hinterval : d.currentTokenInterval ac = some interval)
      (htimer : (d.clock ac).mTimerAddToken.takeFired = some timer)
      (hclock : d'.clock ac =
        TokenClock.addToken now interval { d.clock ac with mTimerAddToken := timer })
      (hcurrent : d'.mCurrentState = d.mCurrentState) :
      ClockStep ac d d' (.addToken now .success ac)
  | switched (now : ℤ) (current : State R) (hcurrent : d'.mCurrentState = some current)
      (hclock : d'.clock ac =
        (d.clock ac).rescheduleAddToken now (current.asPacketInterval.ac ac).val) :
      ClockStep ac d d' (.channel (.updateState now))

theorem clockStep [LinearOrder R] {d d' : DCC R} {handler : Handler R}
    (hstep : handle handler d = some d') (ac : AccessCategory) : ClockStep ac d d' handler := by
  -- an operation on the timer of `other`
  have htimer : ∀ {f : DeadlineTimer ℤ → Option (DeadlineTimer ℤ)} {other : AccessCategory},
      (∀ now, handler ≠ .addToken now .success ac) →
      (∀ timer timer', f timer = some timer' →
        timer.expire = some timer' ∨ timer.takeAborted = some timer') →
      d.withTimer other f = some d' → ClockStep ac d d' handler := by
    intro f other hhandler hf hwith
    obtain ⟨timer, hop, rfl⟩ := DCC.withTimer_eq_some hwith
    by_cases hac : ac = other
    · subst hac
      exact .queued hhandler timer (hf _ _ hop) (DCC.setClock_clock_self _ _ _) rfl
    · exact .idle hhandler (DCC.setClock_clock_of_ne d _ hac) rfl
  cases handler with
  | channel step =>
      cases step with
      | measureChannel load =>
          obtain ⟨up, down, -, -, rfl⟩ := DCC.measureChannel_eq_some hstep
          exact .idle nofun rfl rfl
      | updateState now =>
          obtain ⟨-, -, -, -, ⟨-, rfl⟩ | ⟨state, -, hset⟩⟩ := DCC.updateState_eq_some hstep
          · exact .idle nofun rfl rfl
          · obtain ⟨current, hcurrent, hclock⟩ := DCC.setCurrentState_clock hset
            exact .switched now current hcurrent (hclock ac)
  | timerExpires other =>
      exact htimer nofun (fun _ _ hop => Or.inl hop) hstep
  | addToken now ec other =>
      cases ec with
      | success =>
          obtain ⟨interval, timer, hinterval, htake, rfl⟩ := handle_addToken_eq_some hstep
          by_cases hac : ac = other
          · subst hac
            exact .added now interval timer hinterval htake (DCC.setClock_clock_self _ _ _) rfl
          · refine .idle ?_ (DCC.setClock_clock_of_ne d _ hac) rfl
            intro now' heq
            cases heq
            exact hac rfl
      | operation_aborted =>
          obtain ⟨mid, hmid, haborted⟩ := Option.bind_eq_some_iff.mp hstep
          obtain rfl := Option.some.inj haborted
          refine htimer ?_ (fun _ _ hop => Or.inr hop) hmid
          intro now' heq
          cases heq

/-! ## Every reachable state -/

/-- The clock of `ac` fits the current state. -/
def ClockFits (ac : AccessCategory) (d : DCC R) : Prop :=
  ∃ interval, d.currentTokenInterval ac = some interval ∧ ClockInvariant interval (d.clock ac)

theorem clockFits_start {c : DccConfig R} {constructed started : ℤ} {d₀ : DCC R}
    (h : DCC.start c constructed started = some d₀) (ac : AccessCategory) : ClockFits ac d₀ := by
  obtain ⟨states, current, -, hcurrent, rfl⟩ := DCC.start_eq_some h
  exact ⟨_, congrArg _ hcurrent, .start _ _ _⟩

omit [WholeMs R] in
theorem currentTokenInterval_congr {ac : AccessCategory} {d d' : DCC R}
    (h : d'.mCurrentState = d.mCurrentState) :
    d'.currentTokenInterval ac = d.currentTokenInterval ac := by
  rw [DCC.currentTokenInterval, DCC.currentTokenInterval, h]

theorem ClockFits.step {ac : AccessCategory} {d d' : DCC R} {handler : Handler R}
    (h : ClockFits ac d) (hstep : ClockStep ac d d' handler) : ClockFits ac d' := by
  obtain ⟨interval, hinterval, hinv⟩ := h
  cases hstep with
  | idle _ hclock hcurrent =>
      refine ⟨interval, ?_, ?_⟩
      · rw [currentTokenInterval_congr hcurrent, hinterval]
      · rw [hclock]
        exact hinv
  | queued _ timer htimer hclock hcurrent =>
      refine ⟨interval, ?_, ?_⟩
      · rw [currentTokenInterval_congr hcurrent, hinterval]
      · rw [hclock]
        rcases htimer with hexpire | htake
        · exact hinv.expire hexpire
        · exact hinv.takeAborted htake
  | added now interval' timer hinterval' _ hclock hcurrent =>
      refine ⟨interval', ?_, ?_⟩
      · rw [currentTokenInterval_congr hcurrent, hinterval']
      · rw [hclock]
        exact .addToken _ _ _
  | switched now current hcurrent hclock =>
      refine ⟨_, congrArg _ hcurrent, ?_⟩
      rw [hclock]
      exact hinv.rescheduleAddToken now _

theorem ClockStep.mAddedFirstToken {ac : AccessCategory} {d d' : DCC R} {handler : Handler R}
    (hstep : ClockStep ac d d' handler)
    (h : (d.clock ac).mAddedFirstToken = true ∨ ∃ now, handler = .addToken now .success ac) :
    (d'.clock ac).mAddedFirstToken = true := by
  cases hstep with
  | added _ _ _ _ _ hclock _ =>
      rw [hclock]
      rfl
  | idle hother hclock _ =>
      have hfirst := h.resolve_right fun ⟨now, heq⟩ => hother now heq
      rw [hclock]
      exact hfirst
  | queued hother _ _ hclock _ =>
      have hfirst := h.resolve_right fun ⟨now, heq⟩ => hother now heq
      rw [hclock]
      exact hfirst
  | switched _ _ _ hclock =>
      have hfirst := h.resolve_right fun ⟨_, heq⟩ => nomatch heq
      rw [hclock, TokenClock.rescheduleAddToken, if_pos hfirst]
      exact hfirst

theorem clockFits_of_run [LinearOrder R] {c : DccConfig R} {constructed started : ℤ} {d₀ : DCC R}
    (hstart : DCC.start c constructed started = some d₀) (ac : AccessCategory) :
    ∀ handlers d, PartialRun.run handle d₀ handlers = some d →
      ClockFits ac d ∧ ((∃ now, .addToken now .success ac ∈ handlers) →
        (d.clock ac).mAddedFirstToken = true) := by
  apply PartialRun.run_induction
  · exact ⟨clockFits_start hstart ac, fun ⟨now, hmem⟩ => absurd hmem List.not_mem_nil⟩
  · rintro handlers handler d d' - ⟨hfits, hfirst⟩ hhandle
    have hstep := clockStep hhandle ac
    refine ⟨hfits.step hstep, ?_⟩
    rintro ⟨now, hmem⟩
    apply hstep.mAddedFirstToken
    rcases List.mem_append.mp hmem with hold | hnew
    · exact Or.inl (hfirst ⟨now, hold⟩)
    · exact Or.inr ⟨now, (List.mem_singleton.mp hnew).symm⟩

/-- **Token clock invariant.**  After the first token of `ac` the timer expires one interval
after the last token, one wait is going, and the next token that is added moves
`mLastTokenAt` to the expiry. -/
theorem tokenClockInvariant [LinearOrder R] {c : DccConfig R} {constructed started : ℤ}
    {d₀ d : DCC R} (hstart : DCC.start c constructed started = some d₀)
    {handlers : List (Handler R)} (hrun : PartialRun.run handle d₀ handlers = some d)
    (ac : AccessCategory) (hfirst : ∃ now, .addToken now .success ac ∈ handlers) :
    ∃ interval, d.currentTokenInterval ac = some interval ∧
      (d.clock ac).mTimerAddToken.expiresAt = (d.clock ac).mLastTokenAt + tokenTime interval ∧
      (d.clock ac).mTimerAddToken.armed.length ≤ 1 ∧
      1 ≤ (d.clock ac).mTimerAddToken.armed.length + (d.clock ac).mTimerAddToken.fired ∧
      ∀ now d', handle (.addToken now .success ac) d = some d' →
        (d'.clock ac).mLastTokenAt = (d.clock ac).mTimerAddToken.expiresAt ∧
        (d'.clock ac).mLastTokenAt = (d.clock ac).mLastTokenAt + tokenTime interval := by
  obtain ⟨⟨interval, hinterval, hinv⟩, hadded⟩ := clockFits_of_run hstart ac handlers d hrun
  have hexpires := hinv.expiresAt_eq (hadded hfirst)
  refine ⟨interval, hinterval, hexpires, hinv.oneWait.armed_le, hinv.oneWait.waiting, ?_⟩
  intro now d' hadd
  obtain ⟨interval', timer, -, htake, rfl⟩ := handle_addToken_eq_some hadd
  have hlast : ((d.setClock ac (TokenClock.addToken now interval'
      { d.clock ac with mTimerAddToken := timer })).clock ac).mLastTokenAt =
        (d.clock ac).mTimerAddToken.expiresAt := by
    obtain ⟨-, rfl⟩ := DeadlineTimer.takeFired_eq_some.mp htake
    rw [DCC.setClock_clock_self]
    rfl
  exact ⟨hlast, hlast.trans hexpires⟩

theorem tokenClockInvariant_shipped :
    ∃ d₀ d interval, DCC.start DccConfig.shipped 0 0 = some d₀ ∧
      PartialRun.run handle d₀ [.timerExpires .AC_VI, .addToken 40000 .success .AC_VI] = some d ∧
      d.currentTokenInterval .AC_VI = some interval ∧
      (d.clock .AC_VI).mTimerAddToken.expiresAt =
        (d.clock .AC_VI).mLastTokenAt + tokenTime interval := by
  have hrun : ((DCC.start DccConfig.shipped 0 0).bind fun d₀ =>
      (PartialRun.run handle d₀ [.timerExpires .AC_VI, .addToken 40000 .success .AC_VI]).map
        fun d => (d.clock .AC_VI).mLastTokenAt) = some 40000 := by decide +kernel
  simp only [Option.bind_eq_some_iff, Option.map_eq_some_iff] at hrun
  obtain ⟨d₀, hstart, d, hrun, -⟩ := hrun
  have hmem : (.addToken 40000 .success .AC_VI : Handler ℚ) ∈
      [.timerExpires .AC_VI, .addToken 40000 .success .AC_VI] :=
    List.mem_cons_of_mem _ List.mem_cons_self
  obtain ⟨interval, hinterval, hexpires, -⟩ :=
    tokenClockInvariant hstart hrun .AC_VI ⟨40000, hmem⟩
  exact ⟨d₀, d, interval, hstart, hrun, hinterval, hexpires⟩

end OpenC2X.Dcc
