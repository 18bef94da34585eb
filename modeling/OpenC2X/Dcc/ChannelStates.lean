import OpenC2X.Dcc.StateMachine
import OpenC2X.Lib.PartialRun
import Mathlib.Algebra.Order.Ring.Unbundled.Rat

/-!
# Channel load and state

With one active state DCC moves between relaxed, active and restricted.  This file follows
the two windows and the current state through arbitrary sequences of `measureChannel` and
`updateState`.

`dccStateInvariant` says what the current state means right after an `updateState`.  Its
core is that the two windows, however different in size, share the newest sample, so
that the minimum of one is at most the maximum of the other (`Observed.exists_extremes`).
-/

namespace OpenC2X.Dcc

variable {R : Type}

inductive ChannelStep (R : Type) where
  | measureChannel (mChannelLoad : R)
  | updateState (now : ℤ)

def loads (steps : List (ChannelStep R)) : List R :=
  steps.filterMap fun
    | .measureChannel mChannelLoad => some mChannelLoad
    | .updateState _ => none

@[simp] theorem loads_nil : loads ([] : List (ChannelStep R)) = [] := rfl

@[simp] theorem loads_append (steps more : List (ChannelStep R)) :
    loads (steps ++ more) = loads steps ++ loads more :=
  List.filterMap_append

@[simp] theorem loads_measureChannel (mChannelLoad : R) :
    loads [ChannelStep.measureChannel mChannelLoad] = [mChannelLoad] := rfl

@[simp] theorem loads_updateState (now : ℤ) :
    loads [(ChannelStep.updateState now : ChannelStep R)] = [] := rfl

variable [WholeMs R] {c : DccConfig R} {d d' : DCC R}

/-! ## The three states -/

/-- The current state is one of three, all of which have their entry; only the one of the
active state changes over time. -/
structure OneActive (c : DccConfig R) (active : State R) (d : DCC R) : Prop where
  mConfig_eq : d.mConfig = c
  current : d.mCurrentStateId = STATE_RELAXED ∨ d.mCurrentStateId = STATE_ACTIVE1 ∨
    d.mCurrentStateId = STATE_RESTRICTED
  relaxed : d.states 0 = some (State.new c.relaxed)
  active : d.states 1 = some active
  restricted : d.states 2 = some (State.new c.restricted)

/-- The entry of the active state, from `active` to `active'`, when `d` becomes `d'` by
entering `state`: its references are taken from the state that is left. -/
inductive Entry (d : DCC R) (active : State R) : ℤ → State R → Prop
  | passive {state : ℤ} (hstate : state = STATE_RELAXED ∨ state = STATE_RESTRICTED) :
      Entry d active state active
  | active {old : State R} (hold : d.mCurrentState = some old) :
      Entry d active STATE_ACTIVE1 (active.setRefs old)

/-- What `setCurrentState` makes of a machine with the three states. -/
structure Entered (c : DccConfig R) (active active' : State R) (state : ℤ) (d d' : DCC R) :
    Prop where
  oneActive : OneActive c active' d'
  id_eq : d'.mCurrentStateId = state
  up_eq : d'.mChannelLoadInTimeUp = d.mChannelLoadInTimeUp
  down_eq : d'.mChannelLoadInTimeDown = d.mChannelLoadInTimeDown
  entry : Entry d active state active'

omit [WholeMs R] in
theorem OneActive.exists_current {active : State R} (h : OneActive c active d) :
    d.mCurrentStateId ≠ STATE_UNDEF ∧ ∃ old, d.mCurrentState = some old := by
  unfold DCC.mCurrentState
  rcases h.current with hid | hid | hid <;> rw [hid]
  · exact ⟨by decide, _, h.relaxed⟩
  · exact ⟨by decide, _, h.active⟩
  · exact ⟨by decide, _, h.restricted⟩

theorem OneActive.exists_enter_passive {active : State R} (h : OneActive c active d) (now : ℤ)
    {state : ℤ} (hstate : state = STATE_RELAXED ∨ state = STATE_RESTRICTED) :
    ∃ d', d.setCurrentState now state = some d' ∧ Entered c active active state d d' := by
  obtain ⟨entry, hentry⟩ : ∃ entry, d.states (stateKey state) = some entry := by
    rcases hstate with rfl | rfl
    · exact ⟨_, h.relaxed⟩
    · exact ⟨_, h.restricted⟩
  have henter := DCC.enterState_of_not_active hentry (by tauto)
  refine ⟨_, DCC.setCurrentState_of_enterState now henter hentry, ?_, rfl, rfl, rfl,
    .passive hstate⟩
  exact ⟨h.mConfig_eq, by tauto, h.relaxed, h.active, h.restricted⟩

theorem OneActive.exists_enter_active {active : State R} (h : OneActive c active d) (now : ℤ) :
    ∃ d' active', d.setCurrentState now STATE_ACTIVE1 = some d' ∧
      Entered c active active' STATE_ACTIVE1 d d' := by
  obtain ⟨hdefined, old, hold⟩ := h.exists_current
  have hactive : d.states (stateKey STATE_ACTIVE1) = some active := h.active
  have henter := DCC.enterState_of_active hdefined (by decide) hactive hold
  have hentry : ∀ key, Function.update d.states (stateKey STATE_ACTIVE1)
      (some (active.setRefs old)) key =
        if key = 1 then some (active.setRefs old) else d.states key := fun key =>
    Function.update_apply _ _ _ key
  refine ⟨_, _, DCC.setCurrentState_of_enterState now henter (hentry 1), ?_, rfl, rfl, rfl,
    .active hold⟩
  exact ⟨h.mConfig_eq, Or.inr (Or.inl rfl), (hentry 0).trans h.relaxed, hentry 1,
    (hentry 2).trans h.restricted⟩

theorem OneActive.exists_setCurrentState {active : State R} (h : OneActive c active d)
    (now : ℤ) {state : ℤ}
    (hstate : state = STATE_RELAXED ∨ state = STATE_ACTIVE1 ∨ state = STATE_RESTRICTED) :
    ∃ d' active', d.setCurrentState now state = some d' ∧
      Entered c active active' state d d' := by
  rcases hstate with rfl | rfl | rfl
  · obtain ⟨d', hset, hentered⟩ := h.exists_enter_passive now (Or.inl rfl)
    exact ⟨d', active, hset, hentered⟩
  · exact h.exists_enter_active now
  · obtain ⟨d', hset, hentered⟩ := h.exists_enter_passive now (Or.inr rfl)
    exact ⟨d', active, hset, hentered⟩

variable [LinearOrder R]

def channelStep : ChannelStep R → DCC R → Option (DCC R)
  | .measureChannel mChannelLoad, d => d.measureChannel mChannelLoad
  | .updateState now, d => d.updateState now

/-! ## Transitions -/

/-- What `updateState` does with the minimum of one window and the maximum of the other. -/
inductive Transition (c : DccConfig R) (clMinInTimeUp clMaxInTimeDown : R) : ℤ → ℤ → Prop where
  | relaxed_active (hmin : c.NDL_minChannelLoad ≤ clMinInTimeUp) :
      Transition c clMinInTimeUp clMaxInTimeDown STATE_RELAXED STATE_ACTIVE1
  | relaxed_stays (hmin : clMinInTimeUp < c.NDL_minChannelLoad) :
      Transition c clMinInTimeUp clMaxInTimeDown STATE_RELAXED STATE_RELAXED
  | restricted_active (hmax : clMaxInTimeDown < c.NDL_maxChannelLoad) :
      Transition c clMinInTimeUp clMaxInTimeDown STATE_RESTRICTED STATE_ACTIVE1
  | restricted_stays (hmax : c.NDL_maxChannelLoad ≤ clMaxInTimeDown) :
      Transition c clMinInTimeUp clMaxInTimeDown STATE_RESTRICTED STATE_RESTRICTED
  | active_relaxed (hmax : clMaxInTimeDown < c.NDL_minChannelLoad) :
      Transition c clMinInTimeUp clMaxInTimeDown STATE_ACTIVE1 STATE_RELAXED
  | active_restricted (hmax : c.NDL_minChannelLoad ≤ clMaxInTimeDown)
      (hmin : c.NDL_maxChannelLoad ≤ clMinInTimeUp) :
      Transition c clMinInTimeUp clMaxInTimeDown STATE_ACTIVE1 STATE_RESTRICTED
  | active_stays (hmax : c.NDL_minChannelLoad ≤ clMaxInTimeDown)
      (hmin : clMinInTimeUp < c.NDL_maxChannelLoad) :
      Transition c clMinInTimeUp clMaxInTimeDown STATE_ACTIVE1 STATE_ACTIVE1

omit [WholeMs R] in
theorem Transition.target {clMin clMax : R} {old new : ℤ} (h : Transition c clMin clMax old new) :
    new = STATE_RELAXED ∨ new = STATE_ACTIVE1 ∨ new = STATE_RESTRICTED := by
  cases h <;> simp

omit [WholeMs R] in
theorem transition_nextState (c : DccConfig R) (clMinInTimeUp clMaxInTimeDown : R) {id : ℤ}
    (hid : id = STATE_RELAXED ∨ id = STATE_ACTIVE1 ∨ id = STATE_RESTRICTED) :
    Transition c clMinInTimeUp clMaxInTimeDown id
      ((DCC.nextState c id clMinInTimeUp clMaxInTimeDown).getD id) := by
  unfold DCC.nextState
  rcases hid with rfl | rfl | rfl
  · by_cases hmin : c.NDL_minChannelLoad ≤ clMinInTimeUp
    · simpa [hmin] using .relaxed_active hmin
    · simpa [hmin, STATE_RELAXED, STATE_RESTRICTED, IsActive] using
        .relaxed_stays (not_le.mp hmin)
  · by_cases hmax : clMaxInTimeDown < c.NDL_minChannelLoad
    · simpa [hmax, IsActive, STATE_UNDEF, STATE_RELAXED, STATE_ACTIVE1, STATE_RESTRICTED] using
        .active_relaxed hmax
    · by_cases hmin : c.NDL_maxChannelLoad ≤ clMinInTimeUp
      · simpa [hmax, hmin, IsActive, STATE_UNDEF, STATE_RELAXED, STATE_ACTIVE1,
          STATE_RESTRICTED] using .active_restricted (not_lt.mp hmax) hmin
      · simpa [hmax, hmin, IsActive, STATE_UNDEF, STATE_RELAXED, STATE_ACTIVE1,
          STATE_RESTRICTED] using .active_stays (not_lt.mp hmax) (not_le.mp hmin)
  · by_cases hmax : clMaxInTimeDown < c.NDL_maxChannelLoad
    · simpa [hmax, STATE_RELAXED, STATE_RESTRICTED] using .restricted_active hmax
    · simpa [hmax, STATE_RELAXED, STATE_RESTRICTED, IsActive] using
        .restricted_stays (not_lt.mp hmax)

/-! ## The two windows -/

/-- Both buffers show the last measurements. -/
structure Observed (c : DccConfig R) (samples : List R) (d : DCC R) : Prop where
  up : d.mChannelLoadInTimeUp.Shows c.sizeTimeUp samples
  down : d.mChannelLoadInTimeDown.Shows c.sizeTimeDown samples

omit [WholeMs R] in
/-- What `updateState` reads.  The newest sample is in both windows. -/
theorem Observed.exists_extremes {samples : List R} (h : Observed c samples d)
    (hup : 1 ≤ c.sizeTimeUp) (hdown : 1 ≤ c.sizeTimeDown) (hne : samples ≠ []) :
    ∃ clMin clMax, d.mChannelLoadInTimeUp.min = some clMin ∧
      (samples.rtake c.sizeTimeUp).min? = some clMin ∧
      d.mChannelLoadInTimeDown.max = some clMax ∧
      (samples.rtake c.sizeTimeDown).max? = some clMax ∧ clMin ≤ clMax := by
  obtain ⟨clMin, hmin⟩ := Window.exists_min? (Window.rtake_ne_nil hup hne)
  obtain ⟨clMax, hmax⟩ := Window.exists_max? (Window.rtake_ne_nil hdown hne)
  refine ⟨clMin, clMax, h.up.min_eq.trans hmin, hmin, h.down.max_eq.trans hmax, hmax, ?_⟩
  obtain ⟨newest, hinUp, hinDown⟩ := Window.exists_mem_both hup hdown hne
  calc clMin ≤ newest := (List.min?_eq_some_iff.mp hmin).2 newest hinUp
    _ ≤ clMax := (List.max?_eq_some_iff.mp hmax).2 newest hinDown

omit [WholeMs R] [LinearOrder R] in
theorem Observed.exists_measureChannel {samples : List R} (h : Observed c samples d)
    (hup : 1 ≤ c.sizeTimeUp) (hdown : 1 ≤ c.sizeTimeDown) (load : R) :
    ∃ d', d.measureChannel load = some d' := by
  have hupPos : 0 < d.mChannelLoadInTimeUp.maxSize := by
    rw [h.up.maxSize_eq]
    exact hup
  have hdownPos : 0 < d.mChannelLoadInTimeDown.maxSize := by
    rw [h.down.maxSize_eq]
    exact hdown
  obtain ⟨up, hinsertUp⟩ := RingBuffer.exists_insert hupPos load
  obtain ⟨down, hinsertDown⟩ := RingBuffer.exists_insert hdownPos load
  refine ⟨{ d with mChannelLoadInTimeUp := up, mChannelLoadInTimeDown := down }, ?_⟩
  simp only [DCC.measureChannel, hinsertUp, hinsertDown, Option.bind_eq_bind, Option.bind_some,
    Option.pure_def]

omit [WholeMs R] [LinearOrder R] in
theorem Observed.measureChannel {samples : List R} (h : Observed c samples d) {load : R}
    (hstep : d.measureChannel load = some d') : Observed c (samples ++ [load]) d' := by
  obtain ⟨up, down, hinsertUp, hinsertDown, rfl⟩ := DCC.measureChannel_eq_some hstep
  exact ⟨h.up.insert hinsertUp, h.down.insert hinsertDown⟩

/-! ## Single steps -/

structure Reached (c : DccConfig R) (samples : List R) (active : State R) (d : DCC R) : Prop where
  oneActive : OneActive c active d
  observed : Observed c samples d

omit [LinearOrder R] in
theorem exists_start (hone : c.NDL_numActiveState = 1) (constructed started : ℤ) :
    ∃ d, DCC.start c constructed started = some d ∧
      Reached c [] (State.new (c.active 1)) d ∧ d.mCurrentStateId = STATE_RELAXED := by
  obtain ⟨states, hinit, hrelaxed, hactive, hrestricted⟩ := DccConfig.initStates_one hone
  have hentry : states (stateKey STATE_RELAXED) = some (State.new c.relaxed) := hrelaxed
  exact ⟨_, DCC.start_of_initStates hinit hentry constructed started,
    ⟨⟨rfl, Or.inl rfl, hrelaxed, hactive, hrestricted⟩,
      ⟨RingBuffer.shows_reset _, RingBuffer.shows_reset _⟩⟩, rfl⟩

omit [WholeMs R] [LinearOrder R] in
theorem Reached.exists_measureChannel {samples : List R} {active : State R}
    (h : Reached c samples active d) (hup : 1 ≤ c.sizeTimeUp) (hdown : 1 ≤ c.sizeTimeDown)
    (load : R) : ∃ d', d.measureChannel load = some d' :=
  h.observed.exists_measureChannel hup hdown load

omit [WholeMs R] [LinearOrder R] in
/-- A measurement moves both windows on and touches nothing else. -/
theorem Reached.measureChannel {samples : List R} {active : State R}
    (h : Reached c samples active d) {load : R} (hstep : d.measureChannel load = some d') :
    Reached c (samples ++ [load]) active d' ∧ d'.mCurrentStateId = d.mCurrentStateId := by
  have hobserved := h.observed.measureChannel hstep
  obtain ⟨up, down, -, -, rfl⟩ := DCC.measureChannel_eq_some hstep
  have hone := h.oneActive
  exact ⟨⟨⟨hone.mConfig_eq, hone.current, hone.relaxed, hone.active, hone.restricted⟩, hobserved⟩,
    rfl⟩

/-- What an update does to the entry of the active state: nothing, unless it enters it. -/
inductive ActiveUpdate (d d' : DCC R) (active : State R) : State R → Prop
  | kept (hstays : d'.mCurrentStateId = STATE_ACTIVE1 → d.mCurrentStateId = STATE_ACTIVE1) :
      ActiveUpdate d d' active active
  | entered {old : State R} (hold : d.mCurrentState = some old)
      (hid : d.mCurrentStateId ≠ STATE_ACTIVE1) (hid' : d'.mCurrentStateId = STATE_ACTIVE1) :
      ActiveUpdate d d' active (active.setRefs old)

theorem Reached.exists_updateState {samples : List R} {active : State R}
    (h : Reached c samples active d) {clMin clMax : R}
    (hmin : d.mChannelLoadInTimeUp.min = some clMin)
    (hmax : d.mChannelLoadInTimeDown.max = some clMax) (now : ℤ) :
    ∃ d' active', d.updateState now = some d' ∧ Reached c samples active' d' ∧
      Transition c clMin clMax d.mCurrentStateId d'.mCurrentStateId ∧
      ActiveUpdate d d' active active' := by
  have htransition := transition_nextState c clMin clMax h.oneActive.current
  rw [DCC.updateState_eq now hmin hmax, h.oneActive.mConfig_eq]
  cases hnext : DCC.nextState c d.mCurrentStateId clMin clMax with
  | none =>
      rw [hnext, Option.getD_none] at htransition
      exact ⟨d, active, rfl, h, htransition, .kept id⟩
  | some state =>
      rw [hnext, Option.getD_some] at htransition
      have hne := DCC.nextState_ne_self hnext
      obtain ⟨d', active', hset, hentered⟩ :=
        h.oneActive.exists_setCurrentState now htransition.target
      have hid := hentered.id_eq
      have hobserved : Observed c samples d' :=
        ⟨hentered.up_eq ▸ h.observed.up, hentered.down_eq ▸ h.observed.down⟩
      refine ⟨d', active', hset, ⟨hentered.oneActive, hobserved⟩, hid ▸ htransition, ?_⟩
      cases hentered.entry with
      | passive hstate =>
          apply ActiveUpdate.kept
          intro hactive
          rw [hid] at hactive
          rcases hstate with rfl | rfl <;> exact absurd hactive (by decide)
      | active hold => exact .entered hold hne.symm hid

theorem Reached.updateState {samples : List R} {active : State R}
    (h : Reached c samples active d) {now : ℤ} (hstep : d.updateState now = some d') :
    ∃ active' clMin clMax, (samples.rtake c.sizeTimeUp).min? = some clMin ∧
      (samples.rtake c.sizeTimeDown).max? = some clMax ∧ Reached c samples active' d' ∧
      Transition c clMin clMax d.mCurrentStateId d'.mCurrentStateId ∧
      ActiveUpdate d d' active active' := by
  obtain ⟨clMin, clMax, hmin, hmax, -⟩ := DCC.updateState_eq_some hstep
  obtain ⟨d'', active', hstep', hrest⟩ := h.exists_updateState hmin hmax now
  obtain rfl : d'' = d' := Option.some.inj (hstep'.symm.trans hstep)
  exact ⟨active', clMin, clMax, h.observed.up.min_eq.symm.trans hmin,
    h.observed.down.max_eq.symm.trans hmax, hrest⟩

/-! ## Runs -/

theorem reached_of_run (hone : c.NDL_numActiveState = 1) {constructed started : ℤ} {d₀ : DCC R}
    (hstart : DCC.start c constructed started = some d₀) :
    ∀ steps d, PartialRun.run channelStep d₀ steps = some d →
      ∃ active, Reached c (loads steps) active d := by
  obtain ⟨d₁, hstart', hreached, -⟩ := exists_start hone constructed started
  obtain rfl : d₁ = d₀ := Option.some.inj (hstart'.symm.trans hstart)
  apply PartialRun.run_induction
  · exact ⟨_, hreached⟩
  · rintro steps step d d' - ⟨active, h⟩ hstep
    cases step with
    | measureChannel load =>
        rw [loads_append, loads_measureChannel]
        exact ⟨active, (h.measureChannel hstep).1⟩
    | updateState now =>
        rw [loads_append, loads_updateState, List.append_nil]
        obtain ⟨active', -, -, -, -, h', -⟩ := h.updateState hstep
        exact ⟨active', h'⟩

theorem exists_run (hone : c.NDL_numActiveState = 1) (hup : 1 ≤ c.sizeTimeUp)
    (hdown : 1 ≤ c.sizeTimeDown) {constructed started : ℤ} {d₀ : DCC R}
    (hstart : DCC.start c constructed started = some d₀) {steps : List (ChannelStep R)}
    (hmeasured : ∀ before now after, steps = before ++ .updateState now :: after →
      loads before ≠ []) :
    ∃ d, PartialRun.run channelStep d₀ steps = some d := by
  have hrun : ∃ d, PartialRun.run channelStep d₀ steps = some d ∧ True := by
    apply PartialRun.exists_run trivial
    intro before step after d heq hrun _
    obtain ⟨active, h⟩ := reached_of_run hone hstart before d hrun
    cases step with
    | measureChannel load =>
        obtain ⟨d', hstep⟩ := h.exists_measureChannel hup hdown load
        exact ⟨d', hstep, trivial⟩
    | updateState now =>
        obtain ⟨clMin, clMax, hmin, -, hmax, -, -⟩ :=
          h.observed.exists_extremes hup hdown (hmeasured before now after heq)
        obtain ⟨d', -, hstep, -⟩ := h.exists_updateState hmin hmax now
        exact ⟨d', hstep, trivial⟩
  obtain ⟨d, hd, -⟩ := hrun
  exact ⟨d, hd⟩

/-! ## What the state means -/

/-- What the states `old` before and `new` after an `updateState` say about the loads
measured until then. -/
structure AfterUpdate (c : DccConfig R) (samples : List R) (old new : ℤ) : Prop where
  relaxed : new = STATE_RELAXED →
    ∃ clMin, (samples.rtake c.sizeTimeUp).min? = some clMin ∧ clMin < c.NDL_minChannelLoad
  restricted : new = STATE_RESTRICTED →
    ∃ clMax, (samples.rtake c.sizeTimeDown).max? = some clMax ∧ c.NDL_maxChannelLoad ≤ clMax
  active_restricted : IsActive old → new = STATE_RESTRICTED →
    ∀ load ∈ samples.rtake c.sizeTimeUp, c.NDL_maxChannelLoad ≤ load
  active_relaxed : IsActive old → new = STATE_RELAXED →
    ∀ load ∈ samples.rtake c.sizeTimeDown, load < c.NDL_minChannelLoad
  relaxed_restricted : ¬(old = STATE_RELAXED ∧ new = STATE_RESTRICTED)
  restricted_relaxed : ¬(old = STATE_RESTRICTED ∧ new = STATE_RELAXED)

omit [WholeMs R] in
theorem Transition.afterUpdate {samples : List R} {clMin clMax : R} {old new : ℤ}
    (h : Transition c clMin clMax old new)
    (hmin : (samples.rtake c.sizeTimeUp).min? = some clMin)
    (hmax : (samples.rtake c.sizeTimeDown).max? = some clMax) (hle : clMin ≤ clMax) :
    AfterUpdate c samples old new where
  relaxed hnew := by
    refine ⟨clMin, hmin, ?_⟩
    cases h with
    | relaxed_stays hlow => exact hlow
    | active_relaxed hlow => exact hle.trans_lt hlow
    | _ => exact absurd hnew (by decide)
  restricted hnew := by
    refine ⟨clMax, hmax, ?_⟩
    cases h with
    | restricted_stays hhigh => exact hhigh
    | active_restricted _ hhigh => exact hhigh.trans hle
    | _ => exact absurd hnew (by decide)
  active_restricted hold hnew := by
    rw [← Window.le_min_iff hmin]
    cases h with
    | restricted_stays => exact absurd hold (by decide)
    | active_restricted _ hhigh => exact hhigh
    | _ => exact absurd hnew (by decide)
  active_relaxed hold hnew := by
    rw [← Window.max_lt_iff hmax]
    cases h with
    | relaxed_stays => exact absurd hold (by decide)
    | active_relaxed hlow => exact hlow
    | _ => exact absurd hnew (by decide)
  relaxed_restricted := by
    rintro ⟨hold, hnew⟩
    cases h <;> first | exact absurd hold (by decide) | exact absurd hnew (by decide)
  restricted_relaxed := by
    rintro ⟨hold, hnew⟩
    cases h <;> first | exact absurd hold (by decide) | exact absurd hnew (by decide)

/-- **DCC state invariant.**  In a run in which a measurement precedes every update no
update fails, and each leaves a state that fits the last measurements. -/
theorem dccStateInvariant (hone : c.NDL_numActiveState = 1) (hup : 1 ≤ c.sizeTimeUp)
    (hdown : 1 ≤ c.sizeTimeDown) (constructed started : ℤ) {steps : List (ChannelStep R)}
    (hmeasured : ∀ before now after, steps = before ++ .updateState now :: after →
      loads before ≠ []) :
    ∃ d₀, DCC.start c constructed started = some d₀ ∧
      ∀ before now after, steps = before ++ .updateState now :: after →
        ∃ d d', PartialRun.run channelStep d₀ before = some d ∧ d.updateState now = some d' ∧
          AfterUpdate c (loads before) d.mCurrentStateId d'.mCurrentStateId := by
  obtain ⟨d₀, hstart, -, -⟩ := exists_start hone constructed started
  refine ⟨d₀, hstart, ?_⟩
  intro before now after heq
  have hbefore : ∀ earlier now' later, before = earlier ++ .updateState now' :: later →
      loads earlier ≠ [] := by
    intro earlier now' later hsplit
    exact hmeasured earlier now' (later ++ .updateState now :: after) (by simp [heq, hsplit])
  obtain ⟨d, hrun⟩ := exists_run hone hup hdown hstart hbefore
  obtain ⟨active, h⟩ := reached_of_run hone hstart before d hrun
  obtain ⟨clMin, clMax, hread, hmin, hread', hmax, hle⟩ :=
    h.observed.exists_extremes hup hdown (hmeasured before now after heq)
  obtain ⟨d', active', hstep, -, htransition, -⟩ := h.exists_updateState hread hread' now
  exact ⟨d, d', hrun, hstep, htransition.afterUpdate hmin hmax hle⟩

theorem dccStateInvariant_shipped :
    ∃ d₀, DCC.start DccConfig.shipped 0 0 = some d₀ ∧
      ∀ before now after, [.measureChannel 0.5, .updateState 1000000] =
          before ++ .updateState now :: after →
        ∃ d d', PartialRun.run channelStep d₀ before = some d ∧ d.updateState now = some d' ∧
          AfterUpdate DccConfig.shipped (loads before) d.mCurrentStateId d'.mCurrentStateId := by
  refine dccStateInvariant rfl le_rfl (by decide) 0 0 ?_
  intro before now after heq
  cases before with
  | nil => cases heq
  | cons step before =>
      obtain rfl : .measureChannel 0.5 = step := (List.cons.inj heq).1
      exact List.cons_ne_nil _ _

end OpenC2X.Dcc
