import OpenC2X.Dcc.ChannelStates
import Mathlib.Tactic.NormNum

/-!
# The number of active states

The configuration gives the restricted state the number `NDL_numActiveState + 1`, but
`initStates` looks it up under the constant 2 and the transitions go to the constants 1 and
2.  These agree for one active state only.

* Without active states there is no configuration 2, and `initStates` dereferences the end of
  the map.
* With two or more, 2 is the second active state, and it is entered instead of the
  restricted state.

`everyRunWorks_iff` says that nothing else goes wrong.
-/

namespace OpenC2X.Dcc

variable {R : Type}

/-! ## The two maps -/

namespace StateMap

variable {V W : Type}

theorem insert_apply (m : StateMap V) (key : ℕ) (v : V) (k : ℕ) :
    m.insert key v k = if k = key then some ((m key).getD v) else m k :=
  Function.update_apply _ _ _ k

/-- Inserting keeps what is there. -/
theorem insert_of_some {m : StateMap V} {k : ℕ} {old : V} (h : m k = some old) (key : ℕ) (v : V) :
    m.insert key v k = some old := by
  rw [insert_apply]
  split_ifs with hk
  · rw [← hk, h, Option.getD_some]
  · exact h

theorem insert_of_none {m : StateMap V} {key : ℕ} (h : m key = none) (v : V) :
    m.insert key v key = some v := by
  rw [insert_apply, if_pos rfl, h, Option.getD_none]

theorem insert_of_ne (m : StateMap V) {key k : ℕ} (h : k ≠ key) (v : V) :
    m.insert key v k = m k := by
  rw [insert_apply, if_neg h]

/-- What a loop of inserts leaves under a key. -/
theorem foldl_insert (f : ℕ → V) (keys : List ℕ) (m : StateMap V) (k : ℕ) :
    keys.foldl (fun m i => m.insert i (f i)) m k =
      if k ∈ keys then some ((m k).getD (f k)) else m k := by
  induction keys generalizing m with
  | nil => simp
  | cons key keys ih =>
      rw [List.foldl_cons, ih]
      by_cases hk : k = key
      · subst hk
        simp [insert_apply]
      · rw [insert_of_ne m hk]
        simp [hk]

/-- A loop of lookups and inserts that finds every key. -/
theorem foldlM_insert {lookup : StateMap W} {f : ℕ → W} (g : W → V) (keys : List ℕ) (m : StateMap V)
    (hlookup : ∀ i ∈ keys, lookup i = some (f i)) :
    keys.foldlM (fun (m : StateMap V) i => (lookup i).bind fun w => some (m.insert i (g w))) m =
      some (keys.foldl (fun m i => m.insert i (g (f i))) m) := by
  induction keys generalizing m with
  | nil => rfl
  | cons key keys ih =>
      rw [List.foldlM_cons, hlookup key List.mem_cons_self, List.foldl_cons]
      exact ih _ fun i hi => hlookup i (List.mem_cons_of_mem key hi)

end StateMap

namespace DccConfig

theorem mem_active_iff {c : DccConfig R} {i : ℕ} :
    i ∈ List.range' 1 c.NDL_numActiveState ↔ 1 ≤ i ∧ i ≤ c.NDL_numActiveState := by
  rw [List.mem_range'_1]
  omega

/-- What `load_NDL_Parameters` leaves under a key. -/
theorem stateConfig_apply (c : DccConfig R) (i : ℕ) :
    c.stateConfig i =
      if i = 0 then some c.relaxed
      else if i ≤ c.NDL_numActiveState then some (c.active i)
      else if i = c.NDL_numActiveState + 1 then some c.restricted
      else none := by
  have hloop (k : ℕ) := StateMap.foldl_insert c.active (List.range' 1 c.NDL_numActiveState)
    (StateMap.insert (fun _ => none) 0 c.relaxed) k
  rw [stateConfig, StateMap.insert_apply, hloop, hloop]
  simp only [mem_active_iff, StateMap.insert_apply]
  by_cases hzero : i = 0
  · subst hzero
    simp
  · by_cases hactive : i ≤ c.NDL_numActiveState
    · have hne : i ≠ c.NDL_numActiveState + 1 := by omega
      have hpos : 1 ≤ i := by omega
      simp [hzero, hactive, hne, hpos]
    · by_cases hlast : i = c.NDL_numActiveState + 1
      · subst hlast
        simp [hactive]
      · simp [hzero, hactive, hlast]

/-- The configuration that the state 2 gets. -/
def thirdState (c : DccConfig R) : DccStateConfig R :=
  if c.NDL_numActiveState = 1 then c.restricted else c.active 2

theorem stateConfig_two {c : DccConfig R} (hpos : 1 ≤ c.NDL_numActiveState) :
    c.stateConfig 2 = some c.thirdState := by
  rw [stateConfig_apply, thirdState]
  by_cases hone : c.NDL_numActiveState = 1
  · simp [hone]
  · have htwo : 2 ≤ c.NDL_numActiveState := by omega
    simp [htwo, hone]

/-- The states before the restricted one is inserted. -/
def activeStates (c : DccConfig R) : StateMap (State R) :=
  (List.range' 1 c.NDL_numActiveState).foldl
    (fun states i => states.insert i (State.new (c.active i)))
    (StateMap.insert (fun _ => none) 0 (State.new c.relaxed))

theorem activeStates_zero (c : DccConfig R) :
    c.activeStates 0 = some (State.new c.relaxed) := by
  rw [activeStates, StateMap.foldl_insert]
  simp [StateMap.insert_apply]

theorem activeStates_of_pos (c : DccConfig R) {i : ℕ} (hpos : 1 ≤ i) :
    c.activeStates i =
      if i ≤ c.NDL_numActiveState then some (State.new (c.active i)) else none := by
  rw [activeStates, StateMap.foldl_insert, StateMap.insert_of_ne _ (by omega)]
  simp only [mem_active_iff, hpos, true_and, Option.getD_none]

/-- `initStates` finds all configurations but possibly the one of the restricted state. -/
theorem initStates_eq (c : DccConfig R) :
    c.initStates = (c.stateConfig 2).map fun cfg => c.activeStates.insert 2 (State.new cfg) := by
  have hrelaxed : c.stateConfig 0 = some c.relaxed := by rw [stateConfig_apply, if_pos rfl]
  have hactive : ∀ i ∈ List.range' 1 c.NDL_numActiveState, c.stateConfig i = some (c.active i) := by
    intro i hi
    obtain ⟨hge, hle⟩ := mem_active_iff.mp hi
    rw [stateConfig_apply, if_neg (by omega), if_pos hle]
  have hloop := StateMap.foldlM_insert State.new (List.range' 1 c.NDL_numActiveState)
    (StateMap.insert (fun _ => none) 0 (State.new c.relaxed)) hactive
  simp only [initStates, stateKey_relaxed, stateKey_restricted, hrelaxed, hloop, activeStates,
    Option.bind_eq_bind, Option.bind_some, Option.pure_def]
  cases c.stateConfig 2 with
  | none => rfl
  | some cfg => rfl

/-- With an active state the three states of the transitions are there. -/
theorem exists_initStates {c : DccConfig R} (hpos : 1 ≤ c.NDL_numActiveState) :
    ∃ states, c.initStates = some states ∧ states 0 = some (State.new c.relaxed) ∧
      states 1 = some (State.new (c.active 1)) ∧ states 2 = some (State.new c.thirdState) := by
  refine ⟨c.activeStates.insert 2 (State.new c.thirdState), ?_, ?_, ?_, ?_⟩
  · rw [initStates_eq, stateConfig_two hpos, Option.map_some]
  · rw [StateMap.insert_of_ne _ (by decide), activeStates_zero]
  · rw [StateMap.insert_of_ne _ (by decide), activeStates_of_pos c le_rfl, if_pos hpos]
  · have hentry := activeStates_of_pos c (i := 2) (by decide)
    by_cases hone : c.NDL_numActiveState = 1
    · rw [if_neg (by omega)] at hentry
      rw [StateMap.insert_of_none hentry]
    · have hthird : c.thirdState = c.active 2 := if_neg hone
      rw [if_pos (by omega)] at hentry
      rw [StateMap.insert_of_some hentry, hthird]

/-- Without active states the configuration of the restricted state is not found. -/
theorem initStates_zero {c : DccConfig R} (hzero : c.NDL_numActiveState = 0) :
    c.initStates = none := by
  have hnone : c.stateConfig 2 = none := by
    rw [stateConfig_apply, hzero]
    rfl
  rw [initStates_eq, hnone, Option.map_none]

end DccConfig

variable {c : DccConfig R} {d d' : DCC R}

/-! ## The three states of the transitions -/

/-- The transitions go between three states that have their entries, and `third` is the one
that is taken for the restricted state. -/
structure ThreeStates (c : DccConfig R) (third : State R) (d : DCC R) : Prop where
  mConfig_eq : d.mConfig = c
  current : d.mCurrentStateId = STATE_RELAXED ∨ d.mCurrentStateId = STATE_ACTIVE1 ∨
    d.mCurrentStateId = STATE_RESTRICTED
  relaxed : ∃ entry, d.states 0 = some entry
  active : ∃ entry, d.states 1 = some entry
  restricted : d.states 2 = some third

theorem ThreeStates.exists_entry {third : State R} (h : ThreeStates c third d) {state : ℤ}
    (hstate : state = STATE_RELAXED ∨ state = STATE_ACTIVE1 ∨ state = STATE_RESTRICTED) :
    ∃ entry, d.states (stateKey state) = some entry := by
  rcases hstate with rfl | rfl | rfl
  · exact h.relaxed
  · exact h.active
  · exact ⟨third, h.restricted⟩

variable [WholeMs R]

theorem threeStates_start {constructed started : ℤ} {d₀ : DCC R}
    (hpos : 1 ≤ c.NDL_numActiveState) (hstart : DCC.start c constructed started = some d₀) :
    ThreeStates c (State.new c.thirdState) d₀ ∧ Observed c [] d₀ ∧
      d₀.mCurrentStateId = STATE_RELAXED := by
  obtain ⟨states, hinit, hrelaxed, hactive, hthird⟩ := DccConfig.exists_initStates hpos
  have hentry : states (stateKey STATE_RELAXED) = some (State.new c.relaxed) := hrelaxed
  rw [DCC.start_of_initStates hinit hentry] at hstart
  obtain rfl := Option.some.inj hstart
  exact ⟨⟨rfl, Or.inl rfl, ⟨_, hrelaxed⟩, ⟨_, hactive⟩, hthird⟩,
    ⟨RingBuffer.shows_reset _, RingBuffer.shows_reset _⟩, rfl⟩

theorem exists_start_of_pos (hpos : 1 ≤ c.NDL_numActiveState) (constructed started : ℤ) :
    ∃ d₀, DCC.start c constructed started = some d₀ := by
  obtain ⟨states, hinit, hrelaxed, -⟩ := DccConfig.exists_initStates hpos
  exact ⟨_, DCC.start_of_initStates hinit hrelaxed constructed started⟩

/-- Entering one of the three states only writes to the entry of the active one. -/
theorem ThreeStates.exists_setCurrentState {third : State R} (h : ThreeStates c third d)
    (now : ℤ) {state : ℤ}
    (hstate : state = STATE_RELAXED ∨ state = STATE_ACTIVE1 ∨ state = STATE_RESTRICTED) :
    ∃ d', d.setCurrentState now state = some d' ∧ ThreeStates c third d' ∧
      d'.mCurrentStateId = state ∧ d'.mChannelLoadInTimeUp = d.mChannelLoadInTimeUp ∧
      d'.mChannelLoadInTimeDown = d.mChannelLoadInTimeDown := by
  obtain ⟨entry, hentry⟩ := h.exists_entry hstate
  by_cases hactive : state = STATE_ACTIVE1
  · subst hactive
    obtain ⟨old, hold⟩ := h.exists_entry h.current
    have hdefined : d.mCurrentStateId ≠ STATE_UNDEF := by
      rcases h.current with hid | hid | hid <;> rw [hid] <;> decide
    have henter := DCC.enterState_of_active hdefined (by decide) hentry hold
    have hset := DCC.setCurrentState_of_enterState now henter (Function.update_self _ _ _)
    refine ⟨_, hset, ⟨h.mConfig_eq, Or.inr (Or.inl rfl), ?_, ?_, ?_⟩, rfl, rfl, rfl⟩
    · exact h.relaxed
    · exact ⟨entry.setRefs old, Function.update_self (stateKey STATE_ACTIVE1) _ d.states⟩
    · exact h.restricted
  · have henter := DCC.enterState_of_not_active hentry (by tauto)
    have hset := DCC.setCurrentState_of_enterState now henter hentry
    exact ⟨_, hset, ⟨h.mConfig_eq, hstate, h.relaxed, h.active, h.restricted⟩, rfl, rfl, rfl⟩

variable [LinearOrder R]

omit [WholeMs R] in
/-- The transitions stay between the three states. -/
theorem nextState_target {id state : ℤ} {clMin clMax : R}
    (h : DCC.nextState c id clMin clMax = some state) :
    state = STATE_RELAXED ∨ state = STATE_ACTIVE1 ∨ state = STATE_RESTRICTED := by
  unfold DCC.nextState at h
  split_ifs at h <;> obtain rfl := Option.some.inj h <;> simp

theorem ThreeStates.step {third : State R} (h : ThreeStates c third d) {step : ChannelStep R}
    (hstep : channelStep step d = some d') : ThreeStates c third d' := by
  cases step with
  | measureChannel load =>
      obtain ⟨up, down, -, -, rfl⟩ := DCC.measureChannel_eq_some hstep
      exact ⟨h.mConfig_eq, h.current, h.relaxed, h.active, h.restricted⟩
  | updateState now =>
      obtain ⟨clMin, clMax, -, -, ⟨-, rfl⟩ | ⟨state, hnext, hset⟩⟩ :=
        DCC.updateState_eq_some hstep
      · exact h
      · obtain ⟨d'', hset', h', -⟩ := h.exists_setCurrentState now (nextState_target hnext)
        obtain rfl : d'' = d' := Option.some.inj (hset'.symm.trans hset)
        exact h'

theorem threeStates_of_run {third : State R} {d₀ : DCC R} (h : ThreeStates c third d₀) :
    ∀ steps d, PartialRun.run channelStep d₀ steps = some d → ThreeStates c third d :=
  PartialRun.run_induction h fun _ _ _ _ _ hbefore hstep => hbefore.step hstep

/-! ## Every run works -/

/-- The limits are those that the configuration gives for the restricted state. -/
def RestrictedLimits (c : DccConfig R) (l : Limits R) : Prop :=
  ∀ ac, (l.asTxPower.ac ac).val = c.NDL_minTxPower ∧
    (l.asPacketInterval.ac ac).val = c.NDL_maxPacketInterval ∧
    (l.asDatarate.ac ac).val = c.NDL_maxDatarate ∧
    (l.asCarrierSense.ac ac).val = c.NDL_maxCarrierSense

/-- The state that is entered next has an entry, and the limits in force in the restricted
state are its own. -/
structure Works (c : DccConfig R) (d : DCC R) : Prop where
  entry : ∀ clMin clMax state, d.mChannelLoadInTimeUp.min = some clMin →
    d.mChannelLoadInTimeDown.max = some clMax →
    DCC.nextState c d.mCurrentStateId clMin clMax = some state →
    ∃ entry, d.states (stateKey state) = some entry
  limits : d.mCurrentStateId = STATE_RESTRICTED →
    ∃ current, d.mCurrentState = some current ∧ RestrictedLimits c current.toLimits

/-- The constructor finds its entries, and whatever loads are measured, so does every
`updateState`. -/
def EveryRunWorks (c : DccConfig R) : Prop :=
  ∀ constructed started, ∃ d₀, DCC.start c constructed started = some d₀ ∧
    ∀ steps d, PartialRun.run channelStep d₀ steps = some d → Works c d

omit [WholeMs R] in
theorem ThreeStates.works {third : State R} (h : ThreeStates c third d)
    (hlimits : d.mCurrentStateId = STATE_RESTRICTED → RestrictedLimits c third.toLimits) :
    Works c d := by
  constructor
  · intro clMin clMax state _ _ hnext
    exact h.exists_entry (nextState_target hnext)
  · intro hid
    refine ⟨third, ?_, hlimits hid⟩
    rw [DCC.mCurrentState, hid]
    exact h.restricted

/-! ## Reaching the restricted state -/

omit [WholeMs R] in
/-- With room for one load in both windows, a single load is their minimum and maximum. -/
theorem Observed.extremes_of_single {load : R} (h : Observed c [load] d)
    (hup : 1 ≤ c.sizeTimeUp) (hdown : 1 ≤ c.sizeTimeDown) :
    d.mChannelLoadInTimeUp.min = some load ∧ d.mChannelLoadInTimeDown.max = some load := by
  rw [h.up.min_eq, h.down.max_eq, Window.rtake_of_length_le hup, Window.rtake_of_length_le hdown]
  exact ⟨rfl, rfl⟩

/-- An update after a single load. -/
theorem ThreeStates.exists_updateState {third : State R} (h : ThreeStates c third d) {load : R}
    (hobserved : Observed c [load] d) (hup : 1 ≤ c.sizeTimeUp) (hdown : 1 ≤ c.sizeTimeDown)
    (now : ℤ) {state : ℤ} (hnext : DCC.nextState c d.mCurrentStateId load load = some state) :
    ∃ d', channelStep (.updateState now) d = some d' ∧ ThreeStates c third d' ∧
      Observed c [load] d' ∧ d'.mCurrentStateId = state := by
  obtain ⟨hmin, hmax⟩ := hobserved.extremes_of_single hup hdown
  obtain ⟨d', hset, hthree, hid, hupEq, hdownEq⟩ :=
    h.exists_setCurrentState now (nextState_target hnext)
  refine ⟨d', ?_, hthree, ⟨hupEq ▸ hobserved.up, hdownEq ▸ hobserved.down⟩, hid⟩
  rw [channelStep, DCC.updateState_eq now hmin hmax, h.mConfig_eq, hnext]
  exact hset

/-- A load above both thresholds leads from the relaxed to the restricted state. -/
theorem ThreeStates.exists_restricted {third : State R} (h : ThreeStates c third d)
    (hobserved : Observed c [] d) (hrelaxed : d.mCurrentStateId = STATE_RELAXED)
    (hup : 1 ≤ c.sizeTimeUp) (hdown : 1 ≤ c.sizeTimeDown) :
    ∃ steps d', PartialRun.run channelStep d steps = some d' ∧ ThreeStates c third d' ∧
      d'.mCurrentStateId = STATE_RESTRICTED := by
  let load := max c.NDL_minChannelLoad c.NDL_maxChannelLoad
  have hmin : c.NDL_minChannelLoad ≤ load := le_max_left _ _
  have hmax : c.NDL_maxChannelLoad ≤ load := le_max_right _ _
  obtain ⟨d₁, hmeasure⟩ := hobserved.exists_measureChannel hup hdown load
  have hobserved₁ : Observed c [load] d₁ := hobserved.measureChannel hmeasure
  have hstep₁ : channelStep (.measureChannel load) d = some d₁ := hmeasure
  have hthree₁ : ThreeStates c third d₁ := h.step hstep₁
  have hid₁ : d₁.mCurrentStateId = STATE_RELAXED := by
    obtain ⟨up, down, -, -, rfl⟩ := DCC.measureChannel_eq_some hmeasure
    exact hrelaxed
  have hnext₁ : DCC.nextState c d₁.mCurrentStateId load load = some STATE_ACTIVE1 := by
    rw [hid₁, DCC.nextState, if_pos ⟨rfl, hmin⟩]
  obtain ⟨d₂, hstep₂, hthree₂, hobserved₂, hid₂⟩ :=
    hthree₁.exists_updateState hobserved₁ hup hdown 0 hnext₁
  have hnext₂ : DCC.nextState c d₂.mCurrentStateId load load = some STATE_RESTRICTED := by
    rw [hid₂, DCC.nextState, if_neg (by simp [STATE_ACTIVE1, STATE_RELAXED]),
      if_neg (by simp [STATE_ACTIVE1, STATE_RESTRICTED]), if_neg (fun hlow => hmin.not_gt hlow.2),
      if_pos ⟨by decide, hmax⟩]
  obtain ⟨d₃, hstep₃, hthree₃, -, hid₃⟩ :=
    hthree₂.exists_updateState hobserved₂ hup hdown 0 hnext₂
  refine ⟨[.measureChannel load, .updateState 0, .updateState 0], d₃, ?_, hthree₃, hid₃⟩
  simp only [PartialRun.run_cons, PartialRun.run_nil, hstep₁, hstep₂, hstep₃, Option.bind_some]

/-- Without room in one of the windows no load can be measured, and there is no extreme value
to update from. -/
theorem channelStep_of_no_room (h : Observed c [] d)
    (hroom : ¬ (1 ≤ c.sizeTimeUp ∧ 1 ≤ c.sizeTimeDown)) (step : ChannelStep R) :
    channelStep step d = none := by
  cases step with
  | measureChannel load =>
      cases hstep : d.measureChannel load with
      | none => exact hstep
      | some d' =>
          obtain ⟨up, down, hinsertUp, hinsertDown, -⟩ := DCC.measureChannel_eq_some hstep
          have hupSize := h.up.maxSize_eq
          have hdownSize := h.down.maxSize_eq
          by_cases hup : 1 ≤ c.sizeTimeUp
          · rw [RingBuffer.insert_of_maxSize_zero (by omega)] at hinsertDown
            cases hinsertDown
          · rw [RingBuffer.insert_of_maxSize_zero (by omega)] at hinsertUp
            cases hinsertUp
  | updateState now =>
      have hmin : d.mChannelLoadInTimeUp.min = none := by
        rw [h.up.min_eq, List.rtake_nil]
        rfl
      simp [channelStep, DCC.updateState, hmin]

/-- With more than one active state, the second one is taken for the restricted state. -/
theorem EveryRunWorks.restrictedLimits (h : EveryRunWorks c) (htwo : 2 ≤ c.NDL_numActiveState)
    (hup : 1 ≤ c.sizeTimeUp) (hdown : 1 ≤ c.sizeTimeDown) :
    RestrictedLimits c (c.active 2).toLimits := by
  obtain ⟨d₀, hstart, hruns⟩ := h 0 0
  obtain ⟨hthree, hobserved, hrelaxed⟩ := threeStates_start (by omega) hstart
  obtain ⟨steps, d, hrun, hd, hid⟩ := hthree.exists_restricted hobserved hrelaxed hup hdown
  obtain ⟨current, hcurrent, hlimits⟩ := (hruns steps d hrun).limits hid
  have hthird : c.thirdState = c.active 2 := if_neg (by omega)
  rw [DCC.mCurrentState, hid, stateKey_restricted, hd.restricted, hthird] at hcurrent
  obtain rfl := Option.some.inj hcurrent
  exact hlimits

/-- **The number of active states.**  Every run works if and only if there is one active
state, or there are more and the second one is configured with the limits of the restricted
state, or can never be reached because one of the windows has no room for a load. -/
theorem everyRunWorks_iff (c : DccConfig R) :
    EveryRunWorks c ↔ c.NDL_numActiveState = 1 ∨
      2 ≤ c.NDL_numActiveState ∧ (1 ≤ c.sizeTimeUp → 1 ≤ c.sizeTimeDown →
        RestrictedLimits c (c.active 2).toLimits) := by
  constructor
  · intro hworks
    have hpos : 1 ≤ c.NDL_numActiveState := by
      by_contra hzero
      obtain ⟨d₀, hstart, -⟩ := hworks 0 0
      obtain ⟨states, -, hinit, -⟩ := DCC.start_eq_some hstart
      rw [DccConfig.initStates_zero (by omega)] at hinit
      cases hinit
    by_cases hone : c.NDL_numActiveState = 1
    · exact Or.inl hone
    · have htwo : 2 ≤ c.NDL_numActiveState := by omega
      exact Or.inr ⟨htwo, hworks.restrictedLimits htwo⟩
  · intro hcond constructed started
    have hpos : 1 ≤ c.NDL_numActiveState := by omega
    obtain ⟨d₀, hstart⟩ := exists_start_of_pos hpos constructed started
    obtain ⟨hthree, hobserved, hrelaxed⟩ := threeStates_start hpos hstart
    refine ⟨d₀, hstart, ?_⟩
    intro steps d hrun
    have hd := threeStates_of_run hthree steps d hrun
    obtain hone | ⟨htwo, hlimits⟩ := hcond
    · have hthird : c.thirdState = c.restricted := if_pos hone
      exact hd.works fun _ => hthird ▸ fun ac => ⟨rfl, rfl, rfl, rfl⟩
    · have hthird : c.thirdState = c.active 2 := if_neg (by omega)
      by_cases hroom : 1 ≤ c.sizeTimeUp ∧ 1 ≤ c.sizeTimeDown
      · exact hd.works fun _ => hthird ▸ hlimits hroom.1 hroom.2
      · -- the run has no steps
        cases steps with
        | nil =>
            obtain rfl : d₀ = d := Option.some.inj hrun
            exact hd.works fun hid => absurd (hrelaxed.symm.trans hid) (by decide)
        | cons step steps =>
            rw [PartialRun.run_cons, channelStep_of_no_room hobserved hroom] at hrun
            cases hrun

/-- The shipped configuration with a second active state. -/
def twoActive : DccConfig ℚ := { DccConfig.shipped with NDL_numActiveState := 2 }

/-- There the second active state is taken for the restricted one, and best effort sends
with 20 dBm instead of -10. -/
theorem not_everyRunWorks_twoActive : ¬ EveryRunWorks twoActive := by
  intro hworks
  have hlimits := hworks.restrictedLimits le_rfl (by decide) (by decide) .AC_BE
  have hpower : (20.00 : ℚ) = -10.00 := hlimits.1
  norm_num at hpower

end OpenC2X.Dcc
