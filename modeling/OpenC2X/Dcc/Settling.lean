import OpenC2X.Dcc.ActiveStates
import Mathlib.Tactic.Order

/-!
# Constant load

Where DCC goes when the channel load stays the same.  Once both windows hold nothing but the
load `L`, their extremes are `L` and the transitions depend on `L` alone.  Every transition
leads to `settledState` or to the active state, from the active state there is only one way, and
`settledState` is not left again: two updates are enough.

The number of active states does not matter here: `updateState` compares the current state with
the constants and goes to the constants, whatever entries `initStates` has made.
-/

namespace OpenC2X.Dcc

variable {R : Type} [LinearOrder R] {c : DccConfig R} {L : R}

/-- The state that belongs to the load `L`. -/
def settledState (c : DccConfig R) (L : R) : ℤ :=
  if L < c.NDL_minChannelLoad then STATE_RELAXED
  else if L < c.NDL_maxChannelLoad then STATE_ACTIVE1
  else STATE_RESTRICTED

theorem settledState_of_lt (h : L < c.NDL_minChannelLoad) : settledState c L = STATE_RELAXED :=
  if_pos h

theorem settledState_of_between (hmin : c.NDL_minChannelLoad ≤ L)
    (hmax : L < c.NDL_maxChannelLoad) : settledState c L = STATE_ACTIVE1 := by
  rw [settledState, if_neg (not_lt.mpr hmin), if_pos hmax]

theorem settledState_of_le (hmin : c.NDL_minChannelLoad ≤ L) (hmax : c.NDL_maxChannelLoad ≤ L) :
    settledState c L = STATE_RESTRICTED := by
  rw [settledState, if_neg (not_lt.mpr hmin), if_neg (not_lt.mpr hmax)]

/-! ## Transitions under constant load -/

variable {old new : ℤ}

theorem Transition.settled_of_active (h : Transition c L L old new)
    (hold : old = STATE_ACTIVE1) : new = settledState c L := by
  cases h with
  | active_relaxed hlow => exact (settledState_of_lt hlow).symm
  | active_restricted hlow hhigh => exact (settledState_of_le hlow hhigh).symm
  | active_stays hlow hhigh => exact (settledState_of_between hlow hhigh).symm
  | _ => exact absurd hold (by decide)

/-- From any state an update leads to the settled state or to the active one. -/
theorem Transition.settled_or_active (h : Transition c L L old new)
    (hthresholds : c.NDL_minChannelLoad ≤ c.NDL_maxChannelLoad) :
    new = settledState c L ∨ new = STATE_ACTIVE1 := by
  cases h with
  | relaxed_active => exact Or.inr rfl
  | relaxed_stays hlow => exact Or.inl (settledState_of_lt hlow).symm
  | restricted_active => exact Or.inr rfl
  | restricted_stays hhigh =>
      exact Or.inl (settledState_of_le (hthresholds.trans hhigh) hhigh).symm
  | active_relaxed hlow => exact Or.inl (settledState_of_lt hlow).symm
  | active_restricted hlow hhigh => exact Or.inl (settledState_of_le hlow hhigh).symm
  | active_stays => exact Or.inr rfl

theorem Transition.settled_of_settled (h : Transition c L L old new)
    (hold : old = settledState c L) : new = settledState c L := by
  unfold settledState at hold ⊢
  cases h <;> split_ifs at hold ⊢ <;>
    first
    | rfl
    | exact absurd hold (by decide)
    | order

/-- How near the settled state is after `n` updates. -/
structure Near (c : DccConfig R) (L : R) (n : ℕ) (id : ℤ) : Prop where
  one : 1 ≤ n → id = settledState c L ∨ id = STATE_ACTIVE1
  two : 2 ≤ n → id = settledState c L

theorem Near.update {n : ℕ} (h : Near c L n old) (htransition : Transition c L L old new)
    (hthresholds : c.NDL_minChannelLoad ≤ c.NDL_maxChannelLoad) : Near c L (n + 1) new where
  one _ := htransition.settled_or_active hthresholds
  two hn := by
    rcases h.one (by omega) with hsettled | hactive
    · exact htransition.settled_of_settled hsettled
    · exact htransition.settled_of_active hactive

/-! ## Runs under constant load -/

variable [WholeMs R]

def updates (steps : List (ChannelStep R)) : ℕ :=
  steps.countP fun
    | .measureChannel _ => false
    | .updateState _ => true

omit [LinearOrder R] [WholeMs R] in
@[simp] theorem updates_concat_measureChannel (steps : List (ChannelStep R)) (load : R) :
    updates (steps ++ [.measureChannel load]) = updates steps := by
  simp [updates]

omit [LinearOrder R] [WholeMs R] in
@[simp] theorem updates_concat_updateState (steps : List (ChannelStep R)) (now : ℤ) :
    updates (steps ++ [.updateState now]) = updates steps + 1 := by
  simp [updates]

/-- The machine has the three states of the transitions, and its windows show the last of the
loads `samples`. -/
structure Measured (c : DccConfig R) (third : State R) (samples : List R) (d : DCC R) : Prop where
  threeStates : ThreeStates c third d
  observed : Observed c samples d

omit [WholeMs R] in
/-- A machine that has measured nothing but `L` for long enough sees `L` only. -/
theorem Measured.extremes_of_const {third : State R} {d : DCC R} {earlier recent : List R}
    (h : Measured c third (earlier ++ recent) d) (hup : 1 ≤ c.sizeTimeUp)
    (hdown : 1 ≤ c.sizeTimeDown) (hlong : max c.sizeTimeUp c.sizeTimeDown ≤ recent.length)
    (hconst : ∀ load ∈ recent, load = L) :
    d.mChannelLoadInTimeUp.min = some L ∧ d.mChannelLoadInTimeDown.max = some L := by
  constructor
  · rw [h.observed.up.min_eq]
    exact Window.min?_rtake_const hup ((le_max_left _ _).trans hlong) hconst
  · rw [h.observed.down.max_eq]
    exact Window.max?_rtake_const hdown ((le_max_right _ _).trans hlong) hconst

/-- An update reads the windows and leaves them as they are. -/
theorem Measured.exists_updateState {third : State R} {d : DCC R} {samples : List R}
    (h : Measured c third samples d) {clMin clMax : R}
    (hmin : d.mChannelLoadInTimeUp.min = some clMin)
    (hmax : d.mChannelLoadInTimeDown.max = some clMax) (now : ℤ) :
    ∃ d', d.updateState now = some d' ∧ Measured c third samples d' ∧
      Transition c clMin clMax d.mCurrentStateId d'.mCurrentStateId := by
  have htransition := transition_nextState c clMin clMax h.threeStates.current
  rw [DCC.updateState_eq now hmin hmax, h.threeStates.mConfig_eq]
  cases hnext : DCC.nextState c d.mCurrentStateId clMin clMax with
  | none =>
      rw [hnext, Option.getD_none] at htransition
      exact ⟨d, rfl, h, htransition⟩
  | some state =>
      rw [hnext, Option.getD_some] at htransition
      obtain ⟨d', hset, hthree, hid, hupEq, hdownEq⟩ :=
        h.threeStates.exists_setCurrentState now htransition.target
      exact ⟨d', hset, ⟨hthree, ⟨hupEq ▸ h.observed.up, hdownEq ▸ h.observed.down⟩⟩,
        hid ▸ htransition⟩

theorem Measured.measureChannel {third : State R} {d d' : DCC R} {samples : List R}
    (h : Measured c third samples d) {load : R} (hstep : d.measureChannel load = some d') :
    Measured c third (samples ++ [load]) d' ∧ d'.mCurrentStateId = d.mCurrentStateId := by
  have hstep' : channelStep (.measureChannel load) d = some d' := hstep
  refine ⟨⟨h.threeStates.step hstep', h.observed.measureChannel hstep⟩, ?_⟩
  obtain ⟨up, down, -, -, rfl⟩ := DCC.measureChannel_eq_some hstep
  rfl

/-- The constructor fails without active states; with any number of them every run keeps the
three states. -/
theorem measured_of_run {constructed started : ℤ} {d₀ : DCC R}
    (hstart : DCC.start c constructed started = some d₀) :
    ∀ steps d, PartialRun.run channelStep d₀ steps = some d →
      Measured c (State.new c.thirdState) (loads steps) d := by
  have hpos : 1 ≤ c.NDL_numActiveState := by
    by_contra hzero
    obtain ⟨states, -, hinit, -⟩ := DCC.start_eq_some hstart
    rw [DccConfig.initStates_zero (by omega)] at hinit
    cases hinit
  obtain ⟨hthree, hobserved, -⟩ := threeStates_start hpos hstart
  apply PartialRun.run_induction
  · exact ⟨hthree, hobserved⟩
  · intro steps step d d' _ h hstep
    cases step with
    | measureChannel load =>
        rw [loads_append, loads_measureChannel]
        exact (h.measureChannel hstep).1
    | updateState now =>
        rw [loads_append, loads_updateState, List.append_nil]
        obtain ⟨clMin, clMax, hmin, hmax, -⟩ := DCC.updateState_eq_some hstep
        obtain ⟨d'', hstep', h', -⟩ := h.exists_updateState hmin hmax now
        obtain rfl : d'' = d' := Option.some.inj (hstep'.symm.trans hstep)
        exact h'

/-- One step of a machine that sees `L` only: it does not fail, and an update comes nearer to
the settled state. -/
theorem Near.step {third : State R} {d : DCC R} {samples : List R} {steps : List (ChannelStep R)}
    (h : Near c L (updates steps) d.mCurrentStateId) (hmeasured : Measured c third samples d)
    (hup : 1 ≤ c.sizeTimeUp) (hdown : 1 ≤ c.sizeTimeDown)
    (hthresholds : c.NDL_minChannelLoad ≤ c.NDL_maxChannelLoad)
    (hextremes : d.mChannelLoadInTimeUp.min = some L ∧ d.mChannelLoadInTimeDown.max = some L)
    (step : ChannelStep R) :
    ∃ d', channelStep step d = some d' ∧
      Near c L (updates (steps ++ [step])) d'.mCurrentStateId := by
  cases step with
  | measureChannel load =>
      obtain ⟨d', hstep⟩ := hmeasured.observed.exists_measureChannel hup hdown load
      refine ⟨d', hstep, ?_⟩
      rw [updates_concat_measureChannel, (hmeasured.measureChannel hstep).2]
      exact h
  | updateState now =>
      obtain ⟨d', hstep, -, htransition⟩ :=
        hmeasured.exists_updateState hextremes.1 hextremes.2 now
      refine ⟨d', hstep, ?_⟩
      rw [updates_concat_updateState]
      exact h.update htransition hthresholds

/-- **DCC settles in the right state.**  Take any run that ends with enough measurements of
the load `L` to fill both windows.  From there on, while only `L` is measured, nothing
crashes, and two updates are enough to reach the settled state for good. -/
theorem settles (hup : 1 ≤ c.sizeTimeUp) (hdown : 1 ≤ c.sizeTimeDown)
    (hthresholds : c.NDL_minChannelLoad ≤ c.NDL_maxChannelLoad)
    {constructed started : ℤ} {d₀ d : DCC R}
    (hstart : DCC.start c constructed started = some d₀)
    {history further : List (ChannelStep R)}
    (hrun : PartialRun.run channelStep d₀ (history ++ further) = some d)
    (hfurther : ∀ load ∈ loads further, load = L)
    (hlong : max c.sizeTimeUp c.sizeTimeDown ≤ (loads further).length)
    {after : List (ChannelStep R)} (hafter : ∀ load ∈ loads after, load = L)
    (htwo : 2 ≤ updates after) :
    ∃ d', PartialRun.run channelStep d after = some d' ∧
      d'.mCurrentStateId = settledState c L := by
  -- induction on the steps after the windows have filled up, counting the updates
  have hnear : ∃ d', PartialRun.run channelStep d after = some d' ∧
      Near c L (updates after) d'.mCurrentStateId := by
    apply PartialRun.exists_run
    · exact ⟨fun h => absurd h (by simp [updates]), fun h => absurd h (by simp [updates])⟩
    intro before step rest mid heq hmid hnear
    have hmeasured := measured_of_run hstart (history ++ further ++ before) mid
      (PartialRun.run_append_eq_some.mpr ⟨d, hrun, hmid⟩)
    rw [loads_append, loads_append, List.append_assoc] at hmeasured
    have hconst : ∀ load ∈ loads further ++ loads before, load = L := by
      intro load hload
      rcases List.mem_append.mp hload with hold | hnew
      · exact hfurther load hold
      · apply hafter
        rw [heq, loads_append]
        exact List.mem_append_left _ hnew
    have hfilled : max c.sizeTimeUp c.sizeTimeDown ≤ (loads further ++ loads before).length := by
      calc
        max c.sizeTimeUp c.sizeTimeDown ≤ (loads further).length := hlong
        _ ≤ (loads further ++ loads before).length := by
          rw [List.length_append]
          exact Nat.le_add_right _ _
    exact hnear.step hmeasured hup hdown hthresholds
      (hmeasured.extremes_of_const hup hdown hfilled hconst) step
  obtain ⟨d', hrun', hnear⟩ := hnear
  exact ⟨d', hrun', hnear.two htwo⟩

theorem settles_shipped :
    ∃ d₀ d d', DCC.start DccConfig.shipped 0 0 = some d₀ ∧
      PartialRun.run channelStep d₀ ([] ++ List.replicate 5 (.measureChannel 0.5)) = some d ∧
      PartialRun.run channelStep d [.updateState 0, .updateState 1000000] = some d' ∧
      d'.mCurrentStateId = settledState DccConfig.shipped 0.5 := by
  obtain ⟨d₀, hstart, -, -⟩ := exists_start (c := DccConfig.shipped) rfl 0 0
  have hnone : ∀ before now after, [] ++ List.replicate 5 (.measureChannel (0.5 : ℚ)) =
      before ++ .updateState now :: after → loads before ≠ [] := by
    intro before now after heq
    have hmem : (.updateState now : ChannelStep ℚ) ∈
        [] ++ List.replicate 5 (.measureChannel (0.5 : ℚ)) := by
      rw [heq]
      exact List.mem_append_right _ List.mem_cons_self
    cases List.eq_of_mem_replicate hmem
  obtain ⟨d, hrun⟩ := exists_run rfl le_rfl (by decide) hstart hnone
  have hafter : ∀ load ∈ loads [(.updateState 0 : ChannelStep ℚ), .updateState 1000000],
      load = 0.5 := by decide
  obtain ⟨d', hrun', hsettled⟩ := settles le_rfl (by decide) (by decide +kernel) hstart hrun
    (by decide +kernel) (by decide) hafter (by decide)
  exact ⟨d₀, d, d', hstart, hrun, hrun', hsettled⟩

end OpenC2X.Dcc
