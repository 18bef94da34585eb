import OpenC2X.Dcc.ChannelStates

/-!
# Limits in force

`setCurrentState` writes into the stored states: on every entry into the active state it sets
the references there from the state that is left.  `limitsInForce` says that nothing else
ever changes.  The relaxed and the restricted state keep their configured limits, so does the
active state except for its references, and while the active state is current its
references have the values of the state from which it was last entered.
-/

namespace OpenC2X.Dcc

variable {R : Type}

/-! ## Setting references -/

/-- What a stored value keeps of its configuration. -/
def DccNdlValue.Configured {T : Type} (value cfg : DccNdlValue T) : Prop :=
  value.isRef = cfg.isRef ∧ (cfg.isRef = false → value.val = cfg.val)

/-- What a reference takes from a value of another state. -/
def DccNdlValue.RefersTo {T : Type} (value old : DccNdlValue T) : Prop :=
  value.isRef = true → value.val = old.val

theorem DccNdlParam.configured_setRefs {T : Type} {current old cfg : DccNdlParam T}
    {a : AccessCategory} (h : (current.ac a).Configured (cfg.ac a)) :
    ((current.setRefs old).ac a).Configured (cfg.ac a) := by
  rw [setRefs_ac]
  split_ifs with href
  · -- a reference: its flag stays and its value is not bound to the configuration
    exact ⟨h.1, fun hno => absurd (h.1.symm.trans href) (by simp [hno])⟩
  · exact h

theorem DccNdlParam.refersTo_setRefs {T : Type} (current old : DccNdlParam T)
    (a : AccessCategory) : ((current.setRefs old).ac a).RefersTo (old.ac a) := by
  rw [setRefs_ac]
  split_ifs with h
  · exact fun _ => rfl
  · exact fun href => absurd href h

theorem State.configured_setRefs {current old : State R} {cfg : Limits R}
    (h : current.toLimits.Forall DccNdlValue.Configured cfg) :
    (current.setRefs old).toLimits.Forall DccNdlValue.Configured cfg := by
  intro ac
  obtain ⟨hdcc, htx, hinterval, hrate, hsense⟩ := h ac
  exact ⟨DccNdlParam.configured_setRefs hdcc, DccNdlParam.configured_setRefs htx,
    DccNdlParam.configured_setRefs hinterval, DccNdlParam.configured_setRefs hrate,
    DccNdlParam.configured_setRefs hsense⟩

theorem State.refersTo_setRefs (current old : State R) :
    (current.setRefs old).toLimits.Forall DccNdlValue.RefersTo old.toLimits :=
  fun ac => ⟨DccNdlParam.refersTo_setRefs _ _ ac, DccNdlParam.refersTo_setRefs _ _ ac,
    DccNdlParam.refersTo_setRefs _ _ ac, DccNdlParam.refersTo_setRefs _ _ ac,
    DccNdlParam.refersTo_setRefs _ _ ac⟩

/-! ## Entries into the active state -/

variable [LinearOrder R] [WholeMs R] {c : DccConfig R}

/-- In the run of `steps` the active state was last entered from the state `old`. -/
def LastEntered (d₀ : DCC R) (steps : List (ChannelStep R)) (old : State R) : Prop :=
  ∃ before now after left entered, steps = before ++ .updateState now :: after ∧
    PartialRun.run channelStep d₀ before = some left ∧ left.updateState now = some entered ∧
    left.mCurrentStateId ≠ STATE_ACTIVE1 ∧ left.mCurrentState = some old ∧
    entered.mCurrentStateId = STATE_ACTIVE1 ∧
    ∀ stay rest d, after = stay ++ rest → PartialRun.run channelStep entered stay = some d →
      d.mCurrentStateId = STATE_ACTIVE1

/-- A step that leaves the active state current does not count as an entry. -/
theorem LastEntered.step {d₀ d d' : DCC R} {steps : List (ChannelStep R)} {old : State R}
    (h : LastEntered d₀ steps old) (hrun : PartialRun.run channelStep d₀ steps = some d)
    {step : ChannelStep R} (hstep : channelStep step d = some d')
    (hid : d'.mCurrentStateId = STATE_ACTIVE1) : LastEntered d₀ (steps ++ [step]) old := by
  obtain ⟨before, now, after, left, entered, rfl, hleft, hentered, hne, hold, hactive, hstays⟩ :=
    h
  refine ⟨before, now, after ++ [step], left, entered, by simp, hleft, hentered, hne, hold,
    hactive, ?_⟩
  have hafter : PartialRun.run channelStep entered after = some d := by
    rw [PartialRun.run_append, hleft, Option.bind_some, PartialRun.run_cons] at hrun
    rwa [show channelStep (.updateState now) left = some entered from hentered] at hrun
  intro stay rest e hsplit he
  rcases List.eq_nil_or_concat' rest with rfl | ⟨rest, last, rfl⟩
  · -- `stay` ends with the new step
    rw [List.append_nil] at hsplit
    have hlast := PartialRun.run_concat_eq_some.mpr ⟨d, hafter, hstep⟩
    rw [hsplit, he] at hlast
    exact Option.some.inj hlast ▸ hid
  · -- `stay` ends before it
    rw [← List.append_assoc] at hsplit
    exact hstays stay rest e (List.append_inj' hsplit rfl).1 he

theorem LastEntered.now {d₀ d d' : DCC R} {steps : List (ChannelStep R)} {old : State R} {now : ℤ}
    (hrun : PartialRun.run channelStep d₀ steps = some d) (hstep : d.updateState now = some d')
    (hold : d.mCurrentState = some old) (hid : d.mCurrentStateId ≠ STATE_ACTIVE1)
    (hid' : d'.mCurrentStateId = STATE_ACTIVE1) :
    LastEntered d₀ (steps ++ [.updateState now]) old := by
  refine ⟨steps, now, [], d, d', rfl, hrun, hstep, hid, hold, hid', ?_⟩
  intro stay rest e hsplit he
  obtain rfl := (List.append_eq_nil_iff.mp hsplit.symm).1
  exact Option.some.inj he ▸ hid'

/-! ## Every reachable state -/

/-- The limits after the run of `steps`. -/
structure InForce (c : DccConfig R) (d₀ : DCC R) (steps : List (ChannelStep R)) (active : State R)
    (d : DCC R) : Prop where
  reached : Reached c (loads steps) active d
  configured : active.toLimits.Forall DccNdlValue.Configured (c.active 1).toLimits
  refersTo : d.mCurrentStateId = STATE_ACTIVE1 → ∃ old, LastEntered d₀ steps old ∧
    active.toLimits.Forall DccNdlValue.RefersTo old.toLimits

theorem inForce_start (hone : c.NDL_numActiveState = 1) {constructed started : ℤ}
    {d₀ : DCC R} (hstart : DCC.start c constructed started = some d₀) :
    InForce c d₀ [] (State.new (c.active 1)) d₀ := by
  obtain ⟨d₁, hstart', hreached, hrelaxed⟩ := exists_start hone constructed started
  obtain rfl : d₁ = d₀ := Option.some.inj (hstart'.symm.trans hstart)
  refine ⟨hreached, ?_, ?_⟩
  · intro ac
    exact ⟨⟨rfl, fun _ => rfl⟩, ⟨rfl, fun _ => rfl⟩, ⟨rfl, fun _ => rfl⟩, ⟨rfl, fun _ => rfl⟩,
      ⟨rfl, fun _ => rfl⟩⟩
  · intro hactive
    exact absurd (hrelaxed.symm.trans hactive) (by decide)

/-- A step that does not enter the active state leaves its limits in force. -/
theorem InForce.kept {d₀ d d' : DCC R} {steps : List (ChannelStep R)} {active : State R}
    (h : InForce c d₀ steps active d) (hrun : PartialRun.run channelStep d₀ steps = some d)
    {step : ChannelStep R} (hstep : channelStep step d = some d')
    (hreached : Reached c (loads (steps ++ [step])) active d')
    (hstays : d'.mCurrentStateId = STATE_ACTIVE1 → d.mCurrentStateId = STATE_ACTIVE1) :
    InForce c d₀ (steps ++ [step]) active d' where
  reached := hreached
  configured := h.configured
  refersTo hid' := by
    obtain ⟨old, hlast, hold⟩ := h.refersTo (hstays hid')
    exact ⟨old, hlast.step hrun hstep hid', hold⟩

theorem InForce.step {d₀ d d' : DCC R} {steps : List (ChannelStep R)} {active : State R}
    (h : InForce c d₀ steps active d) (hrun : PartialRun.run channelStep d₀ steps = some d)
    {step : ChannelStep R} (hstep : channelStep step d = some d') :
    ∃ active', InForce c d₀ (steps ++ [step]) active' d' := by
  cases step with
  | measureChannel load =>
      obtain ⟨hreached, hid⟩ := h.reached.measureChannel hstep
      refine ⟨active, h.kept hrun hstep ?_ fun hid' => hid.symm.trans hid'⟩
      rwa [loads_append, loads_measureChannel]
  | updateState now =>
      obtain ⟨active', -, -, -, -, hreached, -, hupdate⟩ := h.reached.updateState hstep
      have hreached' : Reached c (loads (steps ++ [.updateState now])) active' d' := by
        rwa [loads_append, loads_updateState, List.append_nil]
      cases hupdate with
      | kept hstays => exact ⟨active, h.kept hrun hstep hreached' hstays⟩
      | @entered old hold hid hid' =>
          refine ⟨_, hreached', State.configured_setRefs h.configured, fun _ => ⟨old, ?_, ?_⟩⟩
          · exact LastEntered.now hrun hstep hold hid hid'
          · exact State.refersTo_setRefs active old

theorem inForce_of_run (hone : c.NDL_numActiveState = 1) {constructed started : ℤ} {d₀ : DCC R}
    (hstart : DCC.start c constructed started = some d₀) :
    ∀ steps d, PartialRun.run channelStep d₀ steps = some d →
      ∃ active, InForce c d₀ steps active d := by
  apply PartialRun.run_induction
  · exact ⟨_, inForce_start hone hstart⟩
  · rintro steps step d d' hrun ⟨active, h⟩ hstep
    exact h.step hrun hstep

/-- **Limits in force.** -/
theorem limitsInForce (hone : c.NDL_numActiveState = 1) {constructed started : ℤ} {d₀ : DCC R}
    (hstart : DCC.start c constructed started = some d₀) {steps : List (ChannelStep R)} {d : DCC R}
    (hrun : PartialRun.run channelStep d₀ steps = some d) :
    ∃ relaxed active restricted, d.states 0 = some relaxed ∧ d.states 1 = some active ∧
      d.states 2 = some restricted ∧
      relaxed.toLimits = c.relaxed.toLimits ∧ restricted.toLimits = c.restricted.toLimits ∧
      active.toLimits.Forall DccNdlValue.Configured (c.active 1).toLimits ∧
      (d.mCurrentStateId = STATE_ACTIVE1 → ∃ old, LastEntered d₀ steps old ∧
        active.toLimits.Forall DccNdlValue.RefersTo old.toLimits) := by
  obtain ⟨active, h⟩ := inForce_of_run hone hstart steps d hrun
  exact ⟨State.new c.relaxed, active, State.new c.restricted, h.reached.oneActive.relaxed,
    h.reached.oneActive.active, h.reached.oneActive.restricted, rfl, rfl, h.configured, h.refersTo⟩

theorem limitsInForce_shipped :
    ∃ d₀ d active old, DCC.start DccConfig.shipped 0 0 = some d₀ ∧
      PartialRun.run channelStep d₀ [.measureChannel 0.5, .updateState 1000000] = some d ∧
      d.states 1 = some active ∧
      LastEntered d₀ [.measureChannel 0.5, .updateState 1000000] old ∧
      active.toLimits.Forall DccNdlValue.RefersTo old.toLimits := by
  have hrun : ((DCC.start DccConfig.shipped 0 0).bind fun d₀ =>
      (PartialRun.run channelStep d₀ [.measureChannel 0.5, .updateState 1000000]).map
        DCC.mCurrentStateId) = some STATE_ACTIVE1 := by decide +kernel
  simp only [Option.bind_eq_some_iff, Option.map_eq_some_iff] at hrun
  obtain ⟨d₀, hstart, d, hrun, hid⟩ := hrun
  obtain ⟨-, active, -, -, hactive, -, -, -, -, hrefs⟩ := limitsInForce rfl hstart hrun
  obtain ⟨old, hlast, hold⟩ := hrefs hid
  exact ⟨d₀, d, active, old, hstart, hrun, hactive, hlast, hold⟩

end OpenC2X.Dcc
