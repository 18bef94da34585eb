import Mathlib.Tactic.Common

/-!
# Programs that need not terminate

A `Program ε α` has a result of type `α`, or raises an exception of type `ε`, or does not
terminate.  It is given by what it yields with a number of rounds that each loop may take;
more rounds do not change a result.  So a program can be evaluated, and `Returns p r` says
that it has the outcome `r` with enough rounds.

`returns_bind` and `returns_loop` say what programs return that are made of others.  A loop
terminates if something decreases in every round (`terminates_loop`), and it does not if
every state with a property is followed by another one (`not_terminates_loop`).
-/

structure Program (ε α : Type) where
  run : ℕ → Option (Except ε α)
  mono : ∀ {m n : ℕ} {r : Except ε α}, m ≤ n → run m = some r → run n = some r

namespace Program

variable {ε α β σ : Type}

/-! ## Programs made of others -/

def raise (e : ε) : Program ε α where
  run _ := some (.error e)
  mono _ h := h

/-- A part of a program that terminates. -/
def ofExcept (r : Except ε α) : Program ε α where
  run _ := some r
  mono _ h := h

/-- What comes after a part of the program with this outcome. -/
def continueWith (f : α → Program ε β) (n : ℕ) : Except ε α → Option (Except ε β)
  | .ok a => (f a).run n
  | .error e => some (.error e)

instance : Monad (Program ε) where
  pure a := { run := fun _ => some (.ok a), mono := fun _ h => h }
  bind p f :=
    { run := fun n => (p.run n).bind (continueWith f n)
      mono := by
        intro m n r hle h
        obtain ⟨outcome, hp, hf⟩ := Option.bind_eq_some_iff.mp h
        rw [p.mono hle hp, Option.bind_some]
        cases outcome with
        | ok a => exact (f a).mono hle hf
        | error e => exact hf }

/-- The rounds of a loop.  A round ends in a new state or in the result of the loop. -/
def rounds (body : σ → Program ε (σ ⊕ α)) (n : ℕ) : ℕ → σ → Option (Except ε α)
  | 0, _ => none
  | k + 1, s =>
      match (body s).run n with
      | some (.ok (.inl s')) => rounds body n k s'
      | some (.ok (.inr a)) => some (.ok a)
      | some (.error e) => some (.error e)
      | none => none

theorem rounds_mono {body : σ → Program ε (σ ⊕ α)} {m n : ℕ} (hmn : m ≤ n) {k l : ℕ} (hkl : k ≤ l)
    {s : σ} {r : Except ε α} (h : rounds body m k s = some r) : rounds body n l s = some r := by
  induction k generalizing l s with
  | zero => exact absurd h (by simp [rounds])
  | succ k ih =>
      obtain ⟨l, rfl⟩ : ∃ l', l = l' + 1 := ⟨l - 1, by omega⟩
      rw [rounds] at h ⊢
      cases hbody : (body s).run m with
      | none => simp [hbody] at h
      | some outcome =>
          rw [hbody] at h
          rw [(body s).mono hmn hbody]
          rcases outcome with e | s' | a
          · exact h
          · exact ih (by omega) h
          · exact h

/-- `while`, with the test and the assignments in the body. -/
def loop (body : σ → Program ε (σ ⊕ α)) (s : σ) : Program ε α where
  run n := rounds body n n s
  mono hle h := rounds_mono hle hle h

/-! ## Outcomes -/

def Returns (p : Program ε α) (r : Except ε α) : Prop := ∃ n, p.run n = some r

def Terminates (p : Program ε α) : Prop := ∃ r, Returns p r

theorem Returns.unique {p : Program ε α} {r r' : Except ε α} (h : Returns p r)
    (h' : Returns p r') : r = r' := by
  obtain ⟨m, hm⟩ := h
  obtain ⟨n, hn⟩ := h'
  have hmax := p.mono (Nat.le_max_left m n) hm
  rw [p.mono (Nat.le_max_right m n) hn] at hmax
  exact (Option.some.inj hmax).symm

theorem returns_pure {a : α} {r : Except ε α} :
    Returns (pure a) r ↔ r = .ok a := by
  constructor
  · rintro ⟨n, h⟩
    exact (Option.some.inj h).symm
  · rintro rfl
    exact ⟨0, rfl⟩

theorem returns_ofExcept {r r' : Except ε α} : Returns (ofExcept r) r' ↔ r' = r := by
  constructor
  · rintro ⟨n, h⟩
    exact (Option.some.inj h).symm
  · rintro rfl
    exact ⟨0, rfl⟩

theorem returns_bind {p : Program ε α} {f : α → Program ε β} {r : Except ε β} :
    Returns (p >>= f) r ↔
      (∃ a, Returns p (.ok a) ∧ Returns (f a) r) ∨ ∃ e, Returns p (.error e) ∧ r = .error e := by
  constructor
  · rintro ⟨n, h⟩
    obtain ⟨outcome, hp, hf⟩ := Option.bind_eq_some_iff.mp h
    cases outcome with
    | ok a => exact .inl ⟨a, ⟨n, hp⟩, ⟨n, hf⟩⟩
    | error e => exact .inr ⟨e, ⟨n, hp⟩, (Option.some.inj hf).symm⟩
  · rintro (⟨a, ⟨m, hp⟩, ⟨n, hf⟩⟩ | ⟨e, ⟨n, hp⟩, rfl⟩)
    · refine ⟨max m n, Option.bind_eq_some_iff.mpr ⟨.ok a, p.mono (Nat.le_max_left m n) hp, ?_⟩⟩
      exact (f a).mono (Nat.le_max_right m n) hf
    · exact ⟨n, Option.bind_eq_some_iff.mpr ⟨.error e, hp, rfl⟩⟩

theorem Returns.bind_ok {p : Program ε α} {f : α → Program ε β} {a : α} {r : Except ε β}
    (hp : Returns p (.ok a)) (hf : Returns (f a) r) : Returns (p >>= f) r :=
  returns_bind.mpr (.inl ⟨a, hp, hf⟩)

theorem Returns.bind_error {p : Program ε α} {f : α → Program ε β} {e : ε}
    (hp : Returns p (.error e)) : Returns (p >>= f) (.error e) :=
  returns_bind.mpr (.inr ⟨e, hp, rfl⟩)

theorem Returns.ofExcept_bind {outcome : Except ε α} {f : α → Program ε β} {a : α}
    {r : Except ε β} (h : outcome = .ok a) (hf : Returns (f a) r) :
    Returns (ofExcept outcome >>= f) r :=
  Returns.bind_ok (returns_ofExcept.mpr h.symm) hf

/-- A result of a program is that of its last part. -/
theorem Returns.exists_of_bind {p : Program ε α} {f : α → Program ε β} {b : β}
    (h : Returns (p >>= f) (.ok b)) : ∃ a, Returns p (.ok a) ∧ Returns (f a) (.ok b) := by
  rcases returns_bind.mp h with ⟨a, hp, hf⟩ | ⟨e, -, herror⟩
  · exact ⟨a, hp, hf⟩
  · exact nomatch herror

theorem terminates_pure (a : α) : Terminates (pure a : Program ε α) :=
  ⟨_, returns_pure.mpr rfl⟩

theorem terminates_ofExcept (r : Except ε α) : Terminates (ofExcept r) :=
  ⟨_, returns_ofExcept.mpr rfl⟩

/-- The first part of a program decides whether the rest matters. -/
theorem terminates_bind {p : Program ε α} {f : α → Program ε β} (hp : Terminates p)
    (hf : ∀ a, Returns p (.ok a) → Terminates (f a)) : Terminates (p >>= f) := by
  obtain ⟨outcome, hp⟩ := hp
  cases outcome with
  | ok a =>
      obtain ⟨r, hr⟩ := hf a hp
      exact ⟨r, hp.bind_ok hr⟩
  | error e => exact ⟨.error e, hp.bind_error⟩

/-! ## Loops -/

section

variable {body : σ → Program ε (σ ⊕ α)} {s s' : σ}

/-- A round that does not end the loop. -/
theorem Returns.loop_inl (hbody : Returns (body s) (.ok (.inl s'))) {r : Except ε α} :
    Returns (loop body s) r ↔ Returns (loop body s') r := by
  obtain ⟨m, hm⟩ := hbody
  constructor
  · rintro ⟨n, h⟩
    cases n with
    | zero => exact absurd h (by simp [loop, rounds])
    | succ n =>
        have hmax := rounds_mono (Nat.le_max_right m (n + 1)) (Nat.le_refl (n + 1)) h
        rw [rounds, (body s).mono (Nat.le_max_left m (n + 1)) hm] at hmax
        exact ⟨max m (n + 1), rounds_mono (Nat.le_refl _) (by omega) hmax⟩
  · rintro ⟨n, h⟩
    refine ⟨max m n + 1, ?_⟩
    show rounds body (max m n + 1) (max m n + 1) s = some r
    rw [rounds, (body s).mono (by omega) hm]
    exact rounds_mono (by omega) (by omega) h

/-- A round that ends the loop. -/
theorem Returns.loop_inr {a : α} (hbody : Returns (body s) (.ok (.inr a))) :
    Returns (loop body s) (.ok a) := by
  obtain ⟨m, hm⟩ := hbody
  refine ⟨m + 1, ?_⟩
  show rounds body (m + 1) (m + 1) s = some (.ok a)
  rw [rounds, (body s).mono (by omega) hm]

theorem Returns.loop_error {e : ε} (hbody : Returns (body s) (.error e)) :
    Returns (loop body s) (.error e) := by
  obtain ⟨m, hm⟩ := hbody
  refine ⟨m + 1, ?_⟩
  show rounds body (m + 1) (m + 1) s = some (.error e)
  rw [rounds, (body s).mono (by omega) hm]

/-- A loop terminates if each of its rounds does and decreases a measure. -/
theorem terminates_loop (Inv : σ → Prop) (measure : σ → ℕ)
    (hround : ∀ s, Inv s → ∃ outcome, Returns (body s) outcome ∧
      ∀ s', outcome = .ok (.inl s') → Inv s' ∧ measure s' < measure s)
    (hs : Inv s) : Terminates (loop body s) := by
  induction hk : measure s using Nat.strongRecOn generalizing s with
  | ind k ih =>
      obtain ⟨outcome, hbody, hnext⟩ := hround s hs
      rcases outcome with e | s' | a
      · exact ⟨.error e, hbody.loop_error⟩
      · obtain ⟨hinv, hlt⟩ := hnext s' rfl
        obtain ⟨r, hr⟩ := ih (measure s') (hk ▸ hlt) hinv rfl
        exact ⟨r, hbody.loop_inl.mpr hr⟩
      · exact ⟨.ok a, hbody.loop_inr⟩

/-- A loop does not terminate if no state with a property is the last one. -/
theorem not_terminates_loop (Inv : σ → Prop)
    (hround : ∀ s, Inv s → ∃ s', Returns (body s) (.ok (.inl s')) ∧ Inv s') (hs : Inv s) :
    ¬Terminates (loop body s) := by
  have hrun : ∀ n k s, Inv s → rounds body n k s = none := by
    intro n k
    induction k with
    | zero => exact fun _ _ => rfl
    | succ k ih =>
        intro s hs
        obtain ⟨s', ⟨m, hm⟩, hs'⟩ := hround s hs
        rw [rounds]
        cases hbody : (body s).run n with
        | none => rfl
        | some outcome =>
            obtain rfl := Returns.unique ⟨n, hbody⟩ ⟨m, hm⟩
            exact ih s' hs'
  rintro ⟨r, n, h⟩
  rw [show (loop body s).run n = none from hrun n n s hs] at h
  exact Option.some_ne_none _ h.symm

end

end Program
