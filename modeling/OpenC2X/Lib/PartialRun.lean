import Mathlib.Data.List.Induction
import Mathlib.Tactic.Common

/-!
# Runs of a partial step function

A machine is a function `step` that takes an input and a state and returns the next
state, or `none` where the machine crashes.  A run feeds it a list of inputs.  The two
rules below are the ways to prove something about all runs: `run_induction` for what
holds after every run that does not crash, and `exists_run` for runs that cannot crash.
Both let the property talk about the inputs consumed so far.
-/

namespace PartialRun

variable {S A : Type*} (step : A → S → Option S)

/-- The state after a list of inputs. -/
def run (s : S) : List A → Option S
  | [] => some s
  | a :: as => (step a s).bind fun s' => run s' as

variable {step}

@[simp] theorem run_nil (s : S) : run step s [] = some s := rfl

theorem run_cons (s : S) (a : A) (as : List A) :
    run step s (a :: as) = (step a s).bind fun s' => run step s' as := rfl

theorem run_append (s : S) (as bs : List A) :
    run step s (as ++ bs) = (run step s as).bind fun s' => run step s' bs := by
  induction as generalizing s with
  | nil => rfl
  | cons a as ih =>
      rw [List.cons_append, run_cons, run_cons, Option.bind_assoc]
      congr 1
      funext s'
      exact ih s'

theorem run_singleton {s s' : S} {a : A} : run step s [a] = some s' ↔ step a s = some s' := by
  simp [run_cons]

theorem run_pair {s s'' : S} {a b : A} :
    run step s [a, b] = some s'' ↔ ∃ s', step a s = some s' ∧ step b s' = some s'' := by
  simp [run_cons, Option.bind_eq_some_iff]

theorem run_concat_eq_some {s s'' : S} {as : List A} {a : A} :
    run step s (as ++ [a]) = some s'' ↔ ∃ s', run step s as = some s' ∧ step a s' = some s'' := by
  simp [run_append, run_cons, Option.bind_eq_some_iff]

theorem run_append_eq_some {s s'' : S} {as bs : List A} :
    run step s (as ++ bs) = some s'' ↔
      ∃ s', run step s as = some s' ∧ run step s' bs = some s'' := by
  simp [run_append, Option.bind_eq_some_iff]

/-- What holds at the start and is preserved by every step holds after every run. -/
theorem run_induction {s₀ : S} {P : List A → S → Prop} (hstart : P [] s₀)
    (hstep : ∀ as a s s', run step s₀ as = some s → P as s → step a s = some s' →
      P (as ++ [a]) s') :
    ∀ as s, run step s₀ as = some s → P as s := by
  intro as
  induction as using List.reverseRecOn with
  | nil =>
      intro s hrun
      obtain rfl : s₀ = s := by simpa using hrun
      exact hstart
  | append_singleton as a ih =>
      intro s hrun
      obtain ⟨mid, hmid, hlast⟩ := run_concat_eq_some.mp hrun
      exact hstep as a mid s hmid (ih mid hmid) hlast

/-- A run does not crash if every step that comes up in it is possible. -/
theorem exists_run {s₀ : S} {P : List A → S → Prop} (hstart : P [] s₀) {inputs : List A}
    (hstep : ∀ as a bs s, inputs = as ++ a :: bs → run step s₀ as = some s → P as s →
      ∃ s', step a s = some s' ∧ P (as ++ [a]) s') :
    ∃ s, run step s₀ inputs = some s ∧ P inputs s := by
  have hprefix : ∀ as bs, inputs = as ++ bs → ∃ s, run step s₀ as = some s ∧ P as s := by
    intro as
    induction as using List.reverseRecOn with
    | nil => exact fun _ _ => ⟨s₀, rfl, hstart⟩
    | append_singleton as a ih =>
        intro bs heq
        have heq' : inputs = as ++ a :: bs := by simpa using heq
        obtain ⟨mid, hmid, hP⟩ := ih (a :: bs) heq'
        obtain ⟨s', hs', hP'⟩ := hstep as a bs mid heq' hmid hP
        exact ⟨s', run_concat_eq_some.mpr ⟨mid, hmid, hs'⟩, hP'⟩
  exact hprefix inputs [] (List.append_nil _).symm

end PartialRun
