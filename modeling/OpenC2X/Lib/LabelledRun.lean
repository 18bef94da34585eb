import Mathlib.Algebra.BigOperators.Group.Finset.Basic
import Mathlib.Data.List.Induction
import Mathlib.Tactic.Common

/-!
# Runs of a labelled transition system

A system is given by its steps, a relation between a state, a label and the next state.  A
run from a start state leaves the trace of its labels.

* `Run.invariant`: what holds at the start and is kept by every step holds after every run.
* `Run.split`: the first labels of a trace are the trace of a run as well.
* `Run.project_reachable`: if every step of a system is a run of another one, so is every run.
* `Run.queue`: what is taken from a queue was put in, in this order.
* `Run.queue_eq`: if nothing was lost, it is all that was put in, up to what is left.
-/

namespace LabelledRun

variable {State Label State' Label' : Type*}

abbrev Steps (State Label : Type*) := State → Label → State → Prop

inductive Run (step : Steps State Label) (start : State) : List Label → State → Prop
  | nil : Run step start [] start
  | snoc {tr : List Label} {s s' : State} {l : Label} :
      Run step start tr s → step s l s' → Run step start (tr ++ [l]) s'

variable {step : Steps State Label} {step' : Steps State' Label'} {start : State}

theorem Run.append {tr tr' : List Label} {s s' : State} (h : Run step start tr s)
    (h' : Run step s tr' s') : Run step start (tr ++ tr') s' := by
  induction h' with
  | nil =>
      rw [List.append_nil]
      exact h
  | snoc _ hstep ih =>
      rw [← List.append_assoc]
      exact ih.snoc hstep

theorem Run.single {s s' : State} {l : Label} (h : step s l s') : Run step s [l] s' :=
  .snoc .nil h

/-- The last step of a run. -/
theorem Run.last_step {tr : List Label} {l : Label} {s' : State}
    (h : Run step start (tr ++ [l]) s') : ∃ s, Run step start tr s ∧ step s l s' := by
  generalize hall : tr ++ [l] = all at h
  cases h with
  | nil => simp at hall
  | snoc hrun hstep =>
      obtain ⟨rfl, hlast⟩ := List.append_inj' hall rfl
      obtain rfl : l = _ := List.head_eq_of_cons_eq hlast
      exact ⟨_, hrun, hstep⟩

/-- The state in the middle of a run. -/
theorem Run.split {before after : List Label} {s' : State}
    (h : Run step start (before ++ after) s') :
    ∃ s, Run step start before s ∧ Run step s after s' := by
  induction after using List.reverseRecOn generalizing s' with
  | nil =>
      rw [List.append_nil] at h
      exact ⟨s', h, .nil⟩
  | append_singleton after l ih =>
      rw [← List.append_assoc] at h
      obtain ⟨s₁, hrun, hstep⟩ := h.last_step
      obtain ⟨s, hbefore, hafter⟩ := ih hrun
      exact ⟨s, hbefore, hafter.snoc hstep⟩

/-- What holds at the start and is kept by every step holds after every run. -/
theorem Run.invariant (inv : List Label → State → Prop) (hstart : inv [] start)
    (hstep : ∀ tr s l s', inv tr s → step s l s' → inv (tr ++ [l]) s')
    {tr : List Label} {s : State} (h : Run step start tr s) : inv tr s := by
  induction h with
  | nil => exact hstart
  | snoc _ h ih => exact hstep _ _ _ _ ih h

/-- If every step of a system, from a state that it reaches, is a run of another one, with the
labels that the step stands for, so is every run. -/
theorem Run.project_reachable (state : State → State') (labels : Label → List Label')
    (hstep : ∀ tr s l s', Run step start tr s → step s l s' →
      Run step' (state s) (labels l) (state s'))
    {tr : List Label} {s : State} (h : Run step start tr s) :
    Run step' (state start) (tr.flatMap labels) (state s) := by
  induction h with
  | nil => exact .nil
  | snoc hrun h ih =>
      rw [List.flatMap_append, List.flatMap_singleton]
      exact ih.append (hstep _ _ _ _ hrun h)

theorem Run.project (state : State → State') (labels : Label → List Label')
    (hstep : ∀ s l s', step s l s' → Run step' (state s) (labels l) (state s'))
    {tr : List Label} {s : State} (h : Run step start tr s) :
    Run step' (state start) (tr.flatMap labels) (state s) :=
  h.project_reachable state labels fun _ s l s' _ hlast => hstep s l s' hlast

/-! ## Items of a trace -/

/-- A queue may lose items.  What was taken from it and what is left was put in, in this
order. -/
theorem Run.queue {Item : Type*} (put taken : Label → List Item) (queue : State → List Item)
    (hstart : queue start = [])
    (hstep : ∀ s l s', step s l s' → (taken l ++ queue s').Sublist (queue s ++ put l))
    {tr : List Label} {s : State} (h : Run step start tr s) :
    (tr.flatMap taken ++ queue s).Sublist (tr.flatMap put) := by
  induction h with
  | nil =>
      rw [hstart]
      exact List.Sublist.refl _
  | @snoc tr s s' l _ h ih =>
      simp only [List.flatMap_append, List.flatMap_singleton]
      calc (tr.flatMap taken ++ taken l) ++ queue s'
          = tr.flatMap taken ++ (taken l ++ queue s') := List.append_assoc _ _ _
        List.Sublist _ (tr.flatMap taken ++ (queue s ++ put l)) := (hstep s l s' h).append_left _
        _ = (tr.flatMap taken ++ queue s) ++ put l := (List.append_assoc _ _ _).symm
        List.Sublist _ (tr.flatMap put ++ put l) := ih.append_right _

/-- What was taken from a queue in a run of steps that lose nothing. -/
theorem Run.queue_eq {Item : Type*} (put taken : Label → List Item) (queue : State → List Item)
    (keeps : Label → Prop) (hstart : queue start = [])
    (hstep : ∀ s l s', step s l s' → keeps l → taken l ++ queue s' = queue s ++ put l)
    {tr : List Label} {s : State} (h : Run step start tr s) (hkeeps : ∀ l ∈ tr, keeps l) :
    tr.flatMap taken ++ queue s = tr.flatMap put := by
  induction h with
  | nil => exact hstart
  | @snoc tr s s' l _ h ih =>
      have hbefore := ih fun l' hl' => hkeeps l' (List.mem_append_left _ hl')
      have hlast := hkeeps l (List.mem_append_right _ (List.mem_singleton_self l))
      simp only [List.flatMap_append, List.flatMap_singleton]
      calc (tr.flatMap taken ++ taken l) ++ queue s'
          = tr.flatMap taken ++ (taken l ++ queue s') := List.append_assoc _ _ _
        _ = tr.flatMap taken ++ (queue s ++ put l) := by rw [hstep s l s' h hlast]
        _ = (tr.flatMap taken ++ queue s) ++ put l := (List.append_assoc _ _ _).symm
        _ = tr.flatMap put ++ put l := by rw [hbefore]

/-- The items of all labels are those of the labels with one key, for all keys together. -/
theorem count_flatMap_eq_sum {Key Item : Type*} [Fintype Key] [DecidableEq Key]
    [DecidableEq Item] (key : Label → Key) (items : Label → List Item) (tr : List Label)
    (item : Item) :
    (tr.flatMap items).count item =
      ∑ k, (tr.flatMap fun l => if key l = k then items l else []).count item := by
  induction tr with
  | nil => simp
  | cons l tr ih =>
      have hfirst : (items l).count item =
          ∑ k, (if key l = k then items l else []).count item := by
        rw [Finset.sum_eq_single (key l)]
        · rw [if_pos rfl]
        · intro k _ hk
          rw [if_neg hk.symm, List.count_nil]
        · intro hnot
          exact absurd (Finset.mem_univ _) hnot
      simp only [List.flatMap_cons, List.count_append, Finset.sum_add_distrib]
      rw [← hfirst, ih]

end LabelledRun
