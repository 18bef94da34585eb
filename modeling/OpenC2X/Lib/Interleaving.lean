import Mathlib.Algebra.BigOperators.Group.Finset.Basic
import Mathlib.Algebra.BigOperators.Group.Finset.Piecewise
import Mathlib.Data.Fintype.Basic
import Mathlib.Data.List.Induction
import Mathlib.Logic.Relation
import Mathlib.Algebra.Order.Group.Multiset
import Mathlib.Tactic.Abel

/-!
# Interleavings of threads over shared data

A system of threads is given by the atomic actions of one thread: a relation
between the shared data, the local state of the acting thread, the event it
shows, and both after the action.  A run interleaves the actions of all threads
in any order and leaves a trace of events, each tagged with its thread.

Two rules are used by every development built on this file.

* `Run.invariant`: a property of trace and configuration that every atomic
  action preserves holds along every run.
* `Run.conservation`: a balance that every atomic action keeps for the acting
  thread alone is kept by the whole system, however many threads there are.
-/

namespace Interleaving

variable {Tid Shared Local Event : Type*}

/-- The shared data and, for each thread, where it stands. -/
@[ext]
structure Config (Tid Shared Local : Type*) where
  shared : Shared
  locals : Tid → Local

abbrev Actions (Shared Local Event : Type*) :=
  Shared → Local → Event → Shared → Local → Prop

/-- The events of a run in the order they happened, each with its thread. -/
abbrev Trace (Tid Event : Type*) := List (Tid × Event)

variable [DecidableEq Tid]

/-- One thread performs one atomic action; the other threads stay where they are. -/
inductive Step (act : Actions Shared Local Event) :
    Config Tid Shared Local → Tid × Event → Config Tid Shared Local → Prop
  | move {c : Config Tid Shared Local} {t : Tid} {e : Event} {s : Shared} {l : Local} :
      act c.shared (c.locals t) e s l →
      Step act c (t, e) ⟨s, Function.update c.locals t l⟩

/-- Any number of steps from `start`, with the trace they leave. -/
inductive Run (act : Actions Shared Local Event) (start : Config Tid Shared Local) :
    Trace Tid Event → Config Tid Shared Local → Prop
  | nil : Run act start [] start
  | snoc {tr : Trace Tid Event} {c c' : Config Tid Shared Local} {e : Tid × Event} :
      Run act start tr c → Step act c e c' → Run act start (tr ++ [e]) c'

variable {act : Actions Shared Local Event} {start : Config Tid Shared Local}

/-- Adds one action of thread `t`, which stands at `l₀`, at the end of a run. -/
theorem Run.move {tr : Trace Tid Event} {c : Config Tid Shared Local} (h : Run act start tr c)
    (t : Tid) {l₀ : Local} (hl : c.locals t = l₀) {e : Event} {s : Shared} {l : Local}
    (ha : act c.shared l₀ e s l) :
    Run act start (tr ++ [(t, e)]) ⟨s, Function.update c.locals t l⟩ :=
  h.snoc (.move (hl ▸ ha))

theorem Run.append {tr tr' : Trace Tid Event} {c c' : Config Tid Shared Local}
    (h : Run act start tr c) (h' : Run act c tr' c') : Run act start (tr ++ tr') c' := by
  induction h' with
  | nil => simpa using h
  | snoc _ hstep ih =>
      rw [← List.append_assoc]
      exact ih.snoc hstep

/-- The run of a system in which more actions are possible. -/
theorem Run.mono {act' : Actions Shared Local Event} {tr : Trace Tid Event}
    {c : Config Tid Shared Local} (hact : ∀ {s l e s' l'}, act s l e s' l' → act' s l e s' l')
    (h : Run act start tr c) : Run act' start tr c := by
  induction h with
  | nil => exact .nil
  | snoc _ hstep ih =>
      cases hstep with
      | move ha => exact ih.snoc (.move (hact ha))

/-- The last step of a run. -/
theorem Run.last_step {tr : Trace Tid Event} {e : Tid × Event} {c' : Config Tid Shared Local}
    (h : Run act start (tr ++ [e]) c') : ∃ c, Run act start tr c ∧ Step act c e c' := by
  generalize hall : tr ++ [e] = all at h
  cases h with
  | nil => simp at hall
  | snoc hrun hstep =>
      obtain ⟨rfl, hlast⟩ := List.append_inj' hall rfl
      obtain rfl := List.singleton_injective hlast
      exact ⟨_, hrun, hstep⟩

/-- The configuration in the middle of a run. -/
theorem Run.split {tr tr' : Trace Tid Event} {c' : Config Tid Shared Local}
    (h : Run act start (tr ++ tr') c') : ∃ c, Run act start tr c ∧ Run act c tr' c' := by
  induction tr' using List.reverseRecOn generalizing c' with
  | nil => exact ⟨c', by simpa using h, .nil⟩
  | append_singleton tr' e ih =>
      rw [← List.append_assoc] at h
      obtain ⟨c₁, hrun, hstep⟩ := h.last_step
      obtain ⟨c, hbefore, hafter⟩ := ih hrun
      exact ⟨c, hbefore, hafter.snoc hstep⟩

/-- The action in the middle of a run, between the run before it and the one after it. -/
theorem Run.split_event {before after : Trace Tid Event} {t : Tid} {e : Event}
    {c' : Config Tid Shared Local} (h : Run act start (before ++ (t, e) :: after) c') :
    ∃ c s l, Run act start before c ∧ act c.shared (c.locals t) e s l ∧
      Run act ⟨s, Function.update c.locals t l⟩ after c' := by
  rw [← List.singleton_append, ← List.append_assoc] at h
  obtain ⟨c₁, hevent, hafter⟩ := h.split
  obtain ⟨c, hbefore, hstep⟩ := hevent.last_step
  cases hstep with
  | move ha => exact ⟨c, _, _, hbefore, ha, hafter⟩

/-! ## Threads alone -/

/-- What a thread reaches while no other thread moves. -/
def Alone (act : Actions Shared Local Event) : Shared × Local → Shared × Local → Prop :=
  Relation.ReflTransGen fun x y => ∃ e, act x.1 x.2 e y.1 y.2

omit [DecidableEq Tid] in
theorem Alone.step {s s' : Shared} {l l' : Local} {e : Event} (ha : act s l e s' l') :
    Alone act (s, l) (s', l') :=
  .single ⟨e, ha⟩

omit [DecidableEq Tid] in
theorem Alone.trans {x y z : Shared × Local} (h : Alone act x y) (h' : Alone act y z) :
    Alone act x z :=
  Relation.ReflTransGen.trans h h'

/-- What a thread reaches alone, the system reaches in a run of this thread. -/
theorem Run.of_alone {c : Config Tid Shared Local} {t : Tid} {y : Shared × Local}
    (h : Alone act (c.shared, c.locals t) y) :
    ∃ tr, (∀ e ∈ tr, e.1 = t) ∧ Run act c tr ⟨y.1, Function.update c.locals t y.2⟩ := by
  induction h with
  | refl =>
      refine ⟨[], fun _ he => absurd he List.not_mem_nil, ?_⟩
      rw [Function.update_eq_self]
      exact .nil
  | @tail y z _ hstep ih =>
      obtain ⟨tr, honly, hrun⟩ := ih
      obtain ⟨e, ha⟩ := hstep
      have hnext := hrun.move t (Function.update_self t y.2 c.locals) ha
      rw [Function.update_idem] at hnext
      refine ⟨_, ?_, hnext⟩
      intro e' he'
      rcases List.mem_append.mp he' with hold | hlast
      · exact honly e' hold
      · rw [List.mem_singleton.mp hlast]

/-! ## Invariants -/

/-- A property of trace and configuration that every atomic action preserves
holds along every run. -/
theorem Run.invariant (inv : Trace Tid Event → Config Tid Shared Local → Prop)
    (hstart : inv [] start)
    (hact : ∀ tr c t e s l, inv tr c → act c.shared (c.locals t) e s l →
      inv (tr ++ [(t, e)]) ⟨s, Function.update c.locals t l⟩)
    {tr : Trace Tid Event} {c : Config Tid Shared Local} (h : Run act start tr c) :
    inv tr c := by
  induction h with
  | nil => exact hstart
  | snoc _ hstep ih =>
      cases hstep with
      | move ha => exact hact _ _ _ _ _ _ ih ha

theorem Run.shared_invariant (inv : Shared → Prop) (hstart : inv start.shared)
    (hact : ∀ s l e s' l', inv s → act s l e s' l' → inv s')
    {tr : Trace Tid Event} {c : Config Tid Shared Local} (h : Run act start tr c) :
    inv c.shared :=
  h.invariant (fun _ c => inv c.shared) hstart
    fun _ _ _ _ _ _ hinv ha => hact _ _ _ _ _ hinv ha

/-- What every run shows at each of its events: a property of the trace before
the event and of the event, given an invariant from which every action derives it. -/
theorem Run.at_event (inv : Trace Tid Event → Config Tid Shared Local → Prop)
    (post : Trace Tid Event → Tid → Event → Prop)
    (hinv : ∀ {tr c}, Run act start tr c → inv tr c)
    (hpost : ∀ tr c t e s l, inv tr c → act c.shared (c.locals t) e s l → post tr t e)
    {tr : Trace Tid Event} {c : Config Tid Shared Local} (h : Run act start tr c) :
    ∀ before t e after, tr = before ++ (t, e) :: after → post before t e := by
  rintro before t e after rfl
  obtain ⟨c, s, l, hbefore, ha, -⟩ := h.split_event
  exact hpost before c t e s l (hinv hbefore) ha

omit [DecidableEq Tid] in
/-- A property of every event of a trace and of the trace before it, by positions. -/
theorem forall_event_iff {P : Trace Tid Event → Tid → Event → Prop} (tr : Trace Tid Event) :
    (∀ before t e after, tr = before ++ (t, e) :: after → P before t e) ↔
      ∀ i : Fin tr.length, P (tr.take i) (tr.get i).1 (tr.get i).2 := by
  constructor
  · intro h i
    apply h (tr.take i) (tr.get i).1 (tr.get i).2 (tr.drop (i + 1))
    rw [List.get_eq_getElem, Prod.mk.eta, List.getElem_cons_drop, List.take_append_drop]
  · intro h before t e after heq
    subst heq
    simpa using h ⟨before.length, by simp⟩

/-! ## Replaying a trace -/

/-- Replays a trace with a function that performs one atomic action, if it is possible. -/
def replay (perform : Shared → Local → Event → Option (Shared × Local)) :
    Config Tid Shared Local → Trace Tid Event → Option (Config Tid Shared Local)
  | c, [] => some c
  | c, (t, e) :: rest =>
      match perform c.shared (c.locals t) e with
      | none => none
      | some (s, l) => replay perform ⟨s, Function.update c.locals t l⟩ rest

theorem run_of_replay {perform : Shared → Local → Event → Option (Shared × Local)}
    (hperform : ∀ s l e s' l', perform s l e = some (s', l') → act s l e s' l')
    {tr : Trace Tid Event} {c : Config Tid Shared Local}
    (h : replay perform start tr = some c) : Run act start tr c := by
  induction tr generalizing start with
  | nil =>
      obtain rfl : start = c := by simpa [replay] using h
      exact .nil
  | cons e rest ih =>
      obtain ⟨t, e⟩ := e
      rw [replay] at h
      cases hstep : perform start.shared (start.locals t) e with
      | none => simp [hstep] at h
      | some next =>
          rw [hstep] at h
          have hfirst : Run act start ([] ++ [(t, e)])
              ⟨next.1, Function.update start.locals t next.2⟩ :=
            Run.nil.move t rfl (hperform _ _ _ _ _ hstep)
          exact hfirst.append (ih h)

/-- If an event leaves only one possibility to the acting thread, the trace determines
the configuration. -/
theorem Run.unique {tr : Trace Tid Event} {c c' : Config Tid Shared Local}
    (h : Run act start tr c) (h' : Run act start tr c')
    (hact : ∀ s l e s₁ l₁ s₂ l₂, act s l e s₁ l₁ → act s l e s₂ l₂ → s₁ = s₂ ∧ l₁ = l₂) :
    c = c' := by
  induction h generalizing c' with
  | nil =>
      generalize htr : [] = tr at h'
      cases h' with
      | nil => rfl
      | snoc => simp at htr
  | snoc _ hstep ih =>
      obtain ⟨c₁, hrun', hstep'⟩ := h'.last_step
      obtain rfl := ih hrun'
      cases hstep with
      | move ha =>
          cases hstep' with
          | move ha' =>
              obtain ⟨rfl, rfl⟩ := hact _ _ _ _ _ _ _ ha ha'
              rfl

/-! ## What a thread has seen -/

/-- Folds the events of thread `t` alone, from `init`. -/
def view {α : Type*} (note : α → Event → α) (init : α) (t : Tid) (tr : Trace Tid Event) : α :=
  tr.foldl (fun a e => if e.1 = t then note a e.2 else a) init

@[simp] theorem view_nil {α : Type*} (note : α → Event → α) (init : α) (t : Tid) :
    view note init t ([] : Trace Tid Event) = init := rfl

theorem view_snoc {α : Type*} (note : α → Event → α) (init : α) (t u : Tid)
    (tr : Trace Tid Event) (e : Event) :
    view note init t (tr ++ [(u, e)]) =
      if u = t then note (view note init t tr) e else view note init t tr := by
  simp [view]

/-- A relation between what a thread has seen and where it stands, kept by its own
actions, holds for every thread along every run. -/
theorem Run.local_invariant {α : Type*} (note : α → Event → α) (init : α)
    (rel : α → Local → Prop) (hstart : ∀ t, rel init (start.locals t))
    (hact : ∀ a s l e s' l', rel a l → act s l e s' l' → rel (note a e) l')
    {tr : Trace Tid Event} {c : Config Tid Shared Local} (h : Run act start tr c) (t : Tid) :
    rel (view note init t tr) (c.locals t) := by
  refine h.invariant (fun tr c => ∀ t, rel (view note init t tr) (c.locals t)) hstart ?_ t
  intro tr c u e s l hrel ha t
  show rel _ (Function.update c.locals u l t)
  rw [view_snoc]
  by_cases hu : u = t
  · subst hu
    rw [if_pos rfl, Function.update_self]
    exact hact _ _ _ _ _ _ (hrel u) ha
  · rw [if_neg hu, Function.update_of_ne (Ne.symm hu)]
    exact hrel t

/-! ## Sums over the threads and over the trace -/

section Totals

variable {M : Type*} [AddCommMonoid M]

/-- What all events of a trace contribute. -/
def total (weight : Event → M) (tr : Trace Tid Event) : M :=
  (tr.map fun e => weight e.2).sum

omit [DecidableEq Tid] in
@[simp] theorem total_nil (weight : Event → M) : total weight ([] : Trace Tid Event) = 0 := rfl

omit [DecidableEq Tid] in
@[simp] theorem total_append (weight : Event → M) (tr tr' : Trace Tid Event) :
    total weight (tr ++ tr') = total weight tr + total weight tr' := by
  simp [total]

omit [DecidableEq Tid] in
@[simp] theorem total_singleton (weight : Event → M) (e : Tid × Event) :
    total weight [e] = weight e.2 := by
  simp [total]

omit [DecidableEq Tid] in
theorem total_add (weight weight' : Event → M) (tr : Trace Tid Event) :
    total (fun e => weight e + weight' e) tr = total weight tr + total weight' tr := by
  simp [total, List.sum_map_add]

/-- The items that the events of a trace contribute, in order. -/
def collect {α : Type*} (items : Event → List α) (tr : Trace Tid Event) : List α :=
  tr.flatMap fun e => items e.2

omit [DecidableEq Tid] in
@[simp] theorem collect_nil {α : Type*} (items : Event → List α) :
    collect items ([] : Trace Tid Event) = [] := rfl

omit [DecidableEq Tid] in
@[simp] theorem collect_append {α : Type*} (items : Event → List α) (tr tr' : Trace Tid Event) :
    collect items (tr ++ tr') = collect items tr ++ collect items tr' := by
  simp [collect]

omit [DecidableEq Tid] in
@[simp] theorem collect_singleton {α : Type*} (items : Event → List α) (e : Tid × Event) :
    collect items [e] = items e.2 := by
  simp [collect]

omit [DecidableEq Tid] in
theorem length_collect {α : Type*} (items : Event → List α) (tr : Trace Tid Event) :
    (collect items tr).length = total (fun e => (items e).length) tr := by
  simp [collect, total, List.length_flatMap]

omit [DecidableEq Tid] in
/-- Read without their order, the items of a trace are a total. -/
theorem coe_collect {α : Type*} (items : Event → List α) (tr : Trace Tid Event) :
    (collect items tr : Multiset α) = total (fun e => (items e : Multiset α)) tr := by
  induction tr with
  | nil => rfl
  | cons e tr ih =>
      simp only [collect, total, List.flatMap_cons, List.map_cons, List.sum_cons] at ih ⊢
      rw [← Multiset.coe_add, ih]

omit [DecidableEq Tid] in
theorem coe_collect_append {α : Type*} (items more : Event → List α) (tr : Trace Tid Event) :
    ((collect items tr ++ collect more tr : List α) : Multiset α) =
      total (fun e => ((items e ++ more e : List α) : Multiset α)) tr := by
  simp only [← Multiset.coe_add, coe_collect, total_add]

variable [Fintype Tid]

/-- When thread `t` moves, its share of a sum over all threads becomes that of its
new local state, and the others keep theirs. -/
theorem sum_update (f : Local → M) (locals : Tid → Local) (t : Tid) (l : Local) :
    ∑ i, f (Function.update locals t l i) =
      f l + ∑ i ∈ Finset.univ.erase t, f (locals i) := by
  rw [← Finset.add_sum_erase _ _ (Finset.mem_univ t), Function.update_self]
  congr 1
  refine Finset.sum_congr rfl fun i hi => ?_
  rw [Function.update_of_ne (Finset.ne_of_mem_erase hi)]

/-- **Conservation.**  If every atomic action keeps the balance between what the
acting thread and the shared data hold, what has gone out and what has come in,
then the system keeps the balance summed over all threads. -/
theorem Run.conservation (shares : Shared → M) (holds : Local → M) (out inn : Event → M)
    (hact : ∀ s l e s' l', act s l e s' l' →
      shares s' + holds l' + out e = shares s + holds l + inn e)
    {tr : Trace Tid Event} {c : Config Tid Shared Local} (h : Run act start tr c) :
    shares c.shared + ∑ t, holds (c.locals t) + total out tr =
      shares start.shared + ∑ t, holds (start.locals t) + total inn tr := by
  induction h with
  | nil => simp
  | @snoc tr c c' e _ hstep ih =>
      cases hstep with
      | @move t e s l ha =>
          rw [← Finset.add_sum_erase _ _ (Finset.mem_univ t)] at ih
          rw [sum_update, total_append, total_append, total_singleton, total_singleton]
          set rest := ∑ i ∈ Finset.univ.erase t, holds (c.locals i)
          calc shares s + (holds l + rest) + (total out tr + out e)
              = (shares s + holds l + out e) + (rest + total out tr) := by abel
            _ = (shares c.shared + (holds (c.locals t) + rest) + total out tr) + inn e := by
                rw [hact _ _ _ _ _ ha]; abel
            _ = shares start.shared + ∑ i, holds (start.locals i) + (total inn tr + inn e) := by
                rw [ih]; abel

end Totals

end Interleaving
