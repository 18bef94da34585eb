import OpenC2X.Dcc.Threads

/-!
# Replaying a trace of DCC

Every event of a thread leaves it one possibility to go on, so the atomic actions are
also a partial function `perform`.  It makes traces executable and shows that a trace
determines the configuration it ends in.
-/

namespace OpenC2X.Dcc

open Interleaving

/-- The atomic action that shows the event `e`, if the thread can perform one. -/
def perform (ac : AccessCategory) (s : Shared) : Local → Event → Option (Shared × Local)
  | .idle, .receive p =>
      if p.object = s.created ∧ p.data.priority = ac then
        some ({ s with created := s.created + 1 }, .received p)
      else
        none
  | .idle, .timer => some (s, .token)
  | .received p, .clock nowTime => some (s, .receiveFlush p nowTime)
  | .receiveFlush p nowTime, .flush now deleted =>
      let (b, removed) := s.bucket.flushQueue nowTime false
      if now = nowTime ∧ deleted = removed.map Prod.snd then
        some ({ s with bucket := b }, .receiveEnqueue p)
      else
        none
  | .receiveEnqueue p, .enqueue q enqueued =>
      let (b, ok) := s.bucket.enqueue p p.validuntil
      if q = p ∧ enqueued = ok then
        some ({ s with bucket := b }, if ok then .drain else .idle)
      else
        none
  | .token, .clock nowTime => some (s, .tokenFlush nowTime)
  | .tokenFlush nowTime, .flush now deleted =>
      let (b, removed) := s.bucket.flushQueue nowTime false
      if now = nowTime ∧ deleted = removed.map Prod.snd then
        some ({ s with bucket := b }, .tokenIncrement)
      else
        none
  | .tokenIncrement, .addToken added =>
      let (b, ok) := s.bucket.increment
      if added = ok then some ({ s with bucket := b }, .drain) else none
  | .drain, .dequeue q =>
      let (b, p) := s.bucket.dequeue
      if q = p then
        some ({ s with bucket := b }, match p with | some p => .dequeued p | none => .idle)
      else
        none
  | .dequeued p, .clock nowTime => some (s, .checking p nowTime)
  | .checking p nowTime, .check q valid =>
      if q = p ∧ valid = decide (nowTime ≤ p.validuntil) then
        some (s, if nowTime ≤ p.validuntil then .sending p else .expired p)
      else
        none
  | .sending p, .send q => if q = p then some (s, .drain) else none
  | .expired p, .refund q added =>
      let (b, ok) := s.bucket.increment
      if q = p ∧ added = ok then some ({ s with bucket := b }, .drain) else none
  | _, _ => none

theorem perform_of_act {ac : AccessCategory} {s s' : Shared} {l l' : Local} {e : Event}
    (h : Act ac s l e s' l') : perform ac s l e = some (s', l') := by
  cases h with
  | receive data hac => simp [perform, hac]
  | receiveFlush h | tokenFlush h | enqueue h | addToken h | dequeue h | drained h | refund h =>
      simp [perform, h]
  | valid h | outdated h => simp [perform, h]
  | _ => simp [perform]

theorem act_of_perform {ac : AccessCategory} {s s' : Shared} {l l' : Local} {e : Event}
    (h : perform ac s l e = some (s', l')) : Act ac s l e s' l' := by
  unfold perform at h
  split at h <;>
    simp only [Option.ite_none_right_eq_some, Option.some.injEq, Prod.mk.injEq, reduceCtorEq] at h
  · obtain ⟨⟨hobject, hac⟩, rfl, rfl⟩ := h
    rename_i p
    obtain ⟨object, data⟩ := p
    obtain rfl : object = s.created := hobject
    exact .receive data hac
  · obtain ⟨rfl, rfl⟩ := h
    exact .timer
  · obtain ⟨rfl, rfl⟩ := h
    exact .receiveClock _
  · obtain ⟨⟨rfl, rfl⟩, rfl, rfl⟩ := h
    exact .receiveFlush rfl
  · obtain ⟨⟨rfl, rfl⟩, rfl, rfl⟩ := h
    exact .enqueue rfl
  · obtain ⟨rfl, rfl⟩ := h
    exact .tokenClock _
  · obtain ⟨⟨rfl, rfl⟩, rfl, rfl⟩ := h
    exact .tokenFlush rfl
  · obtain ⟨rfl, rfl, rfl⟩ := h
    exact .addToken rfl
  · obtain ⟨rfl, rfl, rfl⟩ := h
    rcases hdequeue : s.bucket.dequeue with ⟨b, _ | p⟩
    · exact .drained hdequeue
    · exact .dequeue hdequeue
  · obtain ⟨rfl, rfl⟩ := h
    exact .drainClock _
  · obtain ⟨⟨rfl, rfl⟩, rfl, rfl⟩ := h
    split
    · rename_i hvalid
      rw [decide_eq_true hvalid]
      exact .valid hvalid
    · rename_i hvalid
      rw [decide_eq_false hvalid]
      exact .outdated hvalid
  · obtain ⟨rfl, rfl, rfl⟩ := h
    exact .send
  · obtain ⟨⟨rfl, rfl⟩, rfl, rfl⟩ := h
    exact .refund rfl

theorem act_iff_perform {ac : AccessCategory} {s s' : Shared} {l l' : Local} {e : Event} :
    Act ac s l e s' l' ↔ perform ac s l e = some (s', l') :=
  ⟨perform_of_act, act_of_perform⟩

/-- An event leaves its thread one possibility to go on. -/
theorem Act.unique {ac : AccessCategory} {s s₁ s₂ : Shared} {l l₁ l₂ : Local} {e : Event}
    (h₁ : Act ac s l e s₁ l₁) (h₂ : Act ac s l e s₂ l₂) : s₁ = s₂ ∧ l₁ = l₂ := by
  have heq : some (s₁, l₁) = some (s₂, l₂) :=
    (perform_of_act h₁).symm.trans (perform_of_act h₂)
  exact Prod.mk.inj (Option.some.inj heq)

/-- A trace that can be replayed from the start is the trace of a run. -/
theorem exists_run_of_replay {Tid : Type*} [DecidableEq Tid] (ac : AccessCategory)
    (bucketSize queueSize : ℕ) {tr : Trace Tid Event}
    (h : (replay (perform ac) (start Tid bucketSize queueSize) tr).isSome) :
    ∃ c, Run (Act ac) (start Tid bucketSize queueSize) tr c := by
  obtain ⟨c, hc⟩ := Option.isSome_iff_exists.mp h
  exact ⟨c, run_of_replay (fun _ _ _ _ _ => act_of_perform) hc⟩

end OpenC2X.Dcc
