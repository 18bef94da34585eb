import Mathlib.Data.List.Basic
import Mathlib.Data.Nat.Basic
import Mathlib.Order.Basic
import Mathlib.Data.Int.Notation
import Mathlib.Tactic.Common

/-!
# The leaky bucket

`LeakyBucket` holds the send permits (tokens) of one access category and the queue
of packets that wait for a permit.  Each method takes the mutexes it needs for its
whole body, so each is one atomic action of the calling thread and is modelled as
one function from bucket to bucket and result.
-/

namespace OpenC2X.Dcc

/-- A bucket of at most `maxBucketSize` tokens and a queue of at most `queueSize`
packets, each with the time until which it is valid.  The two limits are part of the
type: `increment` and `enqueue` are the only methods that could exceed them. -/
structure LeakyBucket (T : Type*) where
  maxBucketSize : ℕ
  availableTokens : ℕ
  queue : List (ℤ × T)
  queueSize : ℕ
  tokens_le : availableTokens ≤ maxBucketSize
  queue_le : queue.length ≤ queueSize

namespace LeakyBucket

variable {T : Type*}

/-- The constructor: no tokens, nothing queued. -/
def new (bucketSize queueSize : ℕ) : LeakyBucket T where
  maxBucketSize := bucketSize
  availableTokens := 0
  queue := []
  queueSize := queueSize
  tokens_le := Nat.zero_le _
  queue_le := Nat.zero_le _

/-- Adds a token to the bucket if not full. -/
def increment (b : LeakyBucket T) : LeakyBucket T × Bool :=
  if h : b.availableTokens < b.maxBucketSize then
    ({ b with availableTokens := b.availableTokens + 1, tokens_le := h }, true)
  else
    (b, false)

/-- Adds a packet to the queue if not full. -/
def enqueue (b : LeakyBucket T) (p : T) (validUntil : ℤ) : LeakyBucket T × Bool :=
  if h : b.queue.length < b.queueSize then
    ({ b with
        queue := b.queue ++ [(validUntil, p)]
        queue_le := by rw [List.length_append]; exact h }, true)
  else
    (b, false)

/-- Removes a token from the bucket if there is any. -/
def decrement (b : LeakyBucket T) : LeakyBucket T × Bool :=
  if 0 < b.availableTokens then
    ({ b with
        availableTokens := b.availableTokens - 1
        tokens_le := (Nat.sub_le _ _).trans b.tokens_le }, true)
  else
    (b, false)

/-- `queue.pop_front()`. -/
def popFront (b : LeakyBucket T) : LeakyBucket T :=
  { b with
    queue := b.queue.tail
    queue_le := b.queue.length_tail ▸ (Nat.sub_le _ _).trans b.queue_le }

/-- Removes and returns the first packet if there is any and there is a token for it. -/
def dequeue (b : LeakyBucket T) : LeakyBucket T × Option T :=
  match b.queue with
  | [] => (b, none)
  | (_, p) :: _ =>
      match b.decrement with
      | (b', true) => (b'.popFront, some p)
      | (b', false) => (b', none)

/-- The test of `flushQueue`: the packet is not valid at time `t` any more. -/
def expires (t : ℤ) (eraseAll : Bool) (entry : ℤ × T) : Bool :=
  decide (entry.1 < t) || eraseAll

/-- Removes all packets that expire before `t`, or all if `eraseAll` is set.  The
second component lists what was deleted. -/
def flushQueue (b : LeakyBucket T) (t : ℤ) (eraseAll : Bool) : LeakyBucket T × List (ℤ × T) :=
  ({ b with
      queue := b.queue.filter fun entry => !expires t eraseAll entry
      queue_le := (List.length_filter_le _ _).trans b.queue_le },
    b.queue.filter (expires t eraseAll))

/-- The queued packets, the oldest first. -/
def packets (b : LeakyBucket T) : List T := b.queue.map Prod.snd

/-! ## What each method does -/

@[simp] theorem new_availableTokens (bucketSize queueSize : ℕ) :
    (new bucketSize queueSize : LeakyBucket T).availableTokens = 0 := rfl

@[simp] theorem new_queue (bucketSize queueSize : ℕ) :
    (new bucketSize queueSize : LeakyBucket T).queue = [] := rfl

/-- Two buckets with the same limits: what every method leaves unchanged. -/
def SameLimits (b b' : LeakyBucket T) : Prop :=
  b'.maxBucketSize = b.maxBucketSize ∧ b'.queueSize = b.queueSize

theorem increment_spec {b b' : LeakyBucket T} {ok : Bool} (h : b.increment = (b', ok)) :
    b'.queue = b.queue ∧ b'.availableTokens = b.availableTokens + ok.toNat ∧
      (ok = false → b.availableTokens = b.maxBucketSize) ∧ SameLimits b b' := by
  unfold increment at h
  split at h
  · obtain ⟨rfl, rfl⟩ := Prod.mk.inj h
    exact ⟨rfl, rfl, by simp, rfl, rfl⟩
  · rename_i hfull
    obtain ⟨rfl, rfl⟩ := Prod.mk.inj h
    exact ⟨rfl, rfl, fun _ => le_antisymm b.tokens_le (not_lt.mp hfull), rfl, rfl⟩

theorem enqueue_spec {b b' : LeakyBucket T} {p : T} {validUntil : ℤ} {ok : Bool}
    (h : b.enqueue p validUntil = (b', ok)) :
    b'.queue = (if ok then b.queue ++ [(validUntil, p)] else b.queue) ∧
      b'.availableTokens = b.availableTokens ∧ SameLimits b b' := by
  unfold enqueue at h
  split at h
  · obtain ⟨rfl, rfl⟩ := Prod.mk.inj h
    exact ⟨rfl, rfl, rfl, rfl⟩
  · obtain ⟨rfl, rfl⟩ := Prod.mk.inj h
    exact ⟨rfl, rfl, rfl, rfl⟩

/-- `dequeue` returns a packet only together with a token: the head of the queue is
removed and one token is taken. -/
theorem dequeue_some {b b' : LeakyBucket T} {p : T} (h : b.dequeue = (b', some p)) :
    (∃ validUntil, b.queue = (validUntil, p) :: b'.queue) ∧
      b.availableTokens = b'.availableTokens + 1 ∧ SameLimits b b' := by
  unfold dequeue decrement at h
  split at h
  · simp at h
  · rename_i validUntil q rest hqueue
    by_cases htokens : 0 < b.availableTokens
    · rw [if_pos htokens] at h
      obtain ⟨rfl, hp⟩ := Prod.mk.inj h
      cases hp
      refine ⟨⟨validUntil, by simp [popFront, hqueue]⟩, ?_, rfl, rfl⟩
      simp only [popFront]
      omega
    · rw [if_neg htokens] at h
      simp at h

theorem dequeue_none {b b' : LeakyBucket T} (h : b.dequeue = (b', none)) :
    b' = b ∧ (b.queue = [] ∨ b.availableTokens = 0) := by
  unfold dequeue decrement at h
  split at h
  · rename_i hqueue
    exact ⟨(Prod.mk.inj h).1.symm, Or.inl hqueue⟩
  · by_cases htokens : 0 < b.availableTokens
    · rw [if_pos htokens] at h
      simp at h
    · rw [if_neg htokens] at h
      exact ⟨(Prod.mk.inj h).1.symm, Or.inr (by omega)⟩

theorem flushQueue_spec {b b' : LeakyBucket T} {now : ℤ} {removed : List (ℤ × T)}
    (h : b.flushQueue now false = (b', removed)) :
    b'.queue = (b.queue.filter fun entry => !decide (entry.1 < now)) ∧
      removed = (b.queue.filter fun entry => decide (entry.1 < now)) ∧
      b'.availableTokens = b.availableTokens ∧ SameLimits b b' := by
  unfold flushQueue expires at h
  obtain ⟨rfl, rfl⟩ := Prod.mk.inj h
  exact ⟨by simp, by simp, rfl, rfl, rfl⟩

/-! ## The queued packets -/

@[simp] theorem packets_new (bucketSize queueSize : ℕ) :
    (new bucketSize queueSize : LeakyBucket T).packets = [] := rfl

theorem packets_increment {b b' : LeakyBucket T} {ok : Bool} (h : b.increment = (b', ok)) :
    b'.packets = b.packets := by
  rw [packets, (increment_spec h).1, packets]

theorem packets_enqueue {b b' : LeakyBucket T} {p : T} {validUntil : ℤ} {ok : Bool}
    (h : b.enqueue p validUntil = (b', ok)) :
    b'.packets = b.packets ++ if ok then [p] else [] := by
  rw [packets, (enqueue_spec h).1, packets]
  cases ok <;> simp

theorem packets_dequeue {b b' : LeakyBucket T} {p : T} (h : b.dequeue = (b', some p)) :
    b.packets = p :: b'.packets := by
  obtain ⟨⟨validUntil, hqueue⟩, -⟩ := dequeue_some h
  rw [packets, hqueue, List.map_cons, packets]

theorem packets_flushQueue_sublist {b b' : LeakyBucket T} {now : ℤ} {removed : List (ℤ × T)}
    (h : b.flushQueue now false = (b', removed)) : b'.packets.Sublist b.packets := by
  rw [packets, (flushQueue_spec h).1, packets]
  exact List.filter_sublist.map _

theorem packets_flushQueue_perm {b b' : LeakyBucket T} {now : ℤ} {removed : List (ℤ × T)}
    (h : b.flushQueue now false = (b', removed)) :
    (b'.packets ++ removed.map Prod.snd).Perm b.packets := by
  obtain ⟨hkept, hremoved, -⟩ := flushQueue_spec h
  rw [packets, packets, hkept, hremoved, ← List.map_append]
  exact (List.perm_append_comm.trans (List.filter_append_perm _ _)).map _

end LeakyBucket

end OpenC2X.Dcc
