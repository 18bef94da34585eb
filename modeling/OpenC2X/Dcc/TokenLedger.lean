import OpenC2X.Dcc.PacketLedger

/-!
# The tokens of one access category

A token is taken by `dequeue` and leaves with the frame that is sent, or comes back
by the `increment` after an expired packet, under another lock.  In between it is in
the hand of the draining thread, so

  tokens in the bucket + packets in hand + frames sent + lost refunds = tokens added

in every state: `act_token_balance` for one atomic action, `token_balance` for every
run.  From it follow the bounds on the frames sent (`congestionBound`).

`noStuckPacket` is about progress.  A thread leaves `sendQueuedPackets` only when it
finds no packet or no token, and everything that could change that verdict is done by
a thread that calls `sendQueuedPackets` afterwards.
-/

namespace OpenC2X.Dcc

open Interleaving

variable {Tid : Type*} [DecidableEq Tid] {ac : AccessCategory} {bucketSize queueSize : ℕ}

/-! ## Conservation of tokens -/

/-- A refund that found the bucket full: the token is gone. -/
def Event.lost : Event → ℕ
  | .refund _ added => (!added).toNat
  | _ => 0

theorem act_token_balance {s s' : Shared} {l l' : Local} {e : Event} (h : Act ac s l e s' l') :
    s'.bucket.availableTokens + l'.hand.length + (e.sent.length + e.lost) =
      s.bucket.availableTokens + l.hand.length + e.added := by
  cases h with
  | receiveFlush hflush | tokenFlush hflush =>
      simp [Local.hand, Event.sent, Event.lost, Event.added,
        (LeakyBucket.flushQueue_spec hflush).2.2.1]
  | enqueue henq =>
      have htokens := (LeakyBucket.enqueue_spec henq).2.1
      split <;> simp [Local.hand, Event.sent, Event.lost, Event.added, htokens]
  | addToken hinc =>
      simp [Local.hand, Event.sent, Event.lost, Event.added, (LeakyBucket.increment_spec hinc).2.1]
  | @refund _ _ _ added hinc =>
      have htokens := (LeakyBucket.increment_spec hinc).2.1
      cases added <;> simp [Local.hand, Event.sent, Event.lost, Event.added, htokens]
  | dequeue hdeq =>
      simp [Local.hand, Event.sent, Event.lost, Event.added, (LeakyBucket.dequeue_some hdeq).2.1]
  | drained hdeq =>
      obtain ⟨rfl, -⟩ := LeakyBucket.dequeue_none hdeq
      simp [Local.hand, Event.sent, Event.lost, Event.added]
  | _ => simp [Local.hand, Event.sent, Event.lost, Event.added]

/-- The tokens that the bucket and the draining threads hold. -/
def heldTokens [Fintype Tid] (c : Config Tid Shared Local) : ℕ :=
  c.shared.bucket.availableTokens + ∑ t, (c.locals t).hand.length

/-- The conservation law, between any two moments of a run. -/
theorem token_balance [Fintype Tid] {tr : Trace Tid Event} {c c' : Config Tid Shared Local}
    (h : Run (Act ac) c tr c') :
    heldTokens c' + (collect Event.sent tr).length + total Event.lost tr =
      heldTokens c + total Event.added tr := by
  have hbalance := h.conservation (fun s => s.bucket.availableTokens) (fun l => l.hand.length)
    (fun e => e.sent.length + e.lost) Event.added fun _ _ _ _ _ ha => act_token_balance ha
  rw [total_add, ← length_collect] at hbalance
  unfold heldTokens
  omega

theorem hand_eq_nil {l : Local} (h : ¬l.inSendQueuedPackets) : l.hand = [] := by
  cases l <;> simp_all [Local.inSendQueuedPackets, Local.hand]

theorem heldTokens_le [Fintype Tid] {tr : Trace Tid Event} {c : Config Tid Shared Local}
    (h : Run (Act ac) (start Tid bucketSize queueSize) tr c)
    (hquiet : ∀ t, (c.locals t).hand = []) : heldTokens c ≤ bucketSize := by
  have hhands : ∑ t, (c.locals t).hand.length = 0 :=
    Finset.sum_eq_zero fun t _ => by rw [hquiet t, List.length_nil]
  calc
    heldTokens c = c.shared.bucket.availableTokens := by rw [heldTokens, hhands, add_zero]
    _ ≤ c.shared.bucket.maxBucketSize := c.shared.bucket.tokens_le
    _ = bucketSize := (queueInvariant h).limits.1

/-- **Congestion bound.**  Over a whole run no more frames are sent than tokens were
added; and from any moment at which no thread has a packet in hand, in particular when no
thread is inside `sendQueuedPackets` (`hand_eq_nil`), no more than one full bucket and the
tokens added since then. -/
theorem congestionBound [Fintype Tid] {before after : Trace Tid Event}
    {c c' : Config Tid Shared Local}
    (h : Run (Act ac) (start Tid bucketSize queueSize) before c)
    (h' : Run (Act ac) c after c') :
    (collect Event.sent before).length ≤ total Event.added before ∧
      ((∀ t, (c.locals t).hand = []) →
        (collect Event.sent after).length ≤ bucketSize + total Event.added after) := by
  constructor
  · -- the bucket starts empty
    have hstart : heldTokens (start Tid bucketSize queueSize) = 0 := by
      simp [heldTokens, start, Local.hand]
    have hbalance := token_balance h
    omega
  · intro hquiet
    have hbalance := token_balance h'
    calc
      (collect Event.sent after).length ≤ heldTokens c + total Event.added after := by omega
      _ ≤ bucketSize + total Event.added after :=
        Nat.add_le_add_right (heldTokens_le h hquiet) _

theorem congestionBound_sampleTrace :
    (collect Event.sent (sampleTrace.take 8)).length ≤ total Event.added (sampleTrace.take 8) ∧
      (collect Event.sent (sampleTrace.drop 8)).length ≤
        1 + total Event.added (sampleTrace.drop 8) := by
  obtain ⟨c, hbefore, hquiet, c', hafter⟩ := sampleTrace_split
  have hbound := congestionBound hbefore hafter
  exact ⟨hbound.1, hbound.2 fun t => hand_eq_nil (hquiet t)⟩

/-! ## Progress -/

/-- Nothing can be sent now: there is no packet or no token. -/
def Blocked (s : Shared) : Prop := s.bucket.queue = [] ∨ s.bucket.availableTokens = 0

/-- An action of a thread that is outside `sendQueuedPackets` before and after it keeps
a blocked bucket blocked. -/
theorem act_blocked {s s' : Shared} {l l' : Local} {e : Event} (hblocked : Blocked s)
    (h : Act ac s l e s' l') (hl' : ¬l'.inSendQueuedPackets) : Blocked s' := by
  cases h with
  | receiveFlush hflush | tokenFlush hflush =>
      obtain ⟨hqueue, -, htokens, -⟩ := LeakyBucket.flushQueue_spec hflush
      rcases hblocked with hnil | hzero
      · exact Or.inl (by rw [hqueue, hnil, List.filter_nil])
      · exact Or.inr (htokens.trans hzero)
  | @enqueue _ _ _ enqueued henq =>
      cases enqueued with
      | true => exact absurd trivial hl'
      | false =>
          obtain ⟨hqueue, htokens, -⟩ := LeakyBucket.enqueue_spec henq
          exact hblocked.imp hqueue.trans htokens.trans
  | addToken | refund | dequeue => exact absurd trivial hl'
  | drained hdeq =>
      obtain ⟨rfl, hnone⟩ := LeakyBucket.dequeue_none hdeq
      exact hnone
  | _ => exact hblocked

/-- The last dequeue of a drain loop finds the bucket blocked. -/
theorem act_leaves_blocked {s s' : Shared} {l l' : Local} {e : Event}
    (h : Act ac s l e s' l') (hl : l.inSendQueuedPackets) (hl' : ¬l'.inSendQueuedPackets) :
    Blocked s' := by
  cases h with
  | drained hdeq =>
      obtain ⟨rfl, hnone⟩ := LeakyBucket.dequeue_none hdeq
      exact hnone
  | dequeue | drainClock | valid | outdated | send | refund => exact absurd trivial hl'
  | _ => exact absurd hl id

/-- In every reachable state the bucket is blocked or some thread will still look at it. -/
theorem blocked_or_draining {tr : Trace Tid Event} {c : Config Tid Shared Local}
    (h : Run (Act ac) (start Tid bucketSize queueSize) tr c) :
    Blocked c.shared ∨ ∃ t, (c.locals t).inSendQueuedPackets := by
  refine h.invariant (fun _ c => Blocked c.shared ∨ ∃ t, (c.locals t).inSendQueuedPackets)
    (Or.inl (Or.inl rfl)) ?_
  intro tr c t e s l hinv ha
  by_cases hl : l.inSendQueuedPackets
  · exact Or.inr ⟨t, by simpa using hl⟩
  · rcases hinv with hblocked | ⟨u, hu⟩
    · exact Or.inl (act_blocked hblocked ha hl)
    · by_cases htu : u = t
      · -- the thread that was to look at the bucket again has just done so
        subst htu
        exact Or.inl (act_leaves_blocked ha hu hl)
      · exact Or.inr ⟨u, by simpa [Function.update_of_ne htu] using hu⟩

/-- **No stuck packet.**  Whenever no thread is inside `sendQueuedPackets` or about to
enter it, the queue is empty or there is no token. -/
theorem noStuckPacket {tr : Trace Tid Event} {c : Config Tid Shared Local}
    (h : Run (Act ac) (start Tid bucketSize queueSize) tr c)
    (hquiet : ∀ t, ¬(c.locals t).inSendQueuedPackets) :
    c.shared.bucket.queue = [] ∨ c.shared.bucket.availableTokens = 0 := by
  rcases blocked_or_draining h with hblocked | ⟨t, ht⟩
  · exact hblocked
  · exact absurd ht (hquiet t)

theorem noStuckPacket_sampleTrace :
    ∃ c, Run (Act .AC_BE) (start (Fin 2) 1 2) (sampleTrace.take 8) c ∧
      (c.shared.bucket.queue = [] ∨ c.shared.bucket.availableTokens = 0) := by
  obtain ⟨c, hbefore, hquiet, -⟩ := sampleTrace_split
  exact ⟨c, hbefore, noStuckPacket hbefore hquiet⟩

end OpenC2X.Dcc
