import OpenC2X.Dcc.Threads
import Mathlib.Tactic.Linarith

/-!
# The packet ledger of one access category

Every packet that `enqueue` accepted is in exactly one place, in the middle of any
drain loop and for every interleaving of the threads.

The ledger is two balances that every atomic action keeps for the acting thread, so
that `Run.conservation` keeps them for the system:

* received = not offered yet + accepted + refused;
* accepted = queued + in the hand of a thread + sent + discarded.

The objects are pairwise different because `new` numbers them, and the order of the
queue is an invariant of its own: what was dequeued followed by what is queued is a
subsequence of what was accepted.
-/

namespace OpenC2X.Dcc

open Interleaving

variable {Tid : Type*} [DecidableEq Tid] {ac : AccessCategory} {bucketSize queueSize : ℕ}
  {tr : Trace Tid Event} {c : Config Tid Shared Local}

/-! ## The two balances -/

/-- The new object is with its thread until `enqueue` accepts or refuses it. -/
theorem act_received_balance {s s' : Shared} {l l' : Local} {e : Event}
    (h : Act ac s l e s' l') :
    (0 : Multiset Packet) + l'.pending + (e.accepted ++ e.refused : List Packet) =
      0 + l.pending + e.received := by
  cases h with
  | enqueue henq =>
      rename_i enqueued
      cases enqueued <;> simp [Local.pending, Event.accepted, Event.refused, Event.received]
  | _ => simp [Local.pending, Event.accepted, Event.refused, Event.received]

/-- An accepted packet moves between the queue and the acting thread, and leaves only
by being sent or discarded. -/
theorem act_accepted_balance {s s' : Shared} {l l' : Local} {e : Event}
    (h : Act ac s l e s' l') :
    (s'.bucket.packets : Multiset Packet) + l'.hand + (e.sent ++ e.discarded : List Packet) =
      s.bucket.packets + l.hand + e.accepted := by
  simp only [Multiset.coe_add, Multiset.coe_eq_coe]
  cases h with
  | receiveFlush hflush | tokenFlush hflush =>
      simpa [Local.hand, Event.sent, Event.discarded, Event.accepted] using
        LeakyBucket.packets_flushQueue_perm hflush
  | enqueue henq =>
      rename_i enqueued
      cases enqueued <;>
        simp [Local.hand, Event.sent, Event.discarded, Event.accepted,
          LeakyBucket.packets_enqueue henq]
  | addToken hinc | refund hinc =>
      simp [Local.hand, Event.sent, Event.discarded, Event.accepted,
        LeakyBucket.packets_increment hinc]
  | dequeue hdeq =>
      simp [Local.hand, Event.sent, Event.discarded, Event.accepted,
        LeakyBucket.packets_dequeue hdeq]
  | drained hdeq =>
      obtain ⟨rfl, -⟩ := LeakyBucket.dequeue_none hdeq
      simp [Local.hand, Event.sent, Event.discarded, Event.accepted]
  | _ => simp [Local.hand, Event.sent, Event.discarded, Event.accepted]

/-! ## What a draining thread knows about its packet -/

/-- The packet a thread took out last, and the clock reading it holds since then (in a
flush: since the start of its iteration). -/
structure Memory where
  lastDequeued : Option Packet
  reading : Option ℤ

def Memory.after (m : Memory) : Event → Memory
  | .receive _ | .timer => ⟨none, none⟩
  | .clock nowTime => { m with reading := some nowTime }
  | .dequeue p => ⟨p, none⟩
  | _ => m

def memory (t : Tid) (tr : Trace Tid Event) : Memory :=
  view Memory.after ⟨none, none⟩ t tr

/-- Where a thread stands agrees with what it did: the packet in its hand is the one it
dequeued last, `nowTime` was read after that, and the branch taken is the right one. -/
def Remembers (m : Memory) : Local → Prop
  | .receiveFlush _ nowTime | .tokenFlush nowTime => m.reading = some nowTime
  | .dequeued p => m = ⟨some p, none⟩
  | .checking p nowTime => m = ⟨some p, some nowTime⟩
  | .sending p => ∃ nowTime, m = ⟨some p, some nowTime⟩ ∧ nowTime ≤ p.validuntil
  | .expired p => ∃ nowTime, m = ⟨some p, some nowTime⟩ ∧ p.validuntil < nowTime
  | _ => True

theorem act_remembers {m : Memory} {s s' : Shared} {l l' : Local} {e : Event}
    (hm : Remembers m l) (h : Act ac s l e s' l') : Remembers (m.after e) l' := by
  cases h with
  | receiveClock | tokenClock | dequeue => rfl
  | drainClock =>
      rw [Remembers] at hm
      subst hm
      rfl
  | valid hvalid => exact ⟨_, hm, hvalid⟩
  | outdated hvalid => exact ⟨_, hm, not_le.mp hvalid⟩
  | enqueue =>
      split <;> exact trivial
  | _ => exact trivial

theorem remembers (h : Run (Act ac) (start Tid bucketSize queueSize) tr c) (t : Tid) :
    Remembers (memory t tr) (c.locals t) :=
  h.local_invariant Memory.after ⟨none, none⟩ Remembers (fun _ => by trivial)
    (fun _ _ _ _ _ _ hm ha => act_remembers hm ha) t

/-! ## The queue -/

/-- The entries of the queue carry the validity of their packet, under the limits the
bucket was built with. -/
structure QueueInvariant (bucketSize queueSize : ℕ) (s : Shared) : Prop where
  limits : s.bucket.maxBucketSize = bucketSize ∧ s.bucket.queueSize = queueSize
  entries : ∀ entry ∈ s.bucket.queue, entry.1 = entry.2.validuntil

theorem act_queueInvariant {s s' : Shared} {l l' : Local} {e : Event}
    (hinv : QueueInvariant bucketSize queueSize s) (h : Act ac s l e s' l') :
    QueueInvariant bucketSize queueSize s' := by
  obtain ⟨⟨hmax, hsize⟩, hentries⟩ := hinv
  cases h with
  | receiveFlush hflush | tokenFlush hflush =>
      obtain ⟨hqueue, -, -, hlimits⟩ := LeakyBucket.flushQueue_spec hflush
      refine ⟨⟨hlimits.1.trans hmax, hlimits.2.trans hsize⟩, fun entry hentry => ?_⟩
      rw [hqueue] at hentry
      exact hentries entry (List.mem_of_mem_filter hentry)
  | enqueue henq =>
      obtain ⟨hqueue, -, hlimits⟩ := LeakyBucket.enqueue_spec henq
      refine ⟨⟨hlimits.1.trans hmax, hlimits.2.trans hsize⟩, fun entry hentry => ?_⟩
      rw [hqueue] at hentry
      split at hentry
      · rcases List.mem_append.mp hentry with hold | hnew
        · exact hentries entry hold
        · rw [List.mem_singleton.mp hnew]
      · exact hentries entry hentry
  | addToken hinc | refund hinc =>
      obtain ⟨hqueue, -, -, hlimits⟩ := LeakyBucket.increment_spec hinc
      exact ⟨⟨hlimits.1.trans hmax, hlimits.2.trans hsize⟩, hqueue ▸ hentries⟩
  | dequeue hdeq =>
      obtain ⟨⟨validUntil, hqueue⟩, -, hlimits⟩ := LeakyBucket.dequeue_some hdeq
      refine ⟨⟨hlimits.1.trans hmax, hlimits.2.trans hsize⟩, fun entry hentry => ?_⟩
      exact hentries entry (hqueue ▸ List.mem_cons_of_mem _ hentry)
  | drained hdeq =>
      obtain ⟨rfl, -⟩ := LeakyBucket.dequeue_none hdeq
      exact ⟨⟨hmax, hsize⟩, hentries⟩
  | _ => exact ⟨⟨hmax, hsize⟩, hentries⟩

theorem queueInvariant (h : Run (Act ac) (start Tid bucketSize queueSize) tr c) :
    QueueInvariant bucketSize queueSize c.shared :=
  h.shared_invariant (QueueInvariant bucketSize queueSize) ⟨⟨rfl, rfl⟩, by simp [start]⟩
    fun _ _ _ _ _ hinv ha => act_queueInvariant hinv ha

/-- What was dequeued, then what is queued, in the order of acceptance. -/
theorem dequeued_append_queued_sublist
    (h : Run (Act ac) (start Tid bucketSize queueSize) tr c) :
    (collect Event.dequeued tr ++ c.shared.bucket.packets).Sublist
      (collect Event.accepted tr) := by
  refine h.invariant (fun tr c => (collect Event.dequeued tr ++
    c.shared.bucket.packets).Sublist (collect Event.accepted tr)) (by simp [start]) ?_
  intro tr c t e s l hinv ha
  simp only [collect_append, collect_singleton]
  generalize c.locals t = l₀ at ha
  cases ha with
  | receiveFlush hflush | tokenFlush hflush =>
      simp only [Event.dequeued, Event.accepted, List.append_nil]
      exact ((List.append_sublist_append_left _).mpr
        (LeakyBucket.packets_flushQueue_sublist hflush)).trans hinv
  | enqueue henq =>
      rename_i enqueued
      simp only [LeakyBucket.packets_enqueue henq, Event.dequeued, List.append_nil,
        ← List.append_assoc]
      cases enqueued
      · simpa [Event.accepted] using hinv
      · exact (List.append_sublist_append_right _).mpr hinv
  | addToken hinc | refund hinc =>
      simpa [Event.dequeued, Event.accepted, LeakyBucket.packets_increment hinc] using hinv
  | dequeue hdeq =>
      rw [LeakyBucket.packets_dequeue hdeq] at hinv
      simpa [Event.dequeued, Event.accepted] using hinv
  | drained hdeq =>
      obtain ⟨rfl, -⟩ := LeakyBucket.dequeue_none hdeq
      simpa [Event.dequeued, Event.accepted] using hinv
  | _ => simpa [Event.dequeued, Event.accepted] using hinv

/-! ## What was judged expired or valid -/

/-- The event is the right one for what its thread remembers. -/
def Justified (m : Memory) : Event → Prop
  | .flush nowTime deleted => m.reading = some nowTime ∧ ∀ p ∈ deleted, p.validuntil < nowTime
  | .refund p _ => ∃ nowTime, m = ⟨some p, some nowTime⟩ ∧ p.validuntil < nowTime
  | .send p => ∃ nowTime, m = ⟨some p, some nowTime⟩ ∧ nowTime ≤ p.validuntil
  | _ => True

theorem QueueInvariant.deleted_expired {s : Shared} (h : QueueInvariant bucketSize queueSize s)
    {nowTime : ℤ} {b : LeakyBucket Packet} {deleted : List (ℤ × Packet)}
    (hflush : s.bucket.flushQueue nowTime false = (b, deleted)) :
    ∀ p ∈ deleted.map Prod.snd, p.validuntil < nowTime := by
  intro p hp
  obtain ⟨entry, hentry, rfl⟩ := List.mem_map.mp hp
  rw [(LeakyBucket.flushQueue_spec hflush).2.1, List.mem_filter, decide_eq_true_eq] at hentry
  -- `flushQueue` looked at the time in the entry, which is the packet's
  rw [← h.entries entry hentry.1]
  exact hentry.2

theorem act_justified {m : Memory} {s s' : Shared} {l l' : Local} {e : Event}
    (hqueue : QueueInvariant bucketSize queueSize s) (hm : Remembers m l)
    (h : Act ac s l e s' l') : Justified m e := by
  cases h with
  | receiveFlush hflush | tokenFlush hflush => exact ⟨hm, hqueue.deleted_expired hflush⟩
  | refund | send => exact hm
  | _ => exact trivial

theorem justified (h : Run (Act ac) (start Tid bucketSize queueSize) tr c) :
    ∀ before t e after, tr = before ++ (t, e) :: after → Justified (memory t before) e := by
  apply h.at_event (fun tr c => QueueInvariant bucketSize queueSize c.shared ∧
    ∀ t, Remembers (memory t tr) (c.locals t))
  · intro tr c hrun
    exact ⟨queueInvariant hrun, remembers hrun⟩
  · rintro tr c t e s l ⟨hqueue, hmemory⟩ ha
    exact act_justified hqueue (hmemory t) ha

/-! ## Identities -/

theorem received_objects (h : Run (Act ac) (start Tid bucketSize queueSize) tr c) :
    (collect Event.received tr).map Packet.object = List.range c.shared.created := by
  refine h.invariant (fun tr c => (collect Event.received tr).map Packet.object =
    List.range c.shared.created) (by simp [start]) ?_
  intro tr c t e s l hinv ha
  simp only [collect_append, collect_singleton, List.map_append]
  generalize c.locals t = l₀ at ha
  cases ha with
  | receive => simp [Event.received, hinv, List.range_succ]
  | _ => simpa [Event.received] using hinv

theorem received_nodup (h : Run (Act ac) (start Tid bucketSize queueSize) tr c) :
    (collect Event.received tr).Nodup :=
  List.Nodup.of_map Packet.object (received_objects h ▸ List.nodup_range)

variable [Fintype Tid]

/-- Every received packet that `enqueue` decided about was accepted or refused, once. -/
theorem accepted_append_refused_nodup
    (h : Run (Act ac) (start Tid bucketSize queueSize) tr c) :
    (collect Event.accepted tr ++ collect Event.refused tr).Nodup := by
  have hbalance := h.conservation (fun _ => (0 : Multiset Packet)) (fun l => l.pending)
    (fun e => (e.accepted ++ e.refused : List Packet)) (fun e => e.received)
    fun _ _ _ _ _ ha => act_received_balance ha
  rw [← coe_collect_append, ← coe_collect] at hbalance
  have hle : ((collect Event.accepted tr ++ collect Event.refused tr : List Packet) :
      Multiset Packet) ≤ collect Event.received tr := by
    simp only [start, Local.pending, Multiset.coe_nil, Finset.sum_const_zero, zero_add] at hbalance
    exact hbalance ▸ Multiset.le_add_left _ _
  exact Multiset.coe_nodup.mp (Multiset.nodup_of_le hle (received_nodup h))

theorem accepted_nodup (h : Run (Act ac) (start Tid bucketSize queueSize) tr c) :
    (collect Event.accepted tr).Nodup :=
  (List.nodup_append.mp (accepted_append_refused_nodup h)).1

theorem count_accepted (h : Run (Act ac) (start Tid bucketSize queueSize) tr c) (p : Packet) :
    c.shared.bucket.packets.count p + ∑ t, (c.locals t).hand.count p +
        (collect Event.sent tr).count p + (collect Event.discarded tr).count p =
      (collect Event.accepted tr).count p := by
  have hbalance := h.conservation (fun s => (s.bucket.packets : Multiset Packet))
    (fun l => l.hand) (fun e => (e.sent ++ e.discarded : List Packet)) (fun e => e.accepted)
    fun _ _ _ _ _ ha => act_accepted_balance ha
  rw [← coe_collect_append, ← coe_collect] at hbalance
  have hcount := congrArg (Multiset.count p) hbalance
  simpa [start, Local.hand, Multiset.count_sum', add_assoc] using hcount

/-! ## The ledger -/

/-- The ledger of one access category after the trace `tr`. -/
structure PacketLedger (bucketSize queueSize : ℕ) (tr : Trace Tid Event)
    (c : Config Tid Shared Local) : Prop where
  tokens_le : c.shared.bucket.availableTokens ≤ bucketSize
  queue_le : c.shared.bucket.queue.length ≤ queueSize
  /-- Queued, in the hand of one thread, sent or discarded: once in all. -/
  one_place : ∀ p ∈ collect Event.accepted tr,
    c.shared.bucket.packets.count p + ∑ t, (c.locals t).hand.count p +
      (collect Event.sent tr).count p + (collect Event.discarded tr).count p = 1
  refused_not_sent : ∀ p ∈ collect Event.refused tr, p ∉ collect Event.sent tr
  flush_expired : ∀ before t nowTime deleted after,
    tr = before ++ (t, .flush nowTime deleted) :: after →
      (memory t before).reading = some nowTime ∧ ∀ p ∈ deleted, p.validuntil < nowTime
  refund_expired : ∀ before t p added after, tr = before ++ (t, .refund p added) :: after →
    ∃ nowTime, memory t before = ⟨some p, some nowTime⟩ ∧ p.validuntil < nowTime
  send_valid : ∀ before t p after, tr = before ++ (t, .send p) :: after →
    ∃ nowTime, memory t before = ⟨some p, some nowTime⟩ ∧ nowTime ≤ p.validuntil
  accepted_nodup : (collect Event.accepted tr).Nodup
  fifo : (collect Event.dequeued tr).Sublist (collect Event.accepted tr)

/-- **Packet ledger.**  After any interleaving of receive iterations and `addToken`
runs, in the middle of any of them, every accepted packet is in exactly one place, what
was refused is never sent, and what was sent or discarded was judged by the right clock
reading. -/
theorem packetLedger (h : Run (Act ac) (start Tid bucketSize queueSize) tr c) :
    PacketLedger bucketSize queueSize tr c where
  tokens_le := (queueInvariant h).limits.1 ▸ c.shared.bucket.tokens_le
  queue_le := (queueInvariant h).limits.2 ▸ c.shared.bucket.queue_le
  one_place := fun p hp => by
    rw [count_accepted h, List.count_eq_one_of_mem _ hp]
    exact (List.nodup_append.mp (accepted_append_refused_nodup h)).1
  refused_not_sent := fun p hrefused hsent => by
    have haccepted : p ∈ collect Event.accepted tr := by
      have := List.count_pos_iff.mpr hsent
      have := count_accepted h p
      exact List.count_pos_iff.mp (by omega)
    exact (List.nodup_append.mp (accepted_append_refused_nodup h)).2.2 p haccepted p hrefused rfl
  flush_expired := fun before t _ _ after heq => justified h before t _ after heq
  refund_expired := fun before t _ _ after heq => justified h before t _ after heq
  send_valid := fun before t _ after heq => justified h before t _ after heq
  accepted_nodup := accepted_nodup h
  fifo := (List.sublist_append_left _ _).trans (dequeued_append_queued_sublist h)

theorem packetLedger_sampleTrace :
    ∃ c, PacketLedger 1 2 sampleTrace c ∧ collect Event.sent sampleTrace = [samplePacket] := by
  obtain ⟨c, hrun⟩ := sampleTrace_run
  exact ⟨c, packetLedger hrun, rfl⟩

end OpenC2X.Dcc
