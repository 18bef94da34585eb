import OpenC2X.Dcc.PacketLedger
import OpenC2X.Dcc.Replay
import Mathlib.Algebra.Order.BigOperators.Group.Finset

/-!
# The order on the air

The queue of a bucket is first in, first out, but `sendQueuedPackets` sends a packet
after `dequeue` gave up the lock.  Two threads can hold packets of the same bucket at the
same time, and the one that dequeued later can send first.

Frames leave in the order of acceptance as long as every frame is sent in its turn:
when all packets dequeued before it have been sent or found expired.  A packet dequeued
earlier and about to be sent by another thread is enough to break the order.
-/

namespace OpenC2X.Dcc

open Interleaving

variable {Tid : Type*}

/-! ## Turns -/

/-- The packet was sent or found expired by the thread that dequeued it. -/
def Event.settled : Event → List Packet
  | .send p => [p]
  | .check p false => [p]
  | _ => []

/-- The dequeued packet of a thread that is neither sent nor found expired yet. -/
def Local.unsettled : Local → List Packet
  | .dequeued p | .checking p _ | .sending p => [p]
  | _ => []

/-- The packets that were dequeued before `p`. -/
def ahead (tr : Trace Tid Event) (p : Packet) : List Packet :=
  (collect Event.dequeued tr).takeWhile fun q => decide (q ≠ p)

/-- A frame is sent when all packets dequeued before its own are settled. -/
def InTurn (before : Trace Tid Event) : Event → Prop
  | .send p => ∀ q ∈ ahead before p, q ∈ collect Event.settled before
  | _ => True

instance (before : Trace Tid Event) (e : Event) : Decidable (InTurn before e) := by
  cases e <;> unfold InTurn <;> infer_instance

/-- No draining thread overtakes another one. -/
def NoOvertaking (tr : Trace Tid Event) : Prop :=
  ∀ before t e after, tr = before ++ (t, e) :: after → InTurn before e

instance (tr : Trace Tid Event) : Decidable (NoOvertaking tr) :=
  decidable_of_iff' _ (forall_event_iff (P := fun before _ e => InTurn before e) tr)

theorem NoOvertaking.of_snoc {e : Tid × Event} {tr : Trace Tid Event}
    (h : NoOvertaking (tr ++ [e])) : NoOvertaking tr := by
  intro before t e' after heq
  apply h before t e' (after ++ [e])
  rw [heq, List.append_assoc, List.cons_append]

variable [DecidableEq Tid] {ac : AccessCategory} {bucketSize queueSize : ℕ}
  {tr : Trace Tid Event} {c : Config Tid Shared Local}

/-- A dequeued packet stays with its thread until it is settled. -/
theorem act_dequeued_balance {s s' : Shared} {l l' : Local} {e : Event}
    (h : Act ac s l e s' l') :
    (0 : Multiset Packet) + l'.unsettled + e.settled = 0 + l.unsettled + e.dequeued := by
  cases h with
  | enqueue => split <;> rfl
  | _ => simp [Local.unsettled, Event.settled, Event.dequeued]

theorem dequeued_sublist_accepted (h : Run (Act ac) (start Tid bucketSize queueSize) tr c) :
    (collect Event.dequeued tr).Sublist (collect Event.accepted tr) :=
  (List.sublist_append_left _ _).trans (dequeued_append_queued_sublist h)

variable [Fintype Tid]

theorem count_dequeued (h : Run (Act ac) (start Tid bucketSize queueSize) tr c) (p : Packet) :
    ∑ t, (c.locals t).unsettled.count p + (collect Event.settled tr).count p =
      (collect Event.dequeued tr).count p := by
  have hbalance := h.conservation (fun _ => (0 : Multiset Packet)) (fun l => l.unsettled)
    (fun e => e.settled) (fun e => e.dequeued) fun _ _ _ _ _ ha => act_dequeued_balance ha
  rw [← coe_collect, ← coe_collect] at hbalance
  have hcount := congrArg (Multiset.count p) hbalance
  simpa [start, Local.unsettled, Multiset.count_sum'] using hcount

/-- What a thread is about to send was dequeued and is not settled. -/
theorem sending_unsettled (h : Run (Act ac) (start Tid bucketSize queueSize) tr c) {t : Tid}
    {p : Packet} (hl : c.locals t = .sending p) :
    p ∈ collect Event.dequeued tr ∧ p ∉ collect Event.settled tr := by
  have hone : (collect Event.dequeued tr).count p ≤ 1 :=
    List.nodup_iff_count_le_one.mp ((dequeued_sublist_accepted h).nodup (accepted_nodup h)) p
  have hheld : 1 ≤ ∑ t, (c.locals t).unsettled.count p := by
    refine le_trans ?_ (Finset.single_le_sum (fun _ _ => Nat.zero_le _) (Finset.mem_univ t))
    rw [hl]
    simp [Local.unsettled]
  have hcount := count_dequeued h p
  constructor
  · exact List.count_pos_iff.mp (by omega)
  · exact List.count_eq_zero.mp (by omega)

/-! ## Frames in order -/

/-- The packets dequeued so far, split where the frames end: everything before is
settled, and the frames were sent from there. -/
def SentFromSettled (tr : Trace Tid Event) : Prop :=
  ∃ done rest, collect Event.dequeued tr = done ++ rest ∧
    (∀ q ∈ done, q ∈ collect Event.settled tr) ∧ (collect Event.sent tr).Sublist done

omit [DecidableEq Tid] [Fintype Tid] in
theorem SentFromSettled.snoc_of_sent_nil {t : Tid} {e : Event} (h : SentFromSettled tr)
    (he : e.sent = []) : SentFromSettled (tr ++ [(t, e)]) := by
  obtain ⟨done, rest, hsplit, hdone, hsent⟩ := h
  refine ⟨done, rest ++ e.dequeued, ?_, fun q hq => ?_, ?_⟩
  · simp [hsplit]
  · rw [collect_append]
    exact List.mem_append_left _ (hdone q hq)
  · simpa [he] using hsent

omit [DecidableEq Tid] [Fintype Tid] in
/-- A frame that is sent in its turn comes after all frames sent so far. -/
theorem SentFromSettled.snoc_send {t : Tid} {p : Packet} (h : SentFromSettled tr)
    (hturn : InTurn tr (.send p)) (hdequeued : p ∈ collect Event.dequeued tr)
    (hunsettled : p ∉ collect Event.settled tr) :
    SentFromSettled (tr ++ [(t, .send p)]) := by
  obtain ⟨done, rest, hsplit, hdone, hsent⟩ := h
  have hnot : p ∉ done := fun hp => hunsettled (hdone p hp)
  have hrest : p ∈ rest := by
    rw [hsplit] at hdequeued
    exact (List.mem_append.mp hdequeued).resolve_left hnot
  obtain ⟨older, younger, rfl, holder⟩ := List.eq_append_cons_of_mem hrest
  have hahead : ahead tr p = done ++ older := by
    rw [ahead, hsplit, ← List.append_assoc,
      List.takeWhile_append_of_pos fun q hq => by
        rcases List.mem_append.mp hq with hq | hq
        · exact decide_eq_true fun heq => hnot (heq ▸ hq)
        · exact decide_eq_true fun heq => holder (heq ▸ hq)]
    simp
  refine ⟨done ++ older ++ [p], younger, ?_, fun q hq => ?_, ?_⟩
  · simp [hsplit, Event.dequeued]
  · rw [collect_append, collect_singleton]
    rcases List.mem_append.mp hq with hq | hq
    · exact List.mem_append_left _ (hturn q (hahead ▸ hq))
    · exact List.mem_append_right _ hq
  · rw [collect_append, collect_singleton]
    exact (hsent.trans (List.sublist_append_left _ _)).append (List.Sublist.refl _)

theorem sentFromSettled (h : Run (Act ac) (start Tid bucketSize queueSize) tr c)
    (hturns : NoOvertaking tr) : SentFromSettled tr := by
  induction h with
  | nil => exact ⟨[], [], rfl, nofun, List.Sublist.refl _⟩
  | @snoc tr c c' e hrun hstep ih =>
      cases hstep with
      | @move t e s l ha =>
          have hbefore := ih hturns.of_snoc
          have hturn : InTurn tr e := hturns tr t e [] rfl
          generalize hl : c.locals t = l₀ at ha
          cases ha with
          | send =>
              obtain ⟨hdequeued, hunsettled⟩ := sending_unsettled hrun hl
              exact hbefore.snoc_send hturn hdequeued hunsettled
          | _ => exact hbefore.snoc_of_sent_nil rfl

/-- **Order on the air.**  In every run in which each frame is sent in its turn, the
frames are sent in the order in which `enqueue` accepted their packets. -/
theorem sendOrder (h : Run (Act ac) (start Tid bucketSize queueSize) tr c)
    (hturns : NoOvertaking tr) :
    (collect Event.sent tr).Sublist (collect Event.accepted tr) := by
  obtain ⟨done, rest, hsplit, -, hsent⟩ := sentFromSettled h hturns
  have hdone : done.Sublist (collect Event.dequeued tr) :=
    hsplit ▸ List.sublist_append_left done rest
  exact (hsent.trans hdone).trans (dequeued_sublist_accepted h)

/-! ## Overtaking -/

/-- Two items stand in one order only in a list without repetitions. -/
theorem not_pair_sublist_swap {α : Type*} {l : List α} (hl : l.Nodup) {a b : α}
    (hab : [a, b].Sublist l) : ¬[b, a].Sublist l := by
  intro hba
  induction l with
  | nil => exact nomatch hab
  | cons x l ih =>
      obtain ⟨hx, hl⟩ := List.nodup_cons.mp hl
      cases hab with
      | cons _ hab =>
          cases hba with
          | cons _ hba => exact ih hl hab hba
          | cons_cons _ _ => exact hx (hab.subset (by simp))
      | cons_cons _ hb =>
          cases hba with
          | cons _ hba => exact hx (hba.subset (by simp))
          | cons_cons _ _ => exact hx (hb.subset (by simp))

omit [DecidableEq Tid] [Fintype Tid] in
theorem ne_of_mem_ahead {p q : Packet} (h : q ∈ ahead tr p) : q ≠ p :=
  of_decide_eq_true (List.all_eq_true.mp List.all_takeWhile q h)

omit [DecidableEq Tid] [Fintype Tid] in
theorem pair_sublist_of_mem_ahead {p q : Packet} (hq : q ∈ ahead tr p)
    (hp : p ∈ collect Event.dequeued tr) : [q, p].Sublist (collect Event.dequeued tr) := by
  have hsplit := List.takeWhile_append_dropWhile (p := fun q => decide (q ≠ p))
    (l := collect Event.dequeued tr)
  rw [← hsplit, List.mem_append] at hp
  rcases hp with hp | hp
  · exact absurd rfl (ne_of_mem_ahead hp)
  · rw [← hsplit]
    exact (List.singleton_sublist.mpr hq).append (List.singleton_sublist.mpr hp)

/-- When a frame is sent while another thread is about to send a packet that was
dequeued earlier, that thread's send puts the two frames in the wrong order. -/
theorem overtaking_breaks_order (h : Run (Act ac) (start Tid bucketSize queueSize) tr c)
    {t u : Tid} {p q : Packet} (hp : c.locals t = .sending p) (hq : c.locals u = .sending q)
    (hahead : q ∈ ahead tr p) :
    ∃ c', Run (Act ac) (start Tid bucketSize queueSize) (tr ++ [(t, .send p), (u, .send q)]) c' ∧
      ¬(collect Event.sent (tr ++ [(t, .send p), (u, .send q)])).Sublist
        (collect Event.accepted (tr ++ [(t, .send p), (u, .send q)])) := by
  have hut : u ≠ t := by
    rintro rfl
    rw [hp, Local.sending.injEq] at hq
    exact ne_of_mem_ahead hahead hq.symm
  have hrun := h.move t hp .send
  have hrest : Function.update c.locals t .drain u = .sending q := by
    rw [Function.update_of_ne hut, hq]
  have hrun' := hrun.move u hrest .send
  rw [List.append_assoc] at hrun'
  refine ⟨_, hrun', fun hsub => ?_⟩
  have hsent : [p, q].Sublist
      (collect Event.sent (tr ++ [(t, .send p), (u, .send q)])) := by
    rw [collect_append]
    exact List.sublist_append_right _ _
  have hdequeued : [q, p].Sublist (collect Event.accepted tr) :=
    (pair_sublist_of_mem_ahead hahead (sending_unsettled h hp).1).trans
      (dequeued_sublist_accepted h)
  have haccepted : [q, p].Sublist
      (collect Event.accepted (tr ++ [(t, .send p), (u, .send q)])) := by
    rw [collect_append]
    exact hdequeued.trans (List.sublist_append_left _ _)
  exact not_pair_sublist_swap (accepted_nodup hrun') haccepted (hsent.trans hsub)

/-! ## Two packets in the hands of two threads

The timer thread adds a token to a bucket that has one already and finds the packet that
the receive thread has just queued.  While it holds this packet, the receive thread
receives the next one and dequeues it with the other token. -/

def olderPacket : Packet := ⟨0, ⟨1, .CAM, .AC_BE, some 10, []⟩⟩

def youngerPacket : Packet := ⟨1, ⟨2, .CAM, .AC_BE, some 10, []⟩⟩

inductive SampleThread
  | timer
  | receive
  deriving DecidableEq

instance : Fintype SampleThread where
  elems := {.timer, .receive}
  complete t := by cases t <;> decide

def twoInHand : Trace SampleThread Event :=
  [(.timer, .timer), (.timer, .clock 1), (.timer, .flush 1 []), (.timer, .addToken true),
    (.timer, .dequeue none), (.timer, .timer), (.timer, .clock 2), (.timer, .flush 2 []),
    (.timer, .addToken true), (.receive, .receive olderPacket), (.receive, .clock 3),
    (.receive, .flush 3 []), (.receive, .enqueue olderPacket true),
    (.timer, .dequeue (some olderPacket)), (.receive, .dequeue none),
    (.receive, .receive youngerPacket), (.receive, .clock 4), (.receive, .flush 4 []),
    (.receive, .enqueue youngerPacket true), (.receive, .dequeue (some youngerPacket)),
    (.receive, .clock 5), (.receive, .check youngerPacket true), (.timer, .clock 6),
    (.timer, .check olderPacket true)]

def inTurnTrace : Trace SampleThread Event :=
  twoInHand ++ [(.timer, .send olderPacket), (.receive, .send youngerPacket)]

def overtakingTrace : Trace SampleThread Event :=
  twoInHand ++ [(.receive, .send youngerPacket), (.timer, .send olderPacket)]

theorem sendOrder_inTurnTrace :
    (collect Event.sent inTurnTrace).Sublist (collect Event.accepted inTurnTrace) := by
  have hreplay : (replay (perform .AC_BE) (start SampleThread 2 2) inTurnTrace).isSome := by
    decide
  obtain ⟨c, hrun⟩ := exists_run_of_replay .AC_BE 2 2 hreplay
  exact sendOrder hrun (by decide)

/-- The receive thread sends the younger packet while the timer thread is about to send
the older one. -/
theorem not_sendOrder_overtakingTrace :
    (∃ c, Run (Act .AC_BE) (start SampleThread 2 2) overtakingTrace c) ∧
      ¬(collect Event.sent overtakingTrace).Sublist (collect Event.accepted overtakingTrace) :=
  ⟨exists_run_of_replay .AC_BE 2 2 (by decide), by decide⟩

end OpenC2X.Dcc
