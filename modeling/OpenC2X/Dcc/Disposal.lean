import OpenC2X.Dcc.PacketLedger
import OpenC2X.Dcc.Replay
import Mathlib.Algebra.BigOperators.Group.Multiset.Basic

/-!
# Disposal of packets

DCC owns every `DATA` object from `new` to `delete`.  An object ends on one of four
routes: it is sent, it is found expired after `dequeue`, `flushQueue` removes it, or a
full queue refuses it.  The first three delete the object, the last one only logs it.

Here the threads work on the buckets of all access categories.  Between two iterations
of all threads, every object created so far is queued or was deleted once, if and only
if every call of `enqueue` up to then found room in its queue.
-/

namespace OpenC2X.Dcc

open Interleaving

/-! ## All buckets -/

instance : Fintype AccessCategory where
  elems := {.AC_VI, .AC_VO, .AC_BE, .AC_BK}
  complete := by intro ac; cases ac <;> decide

/-- `mBucket`, and how many `DATA` objects were created so far. -/
structure Buckets where
  mBucket : AccessCategory → LeakyBucket Packet
  created : ℕ

/-- What an iteration for `ac` works on. -/
def Buckets.at (s : Buckets) (ac : AccessCategory) : Shared := ⟨s.mBucket ac, s.created⟩

def Buckets.set (s : Buckets) (ac : AccessCategory) (s' : Shared) : Buckets :=
  ⟨Function.update s.mBucket ac s'.bucket, s'.created⟩

/-- The atomic actions of a thread.  Only between two iterations it can turn to another
access category. -/
inductive BucketsAct :
    Actions Buckets (AccessCategory × Local) (AccessCategory × Event)
  | act {s : Buckets} {s' : Shared} {ac last : AccessCategory} {l l' : Local} {e : Event}
      (hlast : l = .idle ∨ last = ac) (h : Act ac (s.at ac) l e s' l') :
      BucketsAct s (last, l) (ac, e) (s.set ac s') (ac, l')

/-- New buckets, and every thread between two iterations. -/
def bucketsStart (Tid : Type*) (bucketSize queueSize : AccessCategory → ℕ) :
    Config Tid Buckets (AccessCategory × Local) where
  shared := { mBucket := fun ac => .new (bucketSize ac) (queueSize ac), created := 0 }
  locals := fun _ => (.AC_VI, .idle)

theorem BucketsAct.unique {s s₁ s₂ : Buckets} {l l₁ l₂ : AccessCategory × Local}
    {e : AccessCategory × Event} (h₁ : BucketsAct s l e s₁ l₁) (h₂ : BucketsAct s l e s₂ l₂) :
    s₁ = s₂ ∧ l₁ = l₂ := by
  cases h₁ with
  | act _ h₁ =>
      cases h₂ with
      | act _ h₂ =>
          obtain ⟨rfl, rfl⟩ := h₁.unique h₂
          exact ⟨rfl, rfl⟩

/-- The atomic action that shows the event `e`, if the thread can perform one. -/
def Buckets.perform (s : Buckets) (l : AccessCategory × Local) (e : AccessCategory × Event) :
    Option (Buckets × AccessCategory × Local) :=
  if l.2 = .idle ∨ l.1 = e.1 then
    (Dcc.perform e.1 (s.at e.1) l.2 e.2).map fun next => (s.set e.1 next.1, e.1, next.2)
  else
    none

theorem bucketsAct_of_perform {s s' : Buckets} {l l' : AccessCategory × Local}
    {e : AccessCategory × Event} (h : s.perform l e = some (s', l')) : BucketsAct s l e s' l' := by
  unfold Buckets.perform at h
  split at h
  · rename_i hlast
    obtain ⟨⟨s'', l''⟩, hnext, heq⟩ := Option.map_eq_some_iff.mp h
    obtain ⟨rfl, rfl⟩ := Prod.mk.inj heq
    exact .act hlast (act_of_perform hnext)
  · exact nomatch h

/-! ## The ledger of objects -/

/-- The objects that an event deletes: `delete` follows a send and a refund, and
`flushQueue` deletes what it removes. -/
def Event.deleted (e : Event) : List Packet := e.sent ++ e.discarded

/-- The object a thread works with. -/
def Local.owned (l : Local) : List Packet := l.pending ++ l.hand

def Buckets.queued (s : Buckets) : Multiset Packet :=
  ∑ ac, ((s.mBucket ac).packets : Multiset Packet)

/-- An object is with the acting thread or in the queue until it is deleted or refused. -/
theorem act_owned_balance {ac : AccessCategory} {s s' : Shared} {l l' : Local} {e : Event}
    (h : Act ac s l e s' l') :
    (s'.bucket.packets : Multiset Packet) + l'.owned + (e.deleted ++ e.refused : List Packet) =
      s.bucket.packets + l.owned + e.received := by
  have hreceived := act_received_balance h
  have haccepted := act_accepted_balance h
  simp only [← Multiset.coe_add, Event.deleted, Local.owned] at hreceived haccepted ⊢
  apply add_right_cancel (b := (e.accepted : Multiset Packet))
  calc
    _ = ((s'.bucket.packets : Multiset Packet) + l'.hand + (e.sent + e.discarded)) +
          (0 + l'.pending + (e.accepted + e.refused)) := by abel
    _ = ((s.bucket.packets : Multiset Packet) + l.hand + e.accepted) +
          (0 + l.pending + e.received) := by rw [haccepted, hreceived]
    _ = _ := by abel

theorem queued_set (s : Buckets) (ac : AccessCategory) (s' : Shared) :
    (s.set ac s').queued =
      s'.bucket.packets + ∑ i ∈ Finset.univ.erase ac, ((s.mBucket i).packets : Multiset Packet) :=
  sum_update (fun b : LeakyBucket Packet => (b.packets : Multiset Packet)) s.mBucket ac s'.bucket

theorem bucketsAct_owned_balance {s s' : Buckets} {l l' : AccessCategory × Local}
    {e : AccessCategory × Event} (h : BucketsAct s l e s' l') :
    s'.queued + l'.2.owned + (e.2.deleted ++ e.2.refused : List Packet) =
      s.queued + l.2.owned + e.2.received := by
  cases h with
  | @act _ s'' ac last l l' e _ h =>
      have hbalance := act_owned_balance h
      have hqueued : s.queued = ((s.at ac).bucket.packets : Multiset Packet) +
          ∑ i ∈ Finset.univ.erase ac, ((s.mBucket i).packets : Multiset Packet) :=
        (Finset.add_sum_erase _ _ (Finset.mem_univ ac)).symm
      rw [queued_set, hqueued]
      set others := ∑ i ∈ Finset.univ.erase ac, ((s.mBucket i).packets : Multiset Packet)
      calc
        _ = ((s''.bucket.packets : Multiset Packet) + l'.owned +
              (e.deleted ++ e.refused : List Packet)) + others := by abel
        _ = ((s.at ac).bucket.packets + l.owned + e.received) + others := by rw [hbalance]
        _ = _ := by abel

/-! ## Which objects exist -/

variable {Tid : Type*} [DecidableEq Tid] {bucketSize queueSize : AccessCategory → ℕ}
  {tr : Trace Tid (AccessCategory × Event)} {c : Config Tid Buckets (AccessCategory × Local)}

def createdObjects (tr : Trace Tid (AccessCategory × Event)) : List Packet :=
  collect (fun e => e.2.received) tr

def deletedObjects (tr : Trace Tid (AccessCategory × Event)) : List Packet :=
  collect (fun e => e.2.deleted) tr

def refusedObjects (tr : Trace Tid (AccessCategory × Event)) : List Packet :=
  collect (fun e => e.2.refused) tr

/-- `new` numbers the objects of all threads and access categories. -/
theorem createdObjects_numbers
    (h : Run BucketsAct (bucketsStart Tid bucketSize queueSize) tr c) :
    (createdObjects tr).map Packet.object = List.range c.shared.created := by
  refine h.invariant (fun tr c => (createdObjects tr).map Packet.object =
    List.range c.shared.created) rfl ?_
  intro tr c t e s l hinv ha
  simp only [createdObjects, collect_append, collect_singleton, List.map_append] at hinv ⊢
  generalize c.locals t = l₀ at ha
  cases ha with
  | act _ ha =>
      cases ha with
      | receive =>
          show _ ++ [c.shared.created] = List.range (c.shared.created + 1)
          rw [hinv, List.range_succ]
      | _ => simpa [Event.received, Buckets.set, Buckets.at] using hinv

theorem createdObjects_nodup
    (h : Run BucketsAct (bucketsStart Tid bucketSize queueSize) tr c) :
    (createdObjects tr).Nodup :=
  List.Nodup.of_map Packet.object (createdObjects_numbers h ▸ List.nodup_range)

variable [Fintype Tid]

/-- Where the created objects are when no thread is inside an iteration. -/
theorem count_created_of_idle
    (h : Run BucketsAct (bucketsStart Tid bucketSize queueSize) tr c)
    (hidle : ∀ t, (c.locals t).2 = .idle) (p : Packet) :
    c.shared.queued.count p + (deletedObjects tr).count p + (refusedObjects tr).count p =
      (createdObjects tr).count p := by
  have hbalance := h.conservation Buckets.queued (fun l => l.2.owned)
    (fun e => (e.2.deleted ++ e.2.refused : List Packet)) (fun e => e.2.received)
    fun _ _ _ _ _ ha => bucketsAct_owned_balance ha
  rw [← coe_collect_append, ← coe_collect] at hbalance
  have hcount := congrArg (Multiset.count p) hbalance
  simpa [hidle, bucketsStart, Buckets.queued, Local.owned, Local.pending, Local.hand,
    deletedObjects, refusedObjects, createdObjects, add_assoc] using hcount

/-! ## Every enqueue finds room -/

theorem enqueue_eq_true_iff {b b' : LeakyBucket Packet} {p : Packet} {validUntil : ℤ}
    {enqueued : Bool} (h : b.enqueue p validUntil = (b', enqueued)) :
    enqueued = true ↔ b.queue.length < b.queueSize := by
  unfold LeakyBucket.enqueue at h
  split at h
  · rename_i hroom
    obtain ⟨-, rfl⟩ := Prod.mk.inj h
    exact iff_of_true rfl hroom
  · rename_i hroom
    obtain ⟨-, rfl⟩ := Prod.mk.inj h
    exact iff_of_false Bool.false_ne_true hroom

/-- The queue of the bucket is not full whenever a packet is offered to `enqueue`. -/
def EnqueuesFindRoom (Tid : Type*) [DecidableEq Tid] (bucketSize queueSize : AccessCategory → ℕ)
    (tr : Trace Tid (AccessCategory × Event)) : Prop :=
  ∀ before t ac p enqueued after, tr = before ++ (t, ac, .enqueue p enqueued) :: after →
    ∀ c, Run BucketsAct (bucketsStart Tid bucketSize queueSize) before c →
      (c.shared.mBucket ac).queue.length < (c.shared.mBucket ac).queueSize

omit [Fintype Tid] in
/-- `enqueue` returns whether the queue had room at that moment. -/
theorem enqueued_iff_room (h : Run BucketsAct (bucketsStart Tid bucketSize queueSize) tr c) :
    ∀ before t e after, tr = before ++ (t, e) :: after → ∀ p enqueued, e.2 = .enqueue p enqueued →
      ∀ c', Run BucketsAct (bucketsStart Tid bucketSize queueSize) before c' →
        (enqueued = true ↔
          (c'.shared.mBucket e.1).queue.length < (c'.shared.mBucket e.1).queueSize) := by
  apply h.at_event (fun tr c => Run BucketsAct (bucketsStart Tid bucketSize queueSize) tr c)
  · exact fun hrun => hrun
  · intro tr c t e s l hrun ha p enqueued he c' hrun'
    obtain rfl := hrun.unique hrun' fun _ _ _ _ _ _ _ => BucketsAct.unique
    generalize c.locals t = l₀ at ha
    cases ha with
    | act _ ha =>
        subst he
        cases ha with
        | enqueue henq => exact enqueue_eq_true_iff henq

omit [DecidableEq Tid] [Fintype Tid] in
theorem mem_refusedObjects {p : Packet} :
    p ∈ refusedObjects tr ↔
      ∃ before t ac after, tr = before ++ (t, ac, .enqueue p false) :: after := by
  constructor
  · intro hp
    obtain ⟨⟨t, ac, e⟩, hmem, he⟩ := List.mem_flatMap.mp hp
    obtain ⟨before, after, heq⟩ := List.append_of_mem hmem
    cases e with
    | enqueue q enqueued =>
        cases enqueued with
        | true => exact nomatch he
        | false =>
            obtain rfl : p = q := List.mem_singleton.mp he
            exact ⟨before, t, ac, after, heq⟩
    | _ => exact nomatch he
  · rintro ⟨before, t, ac, after, rfl⟩
    simp [refusedObjects, collect, Event.refused]

omit [Fintype Tid] in
theorem refusedObjects_eq_nil_iff
    (h : Run BucketsAct (bucketsStart Tid bucketSize queueSize) tr c) :
    refusedObjects tr = [] ↔ EnqueuesFindRoom Tid bucketSize queueSize tr := by
  constructor
  · intro hnone before t ac p enqueued after heq c' hrun'
    rw [← enqueued_iff_room h before t _ after heq p enqueued rfl c' hrun']
    cases enqueued with
    | true => rfl
    | false =>
        have hp : p ∈ refusedObjects tr := mem_refusedObjects.mpr ⟨before, t, ac, after, heq⟩
        rw [hnone] at hp
        exact nomatch hp
  · intro hroom
    rw [List.eq_nil_iff_forall_not_mem]
    intro p hp
    obtain ⟨before, t, ac, after, heq⟩ := mem_refusedObjects.mp hp
    obtain ⟨c', hrun', -⟩ := (heq ▸ h).split
    have hlt := hroom before t ac p false after heq c' hrun'
    exact nomatch (enqueued_iff_room h before t _ after heq p false rfl c' hrun').mpr hlt

/-! ## Every object is disposed of -/

/-- The object is queued, or it was deleted once. -/
def Accounted (tr : Trace Tid (AccessCategory × Event)) (s : Buckets) (p : Packet) : Prop :=
  s.queued.count p + (deletedObjects tr).count p = 1

/-- **Packet disposal.**  After any interleaving of receive iterations and `addToken`
runs on all buckets that leaves no thread inside an iteration, every object created so
far is queued or was deleted once if and only if every `enqueue` found room. -/
theorem disposal_iff (h : Run BucketsAct (bucketsStart Tid bucketSize queueSize) tr c)
    (hidle : ∀ t, (c.locals t).2 = .idle) :
    (∀ p ∈ createdObjects tr, Accounted tr c.shared p) ↔
      EnqueuesFindRoom Tid bucketSize queueSize tr := by
  rw [← refusedObjects_eq_nil_iff h]
  have hcount := count_created_of_idle h hidle
  constructor
  · intro hall
    rw [List.eq_nil_iff_forall_not_mem]
    intro p hp
    have hrefused := List.count_pos_iff.mpr hp
    have hcreated : (createdObjects tr).count p ≤ 1 :=
      List.nodup_iff_count_le_one.mp (createdObjects_nodup h) p
    have hone : Accounted tr c.shared p := by
      apply hall p
      have := hcount p
      exact List.count_pos_iff.mp (by omega)
    have := hcount p
    rw [Accounted] at hone
    omega
  · intro hnone p hp
    have hcreated := List.count_eq_one_of_mem (createdObjects_nodup h) hp
    have := hcount p
    rw [hnone, List.count_nil, hcreated] at this
    exact this

/-- A trace that can be replayed is that of a run, which ends between two iterations if
the replay does. -/
theorem exists_idle_run_of_replay (bucketSize queueSize : AccessCategory → ℕ)
    (tr : Trace Tid (AccessCategory × Event))
    (h : (replay Buckets.perform (bucketsStart Tid bucketSize queueSize) tr).any
      fun c => decide (∀ t, (c.locals t).2 = .idle)) :
    ∃ c, Run BucketsAct (bucketsStart Tid bucketSize queueSize) tr c ∧
      ∀ t, (c.locals t).2 = .idle := by
  obtain ⟨c, hreplay, hidle⟩ := (Option.any_eq_true _ _).mp h
  exact ⟨c, run_of_replay (fun _ _ _ _ _ => bucketsAct_of_perform) hreplay,
    of_decide_eq_true hidle⟩

/-! ## A queue of one packet

The receive thread receives one or two CAMs while there is no token. -/

def firstCam : Packet := ⟨0, ⟨1, .CAM, .AC_BE, some 10, []⟩⟩

def secondCam : Packet := ⟨1, ⟨2, .CAM, .AC_BE, some 10, []⟩⟩

def oneCam : Trace (Fin 1) (AccessCategory × Event) :=
  [(0, .AC_BE, .receive firstCam), (0, .AC_BE, .clock 1), (0, .AC_BE, .flush 1 []),
    (0, .AC_BE, .enqueue firstCam true), (0, .AC_BE, .dequeue none)]

def twoCams : Trace (Fin 1) (AccessCategory × Event) :=
  oneCam ++ [(0, .AC_BE, .receive secondCam), (0, .AC_BE, .clock 2), (0, .AC_BE, .flush 2 []),
    (0, .AC_BE, .enqueue secondCam false)]

theorem disposal_oneCam :
    ∃ c, Run BucketsAct (bucketsStart (Fin 1) (fun _ => 1) (fun _ => 1)) oneCam c ∧
      ∀ p ∈ createdObjects oneCam, Accounted oneCam c.shared p := by
  obtain ⟨c, hrun, hidle⟩ := exists_idle_run_of_replay (fun _ => 1) (fun _ => 1) oneCam
    (by decide)
  have hroom := (refusedObjects_eq_nil_iff hrun).mp (by decide)
  exact ⟨c, hrun, (disposal_iff hrun hidle).mpr hroom⟩

/-- The second CAM is refused by the full queue and never deleted. -/
theorem not_disposal_twoCams :
    ∃ c, Run BucketsAct (bucketsStart (Fin 1) (fun _ => 1) (fun _ => 1)) twoCams c ∧
      (∀ t, (c.locals t).2 = .idle) ∧
      ¬∀ p ∈ createdObjects twoCams, Accounted twoCams c.shared p := by
  obtain ⟨c, hrun, hidle⟩ := exists_idle_run_of_replay (fun _ => 1) (fun _ => 1) twoCams
    (by decide)
  refine ⟨c, hrun, hidle, fun hall => ?_⟩
  have hone : Accounted twoCams c.shared secondCam := hall secondCam (by decide)
  have hcount := count_created_of_idle hrun hidle secondCam
  have hrefused : (refusedObjects twoCams).count secondCam = 1 := by decide
  have hcreated : (createdObjects twoCams).count secondCam = 1 := by decide
  rw [Accounted] at hone
  omega

end OpenC2X.Dcc
