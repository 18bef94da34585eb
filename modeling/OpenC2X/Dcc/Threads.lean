import OpenC2X.Common.Data
import OpenC2X.Dcc.LeakyBucket
import OpenC2X.Lib.Interleaving
import Mathlib.Data.Fin.Tuple.Basic

/-!
# The threads at one bucket

Three threads of DCC work on the bucket of an access category: the two receive
threads (`receiveFromCa2`, `receiveFromDen`) and the timer thread that runs
`addToken`.  All of them drain the queue with `sendQueuedPackets`.

The atomic actions below are the calls of `LeakyBucket` methods (each under its
mutexes), the readings of the clock, the decision whether a packet is still valid
and the hand-over of a frame to the hardware.  A thread is between two iterations,
at some point of a receive iteration, or at some point of an `addToken` run, and
the local state keeps the variables it still needs there.  Any thread may run any
sequence of iterations, which includes the three threads of the program.
-/

namespace OpenC2X.Dcc

open Interleaving

/-- A heap object created by `new dataPackage::DATA()`, with its content.  Two
packages with equal content are different objects. -/
structure Packet where
  object : ℕ
  data : DATA
  deriving DecidableEq, Repr

/-- `data->validuntil()`. -/
def Packet.validuntil (p : Packet) : ℤ := p.data.validuntil

/-- The bucket, and how many `DATA` objects were created so far. -/
structure Shared where
  bucket : LeakyBucket Packet
  created : ℕ

/-- Where a thread stands, with the local variables that are still used. -/
inductive Local where
  -- waiting for a message or for the timer
  | idle
  -- receive iteration: the message is parsed
  | received (data : Packet)
  -- receive iteration: about to call `flushQueue(nowTime)`
  | receiveFlush (data : Packet) (nowTime : ℤ)
  -- receive iteration: about to call `enqueue`
  | receiveEnqueue (data : Packet)
  -- `addToken` entered
  | token
  -- `addToken`: about to call `flushQueue(nowTime)`
  | tokenFlush (nowTime : ℤ)
  -- `addToken`: about to call `increment`
  | tokenIncrement
  -- `sendQueuedPackets`: about to call `dequeue`
  | drain
  -- `sendQueuedPackets`: a packet was dequeued
  | dequeued (data : Packet)
  -- `sendQueuedPackets`: about to test the validity of the packet
  | checking (data : Packet) (nowTime : ℤ)
  -- `sendQueuedPackets`: the packet is valid
  | sending (data : Packet)
  -- `sendQueuedPackets`: the packet has expired
  | expired (data : Packet)
  deriving DecidableEq, Repr

/-- What an atomic action shows. -/
inductive Event where
  | receive (data : Packet)
  | timer
  | clock (nowTime : ℤ)
  | flush (nowTime : ℤ) (deleted : List Packet)
  | enqueue (data : Packet) (enqueued : Bool)
  | addToken (added : Bool)
  | dequeue (data : Option Packet)
  | check (data : Packet) (valid : Bool)
  | send (data : Packet)
  | refund (data : Packet) (added : Bool)
  deriving DecidableEq, Repr

/-- The atomic actions of a thread at the bucket of `ac`.  The `delete` after a send
or a refund touches only the thread's own packet and is part of that action. -/
inductive Act (ac : AccessCategory) : Actions Shared Local Event
  -- `receive`, `new DATA()` and `ParseFromString`; the bucket is that of `priority`.
  | receive {s : Shared} (data : DATA) (hac : data.priority = ac) :
      Act ac s .idle (.receive ⟨s.created, data⟩)
        { s with created := s.created + 1 } (.received ⟨s.created, data⟩)
  | receiveClock {s : Shared} {p : Packet} (nowTime : ℤ) :
      Act ac s (.received p) (.clock nowTime) s (.receiveFlush p nowTime)
  | receiveFlush {s : Shared} {p : Packet} {nowTime : ℤ} {b : LeakyBucket Packet}
      {deleted : List (ℤ × Packet)} (h : s.bucket.flushQueue nowTime false = (b, deleted)) :
      Act ac s (.receiveFlush p nowTime) (.flush nowTime (deleted.map Prod.snd))
        { s with bucket := b } (.receiveEnqueue p)
  -- A refused packet is dropped: the iteration ends.
  | enqueue {s : Shared} {p : Packet} {b : LeakyBucket Packet} {enqueued : Bool}
      (h : s.bucket.enqueue p p.validuntil = (b, enqueued)) :
      Act ac s (.receiveEnqueue p) (.enqueue p enqueued)
        { s with bucket := b } (if enqueued then .drain else .idle)
  -- The timer handler `addToken` starts, not aborted.
  | timer {s : Shared} : Act ac s .idle .timer s .token
  | tokenClock {s : Shared} (nowTime : ℤ) :
      Act ac s .token (.clock nowTime) s (.tokenFlush nowTime)
  | tokenFlush {s : Shared} {nowTime : ℤ} {b : LeakyBucket Packet}
      {deleted : List (ℤ × Packet)} (h : s.bucket.flushQueue nowTime false = (b, deleted)) :
      Act ac s (.tokenFlush nowTime) (.flush nowTime (deleted.map Prod.snd))
        { s with bucket := b } .tokenIncrement
  -- The result of `increment` is not looked at.
  | addToken {s : Shared} {b : LeakyBucket Packet} {added : Bool}
      (h : s.bucket.increment = (b, added)) :
      Act ac s .tokenIncrement (.addToken added) { s with bucket := b } .drain
  | dequeue {s : Shared} {b : LeakyBucket Packet} {p : Packet}
      (h : s.bucket.dequeue = (b, some p)) :
      Act ac s .drain (.dequeue (some p)) { s with bucket := b } (.dequeued p)
  -- The loop ends when `dequeue` returns NULL.
  | drained {s : Shared} {b : LeakyBucket Packet} (h : s.bucket.dequeue = (b, none)) :
      Act ac s .drain (.dequeue none) { s with bucket := b } .idle
  | drainClock {s : Shared} {p : Packet} (nowTime : ℤ) :
      Act ac s (.dequeued p) (.clock nowTime) s (.checking p nowTime)
  -- `data->validuntil() >= nowTime`
  | valid {s : Shared} {p : Packet} {nowTime : ℤ} (h : nowTime ≤ p.validuntil) :
      Act ac s (.checking p nowTime) (.check p true) s (.sending p)
  | outdated {s : Shared} {p : Packet} {nowTime : ℤ} (h : ¬nowTime ≤ p.validuntil) :
      Act ac s (.checking p nowTime) (.check p false) s (.expired p)
  -- `sendWithGeoNet`, then `delete`.
  | send {s : Shared} {p : Packet} : Act ac s (.sending p) (.send p) s .drain
  -- `increment` undoes the decrement of `dequeue`, then `delete`.
  | refund {s : Shared} {p : Packet} {b : LeakyBucket Packet} {added : Bool}
      (h : s.bucket.increment = (b, added)) :
      Act ac s (.expired p) (.refund p added) { s with bucket := b } .drain

/-- The start: a new bucket and every thread between two iterations. -/
def start (Tid : Type*) (bucketSize queueSize : ℕ) : Config Tid Shared Local where
  shared := { bucket := .new bucketSize queueSize, created := 0 }
  locals := fun _ => .idle

/-! ## Reading a trace -/

def Event.accepted : Event → List Packet
  | .enqueue p true => [p]
  | _ => []

def Event.refused : Event → List Packet
  | .enqueue p false => [p]
  | _ => []

def Event.dequeued : Event → List Packet
  | .dequeue (some p) => [p]
  | _ => []

def Event.sent : Event → List Packet
  | .send p => [p]
  | _ => []

/-- The packets discarded as expired, by `flushQueue` or after `dequeue`. -/
def Event.discarded : Event → List Packet
  | .flush _ deleted => deleted
  | .refund p _ => [p]
  | _ => []

def Event.received : Event → List Packet
  | .receive p => [p]
  | _ => []

/-- The packet in the hand of a draining thread. -/
def Local.hand : Local → List Packet
  | .dequeued p | .checking p _ | .sending p | .expired p => [p]
  | _ => []

/-- The packet of a receive iteration that was not offered to `enqueue` yet. -/
def Local.pending : Local → List Packet
  | .received p | .receiveFlush p _ | .receiveEnqueue p => [p]
  | _ => []

/-- The thread is inside `sendQueuedPackets`, or at the call of it that follows its
`enqueue` or `increment`. -/
def Local.inSendQueuedPackets : Local → Prop
  | .drain | .dequeued _ | .checking _ _ | .sending _ | .expired _ => True
  | _ => False

/-- The `increment` of `addToken` succeeded: one more permission to send. -/
def Event.added : Event → ℕ
  | .addToken added => added.toNat
  | _ => 0

/-! ## A sample run

The timer thread adds a token while a packet is being received, and the receive
thread sends the packet with it. -/

def samplePacket : Packet := ⟨0, ⟨7, .CAM, .AC_BE, some 10, []⟩⟩

def sampleTrace : Trace (Fin 2) Event :=
  [(0, .timer), (0, .clock 4), (0, .flush 4 []), (1, .receive samplePacket), (1, .clock 5),
    (0, .addToken true), (1, .flush 5 []), (0, .dequeue none), (1, .enqueue samplePacket true),
    (1, .dequeue (some samplePacket)), (1, .clock 7), (1, .check samplePacket true),
    (1, .send samplePacket)]

/-- The sample run, split where the packet is offered to `enqueue`: no thread drains
the queue at that moment. -/
theorem sampleTrace_split : ∃ c, Run (Act .AC_BE) (start (Fin 2) 1 2) (sampleTrace.take 8) c ∧
    (∀ t, ¬(c.locals t).inSendQueuedPackets) ∧ ∃ c', Run (Act .AC_BE) c (sampleTrace.drop 8) c' :=
  ⟨_, Run.nil
    |>.move 0 rfl .timer
    |>.move 0 rfl (.tokenClock 4)
    |>.move 0 rfl (.tokenFlush rfl)
    |>.move 1 rfl (.receive samplePacket.data rfl)
    |>.move 1 rfl (.receiveClock 5)
    |>.move 0 rfl (.addToken rfl)
    |>.move 1 rfl (.receiveFlush rfl)
    |>.move 0 rfl (.drained rfl),
    by rw [Fin.forall_fin_two]; exact ⟨id, id⟩,
    _, Run.nil
    |>.move 1 rfl (.enqueue rfl)
    |>.move 1 rfl (.dequeue rfl)
    |>.move 1 rfl (.drainClock 7)
    |>.move 1 rfl (.valid (by decide))
    |>.move 1 rfl .send⟩

theorem sampleTrace_run : ∃ c, Run (Act .AC_BE) (start (Fin 2) 1 2) sampleTrace c := by
  obtain ⟨c, hbefore, -, c', hafter⟩ := sampleTrace_split
  exact ⟨c', hbefore.append hafter⟩

end OpenC2X.Dcc
