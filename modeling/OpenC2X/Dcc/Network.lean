import OpenC2X.Dcc.Disposal
import OpenC2X.Dcc.Framing
import OpenC2X.Lib.LossyBroadcast
import Mathlib.Algebra.Order.BigOperators.Group.Finset

/-!
# A network of nodes

Every node runs a DCC.  The services of a node publish `DATA` packages for it, threads take
them through the bucket of their access category, and what leaves a bucket goes as a frame
to the sockets of all nodes, the sender's own included.  There `receiveFromHw2` reads frame
after frame and forwards what it finds to the services, except its own messages if the
configuration says so.

Packages and frames get lost, and the sockets also see frames of other protocols.  What the
services exchange is a lossy broadcast of messages cut to the room in the receive buffer
(`network_refines_broadcast`): at no time a message was forwarded at a node more often than
messages with this beginning were published at nodes with the address of its sender, and no
frame ends a DCC.  Where every message fits into the buffer nothing is cut.
-/

namespace OpenC2X.Dcc

open Interleaving SendToHardwareViaMAC

/-! ## The network -/

/-- What a DCC is made with. -/
structure NodeConfig where
  mSenderToHw : SendToHardwareViaMAC
  ignoreOwnMessages : Bool
  bucketSize : AccessCategory → ℕ
  queueSize : AccessCategory → ℕ

/-- The member `mOwnMac` of the sender, which the constructor has normalized. -/
def NodeConfig.ownMac (config : NodeConfig) : String := ether_ntoa config.mSenderToHw.mOwnMac.octets

/-- The DCCs of all nodes, with what is on the way to them. -/
structure Network (N Tid : Type*) where
  mSenderToHw : N → SendToHardwareViaMAC
  /-- The buckets, and the threads that work on them. -/
  threads : N → Config Tid Buckets (AccessCategory × Local)
  /-- The buffer of the receiver. -/
  mPacket : N → PacketBuffer
  /-- Packages that the services published and no thread has received. -/
  published : N → Multiset DATA
  /-- Frames that arrived and were not read. -/
  socket : N → List (List UInt8)
  /-- An exception has ended the process. -/
  terminated : N → Bool

inductive NetworkEvent (N Tid : Type*)
  /-- A service publishes a package. -/
  | publish (n : N) (data : DATA)
  /-- An atomic action of a thread at a bucket. -/
  | act (n : N) (t : Tid) (ac : AccessCategory) (e : Event)
  /-- `receiveFromHw2` reads a frame, with this outcome. -/
  | read (n : N) (outcome : Outcome)
  /-- A frame of another protocol arrives. -/
  | other (n : N)
  /-- A package or a frame is lost. -/
  | lose (n : N)

/-- The packages that an action takes from those published. -/
def Event.taken (e : Event) : List DATA := e.received.map Packet.data

/-- The sender after an action of a thread, and the frames that it handed over. -/
def transmit (s : SendToHardwareViaMAC) (ac : AccessCategory) :
    Event → SendToHardwareViaMAC × List (List UInt8)
  | .send p =>
      let (s, _, frame) := s.sendWithGeoNet p.data.content ac p.data.type
      (s, [frame])
  | _ => (s, [])

/-- A frame that shows another ethertype in a byte that was received. -/
def OtherProtocol (frame : List UInt8) : Prop :=
  12 < frame.length ∧ frame.getD 12 0 ≠ 0x89 ∨ 13 < frame.length ∧ frame.getD 13 0 ≠ 0x47

/-- The constructor of `string` has thrown. -/
def Outcome.throws : Outcome → Bool
  | .lengthError _ => true
  | _ => false

section

variable {N Tid : Type*} [DecidableEq N] [DecidableEq Tid]

inductive NetworkStep : Network N Tid → NetworkEvent N Tid → Network N Tid → Prop
  | publish {net : Network N Tid} (n : N) (data : DATA) :
      NetworkStep net (.publish n data)
        { net with published := Function.update net.published n (data ::ₘ net.published n) }
  -- The frames arrive at all sockets.
  | act {net : Network N Tid} {n : N} {t : Tid} {ac : AccessCategory} {e : Event} {s : Buckets}
      {l : AccessCategory × Local} {rest : Multiset DATA}
      (hrunning : net.terminated n = false) (htaken : net.published n = e.taken + rest)
      (ha : BucketsAct (net.threads n).shared ((net.threads n).locals t) (ac, e) s l) :
      NetworkStep net (.act n t ac e)
        { net with
          mSenderToHw := Function.update net.mSenderToHw n (transmit (net.mSenderToHw n) ac e).1
          threads := Function.update net.threads n
            ⟨s, Function.update (net.threads n).locals t l⟩
          published := Function.update net.published n rest
          socket := fun m => net.socket m ++ (transmit (net.mSenderToHw n) ac e).2 }
  | read {net : Network N Tid} {n : N} {frame : List UInt8} {frames : List (List UInt8)}
      {mPacket : PacketBuffer} {outcome : Outcome} (hrunning : net.terminated n = false)
      (hsocket : net.socket n = frame :: frames)
      (hround : receiveOne (net.mPacket n) frame = (mPacket, outcome)) :
      NetworkStep net (.read n outcome)
        { net with
          mPacket := Function.update net.mPacket n mPacket
          socket := Function.update net.socket n frames
          terminated := Function.update net.terminated n outcome.throws }
  | other {net : Network N Tid} (n : N) {frame : List UInt8} (h : OtherProtocol frame) :
      NetworkStep net (.other n)
        { net with socket := Function.update net.socket n (net.socket n ++ [frame]) }
  | losePackage {net : Network N Tid} {n : N} {data : DATA} {rest : Multiset DATA}
      (h : net.published n = data ::ₘ rest) :
      NetworkStep net (.lose n) { net with published := Function.update net.published n rest }
  | loseFrame {net : Network N Tid} {n : N} {before after : List (List UInt8)}
      {frame : List UInt8} (h : net.socket n = before ++ frame :: after) :
      NetworkStep net (.lose n)
        { net with socket := Function.update net.socket n (before ++ after) }

/-- All nodes are started; the receive buffers hold anything. -/
def networkStart (Tid : Type*) (config : N → NodeConfig) (mPacket : N → PacketBuffer) :
    Network N Tid where
  mSenderToHw := fun n => (config n).mSenderToHw
  threads := fun n => bucketsStart Tid (config n).bucketSize (config n).queueSize
  mPacket := mPacket
  published := fun _ => 0
  socket := fun _ => []
  terminated := fun _ => false

/-! ## Messages -/

/-- What the services exchange. -/
structure Message where
  type : DATA.Kind
  content : List UInt8
  deriving DecidableEq, Repr

/-- What a service publishes as a package. -/
def messageOf (data : DATA) : Message := ⟨data.type, data.content⟩

/-- How long a content can be for the receive buffer to have room for it. -/
def room (type : DATA.Kind) : ℕ := ETHERMTU - (14 + geoHdrLen type)

/-- The receiver reads no more of a frame than its buffer holds. -/
def Message.cut (message : Message) : Message :=
  { message with content := message.content.take (room message.type) }

/-- What arrives of a package. -/
def carried (data : DATA) : Message := (messageOf data).cut

/-- The message of an iteration of `receiveFromHw2` that is forwarded to the services, with
the address of its sender. -/
def forwarded (config : NodeConfig) : Outcome → Option (String × Message)
  | .returned info msg =>
      if config.ignoreOwnMessages && info.mSenderMac = config.ownMac then
        none -- received own message, discarding
      else
        some (info.mSenderMac, ⟨info.mType, msg⟩)
  | _ => none

/-- What the services of the network see. -/
def visible (config : N → NodeConfig) :
    NetworkEvent N Tid → Option (LossyBroadcast.Event String N Message)
  | .publish n data => some (.send (config n).ownMac (messageOf data))
  | .read n outcome =>
      (forwarded (config n) outcome).map fun (mac, message) => .deliver mac n message
  | _ => none

end

/-! ## The threads -/

section

variable {N Tid : Type*} [DecidableEq N] [DecidableEq Tid] {config : N → NodeConfig}
  {mPacket : N → PacketBuffer} {net net' : Network N Tid} {e : NetworkEvent N Tid}
  {tr : List (NetworkEvent N Tid)}

def NetworkEvent.node : NetworkEvent N Tid → N
  | .publish n _ | .act n _ _ _ | .read n _ | .other n | .lose n => n

/-- The packages of the packets that an action shows. -/
def NetworkEvent.shown (items : Event → List Packet) : NetworkEvent N Tid → List DATA
  | .act _ _ _ e => (items e).map Packet.data
  | _ => []

/-- The packages that a service publishes. -/
def NetworkEvent.published : NetworkEvent N Tid → List DATA
  | .publish _ data => [data]
  | _ => []

/-- What an event shows of the threads of a node. -/
def atNode (n : N) : NetworkEvent N Tid → Trace Tid (AccessCategory × Event)
  | .act n' t ac e => if n' = n then [(t, ac, e)] else []
  | _ => []

theorem step_atNode (n : N) (h : NetworkStep net e net') :
    LabelledRun.Run (Step BucketsAct) (net.threads n) (atNode n e) (net'.threads n) := by
  cases h with
  | @act n' t ac e s l rest _ _ ha =>
      simp only [atNode]
      by_cases hn : n' = n
      · subst hn
        rw [Function.update_self, if_pos rfl]
        exact .single (.move ha)
      · rw [Function.update_of_ne (Ne.symm hn), if_neg hn]
        exact .nil
  | _ => exact .nil

/-- What a network does at a node is a run of the threads there. -/
theorem run_atNode (h : LabelledRun.Run NetworkStep (networkStart Tid config mPacket) tr net)
    (n : N) :
    Run BucketsAct (bucketsStart Tid (config n).bucketSize (config n).queueSize)
      (tr.flatMap (atNode n)) (net.threads n) := by
  have hproject := h.project (fun net => net.threads n) (atNode n)
    fun _ _ _ hstep => step_atNode n hstep
  generalize tr.flatMap (atNode n) = threadTrace at hproject ⊢
  generalize net.threads n = c at hproject ⊢
  induction hproject with
  | nil => exact .nil
  | snoc _ hstep ih => exact ih.snoc hstep

/-- The items of the events at a node. -/
def byNode (items : NetworkEvent N Tid → List DATA) (n : N) (e : NetworkEvent N Tid) :
    List DATA :=
  if e.node = n then items e else []

section

variable {items : NetworkEvent N Tid → List DATA} {n : N}

omit [DecidableEq Tid] in
theorem byNode_of_eq (h : e.node = n) : byNode items n e = items e := if_pos h

omit [DecidableEq Tid] in
theorem byNode_of_ne (h : e.node ≠ n) : byNode items n e = [] := if_neg h

omit [DecidableEq Tid] in
theorem byNode_of_nil (h : items e = []) : byNode items n e = [] := by
  rw [byNode, h, ite_self]

end

omit [DecidableEq Tid] in
theorem byNode_shown_eq_collect (items : Event → List Packet) (n : N)
    (tr : List (NetworkEvent N Tid)) :
    tr.flatMap (byNode (NetworkEvent.shown items) n) =
      (collect (fun e => items e.2) (tr.flatMap (atNode n))).map Packet.data := by
  induction tr with
  | nil => rfl
  | cons e tr ih =>
      have hfirst : byNode (NetworkEvent.shown items) n e =
          (collect (fun e => items e.2) (atNode n e)).map Packet.data := by
        cases e with
        | act n' t ac e =>
            by_cases hn : n' = n
            · rw [atNode, if_pos hn, collect_singleton]
              exact byNode_of_eq hn
            · rw [atNode, if_neg hn]
              exact byNode_of_ne hn
        | _ => exact byNode_of_nil rfl
      rw [List.flatMap_cons, List.flatMap_cons, collect_append, List.map_append, ih, hfirst]

/-- What is sent was received before, every packet once. -/
theorem sent_le_received [Fintype Tid] {bucketSize queueSize : AccessCategory → ℕ}
    {threadTrace : Trace Tid (AccessCategory × Event)}
    {c : Config Tid Buckets (AccessCategory × Local)}
    (h : Run BucketsAct (bucketsStart Tid bucketSize queueSize) threadTrace c) :
    (collect (fun e => e.2.sent) threadTrace : Multiset Packet) ≤
      collect (fun e => e.2.received) threadTrace := by
  have hbalance := h.conservation Buckets.queued (fun l => l.2.owned)
    (fun e => (e.2.deleted ++ e.2.refused : List Packet)) (fun e => e.2.received)
    fun _ _ _ _ _ ha => bucketsAct_owned_balance ha
  have hstart : (bucketsStart Tid bucketSize queueSize).shared.queued = 0 := by
    simp [bucketsStart, Buckets.queued]
  have hidle : ∑ t, (((bucketsStart Tid bucketSize queueSize).locals t).2.owned :
      Multiset Packet) = 0 := by
    simp [bucketsStart, Local.owned, Local.pending, Local.hand]
  rw [hstart, hidle, ← coe_collect, ← coe_collect, zero_add, zero_add] at hbalance
  have hparts : (collect (fun e => e.2.deleted ++ e.2.refused) threadTrace : Multiset Packet) =
      collect (fun e => e.2.sent) threadTrace +
        collect (fun e => e.2.discarded ++ e.2.refused) threadTrace := by
    rw [Multiset.coe_add, coe_collect_append]
    simp only [coe_collect, Event.deleted, List.append_assoc]
  calc (collect (fun e => e.2.sent) threadTrace : Multiset Packet)
      ≤ collect (fun e => e.2.deleted ++ e.2.refused) threadTrace := by
        rw [hparts]
        exact Multiset.le_add_right _ _
    _ ≤ collect (fun e => e.2.received) threadTrace := by
        rw [← hbalance]
        exact Multiset.le_add_left _ _

theorem sent_le_taken [Fintype Tid]
    (h : LabelledRun.Run NetworkStep (networkStart Tid config mPacket) tr net) (n : N) :
    (tr.flatMap (byNode (NetworkEvent.shown Event.sent) n) : Multiset DATA) ≤
      tr.flatMap (byNode (NetworkEvent.shown Event.received) n) := by
  rw [byNode_shown_eq_collect, byNode_shown_eq_collect, ← Multiset.map_coe, ← Multiset.map_coe]
  exact Multiset.map_le_map (sent_le_received (run_atNode h n))

theorem step_published (n : N) (h : NetworkStep net e net') :
    net'.published n + (byNode (NetworkEvent.shown Event.received) n e : Multiset DATA) ≤
      net.published n + byNode NetworkEvent.published n e := by
  cases h with
  | publish n' data =>
      dsimp only
      by_cases hn : n' = n
      · subst hn
        have hdata : byNode NetworkEvent.published n' (.publish n' data : NetworkEvent N Tid) =
            [data] := byNode_of_eq rfl
        rw [Function.update_self, byNode_of_nil rfl, hdata, Multiset.coe_nil, add_zero, add_comm,
          Multiset.coe_singleton, Multiset.singleton_add]
      · rw [Function.update_of_ne (Ne.symm hn), byNode_of_nil rfl]
        exact add_le_add_right (Multiset.zero_le _) _
  | @act n' t ac e s l rest _ htaken _ =>
      dsimp only
      by_cases hn : n' = n
      · subst hn
        have hdata : byNode (NetworkEvent.shown Event.received) n' (.act n' t ac e) = e.taken :=
          byNode_of_eq rfl
        rw [Function.update_self, hdata, htaken, add_comm rest]
        exact Multiset.le_add_right _ _
      · have hnone : byNode (NetworkEvent.shown Event.received) n (.act n' t ac e) = [] :=
          byNode_of_ne hn
        rw [Function.update_of_ne (Ne.symm hn), hnone]
        exact add_le_add_right (Multiset.zero_le _) _
  | @losePackage n' data rest hlost =>
      rw [byNode_of_nil rfl, byNode_of_nil rfl, Multiset.coe_nil, add_zero, add_zero]
      dsimp only
      by_cases hn : n' = n
      · subst hn
        rw [Function.update_self, hlost]
        exact Multiset.le_cons_self rest data
      · rw [Function.update_of_ne (Ne.symm hn)]
  | read | other | loseFrame =>
      rw [byNode_of_nil rfl, byNode_of_nil rfl]

/-- What is taken was published before. -/
theorem taken_le_published
    (h : LabelledRun.Run NetworkStep (networkStart Tid config mPacket) tr net) (n : N) :
    (tr.flatMap (byNode (NetworkEvent.shown Event.received) n) : Multiset DATA) ≤
      tr.flatMap (byNode NetworkEvent.published n) := by
  have hall : net.published n + (tr.flatMap (byNode (NetworkEvent.shown Event.received) n) :
      Multiset DATA) ≤ tr.flatMap (byNode NetworkEvent.published n) := by
    refine h.invariant (fun tr net => net.published n +
      (tr.flatMap (byNode (NetworkEvent.shown Event.received) n) : Multiset DATA) ≤
        tr.flatMap (byNode NetworkEvent.published n)) le_rfl ?_
    intro tr net e net' hinv hstep
    rw [List.flatMap_append, List.flatMap_append, List.flatMap_singleton, List.flatMap_singleton,
      ← Multiset.coe_add, ← Multiset.coe_add]
    set taken := (tr.flatMap (byNode (NetworkEvent.shown Event.received) n) : Multiset DATA)
    calc net'.published n + (taken + byNode (NetworkEvent.shown Event.received) n e)
        = (net'.published n + byNode (NetworkEvent.shown Event.received) n e) + taken := by abel
      _ ≤ (net.published n + byNode NetworkEvent.published n e) + taken :=
          add_le_add_left (step_published n hstep) _
      _ = (net.published n + taken) + byNode NetworkEvent.published n e := by abel
      _ ≤ (tr.flatMap (byNode NetworkEvent.published n) : Multiset DATA) +
            byNode NetworkEvent.published n e := add_le_add_left hinv _
  exact le_trans (Multiset.le_add_left _ _) hall

/-- At every node, packages are sent that the services published, each of them once. -/
theorem sent_le_published [Fintype Tid]
    (h : LabelledRun.Run NetworkStep (networkStart Tid config mPacket) tr net) (n : N) :
    (tr.flatMap (byNode (NetworkEvent.shown Event.sent) n) : Multiset DATA) ≤
      tr.flatMap (byNode NetworkEvent.published n) :=
  (sent_le_taken h n).trans (taken_le_published h n)

/-- The messages of the events at nodes with this address. -/
def byMac (config : N → NodeConfig) (mac : String) (items : NetworkEvent N Tid → List DATA)
    (e : NetworkEvent N Tid) : List Message :=
  if (config e.node).ownMac = mac then (items e).map carried else []

omit [DecidableEq Tid] in
theorem count_byMac [Fintype N] (mac : String) (items : NetworkEvent N Tid → List DATA)
    (tr : List (NetworkEvent N Tid)) (message : Message) :
    (tr.flatMap (byMac config mac items)).count message =
      ∑ n, if (config n).ownMac = mac then
        (((tr.flatMap (byNode items n) : Multiset DATA)).map carried).count message else 0 := by
  rw [LabelledRun.count_flatMap_eq_sum NetworkEvent.node (byMac config mac items)]
  apply Finset.sum_congr rfl
  intro n _
  rw [Multiset.map_coe, Multiset.coe_count, List.map_flatMap]
  by_cases hmac : (config n).ownMac = mac
  · rw [if_pos hmac]
    congr 2
    funext e
    unfold byMac byNode
    by_cases hn : e.node = n
    · rw [if_pos hn, if_pos hn, hn, if_pos hmac]
    · rw [if_neg hn, if_neg hn, List.map_nil]
  · rw [if_neg hmac, List.count_eq_zero]
    intro hmem
    obtain ⟨e, -, he⟩ := List.mem_flatMap.mp hmem
    unfold byMac at he
    split at he
    next hn =>
      rw [hn, if_neg hmac] at he
      exact absurd he List.not_mem_nil
    next => exact absurd he List.not_mem_nil

/-- No message is sent from an address more often than it was published there. -/
theorem count_sent_le [Fintype N] [Fintype Tid]
    (h : LabelledRun.Run NetworkStep (networkStart Tid config mPacket) tr net) (mac : String)
    (message : Message) :
    (tr.flatMap (byMac config mac (NetworkEvent.shown Event.sent))).count message ≤
      (tr.flatMap (byMac config mac NetworkEvent.published)).count message := by
  rw [count_byMac, count_byMac]
  apply Finset.sum_le_sum
  intro n _
  split
  · exact Multiset.le_iff_count.mp (Multiset.map_le_map (sent_le_published h n)) message
  · exact le_rfl

/-! ## The frames -/

/-- The message that an iteration of `receiveFromHw2` finds, if its sender has this
address. -/
def Outcome.messages (mac : String) : Outcome → List Message
  | .returned info msg => if info.mSenderMac = mac then [⟨info.mType, msg⟩] else []
  | _ => []

/-- What becomes of a frame with some buffer. -/
def outcomeOf (frame : List UInt8) : Outcome := (receiveOne staleCam frame).2

/-- The messages in frames that were not read. -/
def arrivals (mac : String) (frames : List (List UInt8)) : List Message :=
  frames.flatMap fun frame => (outcomeOf frame).messages mac

/-- The messages that a node has read. -/
def readBy (mac : String) (n : N) : NetworkEvent N Tid → List Message
  | .read n' outcome => if n' = n then outcome.messages mac else []
  | _ => []

/-- The buffer does not matter, and the receiver does not throw. -/
def Harmless (frame : List UInt8) : Prop :=
  (outcomeOf frame).throws = false ∧ ∀ mPacket, (receiveOne mPacket frame).2 = outcomeOf frame

/-- The frames at the sockets are harmless, and the senders keep their addresses. -/
structure FramesInvariant (config : N → NodeConfig) (net : Network N Tid) : Prop where
  harmless : ∀ n, ∀ frame ∈ net.socket n, Harmless frame
  ownMac : ∀ n, (net.mSenderToHw n).mOwnMac = (config n).mSenderToHw.mOwnMac
  running : ∀ n, net.terminated n = false

theorem outcomeOf_other {frame : List UInt8} (h : OtherProtocol frame) :
    outcomeOf frame = .skipped := receiveOne_skipped staleCam h

theorem harmless_other {frame : List UInt8} (h : OtherProtocol frame) : Harmless frame := by
  rw [Harmless, outcomeOf_other h]
  exact ⟨rfl, fun mPacket => receiveOne_skipped mPacket h⟩

theorem outcomeOf_sent (s : SendToHardwareViaMAC) (data : DATA) (ac : AccessCategory) :
    outcomeOf (s.sendWithGeoNet data.content ac data.type).2.2 =
      .returned ⟨ether_ntoa s.mOwnMac.octets, data.type⟩ (carried data).content :=
  receiveOne_sendWithGeoNet s data.type data.content ac staleCam

theorem harmless_sent (s : SendToHardwareViaMAC) (data : DATA) (ac : AccessCategory) :
    Harmless (s.sendWithGeoNet data.content ac data.type).2.2 := by
  rw [Harmless, outcomeOf_sent]
  exact ⟨rfl, receiveOne_sendWithGeoNet s data.type data.content ac⟩

theorem mOwnMac_transmit (s : SendToHardwareViaMAC) (ac : AccessCategory) (e : Event) :
    (transmit s ac e).1.mOwnMac = s.mOwnMac := by
  cases e with
  | send p =>
      show (s.fillHeader p.data.type _).mOwnMac = _
      cases p.data.type <;> rfl
  | _ => rfl

/-- The frames that an action hands over carry the packages it sends. -/
theorem arrivals_transmit (mac : String) (s : SendToHardwareViaMAC) (ac : AccessCategory)
    (e : Event) :
    arrivals mac (transmit s ac e).2 =
      if ether_ntoa s.mOwnMac.octets = mac then (e.sent.map Packet.data).map carried else [] := by
  cases e with
  | send p =>
      show arrivals mac [(s.sendWithGeoNet p.data.content ac p.data.type).2.2] = _
      rw [arrivals, List.flatMap_singleton, outcomeOf_sent, Outcome.messages]
      rfl
  | _ => exact (ite_self _).symm

theorem harmless_transmit (s : SendToHardwareViaMAC) (ac : AccessCategory) (e : Event) :
    ∀ frame ∈ (transmit s ac e).2, Harmless frame := by
  cases e with
  | send p =>
      intro frame hframe
      rw [List.mem_singleton.mp hframe]
      exact harmless_sent _ p.data ac
  | _ => exact fun _ hframe => absurd hframe List.not_mem_nil

omit [DecidableEq Tid] in
/-- Frames that replace those of one socket. -/
theorem harmless_update {n : N} {frames : List (List UInt8)}
    (hinv : ∀ m, ∀ frame ∈ net.socket m, Harmless frame) (h : ∀ frame ∈ frames, Harmless frame) :
    ∀ m, ∀ frame ∈ Function.update net.socket n frames m, Harmless frame := by
  intro m
  by_cases hm : m = n
  · subst hm
    rw [Function.update_self]
    exact h
  · rw [Function.update_of_ne hm]
    exact hinv m

theorem step_framesInvariant (hinv : FramesInvariant config net) (h : NetworkStep net e net') :
    FramesInvariant config net' := by
  obtain ⟨hharmless, hmac, hrunning⟩ := hinv
  cases h with
  | publish | losePackage => exact ⟨hharmless, hmac, hrunning⟩
  | @act n t ac e s l rest _ _ _ =>
      refine ⟨fun m frame hframe => ?_, fun m => ?_, hrunning⟩
      · rcases List.mem_append.mp hframe with hold | hnew
        · exact hharmless m frame hold
        · exact harmless_transmit (net.mSenderToHw n) ac e frame hnew
      · dsimp only
        by_cases hm : m = n
        · subst hm
          rw [Function.update_self, mOwnMac_transmit, hmac]
        · rw [Function.update_of_ne hm, hmac]
  | @read n frame frames mPacket outcome _ hsocket hround =>
      have hold := hharmless n
      rw [hsocket, List.forall_mem_cons] at hold
      obtain ⟨⟨hthrows, hframe⟩, hframes⟩ := hold
      refine ⟨harmless_update hharmless hframes, hmac, fun m => ?_⟩
      dsimp only
      by_cases hm : m = n
      · subst hm
        rw [Function.update_self, ← hthrows, ← hframe (net.mPacket m), hround]
      · rw [Function.update_of_ne hm, hrunning]
  | @other n frame hother =>
      refine ⟨harmless_update hharmless fun f hf => ?_, hmac, hrunning⟩
      rcases List.mem_append.mp hf with hold | hnew
      · exact hharmless n f hold
      · rw [List.mem_singleton.mp hnew]
        exact harmless_other hother
  | @loseFrame n before after frame hlost =>
      refine ⟨harmless_update hharmless fun f hf => ?_, hmac, hrunning⟩
      apply hharmless n f
      rw [hlost]
      rcases List.mem_append.mp hf with hbefore | hafter
      · exact List.mem_append_left _ hbefore
      · exact List.mem_append_right _ (List.mem_cons_of_mem frame hafter)

theorem framesInvariant
    (h : LabelledRun.Run NetworkStep (networkStart Tid config mPacket) tr net) :
    FramesInvariant config net :=
  h.invariant (fun _ net => FramesInvariant config net)
    ⟨fun _ _ hframe => absurd hframe List.not_mem_nil, fun _ => rfl, fun _ => rfl⟩
    fun _ _ _ _ hinv hstep => step_framesInvariant hinv hstep

@[simp] theorem arrivals_append (mac : String) (frames frames' : List (List UInt8)) :
    arrivals mac (frames ++ frames') = arrivals mac frames ++ arrivals mac frames' :=
  List.flatMap_append

theorem arrivals_other {frame : List UInt8} (mac : String) (h : OtherProtocol frame) :
    arrivals mac [frame] = [] := by
  rw [arrivals, List.flatMap_singleton, outcomeOf_other h]
  rfl

theorem arrivals_sublist {frames frames' : List (List UInt8)} (mac : String)
    (h : frames.Sublist frames') : (arrivals mac frames).Sublist (arrivals mac frames') := by
  induction h with
  | slnil => exact List.Sublist.refl _
  | cons frame _ ih => exact ih.trans (List.sublist_append_right _ _)
  | cons_cons frame _ ih => exact (List.append_sublist_append_left _).mpr ih

/-- A message that is read was in a frame, and comes into a frame by being sent. -/
theorem step_arrivals (hinv : FramesInvariant config net) (h : NetworkStep net e net')
    (mac : String) (n : N) (message : Message) :
    (arrivals mac (net'.socket n)).count message + (readBy mac n e).count message ≤
      (arrivals mac (net.socket n)).count message +
        (byMac config mac (NetworkEvent.shown Event.sent) e).count message := by
  cases h with
  | publish | losePackage => exact Nat.add_le_add_left (Nat.zero_le _) _
  | @act n' t ac e s l rest _ _ _ =>
      have hown : ether_ntoa (net.mSenderToHw n').mOwnMac.octets = (config n').ownMac := by
        rw [hinv.ownMac n']
        rfl
      have hsent : byMac config mac (NetworkEvent.shown Event.sent)
          (.act n' t ac e : NetworkEvent N Tid) =
            arrivals mac (transmit (net.mSenderToHw n') ac e).2 := by
        rw [arrivals_transmit, hown]
        rfl
      show (arrivals mac (net.socket n ++ _)).count message + 0 ≤ _
      rw [arrivals_append, List.count_append, hsent, Nat.add_zero]
  | @read n' frame frames mPacket outcome _ hsocket hround =>
      have hframe : Harmless frame := hinv.harmless n' frame (hsocket ▸ List.mem_cons_self)
      have houtcome : outcome = outcomeOf frame := by
        rw [← hframe.2 (net.mPacket n'), hround]
      show (arrivals mac (Function.update net.socket n' frames n)).count message +
        (if n' = n then outcome.messages mac else []).count message ≤ _
      refine le_trans ?_ (Nat.le_add_right _ _)
      by_cases hn : n' = n
      · subst hn
        rw [Function.update_self, if_pos rfl, hsocket, houtcome, arrivals, arrivals,
          List.flatMap_cons, List.count_append, Nat.add_comm]
      · rw [Function.update_of_ne (Ne.symm hn), if_neg hn, List.count_nil, Nat.add_zero]
  | @other n' frame hother =>
      refine le_trans ?_ (Nat.le_add_right _ _)
      show (arrivals mac (Function.update net.socket n' _ n)).count message + 0 ≤ _
      by_cases hn : n' = n
      · subst hn
        rw [Function.update_self, arrivals_append, arrivals_other mac hother, List.append_nil,
          Nat.add_zero]
      · rw [Function.update_of_ne (Ne.symm hn), Nat.add_zero]
  | @loseFrame n' before after frame hlost =>
      refine le_trans ?_ (Nat.le_add_right _ _)
      show (arrivals mac (Function.update net.socket n' _ n)).count message + 0 ≤ _
      by_cases hn : n' = n
      · subst hn
        rw [Function.update_self, hlost, Nat.add_zero]
        refine (arrivals_sublist mac ?_).count_le message
        exact (List.append_sublist_append_left _).mpr (List.sublist_cons_self frame after)
      · rw [Function.update_of_ne (Ne.symm hn), Nat.add_zero]

/-- What a node reads from an address was sent from there. -/
theorem count_read_le
    (h : LabelledRun.Run NetworkStep (networkStart Tid config mPacket) tr net) (mac : String)
    (n : N) (message : Message) :
    (tr.flatMap (readBy mac n)).count message ≤
      (tr.flatMap (byMac config mac (NetworkEvent.shown Event.sent))).count message := by
  have hall : FramesInvariant config net ∧
      (arrivals mac (net.socket n)).count message + (tr.flatMap (readBy mac n)).count message ≤
        (tr.flatMap (byMac config mac (NetworkEvent.shown Event.sent))).count message := by
    refine h.invariant (fun tr net => FramesInvariant config net ∧
      (arrivals mac (net.socket n)).count message + (tr.flatMap (readBy mac n)).count message ≤
        (tr.flatMap (byMac config mac (NetworkEvent.shown Event.sent))).count message)
      ⟨framesInvariant .nil, le_rfl⟩ ?_
    rintro tr net e net' ⟨hframes, hcount⟩ hstep
    have hone := step_arrivals hframes hstep mac n message
    refine ⟨step_framesInvariant hframes hstep, ?_⟩
    rw [List.flatMap_append, List.flatMap_append, List.flatMap_singleton, List.flatMap_singleton,
      List.count_append, List.count_append]
    omega
  omega

/-! ## The broadcast -/

theorem forwarded_eq_some {config : NodeConfig} {outcome : Outcome} {mac : String}
    {message : Message} (h : forwarded config outcome = some (mac, message)) :
    outcome = .returned ⟨mac, message.type⟩ message.content ∧
      (config.ignoreOwnMessages = true → mac ≠ config.ownMac) := by
  unfold forwarded at h
  split at h
  next info msg =>
    split at h
    next => cases h
    next hother =>
      cases h
      refine ⟨rfl, fun hignore hown => hother ?_⟩
      rw [hignore, hown]
      simp
  next => cases h

/-- What the services see, with the messages as they are on the way. -/
def transported (config : N → NodeConfig) (e : NetworkEvent N Tid) :
    Option (LossyBroadcast.Event String N Message) :=
  (visible config e).map (.carry Message.cut)

omit [DecidableEq N] [DecidableEq Tid] in
theorem transported_read (n : N) (outcome : Outcome) :
    transported config (.read n outcome : NetworkEvent N Tid) =
      (forwarded (config n) outcome).map fun (mac, message) => .deliver mac n message := by
  rw [transported, visible, Option.map_map]
  rfl

omit [DecidableEq N] [DecidableEq Tid] in
theorem of_transported_read {n : N} {outcome : Outcome}
    {shown : LossyBroadcast.Event String N Message}
    (h : transported config (.read n outcome : NetworkEvent N Tid) = some shown) :
    ∃ mac message, forwarded (config n) outcome = some (mac, message) ∧
      .deliver mac n message = shown := by
  rw [transported_read] at h
  obtain ⟨⟨mac, message⟩, hforwarded, heq⟩ := Option.map_eq_some_iff.mp h
  exact ⟨mac, message, hforwarded, heq⟩

omit [DecidableEq N] [DecidableEq Tid] in
theorem filterMap_transported (tr : List (NetworkEvent N Tid)) :
    tr.filterMap (transported config) = (tr.filterMap (visible config)).map (.carry Message.cut) :=
  List.map_filterMap.symm

omit [DecidableEq N] [DecidableEq Tid] in
/-- The packages published are the messages that the broadcast sends. -/
theorem sent_transported (mac : String) (tr : List (NetworkEvent N Tid)) :
    LossyBroadcast.sent mac (tr.filterMap (transported config)) =
      tr.flatMap (byMac config mac NetworkEvent.published) := by
  induction tr with
  | nil => rfl
  | cons e tr ih =>
      have hnone : ∀ e : NetworkEvent N Tid, e.published = [] →
          byMac config mac NetworkEvent.published e = [] := by
        intro e he
        rw [byMac, he, List.map_nil, ite_self]
      rw [List.flatMap_cons, ← ih]
      cases htransported : transported config e with
      | none =>
          rw [List.filterMap_cons_none htransported]
          cases e with
          | publish n data => cases htransported
          | _ => rw [hnone _ rfl, List.nil_append]
      | some shown =>
          rw [List.filterMap_cons_some htransported, ← List.singleton_append,
            LossyBroadcast.sent_append, LossyBroadcast.sent_singleton]
          congr 1
          cases e with
          | publish n data =>
              obtain rfl := Option.some.inj htransported
              rfl
          | read n outcome =>
              obtain ⟨mac', message, -, rfl⟩ := of_transported_read htransported
              rw [hnone _ rfl]
              rfl
          | _ => cases htransported

omit [DecidableEq Tid] in
/-- What the broadcast delivers was read. -/
theorem delivered_transported (mac : String) (n : N) (tr : List (NetworkEvent N Tid)) :
    (LossyBroadcast.delivered mac n (tr.filterMap (transported config))).Sublist
      (tr.flatMap (readBy mac n)) := by
  induction tr with
  | nil => exact List.Sublist.refl _
  | cons e tr ih =>
      rw [List.flatMap_cons]
      cases htransported : transported config e with
      | none =>
          rw [List.filterMap_cons_none htransported]
          exact ih.trans (List.sublist_append_right _ _)
      | some shown =>
          rw [List.filterMap_cons_some htransported, ← List.singleton_append,
            LossyBroadcast.delivered_append, LossyBroadcast.delivered_singleton]
          refine List.Sublist.append ?_ ih
          cases e with
          | publish n' data =>
              obtain rfl := Option.some.inj htransported
              exact List.nil_sublist _
          | read n' outcome =>
              obtain ⟨mac', message, hforwarded, rfl⟩ := of_transported_read htransported
              obtain ⟨rfl, -⟩ := forwarded_eq_some hforwarded
              simp only [LossyBroadcast.Event.delivered, readBy, Outcome.messages]
              by_cases hn : n' = n
              · subst hn
                rw [if_pos rfl]
                by_cases hmac : mac' = mac
                · rw [if_pos ⟨hmac, rfl⟩, if_pos hmac]
                · rw [if_neg (fun heq => hmac heq.1), if_neg hmac]
              · rw [if_neg (fun heq => hn heq.2), if_neg hn]
          | _ => cases htransported

theorem transported_covered [Fintype N] [Fintype Tid]
    (h : LabelledRun.Run NetworkStep (networkStart Tid config mPacket) tr net) :
    LossyBroadcast.Covered (tr.filterMap (transported config)) := by
  intro mac n message
  calc (LossyBroadcast.delivered mac n (tr.filterMap (transported config))).count message
      ≤ (tr.flatMap (readBy mac n)).count message :=
        (delivered_transported mac n tr).count_le message
    _ ≤ (tr.flatMap (byMac config mac (NetworkEvent.shown Event.sent))).count message :=
        count_read_le h mac n message
    _ ≤ (tr.flatMap (byMac config mac NetworkEvent.published)).count message :=
        count_sent_le h mac message
    _ = (LossyBroadcast.sent mac (tr.filterMap (transported config))).count message := by
        rw [sent_transported]

theorem transported_accepted [Fintype N] [Fintype Tid]
    (h : LabelledRun.Run NetworkStep (networkStart Tid config mPacket) tr net) :
    LossyBroadcast.Accepts (tr.filterMap (transported config)) := by
  rw [LossyBroadcast.accepts_iff]
  intro before after heq
  obtain ⟨tr₁, tr₂, rfl, rfl, -⟩ := List.filterMap_eq_append_iff.mp heq
  obtain ⟨net₁, hbefore, -⟩ := h.split
  exact transported_covered hbefore

/-- What arrives of a content for which there is room is all of it. -/
theorem cut_messageOf {data : DATA} (h : data.content.length ≤ room data.type) :
    (messageOf data).cut = messageOf data := by
  rw [Message.cut, messageOf, List.take_of_length_le h]

omit [DecidableEq N] [DecidableEq Tid] in
theorem map_carry_visible
    (hroom : ∀ n data, .publish n data ∈ tr → data.content.length ≤ room data.type) :
    (tr.filterMap (visible config)).map (.carry Message.cut) = tr.filterMap (visible config) := by
  apply LossyBroadcast.map_carry_eq_self
  intro address message hsend
  obtain ⟨e, hmem, he⟩ := List.mem_filterMap.mp hsend
  cases e with
  | publish n data =>
      cases he
      exact cut_messageOf (hroom n data hmem)
  | read n outcome =>
      obtain ⟨_, -, hdeliver⟩ := Option.map_eq_some_iff.mp he
      cases hdeliver
  | _ => cases he

/-- **A lossy broadcast.**  However the nodes are interleaved, and whatever is lost, the
services see a lossy broadcast, of messages that are cut to the room in the receive buffer.
Nothing is cut if every content published fits, and no DCC is ended by a frame. -/
theorem network_refines_broadcast [Fintype N] [Fintype Tid]
    (h : LabelledRun.Run NetworkStep (networkStart Tid config mPacket) tr net) :
    LossyBroadcast.Accepts ((tr.filterMap (visible config)).map (.carry Message.cut)) ∧
      ((∀ n data, .publish n data ∈ tr → data.content.length ≤ room data.type) →
        LossyBroadcast.Accepts (tr.filterMap (visible config))) ∧
      ∀ n, net.terminated n = false := by
  have haccepted := transported_accepted h
  rw [filterMap_transported] at haccepted
  refine ⟨haccepted, fun hroom => ?_, (framesInvariant h).running⟩
  rw [map_carry_visible hroom] at haccepted
  exact haccepted

/-! ## What a node hears -/

/-- The nodes whose messages a node forwards to its services. -/
def heard [Fintype N] (config : N → NodeConfig) (n : N) : Finset N :=
  Finset.univ.filter fun m =>
    (config n).ignoreOwnMessages = true → (config m).ownMac ≠ (config n).ownMac

/-- The messages that a node forwards to its services. -/
def forwardedTo (config : N → NodeConfig) (n : N) : NetworkEvent N Tid → List Message
  | .read n' outcome =>
      if n' = n then ((forwarded (config n) outcome).map Prod.snd).toList else []
  | _ => []

omit [DecidableEq Tid] in
theorem received_transported (n : N) (tr : List (NetworkEvent N Tid)) :
    LossyBroadcast.received n (tr.filterMap (transported config)) =
      tr.flatMap (forwardedTo config n) := by
  induction tr with
  | nil => rfl
  | cons e tr ih =>
      rw [List.flatMap_cons, ← ih]
      cases htransported : transported config e with
      | none =>
          rw [List.filterMap_cons_none htransported]
          cases e with
          | read n' outcome =>
              have hnone : forwarded (config n') outcome = none :=
                Option.map_eq_none_iff.mp ((transported_read _ _).symm.trans htransported)
              rw [forwardedTo]
              by_cases hn : n' = n
              · subst hn
                rw [if_pos rfl, hnone]
                rfl
              · rw [if_neg hn]
                rfl
          | _ => rfl
      | some shown =>
          rw [List.filterMap_cons_some htransported, LossyBroadcast.received, List.flatMap_cons]
          congr 1
          cases e with
          | publish n' data =>
              obtain rfl := Option.some.inj htransported
              rfl
          | read n' outcome =>
              obtain ⟨mac, message, hforwarded, rfl⟩ := of_transported_read htransported
              simp only [LossyBroadcast.Event.received, forwardedTo]
              by_cases hn : n' = n
              · subst hn
                rw [if_pos rfl, if_pos rfl, hforwarded]
                rfl
              · rw [if_neg hn, if_neg hn]
          | _ => cases htransported

/-- A message that is forwarded comes from a node that is heard. -/
theorem deliver_heard [Fintype N] [Fintype Tid]
    (h : LabelledRun.Run NetworkStep (networkStart Tid config mPacket) tr net) {n : N}
    {mac : String} {message : Message}
    (hdeliver : .deliver mac n message ∈ tr.filterMap (transported config)) :
    ∃ m ∈ heard config n, (config m).ownMac = mac := by
  have hsent : message ∈ LossyBroadcast.sent mac (tr.filterMap (transported config)) := by
    apply List.count_pos_iff.mp
    apply lt_of_lt_of_le ?_ (transported_covered h mac n message)
    apply List.count_pos_iff.mpr
    apply List.mem_flatMap.mpr
    exact ⟨_, hdeliver, by simp [LossyBroadcast.Event.delivered]⟩
  obtain ⟨e, -, he⟩ := List.mem_filterMap.mp hdeliver
  have hmac : (config n).ignoreOwnMessages = true → mac ≠ (config n).ownMac := by
    cases e with
    | read n' outcome =>
        obtain ⟨mac', message', hforwarded, heq⟩ := of_transported_read he
        cases heq
        exact (forwarded_eq_some hforwarded).2
    | publish => cases he
    | _ => cases he
  rw [sent_transported] at hsent
  obtain ⟨e, -, he⟩ := List.mem_flatMap.mp hsent
  unfold byMac at he
  split at he
  next hown =>
    refine ⟨e.node, ?_, hown⟩
    rw [heard, Finset.mem_filter, hown]
    exact ⟨Finset.mem_univ _, hmac⟩
  next => exact absurd he List.not_mem_nil

/-- No message is forwarded at a node more often than it was published at the nodes heard
there. -/
theorem forwarded_le [Fintype N] [Fintype Tid]
    (h : LabelledRun.Run NetworkStep (networkStart Tid config mPacket) tr net) (n : N) :
    (tr.flatMap (forwardedTo config n) : Multiset Message) ≤
      ∑ m ∈ heard config n,
        (tr.flatMap (byNode NetworkEvent.published m) : Multiset DATA).map carried := by
  rw [Multiset.le_iff_count]
  intro message
  have hheard : ∀ m, (config m).ownMac ∈ (heard config n).image (fun m => (config m).ownMac) ↔
      m ∈ heard config n := by
    intro m
    rw [Finset.mem_image]
    constructor
    · rintro ⟨m', hm', hmac⟩
      rw [heard, Finset.mem_filter, hmac] at hm'
      rw [heard, Finset.mem_filter]
      exact ⟨Finset.mem_univ _, hm'.2⟩
    · intro hm
      exact ⟨m, hm, rfl⟩
  set published := fun m : N =>
    ((tr.flatMap (byNode NetworkEvent.published m) : Multiset DATA).map carried).count message
  have haddresses : ∀ mac message, .deliver mac n message ∈ tr.filterMap (transported config) →
      mac ∈ (heard config n).image fun m => (config m).ownMac := fun mac message hdeliver =>
    Finset.mem_image.mpr (deliver_heard h hdeliver)
  have hcount := LossyBroadcast.count_received_le (transported_covered h) haddresses message
  rw [received_transported, ← Multiset.coe_count] at hcount
  calc (tr.flatMap (forwardedTo config n) : Multiset Message).count message
      ≤ ∑ mac ∈ (heard config n).image fun m => (config m).ownMac,
          (LossyBroadcast.sent mac (tr.filterMap (transported config))).count message := hcount
    _ = ∑ mac ∈ (heard config n).image fun m => (config m).ownMac,
          ∑ m, if (config m).ownMac = mac then published m else 0 := by
        refine Finset.sum_congr rfl fun mac _ => ?_
        rw [sent_transported, count_byMac]
    _ = ∑ m, if (config m).ownMac ∈ (heard config n).image (fun m => (config m).ownMac)
          then published m else 0 := by
        rw [Finset.sum_comm]
        exact Finset.sum_congr rfl fun m _ => Finset.sum_ite_eq _ _ _
    _ = ∑ m ∈ heard config n, published m := by
        simp only [hheard]
        rw [Finset.sum_ite_mem, Finset.univ_inter]
    _ = (∑ m ∈ heard config n,
          (tr.flatMap (byNode NetworkEvent.published m) : Multiset DATA).map carried).count
            message := by rw [Multiset.count_sum']

end

/-! ### Two nodes -/

/-- Two nodes that ignore their own messages. -/
def twoNodes (second : Bool) : NodeConfig where
  mSenderToHw :=
    .new ⟨[0x00, 0x0d, 0xb9, 0x21, 0x43, if second then 0x66 else 0x65], rfl⟩
      sampleNode.mGeoBtpHdrForCam sampleNode.mGeoBtpHdrForDenm
  ignoreOwnMessages := true
  bucketSize _ := 1
  queueSize _ := 2

/-- The frame with a package of the first node. -/
def frameOf (data : DATA) : List UInt8 :=
  ((twoNodes false).mSenderToHw.sendWithGeoNet data.content .AC_BE data.type).2.2

/-- The first node has published a package. -/
def published (data : DATA) : Network Bool Unit :=
  { networkStart Unit twoNodes fun _ => staleCam with
    published := Function.update (fun _ => 0) false (data ::ₘ 0) }

/-- The package is sent, and read by both nodes. -/
def transitTrace (data : DATA) : List (NetworkEvent Bool Unit) :=
  ([.timer, .clock 4, .flush 4 [], .addToken true, .dequeue none, .receive ⟨0, data⟩, .clock 5,
    .flush 5 [], .enqueue ⟨0, data⟩ true, .dequeue (some ⟨0, data⟩), .clock 6,
    .check ⟨0, data⟩ true, .send ⟨0, data⟩].map fun e => .act false () .AC_BE e) ++
  [.read true (outcomeOf (frameOf data)), .read false (outcomeOf (frameOf data))]

set_option maxRecDepth 4000 in
theorem transitTrace_run {data : DATA} (hpriority : data.priority = .AC_BE)
    (hvalid : 6 ≤ data.validuntil) :
    ∃ net, LabelledRun.Run NetworkStep (published data) (transitTrace data) net :=
  have hround : ∀ mPacket, receiveOne mPacket (frameOf data) =
      ((receiveOne mPacket (frameOf data)).1, outcomeOf (frameOf data)) := fun mPacket =>
    Prod.ext rfl ((harmless_sent _ data .AC_BE).2 mPacket)
  ⟨_, LabelledRun.Run.nil
    |>.snoc (.act rfl (zero_add _).symm (.act (.inl rfl) .timer))
    |>.snoc (.act rfl (zero_add _).symm (.act (.inr rfl) (.tokenClock 4)))
    |>.snoc (.act rfl (zero_add _).symm (.act (.inr rfl) (.tokenFlush rfl)))
    |>.snoc (.act rfl (zero_add _).symm (.act (.inr rfl) (.addToken rfl)))
    |>.snoc (.act rfl (zero_add _).symm (.act (.inr rfl) (.drained rfl)))
    |>.snoc (.act rfl (add_zero _).symm (.act (.inl rfl) (.receive data hpriority)))
    |>.snoc (.act rfl (zero_add _).symm (.act (.inr rfl) (.receiveClock 5)))
    |>.snoc (.act rfl (zero_add _).symm (.act (.inr rfl) (.receiveFlush rfl)))
    |>.snoc (.act rfl (zero_add _).symm (.act (.inr rfl) (.enqueue rfl)))
    |>.snoc (.act rfl (zero_add _).symm (.act (.inr rfl) (.dequeue rfl)))
    |>.snoc (.act rfl (zero_add _).symm (.act (.inr rfl) (.drainClock 6)))
    |>.snoc (.act rfl (zero_add _).symm (.act (.inr rfl) (.valid hvalid)))
    |>.snoc (.act rfl (zero_add _).symm (.act (.inr rfl) .send))
    |>.snoc (.read rfl rfl (hround _))
    |>.snoc (.read rfl rfl (hround _))⟩

theorem published_transitTrace (data : DATA) : ∀ e ∈ transitTrace data, e.published = [] := by
  intro e he
  have hkind : (transitTrace data).all fun e => e.published.isEmpty := rfl
  exact List.isEmpty_iff.mp (List.all_eq_true.mp hkind e he)

/-- The message reaches the second node, and the first one ignores it. -/
theorem forwarded_frameOf (data : DATA) :
    forwarded (twoNodes true) (outcomeOf (frameOf data)) =
        some ((twoNodes false).ownMac, carried data) ∧
      forwarded (twoNodes false) (outcomeOf (frameOf data)) = none := by
  have houtcome : outcomeOf (frameOf data) =
      .returned ⟨(twoNodes false).ownMac, data.type⟩ (carried data).content :=
    outcomeOf_sent _ data .AC_BE
  have hother : ((twoNodes true).ignoreOwnMessages &&
      decide ((twoNodes false).ownMac = (twoNodes true).ownMac)) = false := by decide
  have hown : ((twoNodes false).ignoreOwnMessages &&
      decide ((twoNodes false).ownMac = (twoNodes false).ownMac)) = true := by decide
  rw [houtcome, forwarded, forwarded, hother, hown]
  exact ⟨rfl, rfl⟩

theorem forwarded_transitTrace (data : DATA) :
    (transitTrace data).flatMap (forwardedTo twoNodes true) = [carried data] := by
  have hread := (forwarded_frameOf data).1
  simp only [transitTrace, List.map_cons, List.map_nil, List.cons_append, List.nil_append,
    List.flatMap_cons, forwardedTo, hread]
  rfl

def helloPackage : DATA := ⟨2, .CAM, .AC_BE, some 10, [1, 2, 3]⟩

theorem network_refines_broadcast_hello : (∃ net,
    LabelledRun.Run NetworkStep (networkStart Unit twoNodes fun _ => staleCam)
        (.publish false helloPackage :: transitTrace helloPackage) net ∧
      LossyBroadcast.Accepts
        ((.publish false helloPackage :: transitTrace helloPackage).filterMap (visible twoNodes)) ∧
      ∀ n, net.terminated n = false) ∧
    (.publish false helloPackage :: transitTrace helloPackage).filterMap (visible twoNodes) =
      [.send (twoNodes false).ownMac ⟨.CAM, [1, 2, 3]⟩,
       .deliver (twoNodes false).ownMac true ⟨.CAM, [1, 2, 3]⟩] := by
  obtain ⟨hread, hown⟩ := forwarded_frameOf helloPackage
  obtain ⟨net, htransit⟩ := transitTrace_run (show helloPackage.priority = .AC_BE from rfl)
    (by decide)
  have hrun : LabelledRun.Run NetworkStep (networkStart Unit twoNodes fun _ => staleCam)
      (.publish false helloPackage :: transitTrace helloPackage) net :=
    (LabelledRun.Run.single (.publish false helloPackage)).append htransit
  have hroom : ∀ n data,
      .publish n data ∈ (.publish false helloPackage :: transitTrace helloPackage) →
        data.content.length ≤ room data.type := by
    intro n data hmem
    have hpublished : data ∈ (.publish false helloPackage :: transitTrace helloPackage).flatMap
        NetworkEvent.published := List.mem_flatMap.mpr ⟨_, hmem, List.mem_singleton_self data⟩
    rw [List.flatMap_cons, List.flatMap_eq_nil_iff.mpr (published_transitTrace helloPackage),
      List.append_nil] at hpublished
    obtain rfl := List.mem_singleton.mp hpublished
    decide
  obtain ⟨-, hbroadcast, hrunning⟩ := network_refines_broadcast hrun
  refine ⟨⟨net, hrun, hbroadcast hroom, hrunning⟩, ?_⟩
  simp only [transitTrace, List.map_cons, List.map_nil, List.cons_append, List.nil_append,
    List.filterMap_cons, visible, hread, hown]
  rfl

end OpenC2X.Dcc
