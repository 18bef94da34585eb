import OpenC2X.Dcc.SendToHardwareViaMAC
import OpenC2X.Lib.Interleaving

/-!
# Concurrent sends

All threads of DCC that drain a bucket send through one `SendToHardwareViaMAC` object.
`sendWithGeoNet` fills the header member of the message type and then copies that
member into the packet, and no lock spans the two steps.  Here each step is an atomic
action of the sending thread, so that the sends of several threads can overlap.

The header that ends up in a frame is the one that was filled last, by whichever
thread.  The length it announces is the length of the frame's own payload if and only
if the last fill for that message type was for a payload of the same size.
-/

namespace OpenC2X.Dcc

open Interleaving

/-- Where a thread stands in `sendWithGeoNet`. -/
inductive SendLocal where
  | idle
  -- the header member is filled, the packet not built yet
  | filled (msg : List UInt8) (priority : AccessCategory) (type : DATA.Kind)

inductive SendEvent where
  | fill (msg : List UInt8) (type : DATA.Kind)
  | copy (msg : List UInt8) (type : DATA.Kind) (priority : AccessCategory) (packet : List UInt8)

/-- The two steps of `sendWithGeoNet`.  The second one hands the packet to the socket. -/
inductive SendAct : Actions SendToHardwareViaMAC SendLocal SendEvent
  | fill {s : SendToHardwareViaMAC} (msg : List UInt8) (priority : AccessCategory)
      (type : DATA.Kind) :
      SendAct s .idle (.fill msg type) (s.fillHeader type msg.length) (.filled msg priority type)
  | copy {s : SendToHardwareViaMAC} {msg : List UInt8} {priority : AccessCategory}
      {type : DATA.Kind} :
      SendAct s (.filled msg priority type) (.copy msg type priority (s.packet type msg)) s .idle

/-- No thread is inside `sendWithGeoNet`. -/
def sendStart (Tid : Type*) (s : SendToHardwareViaMAC) :
    Config Tid SendToHardwareViaMAC SendLocal where
  shared := s
  locals := fun _ => .idle

/-- The payload-length field of the GeoNetworking common header in a frame. -/
def payloadLength (packet : List UInt8) : ℕ := ntohs (packet.getD 22 0) (packet.getD 23 0)

/-- The size of the largest payload that fits into a frame with its headers. -/
def maxPayload : ℕ := 1456

variable {Tid : Type*}

/-! ## The payload field of a header member -/

namespace SendToHardwareViaMAC

/-- The member `payload` of the header for a message type. -/
def payload (s : SendToHardwareViaMAC) : DATA.Kind → UInt16
  | .CAM => s.mGeoBtpHdrForCam.commonHeader.payload
  | .DENM => s.mGeoBtpHdrForDenm.commonHeader.payload

theorem payload_fillHeader_self (s : SendToHardwareViaMAC) (type : DATA.Kind)
    (payloadLen : ℕ) : (s.fillHeader type payloadLen).payload type = payloadField payloadLen := by
  cases type <;> rfl

theorem payload_fillHeader_of_ne (s : SendToHardwareViaMAC) {type filled : DATA.Kind}
    (payloadLen : ℕ) (hne : filled ≠ type) :
    (s.fillHeader filled payloadLen).payload type = s.payload type := by
  cases type <;> cases filled <;> first | rfl | exact absurd rfl hne

theorem payloadLength_packet (s : SendToHardwareViaMAC) (type : DATA.Kind) (msg : List UInt8) :
    payloadLength (s.packet type msg) =
      ntohs (s.payload type).toUInt8 (s.payload type >>> 8).toUInt8 := by
  rw [payloadLength, packet, List.append_assoc, List.getD_append_right _ _ 0 22 (by simp),
    List.getD_append_right _ _ 0 23 (by simp), EtherHeader.length_bytes]
  cases type <;> simp [geoHdr, payload, GeoNetworkAndBTPHeader.bytes, GeoNetBasicHeader.bytes,
    GeoNetCommonHeader.bytes, memory16]

end SendToHardwareViaMAC

theorem toNat_htons (x : UInt16) : (htons x).toNat = x.toNat % 256 * 256 + x.toNat / 256 := by
  have hx : x.toNat / 256 < 2 ^ 8 := by have := x.toNat_lt; omega
  have hhigh : (x <<< 8).toNat = 2 ^ 8 * (x.toNat % 256) := by
    simp only [UInt16.toNat_shiftLeft, Nat.shiftLeft_eq, UInt16.reduceToNat, Nat.reduceMod,
      Nat.reducePow]
    omega
  have hlow : (x >>> 8).toNat = x.toNat / 256 := by
    simp [UInt16.toNat_shiftRight, Nat.shiftRight_eq_div_pow]
  rw [htons, UInt16.toNat_or, hhigh, hlow, ← Nat.two_pow_add_eq_or_of_lt hx]
  omega

/-- A receiver reads back what was converted to network order. -/
theorem ntohs_htons (x : UInt16) :
    ntohs (htons x).toUInt8 (htons x >>> 8).toUInt8 = x.toNat := by
  have hx := x.toNat_lt
  have hsecond : (htons x >>> 8).toUInt8.toNat = x.toNat % 256 := by
    have hdiv : (x.toNat % 256 * 256 + x.toNat / 256) / 256 = x.toNat % 256 := by
      rw [Nat.add_comm, Nat.add_mul_div_right _ _ (by omega), Nat.div_eq_of_lt (by omega),
        Nat.zero_add]
    rw [UInt16.toNat_toUInt8, UInt16.toNat_shiftRight, toNat_htons]
    simp only [Nat.shiftRight_eq_div_pow, UInt16.reduceToNat, Nat.reduceMod, Nat.reducePow, hdiv]
    omega
  rw [ntohs, hsecond, UInt16.toNat_toUInt8, toNat_htons]
  omega

theorem ntohs_payloadField {payloadLen : ℕ} (hlen : payloadLen ≤ maxPayload) :
    ntohs (SendToHardwareViaMAC.payloadField payloadLen).toUInt8
      (SendToHardwareViaMAC.payloadField payloadLen >>> 8).toUInt8 =
      payloadLen + sizeofBTPHeader := by
  rw [maxPayload] at hlen
  rw [SendToHardwareViaMAC.payloadField, ntohs_htons, UInt16.toNat_ofNat', sizeofBTPHeader]
  omega

/-! ## The last fill decides -/

/-- The size of the payload for which the header of a message type was filled last. -/
def lastFill (type : DATA.Kind) (tr : Trace Tid SendEvent) : Option ℕ :=
  tr.foldl (fun last e => match e.2 with
    | .fill msg filled => if filled = type then some msg.length else last
    | .copy .. => last) none

/-- All payloads of a trace fit into a frame. -/
def FitsFrame (tr : Trace Tid SendEvent) : Prop :=
  ∀ t msg type, (t, SendEvent.fill msg type) ∈ tr → msg.length ≤ maxPayload

variable {s₀ : SendToHardwareViaMAC} {tr : Trace Tid SendEvent}
  {c : Config Tid SendToHardwareViaMAC SendLocal}

theorem lastFill_fill (type filled : DATA.Kind) (tr : Trace Tid SendEvent) (t : Tid)
    (msg : List UInt8) :
    lastFill type (tr ++ [(t, .fill msg filled)]) =
      if filled = type then some msg.length else lastFill type tr := by
  simp [lastFill]

theorem lastFill_copy (type copied : DATA.Kind) (tr : Trace Tid SendEvent) (t : Tid)
    (msg : List UInt8) (priority : AccessCategory) (packet : List UInt8) :
    lastFill type (tr ++ [(t, .copy msg copied priority packet)]) = lastFill type tr := by
  simp [lastFill]

theorem isSome_lastFill_append {type : DATA.Kind} (x : Tid × SendEvent)
    (h : (lastFill type tr).isSome) : (lastFill type (tr ++ [x])).isSome := by
  obtain ⟨t, e⟩ := x
  cases e with
  | fill msg filled =>
      rw [lastFill_fill]
      split
      · rfl
      · exact h
  | copy msg copied priority packet => rwa [lastFill_copy]

/-- The header members agree with the trace, and a thread that is about to copy its
header has filled it before. -/
structure LastFillInvariant (tr : Trace Tid SendEvent)
    (c : Config Tid SendToHardwareViaMAC SendLocal) : Prop where
  payload_eq : ∀ type payloadLen, lastFill type tr = some payloadLen →
    c.shared.payload type = SendToHardwareViaMAC.payloadField payloadLen
  fits : FitsFrame tr → ∀ type payloadLen, lastFill type tr = some payloadLen →
    payloadLen ≤ maxPayload
  filled : ∀ t msg priority type, c.locals t = .filled msg priority type →
    (lastFill type tr).isSome

theorem FitsFrame.of_append {tr tr' : Trace Tid SendEvent} (h : FitsFrame (tr ++ tr')) :
    FitsFrame tr :=
  fun t msg type hmem => h t msg type (List.mem_append_left _ hmem)

variable [DecidableEq Tid]

/-- A thread that is about to copy its header has just filled it, or filled it before
another thread took its step. -/
theorem act_filled {t u : Tid} {e : SendEvent} {s : SendToHardwareViaMAC} {l : SendLocal}
    {msg : List UInt8} {priority : AccessCategory} {type : DATA.Kind}
    (hinv : LastFillInvariant tr c) (ha : SendAct c.shared (c.locals t) e s l)
    (hu : Function.update c.locals t l u = .filled msg priority type) :
    (lastFill type (tr ++ [(t, e)])).isSome := by
  by_cases hut : u = t
  · subst hut
    rw [Function.update_self] at hu
    subst hu
    generalize c.locals u = l₀ at ha
    cases ha with
    | fill => rw [lastFill_fill, if_pos rfl, Option.isSome_some]
  · rw [Function.update_of_ne hut] at hu
    exact isSome_lastFill_append (t, e) (hinv.filled u msg priority type hu)

theorem act_lastFillInvariant {t : Tid} {e : SendEvent} {s : SendToHardwareViaMAC}
    {l : SendLocal} (hinv : LastFillInvariant tr c)
    (ha : SendAct c.shared (c.locals t) e s l) :
    LastFillInvariant (tr ++ [(t, e)]) ⟨s, Function.update c.locals t l⟩ := by
  have hfilled := fun u msg priority type (hu : Function.update c.locals t l u =
    .filled msg priority type) => act_filled hinv ha hu
  generalize hl : c.locals t = l₀ at ha
  cases ha with
  | fill msg priority filled =>
      refine ⟨?_, ?_, hfilled⟩
      · intro type payloadLen hlast
        rw [lastFill_fill] at hlast
        by_cases htype : filled = type
        · subst htype
          rw [if_pos rfl, Option.some.injEq] at hlast
          rw [SendToHardwareViaMAC.payload_fillHeader_self, hlast]
        · rw [if_neg htype] at hlast
          rw [SendToHardwareViaMAC.payload_fillHeader_of_ne _ _ htype]
          exact hinv.payload_eq type payloadLen hlast
      · intro hall type payloadLen hlast
        rw [lastFill_fill] at hlast
        by_cases htype : filled = type
        · rw [if_pos htype, Option.some.injEq] at hlast
          exact hlast ▸ hall t msg filled (by simp)
        · rw [if_neg htype] at hlast
          exact hinv.fits hall.of_append type payloadLen hlast
  | copy =>
      refine ⟨?_, ?_, hfilled⟩
      · intro type payloadLen hlast
        rw [lastFill_copy] at hlast
        exact hinv.payload_eq type payloadLen hlast
      · intro hall type payloadLen hlast
        rw [lastFill_copy] at hlast
        exact hinv.fits hall.of_append type payloadLen hlast

theorem lastFillInvariant (h : Run SendAct (sendStart Tid s₀) tr c) : LastFillInvariant tr c := by
  refine h.invariant LastFillInvariant ?_ fun _ _ _ _ _ _ hinv ha => act_lastFillInvariant hinv ha
  exact ⟨nofun, nofun, nofun⟩

/-- The field of every frame is that of the last fill. -/
theorem copy_payloadLength (h : Run SendAct (sendStart Tid s₀) tr c) (hfits : FitsFrame tr) :
    ∀ before t msg type priority packet after,
      tr = before ++ (t, .copy msg type priority packet) :: after →
      ∃ payloadLen, lastFill type before = some payloadLen ∧
        payloadLength packet = payloadLen + sizeofBTPHeader := by
  have hpost := h.at_event LastFillInvariant
    (fun before _ e => FitsFrame before → ∀ msg type priority packet,
      e = .copy msg type priority packet →
      ∃ payloadLen, lastFill type before = some payloadLen ∧
        payloadLength packet = payloadLen + sizeofBTPHeader)
    lastFillInvariant ?_
  · intro before t msg type priority packet after heq
    exact hpost before t _ after heq (heq ▸ hfits).of_append msg type priority packet rfl
  · intro tr c t e s l hinv ha hall msg type priority packet he
    subst he
    generalize hl : c.locals t = l₀ at ha
    cases ha with
    | copy =>
        obtain ⟨payloadLen, hlast⟩ := Option.isSome_iff_exists.mp (hinv.filled t _ _ _ hl)
        refine ⟨payloadLen, hlast, ?_⟩
        rw [SendToHardwareViaMAC.payloadLength_packet, hinv.payload_eq type payloadLen hlast]
        exact ntohs_payloadField (hinv.fits hall type payloadLen hlast)

/-! ## Header and payload of a frame -/

/-- **Header of a frame.**  For every interleaving of any number of sending threads with
payloads that fit into a frame, the headers of all frames announce the length of their
own payload if and only if each frame was built while the last fill for its message type
was for a payload of its size. -/
theorem headerBelongs_iff (h : Run SendAct (sendStart Tid s₀) tr c) (hfits : FitsFrame tr) :
    (∀ before t msg type priority packet after,
        tr = before ++ (t, .copy msg type priority packet) :: after →
        payloadLength packet = msg.length + sizeofBTPHeader) ↔
      ∀ before t msg type priority packet after,
        tr = before ++ (t, .copy msg type priority packet) :: after →
        lastFill type before = some msg.length := by
  constructor
  · intro hall before t msg type priority packet after heq
    obtain ⟨payloadLen, hlast, hfield⟩ :=
      copy_payloadLength h hfits before t msg type priority packet after heq
    have hown := hall before t msg type priority packet after heq
    rw [hlast, Nat.add_right_cancel (hfield.symm.trans hown)]
  · intro hall before t msg type priority packet after heq
    obtain ⟨payloadLen, hlast, hfield⟩ :=
      copy_payloadLength h hfits before t msg type priority packet after heq
    have hown := hall before t msg type priority packet after heq
    rw [hfield, Option.some.inj (hlast.symm.trans hown)]

/-! ## Two sends that overlap -/

/-- A sender right after its construction, with zeros in the two headers. -/
def sampleSender : SendToHardwareViaMAC :=
  .new ⟨[2, 0, 0, 0, 0, 1], rfl⟩
    { basicHeader := SendToHardwareViaMAC.basicHeader
      commonHeader := ⟨0, 0, 0, 0, 0, 0, 0⟩
      extended := ⟨⟨⟨0, .broadcast⟩, 0, 0, 0, 0, 0⟩, 0⟩
      mBTPHdr := ⟨0, 0⟩ }
    { basicHeader := SendToHardwareViaMAC.basicHeader
      commonHeader := ⟨0, 0, 0, 0, 0, 0, 0⟩
      extended := ⟨0, 0, ⟨⟨0, .broadcast⟩, 0, 0, 0, 0, 0⟩, 0, 0, 0, 0, 0, 0⟩
      mBTPHdr := ⟨0, 0⟩ }

inductive SendingThread
  | timer
  | receive
  deriving DecidableEq

/-- The sample sender after the timer thread filled the header for a CAM of one byte and
the receive thread for a CAM of two bytes. -/
def overlappingSender : SendToHardwareViaMAC :=
  (sampleSender.fillHeader .CAM 1).fillHeader .CAM 2

def overlappingSends : Trace SendingThread SendEvent :=
  [(.timer, .fill [1] .CAM), (.receive, .fill [2, 3] .CAM),
    (.timer, .copy [1] .CAM .AC_BE (overlappingSender.packet .CAM [1])),
    (.receive, .copy [2, 3] .CAM .AC_BE (overlappingSender.packet .CAM [2, 3]))]

theorem overlappingSends_run :
    ∃ c, Run SendAct (sendStart SendingThread sampleSender) overlappingSends c :=
  ⟨_, Run.nil
    |>.move SendingThread.timer rfl (SendAct.fill [1] .AC_BE .CAM)
    |>.move SendingThread.receive rfl (SendAct.fill [2, 3] .AC_BE .CAM)
    |>.move SendingThread.timer rfl SendAct.copy
    |>.move SendingThread.receive rfl SendAct.copy⟩

theorem overlappingSends_fitsFrame : FitsFrame overlappingSends := by
  intro t msg type hmem
  simp only [overlappingSends, List.mem_cons, Prod.mk.injEq, SendEvent.fill.injEq, reduceCtorEq,
    and_false, List.not_mem_nil, or_false] at hmem
  obtain ⟨-, rfl, -⟩ | ⟨-, rfl, -⟩ := hmem <;> decide

/-- Two threads send CAMs of one and of two bytes, and the second one fills the header
before the first one copies it: the first frame announces six bytes after a payload of
one byte and a BTP header of four. -/
theorem not_headerBelongs_overlappingSends :
    (∃ c, Run SendAct (sendStart SendingThread sampleSender) overlappingSends c) ∧
      FitsFrame overlappingSends ∧
      ¬∀ before t msg type priority packet after,
        overlappingSends = before ++ (t, .copy msg type priority packet) :: after →
        payloadLength packet = msg.length + sizeofBTPHeader := by
  refine ⟨overlappingSends_run, overlappingSends_fitsFrame, fun hall => ?_⟩
  have hfirst := hall [(.timer, .fill [1] .CAM), (.receive, .fill [2, 3] .CAM)] .timer [1] .CAM
    .AC_BE _ [(.receive, .copy [2, 3] .CAM .AC_BE (overlappingSender.packet .CAM [2, 3]))] rfl
  exact absurd hfirst (by decide)

/-- The sends above, with the frames of the two threads right or wrong together with
the sizes at the last fill. -/
theorem headerBelongs_overlappingSends :
    (∀ before t msg type priority packet after,
        overlappingSends = before ++ (t, .copy msg type priority packet) :: after →
        payloadLength packet = msg.length + sizeofBTPHeader) ↔
      ∀ before t msg type priority packet after,
        overlappingSends = before ++ (t, .copy msg type priority packet) :: after →
        lastFill type before = some msg.length := by
  obtain ⟨c, hrun⟩ := overlappingSends_run
  exact headerBelongs_iff hrun overlappingSends_fitsFrame

end OpenC2X.Dcc
