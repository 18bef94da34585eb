import OpenC2X.Dcc.ReceiveFromHardwareViaMAC
import Mathlib.Data.List.Induction
import Mathlib.Data.List.TakeDrop

/-!
# Framing

What a receiver makes of frames from the air.

`robustReception_iff` is about arbitrary frames.  The receiver looks at fixed offsets of
a reused buffer and never asks whether the bytes there belong to the frame, so reception
is robust exactly for sequences of `Intact` frames: either a received byte shows another
ethertype, or the type byte was received and the header it announces as well.

`framing_roundTrip_iff` is about the frames of `sendWithGeoNet`.  The receive buffer has
room for the Ethernet payload but not for the Ethernet header in front of it, so the last
bytes of a long message are lost.
-/

namespace OpenC2X.Dcc

open SendToHardwareViaMAC

/-! ## Arbitrary frames -/

/-- The frame was skipped, or exactly the bytes behind its header were returned. -/
def Faithful (frame : List UInt8) : Outcome → Prop
  | .skipped => True
  | .returned info msg =>
      14 + geoHdrLen info.mType ≤ frame.length ∧ msg = frame.drop (14 + geoHdrLen info.mType)
  | .lengthError _ => False

/-- Every frame of the sequence is treated faithfully, whatever the buffer held at the
start, and what becomes of it does not depend on what is left in the buffer. -/
def RobustReception (frames : List (List UInt8)) : Prop :=
  ∀ mPacket before frame after left, frames = before ++ frame :: after →
    bufferAfter mPacket before = some left →
      Faithful frame (receiveOne left frame).2 ∧
        ∀ left', (receiveOne left' frame).2 = (receiveOne left frame).2

/-- A received byte shows another ethertype, or the type byte was received and the header
it announces fits into the frame. -/
def Intact (frame : List UInt8) : Prop :=
  12 < frame.length ∧ frame.getD 12 0 ≠ 0x89 ∨
  13 < frame.length ∧ frame.getD 13 0 ≠ 0x47 ∨
  19 < frame.length ∧ ∀ type, frame.getD 19 0 = htAndHst type → 14 + geoHdrLen type ≤ frame.length

theorem geoHdrLen_le (type : DATA.Kind) : geoHdrLen type ≤ 60 := by
  cases type <;> decide

theorem receiveOne_of_intact {frame : List UInt8} (hlen : frame.length ≤ ETHERMTU)
    (h : Intact frame) : ∃ outcome, Faithful frame outcome ∧
      ∀ mPacket, (receiveOne mPacket frame).2 = outcome := by
  by_cases hother : 12 < frame.length ∧ frame.getD 12 0 ≠ 0x89 ∨
      13 < frame.length ∧ frame.getD 13 0 ≠ 0x47
  · exact ⟨.skipped, trivial, fun mPacket => receiveOne_skipped mPacket hother⟩
  obtain ⟨h19, hfit⟩ := (or_assoc.mpr h).resolve_left hother
  have hbyte : ∀ (mPacket : PacketBuffer) i, i ≤ 19 →
      (mPacket.read frame).1.byte i = frame.getD i 0 := fun mPacket i hi =>
    Buffer.byte_read_of_lt mPacket (by omega) (by unfold ETHERMTU; omega)
  have h12 : frame.getD 12 0 = 0x89 := by
    by_contra hne
    exact hother (Or.inl ⟨by omega, hne⟩)
  have h13 : frame.getD 13 0 = 0x47 := by
    by_contra hne
    exact hother (Or.inr ⟨by omega, hne⟩)
  by_cases htype : ∃ type, frame.getD 19 0 = htAndHst type
  · obtain ⟨type, htype⟩ := htype
    have hheader := hfit type htype
    refine ⟨.returned ⟨ether_ntoa ((frame.drop 6).take 6), type⟩
      (frame.drop (14 + geoHdrLen type)), ⟨hheader, rfl⟩, fun mPacket => ?_⟩
    rw [receiveOne_announced mPacket type (by rw [hbyte _ _ (by omega), h12])
      (by rw [hbyte _ _ (by omega), h13]) (by rw [hbyte _ _ (by omega), htype]),
      extract_read _ _ _ (geoHdrLen_le type), if_pos (by omega), List.take_of_length_le hlen]
  · -- neither a CAM nor a DENM
    refine ⟨.skipped, trivial, fun mPacket => ?_⟩
    have hcam : (mPacket.read frame).1.byte 19 ≠ 80 := fun heq =>
      htype ⟨.CAM, hbyte mPacket 19 le_rfl ▸ heq⟩
    have hdenm : (mPacket.read frame).1.byte 19 ≠ 66 := fun heq =>
      htype ⟨.DENM, hbyte mPacket 19 le_rfl ▸ heq⟩
    simp [receiveOne, inspect, sizeofEtherHeader, hcam, hdenm]

/-- The worst that an earlier frame can leave behind: the ethertype of GeoNetworking and
the type byte of a CAM. -/
def staleCam : PacketBuffer :=
  .ofFn fun i => if i = 12 then 0x89 else if i = 13 then 0x47 else if i = 19 then 80 else 0

/-- A frame that is not intact makes the receiver throw, possibly with the help of what an
earlier frame left. -/
theorem receiveOne_of_not_intact {frame : List UInt8} (hlen : frame.length ≤ ETHERMTU)
    (h : ¬Intact frame) :
    ∃ mPacket len, (receiveOne mPacket frame).2 = .lengthError len := by
  simp only [Intact, not_or, not_and, not_not] at h
  obtain ⟨h12, h13, h19⟩ := h
  have hstale : ∀ i, i ≤ 19 → (staleCam.read frame).1.byte i =
      if i < frame.length then frame.getD i 0 else staleCam.byte i := by
    intro i hi
    split_ifs with hlt
    · exact Buffer.byte_read_of_lt _ hlt (by unfold ETHERMTU; omega)
    · exact Buffer.byte_read_of_le _ (not_lt.mp hlt)
  have hstaleByte : staleCam.byte 12 = 0x89 ∧ staleCam.byte 13 = 0x47 ∧ staleCam.byte 19 = 80 := by
    refine ⟨?_, ?_, ?_⟩ <;> exact Buffer.byte_ofFn _ (by decide)
  have hcar12 : (staleCam.read frame).1.byte 12 = 0x89 := by
    rw [hstale 12 (by omega)]
    split_ifs with hlt
    exacts [h12 hlt, hstaleByte.1]
  have hcar13 : (staleCam.read frame).1.byte 13 = 0x47 := by
    rw [hstale 13 (by omega)]
    split_ifs with hlt
    exacts [h13 hlt, hstaleByte.2.1]
  -- the type the receiver sees, whose header does not fit
  obtain ⟨type, htype, hshort⟩ : ∃ type, (staleCam.read frame).1.byte 19 = htAndHst type ∧
      ¬14 + geoHdrLen type ≤ frame.length := by
    rw [hstale 19 le_rfl]
    split_ifs with hlt
    · simpa using h19 hlt
    · refine ⟨.CAM, hstaleByte.2.2, ?_⟩
      have : geoHdrLen .CAM = 44 := rfl
      omega
  refine ⟨staleCam, (min ETHERMTU frame.length : ℕ) - 14 - geoHdrLen type, ?_⟩
  rw [receiveOne_announced staleCam type hcar12 hcar13 htype,
    extract_read _ _ _ (geoHdrLen_le type), if_neg (by omega)]

theorem bufferAfter_of_intact {frames : List (List UInt8)}
    (hlen : ∀ frame ∈ frames, frame.length ≤ ETHERMTU) (h : ∀ frame ∈ frames, Intact frame) :
    ∀ mPacket, ∃ left, bufferAfter mPacket frames = some left := by
  induction frames with
  | nil => exact fun mPacket => ⟨mPacket, rfl⟩
  | cons frame frames ih =>
      intro mPacket
      obtain ⟨outcome, hfaithful, hall⟩ :=
        receiveOne_of_intact (hlen frame List.mem_cons_self) (h frame List.mem_cons_self)
      obtain ⟨left, hleft⟩ := ih (fun f hf => hlen f (List.mem_cons_of_mem _ hf))
        (fun f hf => h f (List.mem_cons_of_mem _ hf)) (receiveOne mPacket frame).1
      refine ⟨left, ?_⟩
      have hround : receiveOne mPacket frame = ((receiveOne mPacket frame).1, outcome) :=
        Prod.ext rfl (hall mPacket)
      rw [bufferAfter, hround]
      cases outcome with
      | lengthError len => exact hfaithful.elim
      | skipped => exact hleft
      | returned => exact hleft

/-- The first frame that is not intact is reached, and some buffer makes it throw. -/
theorem RobustReception.intact {frames before after : List (List UInt8)} {frame : List UInt8}
    (h : RobustReception frames) (hlen : ∀ frame ∈ frames, frame.length ≤ ETHERMTU)
    (heq : frames = before ++ frame :: after) (hbefore : ∀ frame ∈ before, Intact frame) :
    Intact frame := by
  have hlenBefore : ∀ f ∈ before, f.length ≤ ETHERMTU := by
    intro f hf
    apply hlen
    rw [heq]
    exact List.mem_append_left _ hf
  have hlenFrame : frame.length ≤ ETHERMTU := hlen frame (by simp [heq])
  obtain ⟨left, hleft⟩ := bufferAfter_of_intact hlenBefore hbefore staleCam
  obtain ⟨hfaithful, hsame⟩ := h staleCam before frame after left heq hleft
  by_contra hnot
  obtain ⟨mPacket, len, hthrow⟩ := receiveOne_of_not_intact hlenFrame hnot
  rw [← hsame mPacket, hthrow] at hfaithful
  exact hfaithful

/-- **Robust reception.**  A sequence of frames is received robustly if and only if every
frame of it is intact. -/
theorem robustReception_iff {frames : List (List UInt8)}
    (hlen : ∀ frame ∈ frames, frame.length ≤ ETHERMTU) :
    RobustReception frames ↔ ∀ frame ∈ frames, Intact frame := by
  constructor
  · intro hrobust
    -- induction on the frames before the one in question, all of them intact
    have hprefix : ∀ before after, frames = before ++ after → ∀ frame ∈ before, Intact frame := by
      intro before
      induction before using List.reverseRecOn with
      | nil => simp
      | append_singleton before frame ih =>
          intro after heq
          have heq' : frames = before ++ frame :: after := by simpa using heq
          have hbefore := ih (frame :: after) heq'
          intro f hf
          rcases List.mem_append.mp hf with hold | hnew
          · exact hbefore f hold
          · rw [List.mem_singleton.mp hnew]
            exact hrobust.intact hlen heq' hbefore
    exact hprefix frames [] (List.append_nil _).symm
  · intro hintact mPacket before frame after left heq _
    have hframe : frame ∈ frames := by simp [heq]
    obtain ⟨outcome, hfaithful, hall⟩ :=
      receiveOne_of_intact (hlen frame hframe) (hintact frame hframe)
    rw [hall left]
    exact ⟨hfaithful, hall⟩

/-- A frame that ends right behind the type byte of a CAM. -/
def truncatedCam : List UInt8 :=
  List.replicate 12 0 ++ [0x89, 0x47] ++ [0, 0, 0, 0, 0, 80]

theorem robustReception_foreign_and_emptyCam :
    RobustReception [List.replicate 13 0, truncatedCam ++ List.replicate 38 0] :=
  (robustReception_iff (by decide)).mpr (by
    intro frame hmem
    simp only [List.mem_cons, List.not_mem_nil, or_false] at hmem
    rcases hmem with rfl | rfl
    · left
      decide
    · right; right
      refine ⟨by decide, fun type htype => ?_⟩
      cases type with
      | CAM => decide
      | DENM => exact absurd htype (by decide))

theorem not_robustReception_truncatedCam :
    (∀ mPacket, (receiveOne mPacket truncatedCam).2 = .lengthError (-38)) ∧
      ¬RobustReception [truncatedCam] := by
  have hthrow : ∀ mPacket, (receiveOne mPacket truncatedCam).2 = .lengthError (-38) := by
    intro mPacket
    have hbyte : ∀ i < 20, (mPacket.read truncatedCam).1.byte i = truncatedCam.getD i 0 :=
      fun i hi => Buffer.byte_read_of_lt mPacket hi (by unfold ETHERMTU; omega)
    rw [receiveOne_announced mPacket .CAM (hbyte 12 (by omega)) (hbyte 13 (by omega))
      (hbyte 19 (by omega)), extract_read _ _ _ (geoHdrLen_le .CAM)]
    rfl
  refine ⟨hthrow, fun hrobust => ?_⟩
  have hfaithful := (hrobust staleCam [] truncatedCam [] staleCam rfl rfl).1
  rw [hthrow] at hfaithful
  exact hfaithful

/-! ## Frames of a sender -/

/-- The message arrives with its type and the address of its sender, whatever the buffer
of the receiver held. -/
def RoundTrip (s : SendToHardwareViaMAC) (type : DATA.Kind) (msg : List UInt8) : Prop :=
  ∀ priority mPacket,
    (receiveWithGeoNetHeader mPacket [(s.sendWithGeoNet msg priority type).2.2]).2 =
      (some (.returned ⟨ether_ntoa s.mOwnMac.octets, type⟩ msg), [])

/-- What arrives is the part of the message that the buffer has room for. -/
theorem receiveOne_sendWithGeoNet (s : SendToHardwareViaMAC) (type : DATA.Kind)
    (msg : List UInt8) (priority : AccessCategory) (mPacket : PacketBuffer) :
    (receiveOne mPacket (s.sendWithGeoNet msg priority type).2.2).2 =
      .returned ⟨ether_ntoa s.mOwnMac.octets, type⟩
        (msg.take (ETHERMTU - (14 + geoHdrLen type))) := by
  set filled := s.fillHeader type msg.length with hfilled
  have hown : filled.mOwnMac = s.mOwnMac := by cases type <;> rfl
  have hlen := filled.length_packet type msg
  have hheader := geoHdrLen_le type
  have hmtu : ETHERMTU = 1500 := rfl
  obtain ⟨hcar12, hcar13⟩ := filled.packet_ether_type type msg
  have htype : (filled.packet type msg).getD 19 0 = htAndHst type :=
    s.packet_htAndHst type msg msg.length
  have hlong : 20 ≤ (filled.packet type msg).length := by
    have : 44 ≤ geoHdrLen type := by cases type <;> decide
    omega
  have hbyte : ∀ i < 20, (mPacket.read (filled.packet type msg)).1.byte i =
      (filled.packet type msg).getD i 0 := fun i hi =>
    Buffer.byte_read_of_lt mPacket (by omega) (by omega)
  show (receiveOne mPacket (filled.packet type msg)).2 = _
  rw [receiveOne_announced mPacket type ((hbyte 12 (by omega)).trans hcar12)
    ((hbyte 13 (by omega)).trans hcar13) ((hbyte 19 (by omega)).trans htype),
    extract_read _ _ _ hheader, if_pos (by omega), filled.packet_shost, hown, List.drop_take,
    filled.drop_packet]

theorem roundTrip_iff_length_le (s : SendToHardwareViaMAC) (type : DATA.Kind)
    (msg : List UInt8) :
    RoundTrip s type msg ↔ msg.length ≤ ETHERMTU - (14 + geoHdrLen type) := by
  have harrives : ∀ priority mPacket,
      (receiveWithGeoNetHeader mPacket [(s.sendWithGeoNet msg priority type).2.2]).2 =
        (some (.returned ⟨ether_ntoa s.mOwnMac.octets, type⟩
          (msg.take (ETHERMTU - (14 + geoHdrLen type)))), []) := fun priority mPacket =>
    receiveWithGeoNetHeader_singleton (receiveOne_sendWithGeoNet s type msg priority mPacket)
      Outcome.noConfusion
  rw [← List.take_eq_self_iff]
  constructor
  · intro htrip
    have hboth := (harrives .AC_VI staleCam).symm.trans (htrip .AC_VI staleCam)
    simpa only [Prod.mk.injEq, Option.some.injEq, Outcome.returned.injEq, true_and, and_true]
      using hboth
  · intro hwhole priority mPacket
    rw [harrives, hwhole]

/-- **Framing round trip.**  A message whose GeoNetworking PDU is no longer than `ETHERMTU`
makes the round trip if and only if the Ethernet header fits in as well. -/
theorem framing_roundTrip_iff (s : SendToHardwareViaMAC) (type : DATA.Kind) (msg : List UInt8)
    (hpdu : geoHdrLen type + msg.length ≤ ETHERMTU) :
    RoundTrip s type msg ↔ sizeofEtherHeader + (geoHdrLen type + msg.length) ≤ ETHERMTU := by
  have hheader := geoHdrLen_le type
  have hmtu : ETHERMTU = 1500 := rfl
  have heth : sizeofEtherHeader = 14 := rfl
  rw [roundTrip_iff_length_le]
  omega

def sampleNode : SendToHardwareViaMAC :=
  new ⟨[0x00, 0x0d, 0xb9, 0x21, 0x43, 0x65], rfl⟩
    { basicHeader := ⟨0, 0, 0, 0⟩
      commonHeader := ⟨0, 0, 0, 0, 0, 0, 0⟩
      extended := ⟨⟨⟨0, .broadcast⟩, 0, 0, 0, 0, 0⟩, 0⟩
      mBTPHdr := ⟨0, 0⟩ }
    { basicHeader := ⟨0, 0, 0, 0⟩
      commonHeader := ⟨0, 0, 0, 0, 0, 0, 0⟩
      extended := ⟨0, 0, ⟨⟨0, .broadcast⟩, 0, 0, 0, 0, 0⟩, 0, 0, 0, 0, 0, 0⟩
      mBTPHdr := ⟨0, 0⟩ }

theorem roundTrip_longestCam : RoundTrip sampleNode .CAM (List.replicate 1442 7) :=
  (framing_roundTrip_iff sampleNode .CAM (List.replicate 1442 7)
    (by rw [List.length_replicate]; decide)).mpr (by rw [List.length_replicate]; decide)

/-- The longest CAM a link carries comes out 14 bytes shorter. -/
theorem not_roundTrip_cam :
    geoHdrLen .CAM + (List.replicate 1456 (7 : UInt8)).length ≤ ETHERMTU ∧
      ¬RoundTrip sampleNode .CAM (List.replicate 1456 7) := by
  refine ⟨by rw [List.length_replicate]; decide, ?_⟩
  rw [roundTrip_iff_length_le, List.length_replicate]
  decide

end OpenC2X.Dcc
