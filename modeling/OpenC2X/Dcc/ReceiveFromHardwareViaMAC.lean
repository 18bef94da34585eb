import OpenC2X.Dcc.SendToHardwareViaMAC
import OpenC2X.Lib.Buffer
import Mathlib.Tactic.NormNum

/-!
# Receiving frames

`receiveWithGeoNetHeader` reads Ethernet frames into the member `mPacket`, which keeps
what earlier frames left in it, until one carries a CAM or a DENM.  `receiveOne` is the
body of its loop.
-/

namespace OpenC2X.Dcc

/-- `char mPacket[ETHERMTU]` -/
abbrev PacketBuffer := Buffer ETHERMTU

structure ReceivedPacketInfo where
  mSenderMac : String
  mType : DATA.Kind
  deriving DecidableEq, Repr

/-- What becomes of one frame. -/
inductive Outcome where
  /-- `continue`: the next frame is read -/
  | skipped
  /-- the function returns -/
  | returned (info : ReceivedPacketInfo) (msg : List UInt8)
  /-- the constructor of `string` is given a negative length and throws `length_error` -/
  | lengthError (len : ℤ)
  deriving DecidableEq, Repr

/-- Conversion of a number to a 32-bit `int`. -/
def asInt (x : ℤ) : ℤ := Int.bmod x (2 ^ 32)

/-- `string msg(pdu, pduLen)` for the message behind a header of `headerLen` bytes. -/
def extract (mPacket : PacketBuffer) (geoNetPDULen : ℤ) (type : DATA.Kind) (headerLen : ℕ) :
    Outcome :=
  let pduLen := asInt (geoNetPDULen - headerLen)
  if pduLen < 0 then
    .lengthError pduLen
  else
    .returned ⟨ether_ntoa (mPacket.slice 6 6), type⟩
      (mPacket.slice (sizeofEtherHeader + headerLen) pduLen.toNat)

/-- The tests on a frame after `mBytes` bytes of it were stored. -/
def inspect (mPacket : PacketBuffer) (mBytes : ℕ) : Outcome :=
  if ntohs (mPacket.byte 12) (mPacket.byte 13) ≠ ETHERTYPE_CAR.toNat then
    .skipped
  else
    let geoNetPDULen := asInt (mBytes - sizeofEtherHeader)
    if mPacket.byte (sizeofEtherHeader + 5) = 80 then
      extract mPacket geoNetPDULen .CAM sizeofGeoNetworkAndBTPHeaderCAM
    else if mPacket.byte (sizeofEtherHeader + 5) = 66 then
      extract mPacket geoNetPDULen .DENM sizeofGeoNetworkAndBTPHeaderDENM
    else
      .skipped

/-- One round of the loop: read a frame and look at it. -/
def receiveOne (mPacket : PacketBuffer) (frame : List UInt8) : PacketBuffer × Outcome :=
  let (mPacket, mBytes) := mPacket.read frame
  (mPacket, inspect mPacket mBytes)

/-- Reads frames until one is not skipped.  The result is the buffer, how the call ended
(`none`: it still waits for a frame) and the frames that were not read yet. -/
def receiveWithGeoNetHeader (mPacket : PacketBuffer) :
    List (List UInt8) → PacketBuffer × Option Outcome × List (List UInt8)
  | [] => (mPacket, none, [])
  | frame :: frames =>
      match receiveOne mPacket frame with
      | (mPacket, .skipped) => receiveWithGeoNetHeader mPacket frames
      | (mPacket, outcome) => (mPacket, some outcome, frames)

/-- The buffer after a sequence of frames, received by as many calls as it takes; `none`
if a frame made the function throw. -/
def bufferAfter (mPacket : PacketBuffer) : List (List UInt8) → Option PacketBuffer
  | [] => some mPacket
  | frame :: frames =>
      match receiveOne mPacket frame with
      | (_, .lengthError _) => none
      | (mPacket, _) => bufferAfter mPacket frames

/-! ## What one round does -/

theorem asInt_of_small {x : ℤ} (hlow : -(2 ^ 31) ≤ x) (hhigh : x < 2 ^ 31) : asInt x = x := by
  unfold asInt
  apply Int.bmod_eq_of_le <;> omega

theorem ntohs_eq_ethertypeCar {first second : UInt8} :
    ntohs first second = ETHERTYPE_CAR.toNat ↔ first = 0x89 ∧ second = 0x47 := by
  have hfirst := first.toNat_lt
  have hsecond := second.toNat_lt
  rw [← UInt8.toNat_inj, ← UInt8.toNat_inj]
  show first.toNat * 256 + second.toNat = 35143 ↔ first.toNat = 137 ∧ second.toNat = 71
  omega

/-- A call passes over the frames it skips and ends with the first one it does not. -/
theorem receiveWithGeoNetHeader_eq {mPacket mPacket' : PacketBuffer}
    {frames rest : List (List UInt8)} {outcome : Outcome}
    (h : receiveWithGeoNetHeader mPacket frames = (mPacket', some outcome, rest)) :
    ∃ skipped frame left, frames = skipped ++ frame :: rest ∧
      bufferAfter mPacket skipped = some left ∧
      receiveOne left frame = (mPacket', outcome) ∧ outcome ≠ .skipped := by
  induction frames generalizing mPacket with
  | nil => simp [receiveWithGeoNetHeader] at h
  | cons frame frames ih =>
      rw [receiveWithGeoNetHeader] at h
      split at h
      next hround =>
        obtain ⟨skipped, last, left, rfl, hleft, hlast⟩ := ih h
        refine ⟨frame :: skipped, last, left, rfl, ?_, hlast⟩
        rw [bufferAfter, hround]
        exact hleft
      next hnot hround =>
        obtain ⟨rfl, rfl, rfl⟩ : _ ∧ _ ∧ _ := by simpa using h
        exact ⟨[], frame, mPacket, rfl, rfl, hround, hnot⟩

theorem receiveWithGeoNetHeader_singleton {mPacket : PacketBuffer} {frame : List UInt8}
    {outcome : Outcome} (h : (receiveOne mPacket frame).2 = outcome)
    (hnot : outcome ≠ .skipped) :
    (receiveWithGeoNetHeader mPacket [frame]).2 = (some outcome, []) := by
  have hround : receiveOne mPacket frame = ((receiveOne mPacket frame).1, outcome) :=
    Prod.ext rfl h
  rw [receiveWithGeoNetHeader, hround]
  cases outcome with
  | skipped => exact absurd rfl hnot
  | returned => rfl
  | lengthError => rfl

theorem receiveOne_skipped (mPacket : PacketBuffer) {frame : List UInt8}
    (h : 12 < frame.length ∧ frame.getD 12 0 ≠ 0x89 ∨
      13 < frame.length ∧ frame.getD 13 0 ≠ 0x47) :
    (receiveOne mPacket frame).2 = .skipped := by
  have hother : ntohs ((mPacket.read frame).1.byte 12) ((mPacket.read frame).1.byte 13) ≠
      ETHERTYPE_CAR.toNat := by
    rw [ne_eq, ntohs_eq_ethertypeCar]
    rintro ⟨h12, h13⟩
    rcases h with ⟨hlen, hne⟩ | ⟨hlen, hne⟩
    · exact hne (by rw [← Buffer.byte_read_of_lt mPacket hlen (by decide), h12])
    · exact hne (by rw [← Buffer.byte_read_of_lt mPacket hlen (by decide), h13])
  simp [receiveOne, inspect, hother]

/-- A frame whose ethertype and type byte, received or left over, announce a message of
type `type`: what lies behind the header is returned, if the header is all there. -/
theorem receiveOne_announced (mPacket : PacketBuffer) {frame : List UInt8} (type : DATA.Kind)
    (h12 : (mPacket.read frame).1.byte 12 = 0x89) (h13 : (mPacket.read frame).1.byte 13 = 0x47)
    (h19 : (mPacket.read frame).1.byte 19 = SendToHardwareViaMAC.htAndHst type) :
    (receiveOne mPacket frame).2 =
      extract (mPacket.read frame).1 ((min ETHERMTU frame.length : ℕ) - 14) type
        (SendToHardwareViaMAC.geoHdrLen type) := by
  have hsmall : asInt ((min ETHERMTU frame.length : ℕ) - 14) =
      (min ETHERMTU frame.length : ℕ) - 14 := by
    have := Nat.min_le_left ETHERMTU frame.length
    unfold ETHERMTU at this ⊢
    apply asInt_of_small <;> omega
  have hbytes : (mPacket.read frame).2 = min ETHERMTU frame.length := rfl
  have hcar := ntohs_eq_ethertypeCar.mpr ⟨h12, h13⟩
  simp only [receiveOne, inspect, hcar, sizeofEtherHeader, hbytes, Nat.cast_ofNat, hsmall, h19]
  cases type <;> rfl

/-- `extract` on a stored frame: the bytes behind the header, or the exception. -/
theorem extract_read (mPacket : PacketBuffer) (frame : List UInt8) (type : DATA.Kind)
    {headerLen : ℕ} (hheader : headerLen ≤ 60) :
    extract (mPacket.read frame).1 ((min ETHERMTU frame.length : ℕ) - 14) type headerLen =
      if 14 + headerLen ≤ min ETHERMTU frame.length then
        .returned ⟨ether_ntoa ((frame.drop 6).take 6), type⟩
          ((frame.take ETHERMTU).drop (14 + headerLen))
      else
        .lengthError ((min ETHERMTU frame.length : ℕ) - 14 - headerLen) := by
  have hmtu : ETHERMTU = 1500 := rfl
  have hle := Nat.min_le_left ETHERMTU frame.length
  set stored := min ETHERMTU frame.length with hstored
  have hsmall : asInt ((stored : ℤ) - 14 - headerLen) = stored - 14 - headerLen := by
    apply asInt_of_small <;> omega
  simp only [extract, hsmall]
  split_ifs with hneg hlong hlong
  · omega
  · rfl
  · have hrest : ((stored : ℤ) - 14 - headerLen).toNat = stored - (14 + headerLen) := by omega
    rw [sizeofEtherHeader, hrest, Buffer.slice_read _ (by omega), hstored,
      Buffer.slice_read_rest _ hlong]
  · omega

end OpenC2X.Dcc
