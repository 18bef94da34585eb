import OpenC2X.Common.PackedEncoding
import OpenC2X.Denm.GenerateDenm

/-!
# The packed encoding of DENMs

As for CAMs.  The container of the management is the only one that is there, and among its
optional components only the validity duration, which is not written if it is the default of its
type.  A DENM with this duration, or without one, is not encoded here.

Of a time stamp the bits that count are written, so that a DENM is read back up to the others.
-/

namespace OpenC2X.Asn1

open Uper

def defaultValidity : ℤ := 600

/-- What the encoding has of a DENM. -/
structure PackedDENM where
  header : ItsPduHeader
  actionID : ActionID
  detectionTime : ℤ
  referenceTime : ℤ
  eventPosition : ReferencePosition
  validityDuration : ℤ
  stationType : ℤ

namespace Packed

def actionID : Coder ActionID :=
  ((ofBounded StationID).pair (.int 0 65535)).map
    (fun a => (a.originatingStationID, a.sequenceNumber))
    (fun (originatingStationID, sequenceNumber) => ⟨originatingStationID, sequenceNumber⟩)
    fun _ => rfl

/-- The number of a bit string of 42 bits. -/
def timestampIts : Coder ℤ := .int 0 (2 ^ 42 - 1)

/-- Three components of the message are not there, and the container is not extended.  Of its five
optional components the fourth one is there. -/
def denm : Coder PackedDENM :=
  (itsPduHeader.pair (absent 7 ((Coder.const [true, false]).pair (actionID.pair
    (timestampIts.pair (timestampIts.pair (referencePosition.pair
      ((Coder.int 0 86400).pair (ofBounded StationType))))))))).map
    (fun d => (d.header, (), d.actionID, d.detectionTime, d.referenceTime, d.eventPosition,
      d.validityDuration, d.stationType))
    (fun (header, _, actionID, detectionTime, referenceTime, position, duration, stationType) =>
      ⟨header, actionID, detectionTime, referenceTime, position, duration, stationType⟩)
    fun _ => rfl

end Packed

/-- Whether the bit string has the size of its type. -/
def BIT_STRING.IsTimestampIts (bits : BIT_STRING) : Prop :=
  bits.buf.length = bits.size ∧ 8 * bits.size = 42 + bits.bits_unused

instance (bits : BIT_STRING) : Decidable bits.IsTimestampIts :=
  inferInstanceAs (Decidable (_ ∧ _))

/-- The bit string of this number, with zeros behind it. -/
def BIT_STRING.ofNumber (number : ℤ) : BIT_STRING where
  buf := octets (bits 42 number.toNat)
  size := 6
  bits_unused := 6

def StampedDENM.pack (denm : StampedDENM) (validityDuration : ℤ) : PackedDENM where
  header := denm.header
  actionID := denm.denm.management.actionID
  detectionTime := denm.detectionTime.number
  referenceTime := denm.referenceTime.number
  eventPosition := denm.denm.management.eventPosition
  validityDuration := validityDuration
  stationType := denm.denm.management.stationType

def PackedDENM.unpack (packed : PackedDENM) : StampedDENM where
  header := packed.header
  denm :=
    { management :=
        { actionID := packed.actionID
          eventPosition := packed.eventPosition
          validityDuration := some packed.validityDuration
          stationType := packed.stationType } }
  detectionTime := .ofNumber packed.detectionTime
  referenceTime := .ofNumber packed.referenceTime

def encodeDenm (denm : StampedDENM) : Option (List UInt8) :=
  match denm.denm.management.validityDuration with
  | none => none
  | some duration =>
      if duration ≠ defaultValidity ∧ denm.detectionTime.IsTimestampIts ∧
          denm.referenceTime.IsTimestampIts then
        Packed.denm.encodeOctets (denm.pack duration)
      else none

def decodeDenm (bytes : List UInt8) : Option StampedDENM :=
  (Packed.denm.decodeOctets bytes).map PackedDENM.unpack

variable {denm : StampedDENM} {bytes : List UInt8}

theorem encodeDenm_eq_some (h : encodeDenm denm = some bytes) :
    ∃ duration, denm.denm.management.validityDuration = some duration ∧
      Packed.denm.encodeOctets (denm.pack duration) = some bytes := by
  unfold encodeDenm at h
  split at h
  next => cases h
  next duration hduration =>
    split at h
    next => exact ⟨duration, hduration, h⟩
    next => cases h

/-- What is encoded is decoded, up to the bits of the time stamps that do not count. -/
theorem decodeDenm_of_encodeDenm (h : encodeDenm denm = some bytes) :
    ∃ denm', decodeDenm bytes = some denm' ∧ denm'.toDENM = denm.toDENM := by
  obtain ⟨duration, hduration, hbytes⟩ := encodeDenm_eq_some h
  have hdecode := Coder.decodeOctets_append hbytes []
  rw [List.append_nil] at hdecode
  refine ⟨(denm.pack duration).unpack, ?_, ?_⟩
  · rw [decodeDenm, hdecode, Option.map_some]
  · show DENM.mk denm.header ⟨{ denm.denm.management with validityDuration := some duration }⟩ = _
    rw [← hduration]

theorem length_encodeDenm_le (h : encodeDenm denm = some bytes) :
    bytes.length ≤ (Packed.denm.size + 7) / 8 := by
  obtain ⟨duration, -, hbytes⟩ := encodeDenm_eq_some h
  exact Coder.length_encodeOctets_le hbytes

end OpenC2X.Asn1
