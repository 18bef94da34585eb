import OpenC2X.Common.Asn1
import OpenC2X.Common.Buffers
import OpenC2X.Common.Wrapping

/-!
# From DENM_t to the protocol buffer

`convertAsn1toProtoBuf` of the DENM service copies a DENM, received or just generated, into
the message for the LDM.  The validity duration is optional in the C structure, where it
is a pointer, and in the message.

The test of the pointer is the wrong way round: a null pointer is read, and the duration
of a pointer that is not null is not copied.  So a DENM without a duration ends the
service and one with a duration loses it; all other fields are copied.
-/

namespace OpenC2X

/-! ## The structure in C -/

namespace Asn1

structure ActionID where
  originatingStationID : ℤ
  sequenceNumber : ℤ
  deriving DecidableEq, Repr

/-- The components that the conversion reads.  `none` stands for a null pointer. -/
structure ManagementContainer where
  actionID : ActionID
  eventPosition : ReferencePosition
  validityDuration : Option ℤ
  stationType : ℤ
  deriving DecidableEq, Repr

structure DecentralizedEnvironmentalNotificationMessage where
  management : ManagementContainer
  deriving DecidableEq, Repr

structure DENM where
  header : ItsPduHeader
  denm : DecentralizedEnvironmentalNotificationMessage
  deriving DecidableEq, Repr

end Asn1

/-! ## The fields -/

/-- The fields of the header and of the management container that are always there, by
their names in the protocol buffer. -/
inductive DenmField where
  | protocolVersion
  | messageID
  | stationID
  | originatingStationID
  | sequenceNumber
  | latitude
  | longitude
  | semiMajorConfidence
  | semiMinorConfidence
  | semiMajorOrientation
  | altitude
  | altitudeConfidence
  | stationType
  deriving DecidableEq

/-- The type of a field in C, and of the message: `unsigned long` for stations, `long`
otherwise. -/
def DenmField.IsOfType : DenmField → ℤ → Prop
  | .stationID, x | .originatingStationID, x => IsUInt64 x
  | _, x => IsInt64 x

def Asn1.DENM.field (denm : Asn1.DENM) : DenmField → ℤ
  | .protocolVersion => denm.header.protocolVersion
  | .messageID => denm.header.messageID
  | .stationID => denm.header.stationID
  | .originatingStationID => denm.denm.management.actionID.originatingStationID
  | .sequenceNumber => denm.denm.management.actionID.sequenceNumber
  | .latitude => denm.denm.management.eventPosition.latitude
  | .longitude => denm.denm.management.eventPosition.longitude
  | .semiMajorConfidence =>
      denm.denm.management.eventPosition.positionConfidenceEllipse.semiMajorConfidence
  | .semiMinorConfidence =>
      denm.denm.management.eventPosition.positionConfidenceEllipse.semiMinorConfidence
  | .semiMajorOrientation =>
      denm.denm.management.eventPosition.positionConfidenceEllipse.semiMajorOrientation
  | .altitude => denm.denm.management.eventPosition.altitude.altitudeValue
  | .altitudeConfidence => denm.denm.management.eventPosition.altitude.altitudeConfidence
  | .stationType => denm.denm.management.stationType

def Buffers.DENM.field (denm : Buffers.DENM) : DenmField → Option ℤ
  | .protocolVersion => (denm.header.bind (·.protocolVersion)).map Int64.toInt
  | .messageID => (denm.header.bind (·.messageID)).map Int64.toInt
  | .stationID => (denm.header.bind (·.stationID)).map fun n => n.toNat
  | .originatingStationID => (denm.managementcontainer.bind (·.stationID)).map fun n => n.toNat
  | .sequenceNumber => (denm.managementcontainer.bind (·.sequenceNumber)).map Int64.toInt
  | .latitude => (denm.managementcontainer.bind (·.latitude)).map Int64.toInt
  | .longitude => (denm.managementcontainer.bind (·.longitude)).map Int64.toInt
  | .semiMajorConfidence =>
      (denm.managementcontainer.bind (·.semiMajorConfidence)).map Int64.toInt
  | .semiMinorConfidence =>
      (denm.managementcontainer.bind (·.semiMinorConfidence)).map Int64.toInt
  | .semiMajorOrientation =>
      (denm.managementcontainer.bind (·.semiMajorOrientation)).map Int64.toInt
  | .altitude => (denm.managementcontainer.bind (·.altitude)).map Int64.toInt
  | .altitudeConfidence =>
      (denm.managementcontainer.bind (·.altitudeConfidence)).map Int64.toInt
  | .stationType => (denm.managementcontainer.bind (·.stationType)).map Int64.toInt

def Buffers.DENM.validityDuration (denm : Buffers.DENM) : Option ℤ :=
  (denm.managementcontainer.bind (·.validityDuration)).map Int64.toInt

/-- A DENM whose fields are values of their C types. -/
structure DENM_t where
  denm : Asn1.DENM
  typed : ∀ f : DenmField, f.IsOfType (denm.field f)
  duration_typed : ∀ x, denm.denm.management.validityDuration = some x → IsInt64 x

namespace Denm

/-! ## The conversion -/

/-- `convertAsn1toProtoBuf`; `none` stands for the read of a null pointer. -/
def convertAsn1toProtoBuf (denm : Asn1.DENM) : Option Buffers.DENM := do
  let header : Buffers.ItsPduHeader :=
    { messageID := some (.ofInt denm.header.messageID)
      protocolVersion := some (.ofInt denm.header.protocolVersion)
      stationID := some (.ofInt denm.header.stationID) }
  let management := denm.denm.management
  let position := management.eventPosition
  let mgtCtr : Buffers.DENMManagementContainer :=
    { stationID := some (.ofInt management.actionID.originatingStationID)
      sequenceNumber := some (.ofInt management.actionID.sequenceNumber)
      latitude := some (.ofInt position.latitude)
      longitude := some (.ofInt position.longitude)
      semiMajorConfidence :=
        some (.ofInt position.positionConfidenceEllipse.semiMajorConfidence)
      semiMinorConfidence :=
        some (.ofInt position.positionConfidenceEllipse.semiMinorConfidence)
      semiMajorOrientation :=
        some (.ofInt position.positionConfidenceEllipse.semiMajorOrientation)
      altitude := some (.ofInt position.altitude.altitudeValue)
      altitudeConfidence := some (.ofInt position.altitude.altitudeConfidence) }
  let mgtCtr ←
    if management.validityDuration.isNone then do
      let duration ← management.validityDuration
      pure { mgtCtr with validityDuration := some (.ofInt duration) }
    else
      pure mgtCtr
  let mgtCtr := { mgtCtr with stationType := some (.ofInt management.stationType) }
  return { header := some header, msg := some { managementContainer := some mgtCtr } }

/-- The message that a conversion should return. -/
structure Keeps (denm : Asn1.DENM) (proto : Buffers.DENM) : Prop where
  field_eq : ∀ f, proto.field f = some (denm.field f)
  validityDuration_eq : proto.validityDuration = denm.denm.management.validityDuration

/-- The conversion is total on this DENM and loses nothing. -/
def Converts (denm : DENM_t) : Prop :=
  ∃ proto, convertAsn1toProtoBuf denm.denm = some proto ∧ Keeps denm.denm proto

theorem convert_of_null {denm : Asn1.DENM}
    (hnull : denm.denm.management.validityDuration = none) :
    convertAsn1toProtoBuf denm = none := by
  simp [convertAsn1toProtoBuf, hnull]

/-- With a duration the message has all fields but the duration. -/
theorem convert_of_duration (denm : DENM_t) {duration : ℤ}
    (hduration : denm.denm.denm.management.validityDuration = some duration) :
    ∃ proto, convertAsn1toProtoBuf denm.denm = some proto ∧
      (∀ f, proto.field f = some (denm.denm.field f)) ∧ proto.validityDuration = none := by
  obtain ⟨⟨header, ⟨⟨actionID, position, validityDuration, stationType⟩⟩⟩, typed, _⟩ := denm
  obtain rfl : validityDuration = some duration := hduration
  refine ⟨_, rfl, fun f => ?_, rfl⟩
  have htyped := typed f
  cases f with
  | stationID | originatingStationID => exact congrArg some (toNat_ofInt_of_isUInt64 htyped)
  | _ => exact congrArg some (toInt_ofInt_of_isInt64 htyped)

/-- **Conversion of DENMs.**  No DENM at all is converted as it should be. -/
theorem not_converts (denm : DENM_t) : ¬Converts denm := by
  rintro ⟨proto, hproto, hkeeps⟩
  cases hduration : denm.denm.denm.management.validityDuration with
  | none =>
      rw [convert_of_null hduration] at hproto
      cases hproto
  | some duration =>
      obtain ⟨proto', hproto', -, hlost⟩ := convert_of_duration denm hduration
      obtain rfl : proto' = proto := Option.some.inj (hproto'.symm.trans hproto)
      have hkept := hkeeps.validityDuration_eq
      rw [hlost, hduration] at hkept
      cases hkept

/-- A received DENM of another station, without a validity duration. -/
def foreignDenm : DENM_t where
  denm :=
    { header := ⟨1, 1, 4711⟩
      denm := ⟨⟨⟨4711, 1⟩, ⟨515000000, 88000000, ⟨4095, 4095, 3601⟩, ⟨10000, 15⟩⟩, none, 5⟩⟩ }
  typed := by
    intro f
    cases f <;> constructor <;> decide
  duration_typed := by
    intro x h
    cases h

/-- It is converted by reading a null pointer. -/
theorem not_converts_foreignDenm :
    convertAsn1toProtoBuf foreignDenm.denm = none ∧ ¬Converts foreignDenm := by
  refine ⟨rfl, ?_⟩
  rintro ⟨proto, hproto, -⟩
  cases hproto

end Denm

end OpenC2X
