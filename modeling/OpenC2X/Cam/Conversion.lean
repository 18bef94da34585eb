import OpenC2X.Common.Asn1
import OpenC2X.Common.Buffers
import OpenC2X.Common.Wrapping

/-!
# From CAM_t to the protocol buffer

`convertAsn1toProtoBuf` copies a received CAM field by field into the message for the LDM.
The fields that the two formats share are listed in `CamField`, so that "the field of the
same name" can be said of all of them.

Every field is copied from its own, but for the confidence of the longitudinal acceleration,
which is copied from its neighbour (`CamField.source`).  So the value of this one
is lost, and two CAMs that differ in nothing else become the same message.
-/

namespace OpenC2X

/-! ## The fields -/

/-- The fields of the header, of the basic container and of the vehicle container, by their
names in the protocol buffer. -/
inductive CamField where
  | protocolVersion
  | messageID
  | stationID
  | genDeltaTime
  | stationType
  | latitude
  | longitude
  | semiMajorConfidence
  | semiMinorConfidence
  | semiMajorOrientation
  | altitude
  | altitudeConfidence
  | heading
  | headingConfidence
  | speed
  | speedConfidence
  | driveDirection
  | vehicleLength
  | vehicleLengthConfidence
  | vehicleWidth
  | longitudinalAcceleration
  | longitudinalAccelerationConfidence
  | curvature
  | curvatureConfidence
  | curvatureCalcMode
  | yawRate
  | yawRateConfidence
  deriving DecidableEq

namespace Asn1

/-- The container of a vehicle, if it is the one present. -/
def HighFrequencyContainer.vehicle :
    HighFrequencyContainer → Option BasicVehicleContainerHighFrequency
  | .basicVehicleContainerHighFrequency container => some container
  | .rsuContainerHighFrequency => none

namespace CAM

def basicContainer (cam : CAM) : BasicContainer := cam.cam.camParameters.basicContainer

def referencePosition (cam : CAM) : ReferencePosition := cam.basicContainer.referencePosition

def highFrequencyContainer (cam : CAM) : HighFrequencyContainer :=
  cam.cam.camParameters.highFrequencyContainer

def vehicle (cam : CAM) : Option BasicVehicleContainerHighFrequency :=
  cam.highFrequencyContainer.vehicle

/-- A field in the C structure; `none` where its container is not present. -/
def field (cam : CAM) : CamField → Option ℤ
  | .protocolVersion => some cam.header.protocolVersion
  | .messageID => some cam.header.messageID
  | .stationID => some cam.header.stationID
  | .genDeltaTime => some cam.cam.generationDeltaTime
  | .stationType => some cam.basicContainer.stationType
  | .latitude => some cam.referencePosition.latitude
  | .longitude => some cam.referencePosition.longitude
  | .semiMajorConfidence =>
      some cam.referencePosition.positionConfidenceEllipse.semiMajorConfidence
  | .semiMinorConfidence =>
      some cam.referencePosition.positionConfidenceEllipse.semiMinorConfidence
  | .semiMajorOrientation =>
      some cam.referencePosition.positionConfidenceEllipse.semiMajorOrientation
  | .altitude => some cam.referencePosition.altitude.altitudeValue
  | .altitudeConfidence => some cam.referencePosition.altitude.altitudeConfidence
  | .heading => cam.vehicle.map fun v => v.heading.headingValue
  | .headingConfidence => cam.vehicle.map fun v => v.heading.headingConfidence
  | .speed => cam.vehicle.map fun v => v.speed.speedValue
  | .speedConfidence => cam.vehicle.map fun v => v.speed.speedConfidence
  | .driveDirection => cam.vehicle.map fun v => v.driveDirection
  | .vehicleLength => cam.vehicle.map fun v => v.vehicleLength.vehicleLengthValue
  | .vehicleLengthConfidence =>
      cam.vehicle.map fun v => v.vehicleLength.vehicleLengthConfidenceIndication
  | .vehicleWidth => cam.vehicle.map fun v => v.vehicleWidth
  | .longitudinalAcceleration =>
      cam.vehicle.map fun v => v.longitudinalAcceleration.longitudinalAccelerationValue
  | .longitudinalAccelerationConfidence =>
      cam.vehicle.map fun v => v.longitudinalAcceleration.longitudinalAccelerationConfidence
  | .curvature => cam.vehicle.map fun v => v.curvature.curvatureValue
  | .curvatureConfidence => cam.vehicle.map fun v => v.curvature.curvatureConfidence
  | .curvatureCalcMode => cam.vehicle.map fun v => v.curvatureCalculationMode
  | .yawRate => cam.vehicle.map fun v => v.yawRate.yawRateValue
  | .yawRateConfidence => cam.vehicle.map fun v => v.yawRate.yawRateConfidence

/-- The fields determine the CAM. -/
theorem ext_field {cam cam' : CAM} (h : ∀ f, cam.field f = cam'.field f) : cam = cam' := by
  obtain ⟨⟨pv, mid, sid⟩, ⟨gdt, ⟨⟨st, ⟨lat, lon, ⟨smaj, smin, ori⟩, ⟨alt, altc⟩⟩⟩, hfc⟩⟩⟩ := cam
  obtain ⟨⟨pv', mid', sid'⟩, ⟨gdt', ⟨⟨st', ⟨lat', lon', ⟨smaj', smin', ori'⟩, ⟨alt', altc'⟩⟩⟩,
    hfc'⟩⟩⟩ := cam'
  obtain rfl : pv = pv' := Option.some.inj (h .protocolVersion)
  obtain rfl : mid = mid' := Option.some.inj (h .messageID)
  obtain rfl : sid = sid' := Option.some.inj (h .stationID)
  obtain rfl : gdt = gdt' := Option.some.inj (h .genDeltaTime)
  obtain rfl : st = st' := Option.some.inj (h .stationType)
  obtain rfl : lat = lat' := Option.some.inj (h .latitude)
  obtain rfl : lon = lon' := Option.some.inj (h .longitude)
  obtain rfl : smaj = smaj' := Option.some.inj (h .semiMajorConfidence)
  obtain rfl : smin = smin' := Option.some.inj (h .semiMinorConfidence)
  obtain rfl : ori = ori' := Option.some.inj (h .semiMajorOrientation)
  obtain rfl : alt = alt' := Option.some.inj (h .altitude)
  obtain rfl : altc = altc' := Option.some.inj (h .altitudeConfidence)
  cases hfc with
  | rsuContainerHighFrequency =>
      cases hfc' with
      | rsuContainerHighFrequency => rfl
      | basicVehicleContainerHighFrequency v' => cases h .heading
  | basicVehicleContainerHighFrequency v =>
      cases hfc' with
      | rsuContainerHighFrequency => cases h .heading
      | basicVehicleContainerHighFrequency v' =>
          obtain ⟨⟨head, headc⟩, ⟨speed, speedc⟩, dir, ⟨len, lenc⟩, width, ⟨acc, accc⟩,
            ⟨curv, curvc⟩, mode, ⟨yaw, yawc⟩⟩ := v
          obtain ⟨⟨head', headc'⟩, ⟨speed', speedc'⟩, dir', ⟨len', lenc'⟩, width', ⟨acc', accc'⟩,
            ⟨curv', curvc'⟩, mode', ⟨yaw', yawc'⟩⟩ := v'
          obtain rfl : head = head' := Option.some.inj (h .heading)
          obtain rfl : headc = headc' := Option.some.inj (h .headingConfidence)
          obtain rfl : speed = speed' := Option.some.inj (h .speed)
          obtain rfl : speedc = speedc' := Option.some.inj (h .speedConfidence)
          obtain rfl : dir = dir' := Option.some.inj (h .driveDirection)
          obtain rfl : len = len' := Option.some.inj (h .vehicleLength)
          obtain rfl : lenc = lenc' := Option.some.inj (h .vehicleLengthConfidence)
          obtain rfl : width = width' := Option.some.inj (h .vehicleWidth)
          obtain rfl : acc = acc' := Option.some.inj (h .longitudinalAcceleration)
          obtain rfl : accc = accc' := Option.some.inj (h .longitudinalAccelerationConfidence)
          obtain rfl : curv = curv' := Option.some.inj (h .curvature)
          obtain rfl : curvc = curvc' := Option.some.inj (h .curvatureConfidence)
          obtain rfl : mode = mode' := Option.some.inj (h .curvatureCalcMode)
          obtain rfl : yaw = yaw' := Option.some.inj (h .yawRate)
          obtain rfl : yawc = yawc' := Option.some.inj (h .yawRateConfidence)
          rfl

end CAM

end Asn1

/-- A field of the message. -/
def Buffers.CAM.field (cam : Buffers.CAM) : CamField → Option ℤ
  | .protocolVersion => (cam.header.bind (·.protocolVersion)).map Int64.toInt
  | .messageID => (cam.header.bind (·.messageID)).map Int64.toInt
  | .stationID => (cam.header.bind (·.stationID)).map fun n => n.toNat
  | .genDeltaTime => (cam.coop.bind (·.genDeltaTime)).map Int64.toInt
  | .stationType => (cam.basiccontainer.bind (·.stationType)).map Int64.toInt
  | .latitude => (cam.basiccontainer.bind (·.latitude)).map Int64.toInt
  | .longitude => (cam.basiccontainer.bind (·.longitude)).map Int64.toInt
  | .semiMajorConfidence => (cam.basiccontainer.bind (·.semiMajorConfidence)).map Int64.toInt
  | .semiMinorConfidence => (cam.basiccontainer.bind (·.semiMinorConfidence)).map Int64.toInt
  | .semiMajorOrientation => (cam.basiccontainer.bind (·.semiMajorOrientation)).map Int64.toInt
  | .altitude => (cam.basiccontainer.bind (·.altitude)).map Int64.toInt
  | .altitudeConfidence => (cam.basiccontainer.bind (·.altitudeConfidence)).map Int64.toInt
  | .heading => (cam.basicvehiclehighfreqcontainer.bind (·.heading)).map Int64.toInt
  | .headingConfidence =>
      (cam.basicvehiclehighfreqcontainer.bind (·.headingConfidence)).map Int64.toInt
  | .speed => (cam.basicvehiclehighfreqcontainer.bind (·.speed)).map Int64.toInt
  | .speedConfidence =>
      (cam.basicvehiclehighfreqcontainer.bind (·.speedConfidence)).map Int64.toInt
  | .driveDirection =>
      (cam.basicvehiclehighfreqcontainer.bind (·.driveDirection)).map Int64.toInt
  | .vehicleLength =>
      (cam.basicvehiclehighfreqcontainer.bind (·.vehicleLength)).map Int64.toInt
  | .vehicleLengthConfidence =>
      (cam.basicvehiclehighfreqcontainer.bind (·.vehicleLengthConfidence)).map Int64.toInt
  | .vehicleWidth => (cam.basicvehiclehighfreqcontainer.bind (·.vehicleWidth)).map Int64.toInt
  | .longitudinalAcceleration =>
      (cam.basicvehiclehighfreqcontainer.bind (·.longitudinalAcceleration)).map Int64.toInt
  | .longitudinalAccelerationConfidence =>
      (cam.basicvehiclehighfreqcontainer.bind (·.longitudinalAccelerationConfidence)).map
        Int64.toInt
  | .curvature => (cam.basicvehiclehighfreqcontainer.bind (·.curvature)).map Int64.toInt
  | .curvatureConfidence =>
      (cam.basicvehiclehighfreqcontainer.bind (·.curvatureConfidence)).map Int64.toInt
  | .curvatureCalcMode =>
      (cam.basicvehiclehighfreqcontainer.bind (·.curvatureCalcMode)).map Int64.toInt
  | .yawRate => (cam.basicvehiclehighfreqcontainer.bind (·.yawRate)).map Int64.toInt
  | .yawRateConfidence =>
      (cam.basicvehiclehighfreqcontainer.bind (·.yawRateConfidence)).map Int64.toInt

/-! ## The C structure -/

/-- The type of a field in C, and of the message: `unsigned long` for the station, `long`
otherwise. -/
def CamField.IsOfType : CamField → ℤ → Prop
  | .stationID, x => IsUInt64 x
  | _, x => IsInt64 x

/-- The value of the field when `x` is assigned to it. -/
def CamField.wrap : CamField → ℤ → ℤ
  | .stationID, x => (UInt64.ofInt x).toNat
  | _, x => (Int64.ofInt x).toInt

/-- The field that is copied into a field. -/
def CamField.source : CamField → CamField
  | .longitudinalAccelerationConfidence => .longitudinalAcceleration
  | f => f

namespace CamField

theorem wrap_of_isOfType (f : CamField) {x : ℤ} (h : f.IsOfType x) : f.wrap x = x := by
  cases f with
  | stationID => exact toNat_ofInt_of_isUInt64 h
  | _ => exact toInt_ofInt_of_isInt64 h

theorem isOfType_of_source (f : CamField) {x : ℤ} (h : f.source.IsOfType x) : f.IsOfType x := by
  cases f <;> exact h

theorem source_of_ne (f : CamField) (hf : f ≠ .longitudinalAccelerationConfidence) :
    f.source = f := by
  cases f with
  | longitudinalAccelerationConfidence => exact absurd rfl hf
  | _ => rfl

end CamField

/-- A CAM whose fields are values of their C types. -/
structure CAM_t where
  cam : Asn1.CAM
  typed : ∀ f x, cam.field f = some x → f.IsOfType x

namespace Cam

/-! ## The conversion -/

/-- `convertAsn1toProtoBuf` -/
def convertAsn1toProtoBuf (cam : Asn1.CAM) : Buffers.CAM where
  header := some
    { messageID := some (.ofInt cam.header.messageID)
      protocolVersion := some (.ofInt cam.header.protocolVersion)
      stationID := some (.ofInt cam.header.stationID) }
  coop := some
    { genDeltaTime := some (.ofInt cam.cam.generationDeltaTime)
      camParameters := some
        { basicContainer := some
            { stationType := some (.ofInt cam.basicContainer.stationType)
              latitude := some (.ofInt cam.referencePosition.latitude)
              longitude := some (.ofInt cam.referencePosition.longitude)
              altitude := some (.ofInt cam.referencePosition.altitude.altitudeValue)
              altitudeConfidence :=
                some (.ofInt cam.referencePosition.altitude.altitudeConfidence)
              semiMajorConfidence := some
                (.ofInt cam.referencePosition.positionConfidenceEllipse.semiMajorConfidence)
              semiMinorConfidence := some
                (.ofInt cam.referencePosition.positionConfidenceEllipse.semiMinorConfidence)
              semiMajorOrientation := some
                (.ofInt cam.referencePosition.positionConfidenceEllipse.semiMajorOrientation) }
          highFreqContainer := some
            (match cam.highFrequencyContainer with
            | .basicVehicleContainerHighFrequency v =>
                { type := some .BASIC_HIGH_FREQ_CONTAINER
                  basicVehicleHighFreqContainer := some
                    { heading := some (.ofInt v.heading.headingValue)
                      headingConfidence := some (.ofInt v.heading.headingConfidence)
                      speed := some (.ofInt v.speed.speedValue)
                      speedConfidence := some (.ofInt v.speed.speedConfidence)
                      driveDirection := some (.ofInt v.driveDirection)
                      vehicleLength := some (.ofInt v.vehicleLength.vehicleLengthValue)
                      vehicleLengthConfidence :=
                        some (.ofInt v.vehicleLength.vehicleLengthConfidenceIndication)
                      vehicleWidth := some (.ofInt v.vehicleWidth)
                      longitudinalAcceleration := some
                        (.ofInt v.longitudinalAcceleration.longitudinalAccelerationValue)
                      -- the value, where the confidence should be
                      longitudinalAccelerationConfidence := some
                        (.ofInt v.longitudinalAcceleration.longitudinalAccelerationValue)
                      curvature := some (.ofInt v.curvature.curvatureValue)
                      curvatureConfidence := some (.ofInt v.curvature.curvatureConfidence)
                      curvatureCalcMode := some (.ofInt v.curvatureCalculationMode)
                      yawRate := some (.ofInt v.yawRate.yawRateValue)
                      yawRateConfidence := some (.ofInt v.yawRate.yawRateConfidence) } }
            | .rsuContainerHighFrequency =>
                { type := some .RSU_HIGH_FREQ_CONTAINER
                  rsuHighFreqContainer := some {} }) } }

/-- The container that is present is the one that the type announces. -/
def ContainerMatches (container : Asn1.HighFrequencyContainer)
    (proto : Buffers.HighFreqContainer) : Prop :=
  match container with
  | .basicVehicleContainerHighFrequency _ =>
      proto.type = some .BASIC_HIGH_FREQ_CONTAINER ∧
        proto.basicVehicleHighFreqContainer.isSome = true ∧ proto.rsuHighFreqContainer = none
  | .rsuContainerHighFrequency =>
      proto.type = some .RSU_HIGH_FREQ_CONTAINER ∧
        proto.rsuHighFreqContainer.isSome = true ∧ proto.basicVehicleHighFreqContainer = none

theorem field_convertAsn1toProtoBuf (cam : Asn1.CAM) (f : CamField) :
    (convertAsn1toProtoBuf cam).field f = (cam.field f.source).map f.wrap := by
  obtain ⟨header, ⟨generationDeltaTime, ⟨basicContainer, highFrequencyContainer⟩⟩⟩ := cam
  cases highFrequencyContainer <;> cases f <;> rfl

/-- Every field has the value of its source. -/
theorem field_convert_of_typed (cam : CAM_t) (f : CamField) :
    (convertAsn1toProtoBuf cam.cam).field f = cam.cam.field f.source := by
  rw [field_convertAsn1toProtoBuf]
  cases hfield : cam.cam.field f.source with
  | none => rfl
  | some x =>
      have htyped : f.IsOfType x := f.isOfType_of_source (cam.typed f.source x hfield)
      rw [Option.map_some, f.wrap_of_isOfType htyped]

theorem containerMatches_convert (cam : Asn1.CAM) :
    ∃ container, (convertAsn1toProtoBuf cam).highfreqcontainer = some container ∧
      ContainerMatches cam.highFrequencyContainer container := by
  obtain ⟨header, ⟨generationDeltaTime, ⟨basicContainer, highFrequencyContainer⟩⟩⟩ := cam
  cases highFrequencyContainer <;> exact ⟨_, rfl, rfl, rfl, rfl⟩

/-! ## What is lost -/

/-- The conversion keeps every field, and the kind of the container. -/
structure KeepsFields (cam : CAM_t) : Prop where
  field_eq : ∀ f, (convertAsn1toProtoBuf cam.cam).field f = cam.cam.field f
  containerMatches : ∃ container,
    (convertAsn1toProtoBuf cam.cam).highfreqcontainer = some container ∧
      ContainerMatches cam.cam.highFrequencyContainer container

/-- The confidence of the longitudinal acceleration is the same number as its value. -/
def ConfidenceIsValue (cam : Asn1.CAM) : Prop :=
  cam.field .longitudinalAccelerationConfidence = cam.field .longitudinalAcceleration

/-- The CAM with another confidence of the longitudinal acceleration, if it has one. -/
def withConfidence (cam : Asn1.CAM) (confidence : ℤ) : Asn1.CAM :=
  match cam.highFrequencyContainer with
  | .rsuContainerHighFrequency => cam
  | .basicVehicleContainerHighFrequency v =>
      { cam with cam.camParameters.highFrequencyContainer :=
          .basicVehicleContainerHighFrequency { v with
            longitudinalAcceleration.longitudinalAccelerationConfidence := confidence } }

theorem convert_withConfidence (cam : Asn1.CAM) (confidence : ℤ) :
    convertAsn1toProtoBuf (withConfidence cam confidence) = convertAsn1toProtoBuf cam := by
  obtain ⟨header, ⟨generationDeltaTime, ⟨basicContainer, highFrequencyContainer⟩⟩⟩ := cam
  cases highFrequencyContainer <;> rfl

theorem field_withConfidence (cam : Asn1.CAM) (confidence : ℤ) (f : CamField) :
    (withConfidence cam confidence).field f =
      if f = .longitudinalAccelerationConfidence then (cam.field f).map fun _ => confidence
      else cam.field f := by
  obtain ⟨header, ⟨generationDeltaTime, ⟨basicContainer, highFrequencyContainer⟩⟩⟩ := cam
  cases highFrequencyContainer <;> cases f <;> rfl

/-- CAMs that agree in all other fields become the same message. -/
theorem convert_eq_of_others {cam cam' : Asn1.CAM}
    (hothers : ∀ f, f ≠ .longitudinalAccelerationConfidence → cam.field f = cam'.field f) :
    convertAsn1toProtoBuf cam = convertAsn1toProtoBuf cam' := by
  obtain ⟨confidence, hconfidence⟩ : ∃ confidence,
      (cam.field .longitudinalAccelerationConfidence).map (fun _ => confidence) =
        cam'.field .longitudinalAccelerationConfidence := by
    -- both have the field or none, as they have the speed or not
    have hspeed := hothers .speed (by decide)
    simp only [Asn1.CAM.field] at hspeed ⊢
    cases hv : cam.vehicle with
    | none =>
        rw [hv] at hspeed
        rw [Option.map_eq_none_iff.mp hspeed.symm]
        exact ⟨0, rfl⟩
    | some v =>
        rw [hv] at hspeed
        obtain ⟨v', hv', -⟩ := Option.map_eq_some_iff.mp hspeed.symm
        rw [hv']
        exact ⟨_, rfl⟩
  have hsame : withConfidence cam confidence = cam' := by
    apply Asn1.CAM.ext_field
    intro f
    rw [field_withConfidence]
    split_ifs with hf
    · rw [hf]
      exact hconfidence
    · exact hothers f hf
  rw [← hsame, convert_withConfidence]

theorem keepsFields_iff (cam : CAM_t) : KeepsFields cam ↔ ConfidenceIsValue cam.cam := by
  constructor
  · intro h
    have hfield := h.field_eq .longitudinalAccelerationConfidence
    rw [field_convert_of_typed] at hfield
    exact hfield.symm
  · intro h
    refine ⟨fun f => ?_, containerMatches_convert cam.cam⟩
    rw [field_convert_of_typed]
    by_cases hf : f = .longitudinalAccelerationConfidence
    · rw [hf]
      exact h.symm
    · rw [f.source_of_ne hf]

/-- **Conversion of CAMs.**  A CAM keeps its fields if and only if the confidence of its
longitudinal acceleration is the same number as the value, or it has neither.  Two CAMs
that become the same message have the same fields, unless they differ in this confidence
and nothing else. -/
theorem conversionKeepsFields_iff (cam cam' : CAM_t) :
    (KeepsFields cam ↔ ConfidenceIsValue cam.cam) ∧
      ((convertAsn1toProtoBuf cam.cam = convertAsn1toProtoBuf cam'.cam →
          ∀ f, cam.cam.field f = cam'.cam.field f) ↔
        ((∀ f, f ≠ .longitudinalAccelerationConfidence → cam.cam.field f = cam'.cam.field f) →
          cam.cam.field .longitudinalAccelerationConfidence =
            cam'.cam.field .longitudinalAccelerationConfidence)) := by
  refine ⟨keepsFields_iff cam, ?_, ?_⟩
  · intro hsame hothers
    exact hsame (convert_eq_of_others hothers) _
  · intro hconfidence heq
    have hothers : ∀ f, f ≠ .longitudinalAccelerationConfidence →
        cam.cam.field f = cam'.cam.field f := by
      intro f hf
      have hfield := congrArg (Buffers.CAM.field · f) heq
      simp only [field_convert_of_typed] at hfield
      rwa [f.source_of_ne hf] at hfield
    intro f
    by_cases hf : f = .longitudinalAccelerationConfidence
    · rw [hf]
      exact hconfidence hothers
    · exact hothers f hf

/-- A received CAM of a vehicle that accelerates by 0.5 m/s², known to 1 m/s² or better. -/
def acceleratingVehicle : CAM_t where
  cam :=
    { header := ⟨1, 2, 4711⟩
      cam := ⟨100, ⟨5, ⟨515000000, 88000000, ⟨0, 0, 0⟩, ⟨10000, 15⟩⟩⟩,
        .basicVehicleContainerHighFrequency
          ⟨⟨900, 10⟩, ⟨1388, 100⟩, 0, ⟨45, 0⟩, 18, ⟨5, 10⟩, ⟨0, 7⟩, 2, ⟨0, 8⟩⟩⟩ }
  typed := by
    intro f x h
    cases f <;> cases h <;> constructor <;> decide

/-- Its confidence is lost. -/
theorem not_conversionKeepsFields_acceleratingVehicle :
    (convertAsn1toProtoBuf acceleratingVehicle.cam).field .longitudinalAccelerationConfidence =
        some 5 ∧
      acceleratingVehicle.cam.field .longitudinalAccelerationConfidence = some 10 ∧
      ¬KeepsFields acceleratingVehicle := by
  refine ⟨by decide, rfl, fun h => ?_⟩
  exact absurd (h.field_eq .longitudinalAccelerationConfidence) (by decide)

end Cam

end OpenC2X
