import OpenC2X.Common.Asn1
import OpenC2X.Lib.Uper

/-!
# The packed encoding of CAMs

The ASN.1 module (`its_facilities_pdu_all.asn`), from which the coder is generated, says how
many bits a field gets and in which order.  Optional parts are announced by a bit each, before
the components of their sequence, and a type that can be extended begins with a bit that tells
whether it is.

The services set no optional part, and the coder here writes and reads CAMs without them.
-/

namespace OpenC2X.Asn1

open Uper

/-- A field with the bounds of its type. -/
def ofBounded (type : ℤ → Bounded) : Coder ℤ := .int (type 0).lower (type 0).upper

/-- Bits that are all zero: parts that are not present, and types that are not extended. -/
def absent {α : Type*} (count : ℕ) (c : Coder α) : Coder α :=
  ((Coder.const (List.replicate count false)).pair c).map (fun a => ((), a)) Prod.snd
    fun _ => rfl

namespace Packed

def itsPduHeader : Coder ItsPduHeader :=
  ((ofBounded ProtocolVersion).pair ((ofBounded MessageID).pair (ofBounded StationID))).map
    (fun header => (header.protocolVersion, header.messageID, header.stationID))
    (fun (protocolVersion, messageID, stationID) => ⟨protocolVersion, messageID, stationID⟩)
    fun _ => rfl

def posConfidenceEllipse : Coder PosConfidenceEllipse :=
  ((ofBounded SemiAxisLength).pair ((ofBounded SemiAxisLength).pair (ofBounded HeadingValue))).map
    (fun e => (e.semiMajorConfidence, e.semiMinorConfidence, e.semiMajorOrientation))
    (fun (major, minor, orientation) => ⟨major, minor, orientation⟩)
    fun _ => rfl

def altitude : Coder Altitude :=
  ((ofBounded AltitudeValue).pair (ofBounded AltitudeConfidence)).map
    (fun a => (a.altitudeValue, a.altitudeConfidence))
    (fun (value, confidence) => ⟨value, confidence⟩)
    fun _ => rfl

def referencePosition : Coder ReferencePosition :=
  ((ofBounded Latitude).pair
    ((ofBounded Longitude).pair (posConfidenceEllipse.pair altitude))).map
    (fun p => (p.latitude, p.longitude, p.positionConfidenceEllipse, p.altitude))
    (fun (latitude, longitude, ellipse, altitude) => ⟨latitude, longitude, ellipse, altitude⟩)
    fun _ => rfl

/-- The container can be extended. -/
def basicContainer : Coder BasicContainer :=
  (absent 1 ((ofBounded StationType).pair referencePosition)).map
    (fun c => (c.stationType, c.referencePosition))
    (fun (stationType, referencePosition) => ⟨stationType, referencePosition⟩)
    fun _ => rfl

def heading : Coder Heading :=
  ((ofBounded HeadingValue).pair (ofBounded HeadingConfidence)).map
    (fun h => (h.headingValue, h.headingConfidence))
    (fun (value, confidence) => ⟨value, confidence⟩)
    fun _ => rfl

def speed : Coder Speed :=
  ((ofBounded SpeedValue).pair (ofBounded SpeedConfidence)).map
    (fun s => (s.speedValue, s.speedConfidence))
    (fun (value, confidence) => ⟨value, confidence⟩)
    fun _ => rfl

def vehicleLength : Coder VehicleLength :=
  ((ofBounded VehicleLengthValue).pair (ofBounded VehicleLengthConfidenceIndication)).map
    (fun l => (l.vehicleLengthValue, l.vehicleLengthConfidenceIndication))
    (fun (value, indication) => ⟨value, indication⟩)
    fun _ => rfl

def longitudinalAcceleration : Coder LongitudinalAcceleration :=
  ((ofBounded LongitudinalAccelerationValue).pair (ofBounded AccelerationConfidence)).map
    (fun a => (a.longitudinalAccelerationValue, a.longitudinalAccelerationConfidence))
    (fun (value, confidence) => ⟨value, confidence⟩)
    fun _ => rfl

def curvature : Coder Curvature :=
  ((ofBounded CurvatureValue).pair (ofBounded CurvatureConfidence)).map
    (fun c => (c.curvatureValue, c.curvatureConfidence))
    (fun (value, confidence) => ⟨value, confidence⟩)
    fun _ => rfl

def yawRate : Coder YawRate :=
  ((ofBounded YawRateValue).pair (ofBounded YawRateConfidence)).map
    (fun y => (y.yawRateValue, y.yawRateConfidence))
    (fun (value, confidence) => ⟨value, confidence⟩)
    fun _ => rfl

/-- Seven optional components, and a mode that can be extended. -/
def basicVehicleContainerHighFrequency : Coder BasicVehicleContainerHighFrequency :=
  (absent 7 (heading.pair (speed.pair ((ofBounded DriveDirection).pair (vehicleLength.pair
    ((ofBounded VehicleWidth).pair (longitudinalAcceleration.pair (curvature.pair
      ((absent 1 (ofBounded CurvatureCalculationMode)).pair yawRate))))))))).map
    (fun c => (c.heading, c.speed, c.driveDirection, c.vehicleLength, c.vehicleWidth,
      c.longitudinalAcceleration, c.curvature, c.curvatureCalculationMode, c.yawRate))
    (fun (heading, speed, direction, length, width, acceleration, curvature, mode, yawRate) =>
      ⟨heading, speed, direction, length, width, acceleration, curvature, mode, yawRate⟩)
    fun _ => rfl

/-- The choice can be extended, and so can the container of an RSU, whose component is
optional. -/
def highFrequencyContainer : Coder HighFrequencyContainer :=
  (absent 1 (basicVehicleContainerHighFrequency.choice (Coder.const [false, false]))).map
    (fun
      | .basicVehicleContainerHighFrequency container => .inl container
      | .rsuContainerHighFrequency => .inr ())
    (fun
      | .inl container => .basicVehicleContainerHighFrequency container
      | .inr () => .rsuContainerHighFrequency)
    fun c => by cases c <;> rfl

/-- The parameters can be extended, and have two optional components. -/
def camParameters : Coder CamParameters :=
  (absent 3 (basicContainer.pair highFrequencyContainer)).map
    (fun p => (p.basicContainer, p.highFrequencyContainer))
    (fun (basicContainer, highFrequencyContainer) => ⟨basicContainer, highFrequencyContainer⟩)
    fun _ => rfl

def coopAwareness : Coder CoopAwareness :=
  ((ofBounded GenerationDeltaTime).pair camParameters).map
    (fun c => (c.generationDeltaTime, c.camParameters))
    (fun (generationDeltaTime, camParameters) => ⟨generationDeltaTime, camParameters⟩)
    fun _ => rfl

def cam : Coder CAM :=
  (itsPduHeader.pair coopAwareness).map (fun cam => (cam.header, cam.cam))
    (fun (header, cam) => ⟨header, cam⟩) fun _ => rfl

end Packed

/-! ## The CAMs that can be encoded -/

theorem valid_itsPduHeader (header : ItsPduHeader) :
    Packed.itsPduHeader.Valid header ↔ ∀ field ∈ header.fields, field.InRange := by
  simp only [ItsPduHeader.fields, List.forall_mem_cons, List.not_mem_nil, false_imp_iff,
    implies_true, and_true]
  exact Iff.rfl

theorem valid_referencePosition (position : ReferencePosition) :
    Packed.referencePosition.Valid position ↔ ∀ field ∈ position.fields, field.InRange := by
  simp only [ReferencePosition.fields, List.forall_mem_cons, List.not_mem_nil, false_imp_iff,
    implies_true, and_true]
  show (_ ∧ _ ∧ (_ ∧ _ ∧ _) ∧ _ ∧ _) ↔ _
  simp only [and_assoc]
  exact Iff.rfl

theorem valid_highFrequencyContainer (container : HighFrequencyContainer) :
    Packed.highFrequencyContainer.Valid container ↔
      ∀ field ∈ container.fields, field.InRange := by
  cases container with
  | rsuContainerHighFrequency => exact ⟨fun _ => nofun, fun _ => ⟨trivial, trivial⟩⟩
  | basicVehicleContainerHighFrequency container =>
      simp only [HighFrequencyContainer.fields, List.forall_mem_cons, List.not_mem_nil,
        false_imp_iff, implies_true, and_true]
      show (True ∧ True ∧ (_ ∧ _) ∧ (_ ∧ _) ∧ _ ∧ (_ ∧ _) ∧ _ ∧ (_ ∧ _) ∧ (_ ∧ _) ∧
        (True ∧ _) ∧ _ ∧ _) ↔ _
      simp only [true_and, and_assoc]
      exact Iff.rfl

/-- The values that the coder writes are those with all fields in range. -/
theorem valid_cam_iff (cam : CAM) : Packed.cam.Valid cam ↔ cam.InRange := by
  have hcam : Packed.cam.Valid cam ↔ Packed.itsPduHeader.Valid cam.header ∧
      (GenerationDeltaTime cam.cam.generationDeltaTime).InRange ∧ True ∧
        (True ∧ (StationType cam.cam.camParameters.basicContainer.stationType).InRange ∧
          Packed.referencePosition.Valid cam.cam.camParameters.basicContainer.referencePosition) ∧
        Packed.highFrequencyContainer.Valid cam.cam.camParameters.highFrequencyContainer :=
    Iff.rfl
  rw [hcam, valid_itsPduHeader, valid_referencePosition, valid_highFrequencyContainer]
  simp only [CAM.InRange, CAM.fields, List.forall_mem_append, List.forall_mem_singleton,
    true_and, and_assoc]

theorem encodeOctets_cam_eq_none_iff (cam : CAM) :
    Packed.cam.encodeOctets cam = none ↔ ¬cam.InRange := by
  rw [Coder.encodeOctets_eq_none_iff, valid_cam_iff]

end OpenC2X.Asn1
