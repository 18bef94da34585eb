import Mathlib.Data.Int.Notation

/-!
# The ASN.1 structure of a CAM

The part of `CAM_t` that CaService fills, with the ranges that the ASN.1 module
(`its_facilities_pdu_all.asn`) gives to the integer and enumerated types.  In the C
structures all of them are plain integers, so a field can hold a value outside of its
range; such a structure cannot be encoded.

Optional parts that are never set (the low frequency and the special vehicle container
and the optional fields of the high frequency containers) are left out.
-/

namespace OpenC2X.Asn1

/-! ## Types with a range -/

/-- The value of a field together with the bounds of its type. -/
structure Bounded where
  value : ℤ
  lower : ℤ
  upper : ℤ

def Bounded.InRange (field : Bounded) : Prop :=
  field.lower ≤ field.value ∧ field.value ≤ field.upper

instance (field : Bounded) : Decidable field.InRange :=
  inferInstanceAs (Decidable (_ ∧ _))

def ProtocolVersion (value : ℤ) : Bounded := ⟨value, 0, 255⟩
def MessageID (value : ℤ) : Bounded := ⟨value, 0, 255⟩
def StationID (value : ℤ) : Bounded := ⟨value, 0, 4294967295⟩
def GenerationDeltaTime (value : ℤ) : Bounded := ⟨value, 0, 65535⟩
def StationType (value : ℤ) : Bounded := ⟨value, 0, 255⟩
def Latitude (value : ℤ) : Bounded := ⟨value, -900000000, 900000001⟩
def Longitude (value : ℤ) : Bounded := ⟨value, -1800000000, 1800000001⟩
def SemiAxisLength (value : ℤ) : Bounded := ⟨value, 0, 4095⟩
def HeadingValue (value : ℤ) : Bounded := ⟨value, 0, 3601⟩
def HeadingConfidence (value : ℤ) : Bounded := ⟨value, 1, 127⟩
def AltitudeValue (value : ℤ) : Bounded := ⟨value, -100000, 800001⟩
def AltitudeConfidence (value : ℤ) : Bounded := ⟨value, 0, 15⟩
def SpeedValue (value : ℤ) : Bounded := ⟨value, 0, 16383⟩
def SpeedConfidence (value : ℤ) : Bounded := ⟨value, 1, 127⟩
def DriveDirection (value : ℤ) : Bounded := ⟨value, 0, 2⟩
def VehicleLengthValue (value : ℤ) : Bounded := ⟨value, 1, 1023⟩
def VehicleLengthConfidenceIndication (value : ℤ) : Bounded := ⟨value, 0, 4⟩
def VehicleWidth (value : ℤ) : Bounded := ⟨value, 1, 62⟩
def LongitudinalAccelerationValue (value : ℤ) : Bounded := ⟨value, -160, 161⟩
def AccelerationConfidence (value : ℤ) : Bounded := ⟨value, 0, 102⟩
def CurvatureValue (value : ℤ) : Bounded := ⟨value, -30000, 30001⟩
def CurvatureConfidence (value : ℤ) : Bounded := ⟨value, 0, 7⟩
def CurvatureCalculationMode (value : ℤ) : Bounded := ⟨value, 0, 2⟩
def YawRateValue (value : ℤ) : Bounded := ⟨value, -32766, 32767⟩
def YawRateConfidence (value : ℤ) : Bounded := ⟨value, 0, 8⟩

/-! ## Named values -/

def protocolVersion_currentVersion : ℤ := 1
def messageID_cam : ℤ := 2
def StationType_passengerCar : ℤ := 5
def StationType_roadSideUnit : ℤ := 15
def Latitude_unavailable : ℤ := 900000001
def Longitude_unavailable : ℤ := 1800000001
def AltitudeValue_unavailable : ℤ := 800001
def AltitudeConfidence_unavailable : ℤ := 15
def HeadingValue_unavailable : ℤ := 3601
def HeadingConfidence_unavailable : ℤ := 127
def SpeedValue_unavailable : ℤ := 16383
def SpeedConfidence_unavailable : ℤ := 127
def DriveDirection_unavailable : ℤ := 2
def VehicleLengthValue_unavailable : ℤ := 1023
def VehicleLengthConfidenceIndication_unavailable : ℤ := 4
def VehicleWidth_unavailable : ℤ := 62
def LongitudinalAccelerationValue_unavailable : ℤ := 161
def AccelerationConfidence_unavailable : ℤ := 102
def CurvatureValue_unavailable : ℤ := 30001
def CurvatureConfidence_unavailable : ℤ := 7
def CurvatureCalculationMode_unavailable : ℤ := 2
def YawRateValue_unavailable : ℤ := 32767
def YawRateConfidence_unavailable : ℤ := 8

/-! ## The structure -/

structure ItsPduHeader where
  protocolVersion : ℤ
  messageID : ℤ
  stationID : ℤ
  deriving DecidableEq, Repr

structure PosConfidenceEllipse where
  semiMajorConfidence : ℤ
  semiMinorConfidence : ℤ
  semiMajorOrientation : ℤ
  deriving DecidableEq, Repr

structure Altitude where
  altitudeValue : ℤ
  altitudeConfidence : ℤ
  deriving DecidableEq, Repr

structure ReferencePosition where
  latitude : ℤ
  longitude : ℤ
  positionConfidenceEllipse : PosConfidenceEllipse
  altitude : Altitude
  deriving DecidableEq, Repr

structure BasicContainer where
  stationType : ℤ
  referencePosition : ReferencePosition
  deriving DecidableEq, Repr

structure Heading where
  headingValue : ℤ
  headingConfidence : ℤ
  deriving DecidableEq, Repr

structure Speed where
  speedValue : ℤ
  speedConfidence : ℤ
  deriving DecidableEq, Repr

structure VehicleLength where
  vehicleLengthValue : ℤ
  vehicleLengthConfidenceIndication : ℤ
  deriving DecidableEq, Repr

structure LongitudinalAcceleration where
  longitudinalAccelerationValue : ℤ
  longitudinalAccelerationConfidence : ℤ
  deriving DecidableEq, Repr

structure Curvature where
  curvatureValue : ℤ
  curvatureConfidence : ℤ
  deriving DecidableEq, Repr

structure YawRate where
  yawRateValue : ℤ
  yawRateConfidence : ℤ
  deriving DecidableEq, Repr

structure BasicVehicleContainerHighFrequency where
  heading : Heading
  speed : Speed
  driveDirection : ℤ
  vehicleLength : VehicleLength
  vehicleWidth : ℤ
  longitudinalAcceleration : LongitudinalAcceleration
  curvature : Curvature
  curvatureCalculationMode : ℤ
  yawRate : YawRate
  deriving DecidableEq, Repr

/-- The choice `HighFrequencyContainer`.  The only field of an RSU container is optional. -/
inductive HighFrequencyContainer where
  | basicVehicleContainerHighFrequency (container : BasicVehicleContainerHighFrequency)
  | rsuContainerHighFrequency
  deriving DecidableEq, Repr

structure CamParameters where
  basicContainer : BasicContainer
  highFrequencyContainer : HighFrequencyContainer
  deriving DecidableEq, Repr

structure CoopAwareness where
  generationDeltaTime : ℤ
  camParameters : CamParameters
  deriving DecidableEq, Repr

structure CAM where
  header : ItsPduHeader
  cam : CoopAwareness
  deriving DecidableEq, Repr

/-! ## The fields of a CAM -/

def ItsPduHeader.fields (header : ItsPduHeader) : List Bounded :=
  [ProtocolVersion header.protocolVersion, MessageID header.messageID,
    StationID header.stationID]

def ReferencePosition.fields (position : ReferencePosition) : List Bounded :=
  [Latitude position.latitude, Longitude position.longitude,
    SemiAxisLength position.positionConfidenceEllipse.semiMajorConfidence,
    SemiAxisLength position.positionConfidenceEllipse.semiMinorConfidence,
    HeadingValue position.positionConfidenceEllipse.semiMajorOrientation,
    AltitudeValue position.altitude.altitudeValue,
    AltitudeConfidence position.altitude.altitudeConfidence]

def HighFrequencyContainer.fields : HighFrequencyContainer → List Bounded
  | .basicVehicleContainerHighFrequency container =>
      [HeadingValue container.heading.headingValue,
        HeadingConfidence container.heading.headingConfidence,
        SpeedValue container.speed.speedValue,
        SpeedConfidence container.speed.speedConfidence,
        DriveDirection container.driveDirection,
        VehicleLengthValue container.vehicleLength.vehicleLengthValue,
        VehicleLengthConfidenceIndication
          container.vehicleLength.vehicleLengthConfidenceIndication,
        VehicleWidth container.vehicleWidth,
        LongitudinalAccelerationValue
          container.longitudinalAcceleration.longitudinalAccelerationValue,
        AccelerationConfidence
          container.longitudinalAcceleration.longitudinalAccelerationConfidence,
        CurvatureValue container.curvature.curvatureValue,
        CurvatureConfidence container.curvature.curvatureConfidence,
        CurvatureCalculationMode container.curvatureCalculationMode,
        YawRateValue container.yawRate.yawRateValue,
        YawRateConfidence container.yawRate.yawRateConfidence]
  | .rsuContainerHighFrequency => []

/-- Every integer field of a CAM with the bounds of its type. -/
def CAM.fields (cam : CAM) : List Bounded :=
  cam.header.fields ++ [GenerationDeltaTime cam.cam.generationDeltaTime] ++
    [StationType cam.cam.camParameters.basicContainer.stationType] ++
    cam.cam.camParameters.basicContainer.referencePosition.fields ++
    cam.cam.camParameters.highFrequencyContainer.fields

/-- Every field lies in the range of its type. -/
def CAM.InRange (cam : CAM) : Prop := ∀ field ∈ cam.fields, field.InRange

instance (cam : CAM) : Decidable cam.InRange :=
  inferInstanceAs (Decidable (∀ field ∈ cam.fields, field.InRange))

end OpenC2X.Asn1
