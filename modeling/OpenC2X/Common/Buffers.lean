import OpenC2X.Lib.Double

/-!
# Protocol buffer messages

The messages in which CAMs and DENMs are handed between the services.  Every field of a
message may be set or not, the required ones too: `ParseFromString` fills in what it
finds, and the services do not look at its result.  An accessor of a field that is not
set returns the default value.

`bytes` that carry a serialized message are given as the message.
-/

namespace OpenC2X.Buffers

/-! ## Fields -/

/-- A required or optional field. -/
abbrev ProtoField (α : Type) : Type := Option α

/-- What the accessor returns. -/
def ProtoField.value {α : Type} [Inhabited α] (field : ProtoField α) : α := field.getD default

section

variable {α β : Type} [Inhabited α]

@[simp] theorem ProtoField.value_none : ProtoField.value (none : ProtoField α) = default := rfl

/-- A field of a submessage, read through the accessors.  The default submessage has no
field set. -/
theorem ProtoField.value_bind [Inhabited β] (field : ProtoField α) {get : α → ProtoField β}
    (hdefault : get default = none) :
    ProtoField.value (field.bind get) = ProtoField.value (get field.value) := by
  cases field with
  | none => rw [ProtoField.value_none, hdefault]; rfl
  | some a => rfl

/-- A field that is set belongs to a submessage that is set. -/
theorem ProtoField.get_value_of_bind {field : ProtoField α} {get : α → ProtoField β} {b : β}
    (hset : field.bind get = some b) : get field.value = some b := by
  obtain ⟨a, rfl, hget⟩ := Option.bind_eq_some_iff.mp hset
  exact hget

end

/-! ## The messages -/

structure ItsPduHeader where
  protocolVersion : ProtoField Int64 := none
  messageID : ProtoField Int64 := none
  stationID : ProtoField UInt64 := none
  deriving DecidableEq, Inhabited

structure BasicContainer where
  stationType : ProtoField Int64 := none
  latitude : ProtoField Int64 := none
  longitude : ProtoField Int64 := none
  semiMajorConfidence : ProtoField Int64 := none
  semiMinorConfidence : ProtoField Int64 := none
  semiMajorOrientation : ProtoField Int64 := none
  altitude : ProtoField Int64 := none
  altitudeConfidence : ProtoField Int64 := none
  deriving DecidableEq, Inhabited

structure BasicVehicleHighFreqContainer where
  heading : ProtoField Int64 := none
  headingConfidence : ProtoField Int64 := none
  speed : ProtoField Int64 := none
  speedConfidence : ProtoField Int64 := none
  driveDirection : ProtoField Int64 := none
  vehicleLength : ProtoField Int64 := none
  vehicleLengthConfidence : ProtoField Int64 := none
  vehicleWidth : ProtoField Int64 := none
  longitudinalAcceleration : ProtoField Int64 := none
  longitudinalAccelerationConfidence : ProtoField Int64 := none
  curvature : ProtoField Int64 := none
  curvatureConfidence : ProtoField Int64 := none
  curvatureCalcMode : ProtoField Int64 := none
  yawRate : ProtoField Int64 := none
  yawRateConfidence : ProtoField Int64 := none
  accelerationControl : ProtoField Int64 := none
  lanePosition : ProtoField Int64 := none
  steeringWheelAngle : ProtoField Int64 := none
  steeringWheelAngleConfidence : ProtoField Int64 := none
  lateralAcceleration : ProtoField Int64 := none
  lateralAccelerationConfidence : ProtoField Int64 := none
  verticalAcceleration : ProtoField Int64 := none
  verticalAccelerationConfidence : ProtoField Int64 := none
  performanceClass : ProtoField Int64 := none
  protectedZoneLatitude : ProtoField Int64 := none
  protectedZoneLongitude : ProtoField Int64 := none
  cenDsrcTollingZoneId : ProtoField Int64 := none
  deriving DecidableEq, Inhabited

structure ProtectedCommunicationZone where
  protectedZoneType : ProtoField Int64 := none
  expiryTime : ProtoField Int64 := none
  protectedZoneLatitude : ProtoField Int64 := none
  protectedZoneLongitude : ProtoField Int64 := none
  protectedZoneRadius : ProtoField Int64 := none
  protectedZoneId : ProtoField Int64 := none
  deriving DecidableEq, Inhabited

structure RsuHighFreqContainer where
  protectedCommZone : List ProtectedCommunicationZone := []
  deriving DecidableEq, Inhabited

inductive HighFreqContainer.Type
  | BASIC_HIGH_FREQ_CONTAINER
  | RSU_HIGH_FREQ_CONTAINER
  deriving DecidableEq, Inhabited

/-- The number of an enumerated value. -/
def HighFreqContainer.Type.number : HighFreqContainer.Type → Int64
  | .BASIC_HIGH_FREQ_CONTAINER => 1
  | .RSU_HIGH_FREQ_CONTAINER => 2

structure HighFreqContainer where
  type : ProtoField HighFreqContainer.Type := none
  basicVehicleHighFreqContainer : ProtoField BasicVehicleHighFreqContainer := none
  rsuHighFreqContainer : ProtoField RsuHighFreqContainer := none
  deriving DecidableEq, Inhabited

structure PathPoint where
  deltaLat : ProtoField Int64 := none
  deltaLong : ProtoField Int64 := none
  deltaAlt : ProtoField Int64 := none
  pathDeltaTime : ProtoField Int64 := none
  deriving DecidableEq, Inhabited

structure BasicVehicleLowFreqContainer where
  vehicleRole : ProtoField Int64 := none
  exteriorLights : ProtoField Int64 := none
  pathPoint : List PathPoint := []
  deriving DecidableEq, Inhabited

inductive LowFreqContainer.Type
  | BASIC_VEHICLE_LOW_FREQ_CONTAINER
  deriving DecidableEq, Inhabited

structure LowFreqContainer where
  type : ProtoField LowFreqContainer.Type := none
  basicVehicleLowFreqContainer : ProtoField BasicVehicleLowFreqContainer := none
  deriving DecidableEq, Inhabited

structure SpecialVehicleContainer where
  deriving DecidableEq, Inhabited

structure CamParameters where
  basicContainer : ProtoField BasicContainer := none
  highFreqContainer : ProtoField HighFreqContainer := none
  lowFreqContainer : ProtoField LowFreqContainer := none
  specialVehicleContainer : ProtoField SpecialVehicleContainer := none
  deriving DecidableEq, Inhabited

structure CoopAwareness where
  genDeltaTime : ProtoField Int64 := none
  camParameters : ProtoField CamParameters := none
  deriving DecidableEq, Inhabited

structure CAM where
  header : ProtoField ItsPduHeader := none
  coop : ProtoField CoopAwareness := none
  deriving DecidableEq, Inhabited

namespace CAM

/-- `header().stationid()` -/
def stationid (cam : CAM) : UInt64 := cam.header.value.stationID.value

def basiccontainer (cam : CAM) : ProtoField BasicContainer :=
  (cam.coop.bind (·.camParameters)).bind (·.basicContainer)

def highfreqcontainer (cam : CAM) : ProtoField HighFreqContainer :=
  (cam.coop.bind (·.camParameters)).bind (·.highFreqContainer)

def basicvehiclehighfreqcontainer (cam : CAM) : ProtoField BasicVehicleHighFreqContainer :=
  cam.highfreqcontainer.bind (·.basicVehicleHighFreqContainer)

end CAM

structure DENMManagementContainer where
  stationID : ProtoField UInt64 := none
  sequenceNumber : ProtoField Int64 := none
  detectionTime : ProtoField Int64 := none
  referenceTime : ProtoField Int64 := none
  latitude : ProtoField Int64 := none
  longitude : ProtoField Int64 := none
  semiMajorConfidence : ProtoField Int64 := none
  semiMinorConfidence : ProtoField Int64 := none
  semiMajorOrientation : ProtoField Int64 := none
  altitude : ProtoField Int64 := none
  altitudeConfidence : ProtoField Int64 := none
  validityDuration : ProtoField Int64 := none
  stationType : ProtoField Int64 := none
  deriving DecidableEq, Inhabited

structure DENMessage where
  managementContainer : ProtoField DENMManagementContainer := none
  deriving DecidableEq, Inhabited

structure DENM where
  header : ProtoField ItsPduHeader := none
  msg : ProtoField DENMessage := none
  deriving DecidableEq, Inhabited

namespace DENM

/-- `header().stationid()` -/
def stationid (denm : DENM) : UInt64 := denm.header.value.stationID.value

def managementcontainer (denm : DENM) : ProtoField DENMManagementContainer :=
  denm.msg.bind (·.managementContainer)

end DENM

/-! ### Messages with floating point fields -/

structure GPS where
  latitude : ProtoField Double := none
  longitude : ProtoField Double := none
  altitude : ProtoField Double := none
  epx : ProtoField Double := none
  epy : ProtoField Double := none
  time : ProtoField Int64 := none
  online : ProtoField Int64 := none
  satellites : ProtoField Int32 := none
  deriving DecidableEq, Inhabited

structure OBD2 where
  time : ProtoField Int64 := none
  speed : ProtoField Double := none
  rpm : ProtoField Int32 := none
  deriving DecidableEq, Inhabited

structure DccInfo where
  time : ProtoField Int64 := none
  channelLoad : ProtoField Double := none
  state : ProtoField String := none
  accessCategory : ProtoField String := none
  availableTokens : ProtoField Int32 := none
  queuedPackets : ProtoField Int32 := none
  dccMechanism : ProtoField Int32 := none
  txPower : ProtoField Double := none
  tokenInterval : ProtoField Double := none
  datarate : ProtoField Double := none
  carrierSense : ProtoField Double := none
  flushReqPackets : ProtoField Int32 := none
  flushNotReqPackets : ProtoField Int32 := none
  deriving DecidableEq, Inhabited

/-- `accesscategory()` -/
def DccInfo.accesscategory (dccInfo : DccInfo) : String := dccInfo.accessCategory.value

structure CamInfo where
  time : ProtoField Int64 := none
  triggerReason : ProtoField String := none
  delta : ProtoField Double := none
  deriving DecidableEq, Inhabited

inductive LdmData.Type
  | CAM
  | DENM
  | GPS
  | OBD2
  | dccInfo
  | camInfo
  deriving DecidableEq

/-- The reply of the LDM to a request for messages. -/
structure LdmData (M : Type) where
  type : LdmData.Type
  data : List M

end OpenC2X.Buffers
