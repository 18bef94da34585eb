import OpenC2X.Common.Buffers
import OpenC2X.HttpServer.PbJson

/-!
# The messages that are shown

The descriptors of the messages that the HTTP server writes, from their `.proto` files, and the
messages as values of these descriptors.  Every text that `pb2json` makes of one of them denotes
its value, from which the web site takes the fields by their names.
-/

namespace OpenC2X.Buffers

open PbJson

/-! ## Descriptors -/

abbrev ItsPduHeader.descriptor : Descriptor :=
  .field "protocolVersion".toList .required .int64 <|
  .field "messageID".toList .required .int64 <|
  .field "stationID".toList .required .uint64 .nil

abbrev BasicContainer.descriptor : Descriptor :=
  .field "stationType".toList .required .int64 <|
  .field "latitude".toList .required .int64 <|
  .field "longitude".toList .required .int64 <|
  .field "semiMajorConfidence".toList .required .int64 <|
  .field "semiMinorConfidence".toList .required .int64 <|
  .field "semiMajorOrientation".toList .required .int64 <|
  .field "altitude".toList .required .int64 <|
  .field "altitudeConfidence".toList .required .int64 .nil

abbrev BasicVehicleHighFreqContainer.descriptor : Descriptor :=
  .field "heading".toList .required .int64 <|
  .field "headingConfidence".toList .required .int64 <|
  .field "speed".toList .required .int64 <|
  .field "speedConfidence".toList .required .int64 <|
  .field "driveDirection".toList .required .int64 <|
  .field "vehicleLength".toList .required .int64 <|
  .field "vehicleLengthConfidence".toList .required .int64 <|
  .field "vehicleWidth".toList .required .int64 <|
  .field "longitudinalAcceleration".toList .required .int64 <|
  .field "longitudinalAccelerationConfidence".toList .required .int64 <|
  .field "curvature".toList .required .int64 <|
  .field "curvatureConfidence".toList .required .int64 <|
  .field "curvatureCalcMode".toList .required .int64 <|
  .field "yawRate".toList .required .int64 <|
  .field "yawRateConfidence".toList .required .int64 <|
  .field "accelerationControl".toList .optional .int64 <|
  .field "lanePosition".toList .optional .int64 <|
  .field "steeringWheelAngle".toList .optional .int64 <|
  .field "steeringWheelAngleConfidence".toList .optional .int64 <|
  .field "lateralAcceleration".toList .optional .int64 <|
  .field "lateralAccelerationConfidence".toList .optional .int64 <|
  .field "verticalAcceleration".toList .optional .int64 <|
  .field "verticalAccelerationConfidence".toList .optional .int64 <|
  .field "performanceClass".toList .optional .int64 <|
  .field "protectedZoneLatitude".toList .optional .int64 <|
  .field "protectedZoneLongitude".toList .optional .int64 <|
  .field "cenDsrcTollingZoneId".toList .optional .int64 .nil

abbrev ProtectedCommunicationZone.descriptor : Descriptor :=
  .field "protectedZoneType".toList .required .int64 <|
  .field "expiryTime".toList .optional .int64 <|
  .field "protectedZoneLatitude".toList .required .int64 <|
  .field "protectedZoneLongitude".toList .required .int64 <|
  .field "protectedZoneRadius".toList .optional .int64 <|
  .field "protectedZoneId".toList .optional .int64 .nil

abbrev RsuHighFreqContainer.descriptor : Descriptor :=
  .field "protectedCommZone".toList .repeated (.message ProtectedCommunicationZone.descriptor) .nil

abbrev HighFreqContainer.Type.enum : FieldType :=
  .enum ("BASIC_HIGH_FREQ_CONTAINER".toList, 1) [("RSU_HIGH_FREQ_CONTAINER".toList, 2)]

abbrev HighFreqContainer.descriptor : Descriptor :=
  .field "type".toList .required HighFreqContainer.Type.enum <|
  .field "basicVehicleHighFreqContainer".toList .optional
    (.message BasicVehicleHighFreqContainer.descriptor) <|
  .field "rsuHighFreqContainer".toList .optional (.message RsuHighFreqContainer.descriptor) .nil

abbrev PathPoint.descriptor : Descriptor :=
  .field "deltaLat".toList .required .int64 <|
  .field "deltaLong".toList .required .int64 <|
  .field "deltaAlt".toList .required .int64 <|
  .field "pathDeltaTime".toList .optional .int64 .nil

abbrev BasicVehicleLowFreqContainer.descriptor : Descriptor :=
  .field "vehicleRole".toList .required .int64 <|
  .field "exteriorLights".toList .required .int64 <|
  .field "pathPoint".toList .repeated (.message PathPoint.descriptor) .nil

abbrev LowFreqContainer.Type.enum : FieldType :=
  .enum ("BASIC_VEHICLE_LOW_FREQ_CONTAINER".toList, 1) []

abbrev LowFreqContainer.descriptor : Descriptor :=
  .field "type".toList .required LowFreqContainer.Type.enum <|
  .field "basicVehicleLowFreqContainer".toList .optional
    (.message BasicVehicleLowFreqContainer.descriptor) .nil

abbrev SpecialVehicleContainer.descriptor : Descriptor :=
  .nil

abbrev CamParameters.descriptor : Descriptor :=
  .field "basicContainer".toList .required (.message BasicContainer.descriptor) <|
  .field "highFreqContainer".toList .required (.message HighFreqContainer.descriptor) <|
  .field "lowFreqContainer".toList .optional (.message LowFreqContainer.descriptor) <|
  .field "specialVehicleContainer".toList .optional
    (.message SpecialVehicleContainer.descriptor) .nil

abbrev CoopAwareness.descriptor : Descriptor :=
  .field "genDeltaTime".toList .required .int64 <|
  .field "camParameters".toList .required (.message CamParameters.descriptor) .nil

abbrev CAM.descriptor : Descriptor :=
  .field "header".toList .required (.message ItsPduHeader.descriptor) <|
  .field "coop".toList .required (.message CoopAwareness.descriptor) .nil

abbrev DENMManagementContainer.descriptor : Descriptor :=
  .field "stationID".toList .required .uint64 <|
  .field "sequenceNumber".toList .required .int64 <|
  .field "detectionTime".toList .optional .int64 <|
  .field "referenceTime".toList .optional .int64 <|
  .field "latitude".toList .required .int64 <|
  .field "longitude".toList .required .int64 <|
  .field "semiMajorConfidence".toList .required .int64 <|
  .field "semiMinorConfidence".toList .required .int64 <|
  .field "semiMajorOrientation".toList .required .int64 <|
  .field "altitude".toList .required .int64 <|
  .field "altitudeConfidence".toList .required .int64 <|
  .field "validityDuration".toList .optional .int64 <|
  .field "stationType".toList .required .int64 .nil

abbrev DENMessage.descriptor : Descriptor :=
  .field "managementContainer".toList .required (.message DENMManagementContainer.descriptor) .nil

abbrev DENM.descriptor : Descriptor :=
  .field "header".toList .required (.message ItsPduHeader.descriptor) <|
  .field "msg".toList .required (.message DENMessage.descriptor) .nil

abbrev GPS.descriptor : Descriptor :=
  .field "latitude".toList .optional .double <|
  .field "longitude".toList .optional .double <|
  .field "altitude".toList .optional .double <|
  .field "epx".toList .optional .double <|
  .field "epy".toList .optional .double <|
  .field "time".toList .optional .int64 <|
  .field "online".toList .optional .int64 <|
  .field "satellites".toList .optional .int32 .nil

abbrev OBD2.descriptor : Descriptor :=
  .field "time".toList .optional .int64 <|
  .field "speed".toList .optional .double <|
  .field "rpm".toList .optional .int32 .nil

abbrev DccInfo.descriptor : Descriptor :=
  .field "time".toList .optional .int64 <|
  .field "channelLoad".toList .optional .double <|
  .field "state".toList .optional .string <|
  .field "accessCategory".toList .optional .string <|
  .field "availableTokens".toList .optional .int32 <|
  .field "queuedPackets".toList .optional .int32 <|
  .field "dccMechanism".toList .optional .int32 <|
  .field "txPower".toList .optional .double <|
  .field "tokenInterval".toList .optional .double <|
  .field "datarate".toList .optional .double <|
  .field "carrierSense".toList .optional .double <|
  .field "flushReqPackets".toList .optional .int32 <|
  .field "flushNotReqPackets".toList .optional .int32 .nil

abbrev CamInfo.descriptor : Descriptor :=
  .field "time".toList .optional .int64 <|
  .field "triggerReason".toList .optional .string <|
  .field "delta".toList .optional .double .nil

abbrev LdmData.Type.enum : FieldType :=
  .enum ("CAM".toList, 1) [("DENM".toList, 2), ("GPS".toList, 3), ("OBD2".toList, 4),
    ("dccInfo".toList, 5), ("camInfo".toList, 6)]

abbrev LdmData.descriptor : Descriptor :=
  .field "type".toList .required LdmData.Type.enum <|
  .field "data".toList .repeated .bytes .nil

/-! ## Messages -/

def ItsPduHeader.toMessage (m : ItsPduHeader) : ItsPduHeader.descriptor.Message :=
  (m.protocolVersion, m.messageID, m.stationID, ())

def BasicContainer.toMessage (m : BasicContainer) : BasicContainer.descriptor.Message :=
  (m.stationType, m.latitude, m.longitude, m.semiMajorConfidence, m.semiMinorConfidence,
    m.semiMajorOrientation, m.altitude, m.altitudeConfidence, ())

def BasicVehicleHighFreqContainer.toMessage (m : BasicVehicleHighFreqContainer) :
    BasicVehicleHighFreqContainer.descriptor.Message :=
  (m.heading, m.headingConfidence, m.speed, m.speedConfidence, m.driveDirection, m.vehicleLength,
    m.vehicleLengthConfidence, m.vehicleWidth, m.longitudinalAcceleration,
    m.longitudinalAccelerationConfidence, m.curvature, m.curvatureConfidence, m.curvatureCalcMode,
    m.yawRate, m.yawRateConfidence, m.accelerationControl, m.lanePosition, m.steeringWheelAngle,
    m.steeringWheelAngleConfidence, m.lateralAcceleration, m.lateralAccelerationConfidence,
    m.verticalAcceleration, m.verticalAccelerationConfidence, m.performanceClass,
    m.protectedZoneLatitude, m.protectedZoneLongitude, m.cenDsrcTollingZoneId, ())

def ProtectedCommunicationZone.toMessage (m : ProtectedCommunicationZone) :
    ProtectedCommunicationZone.descriptor.Message :=
  (m.protectedZoneType, m.expiryTime, m.protectedZoneLatitude, m.protectedZoneLongitude,
    m.protectedZoneRadius, m.protectedZoneId, ())

def RsuHighFreqContainer.toMessage (m : RsuHighFreqContainer) :
    RsuHighFreqContainer.descriptor.Message :=
  (m.protectedCommZone.map ProtectedCommunicationZone.toMessage, ())

def HighFreqContainer.Type.toValue : HighFreqContainer.Type → HighFreqContainer.Type.enum.Value
  | .BASIC_HIGH_FREQ_CONTAINER => ⟨1, by simp⟩
  | .RSU_HIGH_FREQ_CONTAINER => ⟨2, by simp⟩

def HighFreqContainer.toMessage (m : HighFreqContainer) : HighFreqContainer.descriptor.Message :=
  (m.type.map HighFreqContainer.Type.toValue,
    m.basicVehicleHighFreqContainer.map BasicVehicleHighFreqContainer.toMessage,
    m.rsuHighFreqContainer.map RsuHighFreqContainer.toMessage, ())

def PathPoint.toMessage (m : PathPoint) : PathPoint.descriptor.Message :=
  (m.deltaLat, m.deltaLong, m.deltaAlt, m.pathDeltaTime, ())

def BasicVehicleLowFreqContainer.toMessage (m : BasicVehicleLowFreqContainer) :
    BasicVehicleLowFreqContainer.descriptor.Message :=
  (m.vehicleRole, m.exteriorLights, m.pathPoint.map PathPoint.toMessage, ())

def LowFreqContainer.Type.toValue : LowFreqContainer.Type → LowFreqContainer.Type.enum.Value
  | .BASIC_VEHICLE_LOW_FREQ_CONTAINER => ⟨1, by simp⟩

def LowFreqContainer.toMessage (m : LowFreqContainer) : LowFreqContainer.descriptor.Message :=
  (m.type.map LowFreqContainer.Type.toValue,
    m.basicVehicleLowFreqContainer.map BasicVehicleLowFreqContainer.toMessage, ())

def SpecialVehicleContainer.toMessage (_ : SpecialVehicleContainer) :
    SpecialVehicleContainer.descriptor.Message :=
  ()

def CamParameters.toMessage (m : CamParameters) : CamParameters.descriptor.Message :=
  (m.basicContainer.map BasicContainer.toMessage,
    m.highFreqContainer.map HighFreqContainer.toMessage,
    m.lowFreqContainer.map LowFreqContainer.toMessage,
    m.specialVehicleContainer.map SpecialVehicleContainer.toMessage, ())

def CoopAwareness.toMessage (m : CoopAwareness) : CoopAwareness.descriptor.Message :=
  (m.genDeltaTime, m.camParameters.map CamParameters.toMessage, ())

def CAM.toMessage (m : CAM) : CAM.descriptor.Message :=
  (m.header.map ItsPduHeader.toMessage, m.coop.map CoopAwareness.toMessage, ())

def DENMManagementContainer.toMessage (m : DENMManagementContainer) :
    DENMManagementContainer.descriptor.Message :=
  (m.stationID, m.sequenceNumber, m.detectionTime, m.referenceTime, m.latitude, m.longitude,
    m.semiMajorConfidence, m.semiMinorConfidence, m.semiMajorOrientation, m.altitude,
    m.altitudeConfidence, m.validityDuration, m.stationType, ())

def DENMessage.toMessage (m : DENMessage) : DENMessage.descriptor.Message :=
  (m.managementContainer.map DENMManagementContainer.toMessage, ())

def DENM.toMessage (m : DENM) : DENM.descriptor.Message :=
  (m.header.map ItsPduHeader.toMessage, m.msg.map DENMessage.toMessage, ())

def GPS.toMessage (m : GPS) : GPS.descriptor.Message :=
  (m.latitude, m.longitude, m.altitude, m.epx, m.epy, m.time, m.online, m.satellites, ())

def OBD2.toMessage (m : OBD2) : OBD2.descriptor.Message :=
  (m.time, m.speed, m.rpm, ())

def DccInfo.toMessage (m : DccInfo) : DccInfo.descriptor.Message :=
  (m.time, m.channelLoad, m.state.map String.toList, m.accessCategory.map String.toList,
    m.availableTokens, m.queuedPackets, m.dccMechanism, m.txPower, m.tokenInterval, m.datarate,
    m.carrierSense, m.flushReqPackets, m.flushNotReqPackets, ())

def CamInfo.toMessage (m : CamInfo) : CamInfo.descriptor.Message :=
  (m.time, m.triggerReason.map String.toList, m.delta, ())

/-! ## Texts -/

/-- What pbjson knows about a type of messages. -/
class Reflection (M : Type) where
  descriptor : Descriptor
  toMessage : M → descriptor.Message

instance : Reflection CAM := ⟨CAM.descriptor, CAM.toMessage⟩

instance : Reflection DENM := ⟨DENM.descriptor, DENM.toMessage⟩

instance : Reflection GPS := ⟨GPS.descriptor, GPS.toMessage⟩

instance : Reflection OBD2 := ⟨OBD2.descriptor, OBD2.toMessage⟩

instance : Reflection DccInfo := ⟨DccInfo.descriptor, DccInfo.toMessage⟩

instance : Reflection CamInfo := ⟨CamInfo.descriptor, CamInfo.toMessage⟩

section

variable {M : Type} [Reflection M]

/-- `pbjson::pb2json` -/
def pb2json (dtoa : Double → List Char) (m : M) : String :=
  String.ofList (PbJson.pb2json dtoa (Reflection.descriptor M) (Reflection.toMessage m))

/-- The value that the text of a message denotes. -/
def shown (number : Double → Json) (m : M) : Json :=
  (pb2jsonobject (Reflection.descriptor M) (Reflection.toMessage m)).toJson number

variable {dtoa : Double → List Char} {number : Double → Json}

theorem isItem_pb2json (hdtoa : ∀ x, Json.IsItem (dtoa x) (number x)) (m : M) :
    Json.IsItem (pb2json dtoa m).toList (shown number m) := by
  rw [pb2json, String.toList_ofList]
  exact RapidJson.isItem_Accept hdtoa _

end

/-- Two serialized CAMs, with bytes that base 64 pads. -/
def twoCams : LdmData.descriptor.Message := (some ⟨1, by simp⟩, [[1, 2, 3], [255, 0]], ())

/-- A container with a complete zone and one without fields. -/
def oneZone : RsuHighFreqContainer.descriptor.Message :=
  RsuHighFreqContainer.toMessage
    ⟨[{ protectedZoneType := some 0, protectedZoneLatitude := some 515, expiryTime := some (-1),
        protectedZoneLongitude := some (-87) }, {}]⟩

/-- The messages are read back, and the required fields of the second zone are set. -/
theorem jsonobject2pb_pb2jsonobject_repeated :
    jsonobject2pb (pb2jsonobject LdmData.descriptor twoCams) LdmData.descriptor
        LdmData.descriptor.unset = .ok twoCams ∧
      jsonobject2pb (pb2jsonobject RsuHighFreqContainer.descriptor oneZone)
          RsuHighFreqContainer.descriptor RsuHighFreqContainer.descriptor.unset =
        .ok (RsuHighFreqContainer.toMessage
          ⟨[{ protectedZoneType := some 0, protectedZoneLatitude := some 515,
              expiryTime := some (-1), protectedZoneLongitude := some (-87) },
            { protectedZoneType := some 0, protectedZoneLatitude := some 0,
              protectedZoneLongitude := some 0 }]⟩) := by
  obtain ⟨hread, hfill⟩ :=
    @jsonobject2pb_pb2jsonobject LdmData.descriptor (by decide) twoCams
  have hset : LdmData.descriptor.Initialized twoCams :=
    ⟨⟨_, rfl, trivial⟩, fun _ _ => trivial, trivial⟩
  rw [hfill hset] at hread
  exact ⟨hread, (jsonobject2pb_pb2jsonobject (by decide) oneZone).1⟩

/-! ## Fields -/

section

variable {number : Double → Json}

/-- The value of a message that is a field of another one. -/
def messageJson (number : Double → Json) (descriptor : Descriptor) (m : descriptor.Message) :
    Json :=
  (value2json (.message descriptor) m).toJson number

theorem map_fst_toJsonMembers (ms : List (List Char × RapidJson.Value)) :
    (RapidJson.Value.toJsonMembers number ms).map Prod.fst =
      (ms.map Prod.fst).map RapidJson.escaped := by
  induction ms with
  | nil => rfl
  | cons member ms ih =>
      rw [RapidJson.Value.toJsonMembers, List.map_cons, ih]
      rfl

/-- A field can be looked for from the first member on. -/
theorem get?_messageJson {descriptor : Descriptor}
    (h : (descriptor.names.map RapidJson.escaped).Nodup) (m : descriptor.Message)
    (key : List Char) :
    (messageJson number descriptor m).get? key =
      ((RapidJson.Value.toJsonMembers number (parse_fields descriptor m)).find?
        fun m => m.1 = key).map Prod.snd := by
  apply Json.get?_object
  rw [map_fst_toJsonMembers]
  exact ((map_fst_parse_fields_sublist descriptor m).map _).nodup h

/-- A required message that is not set is written with its default fields. -/
theorem getD_map_value {α β : Type} [Inhabited α] (field : ProtoField α) (f : α → β) :
    (field.map f).getD (f default) = f field.value := by
  cases field <;> rfl

end

end OpenC2X.Buffers
