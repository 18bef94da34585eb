import OpenC2X.Ldm.Store

/-!
# The CAM store

`insertCam` writes forty fields of a CAM into a row, and `camSelect` reads them back by the
numbers of the columns.  What it reads is compared here with what was received: the
containers are read in full but never attached to the message, and the first two numbers
are exchanged.
-/

namespace OpenC2X.Ldm

open Buffers

/-! ## The table -/

/-- The columns of the table CAM after its key. -/
inductive CamColumn
  | protocolVersion
  | messageId
  | stationId
  | genDeltaTime
  | stationType
  | latitude
  | longitude
  | semiMajorConfidence
  | semiMinorConfidence
  | semiMajorOrientation
  | altitude
  | altitudeConfidenc
  | type
  | heading
  | headingConfidence
  | speed
  | speedConfidence
  | driveDirection
  | vehicleLength
  | vehicleLengthConfidence
  | vehicleWidth
  | longitudinalAcceleration
  | longitudinalAccelerationConfidence
  | curvature
  | curvatureConfidence
  | curvatureCalcMode
  | yawRate
  | yawRateConfidence
  | accelerationControl
  | lanePosition
  | steeringWheelAngle
  | steeringWheelAngleConfidence
  | lateralAcceleration
  | lateralAccelerationConfidence
  | verticalAcceleration
  | verticalAccelerationConfidence
  | performanceClass
  | protectedZoneLatitude
  | protectedZoneLongitude
  | cendSrcTollingZoneId
  deriving DecidableEq

/-- Their order in `CREATE TABLE CAM`. -/
def CamColumn.created : List CamColumn :=
  [.protocolVersion, .messageId, .stationId, .genDeltaTime, .stationType, .latitude,
   .longitude, .semiMajorConfidence, .semiMinorConfidence, .semiMajorOrientation, .altitude,
   .altitudeConfidenc, .type, .heading, .headingConfidence, .speed, .speedConfidence,
   .driveDirection, .vehicleLength, .vehicleLengthConfidence, .vehicleWidth,
   .longitudinalAcceleration, .longitudinalAccelerationConfidence, .curvature,
   .curvatureConfidence, .curvatureCalcMode, .yawRate, .yawRateConfidence,
   .accelerationControl, .lanePosition, .steeringWheelAngle, .steeringWheelAngleConfidence,
   .lateralAcceleration, .lateralAccelerationConfidence, .verticalAcceleration,
   .verticalAccelerationConfidence, .performanceClass, .protectedZoneLatitude,
   .protectedZoneLongitude, .cendSrcTollingZoneId]

/-- The columns that `insertCam` names. -/
def CamColumn.inserted : List CamColumn :=
  [.protocolVersion, .messageId, .stationId, .genDeltaTime, .stationType, .latitude,
   .longitude, .semiMajorConfidence, .semiMinorConfidence, .semiMajorOrientation, .altitude,
   .altitudeConfidenc, .type, .heading, .headingConfidence, .speed, .speedConfidence,
   .driveDirection, .vehicleLength, .vehicleLengthConfidence, .vehicleWidth,
   .longitudinalAcceleration, .longitudinalAccelerationConfidence, .curvature,
   .curvatureConfidence, .curvatureCalcMode, .yawRate, .yawRateConfidence,
   .accelerationControl, .lanePosition, .steeringWheelAngle, .steeringWheelAngleConfidence,
   .lateralAcceleration, .lateralAccelerationConfidence, .verticalAcceleration,
   .verticalAccelerationConfidence, .performanceClass, .protectedZoneLatitude,
   .protectedZoneLongitude, .cendSrcTollingZoneId]

/-- The values that `insertCam` gives for them. -/
def camValues (cam : CAM) : List Int64 :=
  let header := cam.header.value
  let coop := cam.coop.value
  let basiccontainer := coop.camParameters.value.basicContainer.value
  let highfreqcontainer := coop.camParameters.value.highFreqContainer.value
  let vehicle := highfreqcontainer.basicVehicleHighFreqContainer.value
  [header.protocolVersion.value, header.messageID.value, header.stationID.value.toInt64,
   coop.genDeltaTime.value, basiccontainer.stationType.value, basiccontainer.latitude.value,
   basiccontainer.longitude.value, basiccontainer.semiMajorConfidence.value,
   basiccontainer.semiMinorConfidence.value, basiccontainer.semiMajorOrientation.value,
   basiccontainer.altitude.value, basiccontainer.altitudeConfidence.value,
   highfreqcontainer.type.value.number, vehicle.heading.value,
   vehicle.headingConfidence.value, vehicle.speed.value, vehicle.speedConfidence.value,
   vehicle.driveDirection.value, vehicle.vehicleLength.value,
   vehicle.vehicleLengthConfidence.value, vehicle.vehicleWidth.value,
   vehicle.longitudinalAcceleration.value, vehicle.longitudinalAccelerationConfidence.value,
   vehicle.curvature.value, vehicle.curvatureConfidence.value,
   vehicle.curvatureCalcMode.value, vehicle.yawRate.value, vehicle.yawRateConfidence.value,
   vehicle.accelerationControl.value, vehicle.lanePosition.value,
   vehicle.steeringWheelAngle.value, vehicle.steeringWheelAngleConfidence.value,
   vehicle.lateralAcceleration.value, vehicle.lateralAccelerationConfidence.value,
   vehicle.verticalAcceleration.value, vehicle.verticalAccelerationConfidence.value,
   vehicle.performanceClass.value, vehicle.protectedZoneLatitude.value,
   vehicle.protectedZoneLongitude.value, vehicle.cenDsrcTollingZoneId.value]

def camRow (cam : CAM) : CamColumn → Int64 :=
  Table.record CamColumn.inserted (camValues cam)

/-- The messages that `camSelect` allocates for a row.  `cam` is what goes into the cache;
nothing points to the other three. -/
structure CamObjects where
  cam : CAM
  coop : CoopAwareness
  params : CamParameters
  highFreqContainer : HighFreqContainer

def readCam (row : Table.Row (CamColumn → Int64)) : CamObjects :=
  let column := row.column CamColumn.created
  { cam :=
      { header := some
          { messageID := some (column 1)
            protocolVersion := some (column 2)
            stationID := some (column 3).toUInt64 } }
    coop := { genDeltaTime := some (column 4) }
    params :=
      { basicContainer := some
          { stationType := some (column 5)
            latitude := some (column 6)
            longitude := some (column 7)
            altitude := some (column 11)
            altitudeConfidence := some (column 12)
            semiMajorConfidence := some (column 8)
            semiMinorConfidence := some (column 9)
            semiMajorOrientation := some (column 10) } }
    highFreqContainer :=
      if column 13 = HighFreqContainer.Type.BASIC_HIGH_FREQ_CONTAINER.number then
        { type := some .BASIC_HIGH_FREQ_CONTAINER
          basicVehicleHighFreqContainer := some
            -- the optional fields are not set
            { heading := some (column 14)
              headingConfidence := some (column 15)
              speed := some (column 16)
              speedConfidence := some (column 17)
              driveDirection := some (column 18)
              vehicleLength := some (column 19)
              vehicleLengthConfidence := some (column 20)
              vehicleWidth := some (column 21)
              longitudinalAcceleration := some (column 22)
              longitudinalAccelerationConfidence := some (column 23)
              curvature := some (column 24)
              curvatureConfidence := some (column 25)
              curvatureCalcMode := some (column 26)
              yawRate := some (column 27)
              yawRateConfidence := some (column 28) } }
      else if column 13 = HighFreqContainer.Type.RSU_HIGH_FREQ_CONTAINER.number then
        { type := some .RSU_HIGH_FREQ_CONTAINER
          rsuHighFreqContainer := some {} }
      else
        {} }

/-! ## The operations -/

/-- `camCache` with the table CAM. -/
abbrev CamStore : Type := Store (stationName CAM.stationid) (CamColumn → Int64)

def insertCam (cam : CAM) (s : CamStore) : CamStore := s.insert (camRow cam)

/-- One iteration of `receiveFromCa`. -/
def receiveFromCa (cam : CAM) (s : CamStore) : CamStore := insertCam cam (s.assign cam)

/-- The condition that comes with the request is not looked at. -/
def camSelect (_condition : String) (s : CamStore) : LdmData CAM × CamStore :=
  s.select .CAM (Store.laterOf .stationId) fun row => (readCam row).cam

/-! ## Stored fields -/

/-- The field of a CAM that a column stores. -/
def storedField (cam : CAM) : CamColumn → ProtoField Int64
  | .protocolVersion => cam.header.bind (·.protocolVersion)
  | .messageId => cam.header.bind (·.messageID)
  | .stationId => (cam.header.bind (·.stationID)).map UInt64.toInt64
  | .genDeltaTime => cam.coop.bind (·.genDeltaTime)
  | .stationType => cam.basiccontainer.bind (·.stationType)
  | .latitude => cam.basiccontainer.bind (·.latitude)
  | .longitude => cam.basiccontainer.bind (·.longitude)
  | .semiMajorConfidence => cam.basiccontainer.bind (·.semiMajorConfidence)
  | .semiMinorConfidence => cam.basiccontainer.bind (·.semiMinorConfidence)
  | .semiMajorOrientation => cam.basiccontainer.bind (·.semiMajorOrientation)
  | .altitude => cam.basiccontainer.bind (·.altitude)
  | .altitudeConfidenc => cam.basiccontainer.bind (·.altitudeConfidence)
  | .type => (cam.highfreqcontainer.bind (·.type)).map HighFreqContainer.Type.number
  | .heading => cam.basicvehiclehighfreqcontainer.bind (·.heading)
  | .headingConfidence => cam.basicvehiclehighfreqcontainer.bind (·.headingConfidence)
  | .speed => cam.basicvehiclehighfreqcontainer.bind (·.speed)
  | .speedConfidence => cam.basicvehiclehighfreqcontainer.bind (·.speedConfidence)
  | .driveDirection => cam.basicvehiclehighfreqcontainer.bind (·.driveDirection)
  | .vehicleLength => cam.basicvehiclehighfreqcontainer.bind (·.vehicleLength)
  | .vehicleLengthConfidence => cam.basicvehiclehighfreqcontainer.bind (·.vehicleLengthConfidence)
  | .vehicleWidth => cam.basicvehiclehighfreqcontainer.bind (·.vehicleWidth)
  | .longitudinalAcceleration => cam.basicvehiclehighfreqcontainer.bind (·.longitudinalAcceleration)
  | .longitudinalAccelerationConfidence =>
      cam.basicvehiclehighfreqcontainer.bind (·.longitudinalAccelerationConfidence)
  | .curvature => cam.basicvehiclehighfreqcontainer.bind (·.curvature)
  | .curvatureConfidence => cam.basicvehiclehighfreqcontainer.bind (·.curvatureConfidence)
  | .curvatureCalcMode => cam.basicvehiclehighfreqcontainer.bind (·.curvatureCalcMode)
  | .yawRate => cam.basicvehiclehighfreqcontainer.bind (·.yawRate)
  | .yawRateConfidence => cam.basicvehiclehighfreqcontainer.bind (·.yawRateConfidence)
  | .accelerationControl => cam.basicvehiclehighfreqcontainer.bind (·.accelerationControl)
  | .lanePosition => cam.basicvehiclehighfreqcontainer.bind (·.lanePosition)
  | .steeringWheelAngle => cam.basicvehiclehighfreqcontainer.bind (·.steeringWheelAngle)
  | .steeringWheelAngleConfidence =>
      cam.basicvehiclehighfreqcontainer.bind (·.steeringWheelAngleConfidence)
  | .lateralAcceleration => cam.basicvehiclehighfreqcontainer.bind (·.lateralAcceleration)
  | .lateralAccelerationConfidence =>
      cam.basicvehiclehighfreqcontainer.bind (·.lateralAccelerationConfidence)
  | .verticalAcceleration => cam.basicvehiclehighfreqcontainer.bind (·.verticalAcceleration)
  | .verticalAccelerationConfidence =>
      cam.basicvehiclehighfreqcontainer.bind (·.verticalAccelerationConfidence)
  | .performanceClass => cam.basicvehiclehighfreqcontainer.bind (·.performanceClass)
  | .protectedZoneLatitude => cam.basicvehiclehighfreqcontainer.bind (·.protectedZoneLatitude)
  | .protectedZoneLongitude => cam.basicvehiclehighfreqcontainer.bind (·.protectedZoneLongitude)
  | .cendSrcTollingZoneId => cam.basicvehiclehighfreqcontainer.bind (·.cenDsrcTollingZoneId)

/-- Every stored field that the received CAM sets has the same value in the shown one. -/
def KeepsStored (received shown : CAM) : Prop :=
  ∀ column v, storedField received column = some v → storedField shown column = some v

/-- A field that is set is written into its column. -/
theorem camRow_eq_value {column : CamColumn} (cam : CAM) {v : Int64}
    (hset : storedField cam column = some v) : camRow cam column = v := by
  have hbasic : cam.basiccontainer.value =
      cam.coop.value.camParameters.value.basicContainer.value := by
    rw [CAM.basiccontainer, ProtoField.value_bind _ rfl, ProtoField.value_bind _ rfl]
  have hhighfreq : cam.highfreqcontainer.value =
      cam.coop.value.camParameters.value.highFreqContainer.value := by
    rw [CAM.highfreqcontainer, ProtoField.value_bind _ rfl, ProtoField.value_bind _ rfl]
  have hvehicle : cam.basicvehiclehighfreqcontainer.value =
      cam.highfreqcontainer.value.basicVehicleHighFreqContainer.value :=
    ProtoField.value_bind _ rfl
  cases column with
  | protocolVersion | messageId | genDeltaTime =>
      exact congrArg ProtoField.value (ProtoField.get_value_of_bind hset)
  | stationId =>
      obtain ⟨station, hstation, rfl⟩ := Option.map_eq_some_iff.mp hset
      exact congrArg (fun field => UInt64.toInt64 (ProtoField.value field))
        (ProtoField.get_value_of_bind hstation)
  | type =>
      obtain ⟨type, htype, rfl⟩ := Option.map_eq_some_iff.mp hset
      have hget := ProtoField.get_value_of_bind htype
      rw [hhighfreq] at hget
      exact congrArg (fun field => HighFreqContainer.Type.number (ProtoField.value field)) hget
  | stationType | latitude | longitude | semiMajorConfidence | semiMinorConfidence
  | semiMajorOrientation | altitude | altitudeConfidenc =>
      have hget := ProtoField.get_value_of_bind hset
      rw [hbasic] at hget
      exact congrArg ProtoField.value hget
  | _ =>
      have hget := ProtoField.get_value_of_bind hset
      rw [hvehicle, hhighfreq] at hget
      exact congrArg ProtoField.value hget

/-! ## Reading back -/

/-- What `camSelect` makes of the row of a CAM. -/
def restoredCam (cam : CAM) : CAM where
  header := some
    { messageID := some cam.header.value.protocolVersion.value
      protocolVersion := some cam.header.value.messageID.value
      stationID := some cam.stationid }

theorem readCam_camRow (key : ℕ) (cam : CAM) :
    (readCam ⟨key, camRow cam⟩).cam = restoredCam cam := by
  have hstation : (UInt64.toInt64 cam.stationid).toUInt64 = cam.stationid :=
    UInt64.toUInt64_toInt64 _
  have hread : (readCam ⟨key, camRow cam⟩).cam =
      { header := some
          { messageID := some cam.header.value.protocolVersion.value
            protocolVersion := some cam.header.value.messageID.value
            stationID := some (UInt64.toInt64 cam.stationid).toUInt64 } } := rfl
  rw [hread, hstation]
  rfl

theorem camStore_readsBack :
    Store.ReadsBack (fun row => (readCam row).cam) receiveFromCa restoredCam where
  exists_row cam := ⟨camRow cam, fun key => readCam_camRow key cam, fun _ => rfl⟩
  name_restored _ := rfl

/-- The query of `camSelect` matches a row with the later ones of its station. -/
theorem camStore_matchesLater (s : CamStore) :
    s.MatchesLater (Store.laterOf .stationId) fun row => (readCam row).cam := by
  refine Store.matchesLater_laterOf (fun v => toString v.toUInt64) ?_ s
  intro row
  rfl

/-! ## The containers that are not attached -/

/-- The message with the containers attached to it. -/
def CamObjects.attached (objects : CamObjects) : CAM :=
  { objects.cam with
    coop := some
      { objects.coop with
        camParameters := some
          { objects.params with highFreqContainer := some objects.highFreqContainer } } }

/-- The two columns that are read into each other's field. -/
def CamColumn.exchanged : List CamColumn := [.protocolVersion, .messageId]

/-- The columns of optional fields, which are not read. -/
def CamColumn.optional : List CamColumn :=
  [.accelerationControl, .lanePosition, .steeringWheelAngle, .steeringWheelAngleConfidence,
   .lateralAcceleration, .lateralAccelerationConfidence, .verticalAcceleration,
   .verticalAccelerationConfidence, .performanceClass, .protectedZoneLatitude,
   .protectedZoneLongitude, .cendSrcTollingZoneId]

/-- Attached, the containers would keep all other fields that are set, for a CAM with the
high frequency container of a vehicle. -/
theorem attached_keeps (key : ℕ) {cam : CAM} {column : CamColumn} {v : Int64}
    (hvehicle : camRow cam .type = 1) (hexchanged : column ∉ CamColumn.exchanged)
    (hoptional : column ∉ CamColumn.optional) (hset : storedField cam column = some v) :
    storedField (readCam ⟨key, camRow cam⟩).attached column = some v := by
  rw [← camRow_eq_value cam hset]
  have hhighfreq : (readCam ⟨key, camRow cam⟩).highFreqContainer = _ := if_pos hvehicle
  cases column with
  | protocolVersion | messageId => simp [CamColumn.exchanged] at hexchanged
  | accelerationControl | lanePosition | steeringWheelAngle | steeringWheelAngleConfidence
  | lateralAcceleration | lateralAccelerationConfidence | verticalAcceleration
  | verticalAccelerationConfidence | performanceClass | protectedZoneLatitude
  | protectedZoneLongitude | cendSrcTollingZoneId => simp [CamColumn.optional] at hoptional
  | stationId => exact congrArg some (Int64.toInt64_toUInt64 _)
  | genDeltaTime | stationType | latitude | longitude | semiMajorConfidence
  | semiMinorConfidence | semiMajorOrientation | altitude | altitudeConfidenc => rfl
  | type =>
      simp only [storedField, CAM.highfreqcontainer, CamObjects.attached, Option.bind_some,
        hhighfreq, Option.map_some]
      exact congrArg some hvehicle.symm
  | _ =>
      simp only [storedField, CAM.basicvehiclehighfreqcontainer, CAM.highfreqcontainer,
        CamObjects.attached, Option.bind_some, hhighfreq]
      rfl

/-! ## The replies before and after a restart -/

/-- The last CAM of a station survives a restart: outside of its header it sets no stored
field, and `messageID` and `protocolVersion` are each, if set, the value of the other. -/
structure CamSurvivesRestart (cam : CAM) : Prop where
  messageId : ∀ v, storedField cam .messageId = some v →
    v = cam.header.value.protocolVersion.value
  protocolVersion : ∀ v, storedField cam .protocolVersion = some v →
    v = cam.header.value.messageID.value
  rest : ∀ column, column ∉ [CamColumn.protocolVersion, .messageId, .stationId] →
    storedField cam column = none

theorem keepsStored_restoredCam_iff (cam : CAM) :
    KeepsStored cam (restoredCam cam) ↔ CamSurvivesRestart cam := by
  have hrest : ∀ column, column ∉ [CamColumn.protocolVersion, .messageId, .stationId] →
      storedField (restoredCam cam) column = none := by
    intro column hcolumn
    cases column with
    | protocolVersion | messageId | stationId => simp at hcolumn
    | _ => rfl
  constructor
  · intro hkeeps
    refine ⟨?_, ?_, ?_⟩
    · intro v hset
      exact (Option.some.inj (hkeeps .messageId v hset)).symm
    · intro v hset
      exact (Option.some.inj (hkeeps .protocolVersion v hset)).symm
    · intro column hcolumn
      by_contra hne
      obtain ⟨v, hset⟩ := Option.ne_none_iff_exists'.mp hne
      have hkept := hkeeps column v hset
      rw [hrest column hcolumn] at hkept
      cases hkept
  · intro hsurvives column v hset
    cases column with
    | messageId => exact congrArg some (hsurvives.messageId v hset).symm
    | protocolVersion => exact congrArg some (hsurvives.protocolVersion v hset).symm
    | stationId => exact congrArg some (camRow_eq_value cam hset)
    | _ =>
        rw [hsurvives.rest _ (by simp)] at hset
        cases hset

/-- The replies before and after a restart. -/
theorem camStore_content_iff (received : List CAM) (condition condition' : String) :
    SameContent CAM.stationid KeepsStored received
        (camSelect condition (Store.receiveAll receiveFromCa received Store.new)).1
        (camSelect condition' (Store.receiveAll receiveFromCa received Store.new).restart).1 ↔
      ∀ stationid cam, lastReceived CAM.stationid received stationid = some cam →
        KeepsStored cam (restoredCam cam) := by
  have hself : ∀ cam, KeepsStored cam cam := fun _ _ _ hset => hset
  exact sameContent_iff camStore_readsBack
    (camStore_matchesLater (Store.receiveAll receiveFromCa received Store.new)) hself .CAM

/-- They have the same content exactly if the last CAM of every station survives. -/
theorem camStore_iff (received : List CAM) (condition condition' : String) :
    SameContent CAM.stationid KeepsStored received
        (camSelect condition (Store.receiveAll receiveFromCa received Store.new)).1
        (camSelect condition' (Store.receiveAll receiveFromCa received Store.new).restart).1 ↔
      ∀ stationid cam, lastReceived CAM.stationid received stationid = some cam →
        CamSurvivesRestart cam := by
  rw [camStore_content_iff]
  simp only [keepsStored_restoredCam_iff]

/-- A CAM with all required fields sets `genDeltaTime`.  Of such CAMs only the empty
sequence has the same content before and after a restart. -/
theorem camStore_iff_nil {received : List CAM} (condition condition' : String)
    (hrequired : ∀ cam ∈ received, ∃ v, storedField cam .genDeltaTime = some v) :
    SameContent CAM.stationid KeepsStored received
        (camSelect condition (Store.receiveAll receiveFromCa received Store.new)).1
        (camSelect condition' (Store.receiveAll receiveFromCa received Store.new).restart).1 ↔
      received = [] := by
  rw [camStore_content_iff]
  constructor
  · intro hkeeps
    by_contra hne
    -- the station of some CAM has a last one
    obtain ⟨cam, hcam⟩ := List.exists_mem_of_ne_nil received hne
    obtain ⟨last, hlast⟩ := exists_lastReceived CAM.stationid hcam
    obtain ⟨v, hset⟩ := hrequired last (of_lastReceived_eq_some hlast).1
    have hkept := hkeeps _ last hlast .genDeltaTime v hset
    cases hkept
  · rintro rfl stationid cam hlast
    cases hlast

/-- A CAM as `CaService` sends it for a standing vehicle. -/
def vehicleCam : CAM where
  header := some { protocolVersion := some 1, messageID := some 2, stationID := some 7 }
  coop := some
    { genDeltaTime := some 1000
      camParameters := some
        { basicContainer := some
            { stationType := some 5
              latitude := some 515000000
              longitude := some 70000000
              semiMajorConfidence := some 0
              semiMinorConfidence := some 0
              semiMajorOrientation := some 0
              altitude := some 120
              altitudeConfidence := some 15 }
          highFreqContainer := some
            { type := some .BASIC_HIGH_FREQ_CONTAINER
              basicVehicleHighFreqContainer := some
                { heading := some 3601
                  headingConfidence := some 127
                  speed := some 0
                  speedConfidence := some 127
                  driveDirection := some 2
                  vehicleLength := some 1023
                  vehicleLengthConfidence := some 4
                  vehicleWidth := some 62
                  longitudinalAcceleration := some 161
                  longitudinalAccelerationConfidence := some 102
                  curvature := some 30001
                  curvatureConfidence := some 7
                  curvatureCalcMode := some 2
                  yawRate := some 32767
                  yawRateConfidence := some 8 } } } }

/-- The table that this CAM leaves behind. -/
def oldTable : Table (CamColumn → Int64) := Table.empty.insert (camRow vehicleCam)

/-- After one CAM and a restart, the reply has a CAM with the two numbers of the header
exchanged and without the rest. -/
theorem not_camStore_vehicleCam :
    ¬ SameContent CAM.stationid KeepsStored [vehicleCam]
        (camSelect "" (Store.receiveAll receiveFromCa [vehicleCam] Store.new)).1
        (camSelect "" (Store.receiveAll receiveFromCa [vehicleCam] Store.new).restart).1 := by
  intro hcontent
  have hkeeps := (camStore_content_iff [vehicleCam] "" "").mp hcontent 7 vehicleCam rfl
  have hkept := hkeeps .messageId 2 rfl
  exact absurd hkept (by decide)

end OpenC2X.Ldm
