import OpenC2X.Ldm.Store

/-!
# The DENM store

`insertDenm` writes fifteen fields of a DENM into a row and `denmSelect` reads twelve of
them back.  The optional times and the validity duration are left out, and the station
that originated the DENM, which has no column, is taken to be the one that sent it.
-/

namespace OpenC2X.Ldm

open Buffers

/-! ## The table -/

/-- The columns of the table DENM after its key. -/
inductive DenmColumn
  | protocolVersion
  | messageId
  | stationId
  | sequenceNumber
  | detectionTime
  | referenceTime
  | latitude
  | longitude
  | semiMajorConfidence
  | semiMinorConfidence
  | semiMajorOrientation
  | altitude
  | altitudeConfidence
  | validityDuration
  | stationType
  deriving DecidableEq

/-- Their order in `CREATE TABLE DENM`. -/
def DenmColumn.created : List DenmColumn :=
  [.protocolVersion, .messageId, .stationId, .sequenceNumber, .detectionTime, .referenceTime,
   .latitude, .longitude, .semiMajorConfidence, .semiMinorConfidence, .semiMajorOrientation,
   .altitude, .altitudeConfidence, .validityDuration, .stationType]

/-- The columns that `insertDenm` names. -/
def DenmColumn.inserted : List DenmColumn :=
  [.protocolVersion, .messageId, .stationId, .sequenceNumber, .detectionTime, .referenceTime,
   .latitude, .longitude, .semiMajorConfidence, .semiMinorConfidence, .semiMajorOrientation,
   .altitude, .altitudeConfidence, .validityDuration, .stationType]

/-- The values that `insertDenm` gives for them. -/
def denmValues (denm : DENM) : List Int64 :=
  let header := denm.header.value
  let managementcontainer := denm.msg.value.managementContainer.value
  [header.protocolVersion.value, header.messageID.value, header.stationID.value.toInt64,
   managementcontainer.sequenceNumber.value, managementcontainer.detectionTime.value,
   managementcontainer.referenceTime.value, managementcontainer.latitude.value,
   managementcontainer.longitude.value, managementcontainer.semiMajorConfidence.value,
   managementcontainer.semiMinorConfidence.value,
   managementcontainer.semiMajorOrientation.value, managementcontainer.altitude.value,
   managementcontainer.altitudeConfidence.value, managementcontainer.validityDuration.value,
   managementcontainer.stationType.value]

def denmRow (denm : DENM) : DenmColumn → Int64 :=
  Table.record DenmColumn.inserted (denmValues denm)

def readDenm (row : Table.Row (DenmColumn → Int64)) : DENM :=
  let column := row.column DenmColumn.created
  { header := some
      { protocolVersion := some (column 1)
        messageID := some (column 2)
        stationID := some (column 3).toUInt64 }
    msg := some
      { managementContainer := some
          -- the columns 5, 6 and 14 are not read
          { stationID := some (column 3).toUInt64
            sequenceNumber := some (column 4)
            latitude := some (column 7)
            longitude := some (column 8)
            semiMajorConfidence := some (column 9)
            semiMinorConfidence := some (column 10)
            semiMajorOrientation := some (column 11)
            altitude := some (column 12)
            altitudeConfidence := some (column 13)
            stationType := some (column 15) } } }

/-! ## The operations -/

/-- `denmCache` with the table DENM. -/
abbrev DenmStore : Type := Store (stationName DENM.stationid) (DenmColumn → Int64)

def insertDenm (denm : DENM) (s : DenmStore) : DenmStore := s.insert (denmRow denm)

/-- One iteration of `receiveFromDen`. -/
def receiveFromDen (denm : DENM) (s : DenmStore) : DenmStore := insertDenm denm (s.assign denm)

/-- The condition that comes with the request is not looked at. -/
def denmSelect (_condition : String) (s : DenmStore) : LdmData DENM × DenmStore :=
  s.select .DENM (Store.laterOf .stationId) readDenm

/-! ## Header and management fields -/

/-- The fields of the header and of the management container. -/
inductive DenmField
  | protocolVersion
  | messageID
  | stationID
  | originatingStationID
  | sequenceNumber
  | detectionTime
  | referenceTime
  | latitude
  | longitude
  | semiMajorConfidence
  | semiMinorConfidence
  | semiMajorOrientation
  | altitude
  | altitudeConfidence
  | validityDuration
  | stationType
  deriving DecidableEq

/-- What a DENM has in a field, with station ids as signed numbers. -/
def denmField (denm : DENM) : DenmField → ProtoField Int64
  | .protocolVersion => denm.header.bind (·.protocolVersion)
  | .messageID => denm.header.bind (·.messageID)
  | .stationID => (denm.header.bind (·.stationID)).map UInt64.toInt64
  | .originatingStationID =>
      (denm.managementcontainer.bind (·.stationID)).map UInt64.toInt64
  | .sequenceNumber => denm.managementcontainer.bind (·.sequenceNumber)
  | .detectionTime => denm.managementcontainer.bind (·.detectionTime)
  | .referenceTime => denm.managementcontainer.bind (·.referenceTime)
  | .latitude => denm.managementcontainer.bind (·.latitude)
  | .longitude => denm.managementcontainer.bind (·.longitude)
  | .semiMajorConfidence => denm.managementcontainer.bind (·.semiMajorConfidence)
  | .semiMinorConfidence => denm.managementcontainer.bind (·.semiMinorConfidence)
  | .semiMajorOrientation => denm.managementcontainer.bind (·.semiMajorOrientation)
  | .altitude => denm.managementcontainer.bind (·.altitude)
  | .altitudeConfidence => denm.managementcontainer.bind (·.altitudeConfidence)
  | .validityDuration => denm.managementcontainer.bind (·.validityDuration)
  | .stationType => denm.managementcontainer.bind (·.stationType)

/-- Every field that the received DENM sets has the same value in the shown one. -/
def KeepsFields (received shown : DENM) : Prop :=
  ∀ field v, denmField received field = some v → denmField shown field = some v

/-! ## Reading back -/

/-- What `denmSelect` makes of the row of a DENM. -/
def restoredDenm (denm : DENM) : DENM :=
  let header := denm.header.value
  let managementcontainer := denm.msg.value.managementContainer.value
  { header := some
      { protocolVersion := some header.protocolVersion.value
        messageID := some header.messageID.value
        stationID := some denm.stationid }
    msg := some
      { managementContainer := some
          { stationID := some denm.stationid
            sequenceNumber := some managementcontainer.sequenceNumber.value
            latitude := some managementcontainer.latitude.value
            longitude := some managementcontainer.longitude.value
            semiMajorConfidence := some managementcontainer.semiMajorConfidence.value
            semiMinorConfidence := some managementcontainer.semiMinorConfidence.value
            semiMajorOrientation := some managementcontainer.semiMajorOrientation.value
            altitude := some managementcontainer.altitude.value
            altitudeConfidence := some managementcontainer.altitudeConfidence.value
            stationType := some managementcontainer.stationType.value } } }

theorem readDenm_denmRow (key : ℕ) (denm : DENM) :
    readDenm ⟨key, denmRow denm⟩ = restoredDenm denm := by
  have hstation : (UInt64.toInt64 denm.stationid).toUInt64 = denm.stationid :=
    UInt64.toUInt64_toInt64 _
  rw [restoredDenm, ← hstation]
  rfl

theorem denmStore_readsBack : Store.ReadsBack readDenm receiveFromDen restoredDenm where
  exists_row denm := ⟨denmRow denm, fun key => readDenm_denmRow key denm, fun _ => rfl⟩
  name_restored _ := rfl

/-- The query of `denmSelect` matches a row with the later ones of its station. -/
theorem denmStore_matchesLater (s : DenmStore) :
    s.MatchesLater (Store.laterOf .stationId) readDenm := by
  refine Store.matchesLater_laterOf (fun v => toString v.toUInt64) ?_ s
  intro row
  rfl

/-- The fields that `denmSelect` leaves out. -/
def DenmField.optional : List DenmField := [.detectionTime, .referenceTime, .validityDuration]

theorem restoredDenm_optional (denm : DENM) {field : DenmField}
    (hoptional : field ∈ DenmField.optional) :
    denmField (restoredDenm denm) field = none := by
  cases field with
  | detectionTime | referenceTime | validityDuration => rfl
  | _ => simp [DenmField.optional] at hoptional

/-- All others but the station of origin are kept. -/
theorem restoredDenm_keeps {denm : DENM} {field : DenmField} {v : Int64}
    (hoptional : field ∉ DenmField.optional) (horigin : field ≠ .originatingStationID)
    (hset : denmField denm field = some v) : denmField (restoredDenm denm) field = some v := by
  have hmanagement : denm.managementcontainer.value =
      denm.msg.value.managementContainer.value :=
    ProtoField.value_bind _ rfl
  cases field with
  | detectionTime | referenceTime | validityDuration =>
      simp [DenmField.optional] at hoptional
  | originatingStationID => exact absurd rfl horigin
  | protocolVersion | messageID =>
      exact congrArg (fun field => some (ProtoField.value field))
        (ProtoField.get_value_of_bind hset)
  | stationID =>
      obtain ⟨stationID, hstation, rfl⟩ := Option.map_eq_some_iff.mp hset
      exact congrArg (fun field => some (UInt64.toInt64 (ProtoField.value field)))
        (ProtoField.get_value_of_bind hstation)
  | _ =>
      have hget := ProtoField.get_value_of_bind hset
      rw [hmanagement] at hget
      exact congrArg (fun field => some (ProtoField.value field)) hget

/-! ## The replies before and after a restart -/

/-- A DENM survives a restart: it sets none of the optional fields, and it was sent by the
station that originated it. -/
structure DenmSurvivesRestart (denm : DENM) : Prop where
  optional : ∀ field ∈ DenmField.optional, denmField denm field = none
  originatingStationID : ∀ stationID,
    denm.managementcontainer.bind (·.stationID) = some stationID → stationID = denm.stationid

theorem keepsFields_restoredDenm_iff (denm : DENM) :
    KeepsFields denm (restoredDenm denm) ↔ DenmSurvivesRestart denm := by
  constructor
  · intro hkeeps
    refine ⟨?_, ?_⟩
    · intro field hoptional
      by_contra hne
      obtain ⟨v, hset⟩ := Option.ne_none_iff_exists'.mp hne
      have hkept := hkeeps field v hset
      rw [restoredDenm_optional denm hoptional] at hkept
      cases hkept
    · intro stationID hset
      have hkept := hkeeps .originatingStationID stationID.toInt64
        (congrArg (Option.map UInt64.toInt64) hset)
      have hsigned : denm.stationid.toInt64 = stationID.toInt64 := Option.some.inj hkept
      have hunsigned := congrArg Int64.toUInt64 hsigned
      rw [UInt64.toUInt64_toInt64, UInt64.toUInt64_toInt64] at hunsigned
      exact hunsigned.symm
  · intro hsurvives field v hset
    by_cases hoptional : field ∈ DenmField.optional
    · rw [hsurvives.optional field hoptional] at hset
      cases hset
    by_cases horigin : field = .originatingStationID
    · subst horigin
      obtain ⟨stationID, hstation, rfl⟩ := Option.map_eq_some_iff.mp hset
      rw [hsurvives.originatingStationID stationID hstation]
      rfl
    · exact restoredDenm_keeps hoptional horigin hset

/-- The replies before and after a restart. -/
theorem denmStore_content_iff (received : List DENM) (condition condition' : String) :
    SameContent DENM.stationid KeepsFields received
        (denmSelect condition (Store.receiveAll receiveFromDen received Store.new)).1
        (denmSelect condition' (Store.receiveAll receiveFromDen received Store.new).restart).1 ↔
      ∀ stationid denm, lastReceived DENM.stationid received stationid = some denm →
        KeepsFields denm (restoredDenm denm) := by
  have hself : ∀ denm, KeepsFields denm denm := fun _ _ _ hset => hset
  exact sameContent_iff denmStore_readsBack
    (denmStore_matchesLater (Store.receiveAll receiveFromDen received Store.new)) hself .DENM

/-- They have the same content exactly if the last DENM of every station survives. -/
theorem denmStore_iff (received : List DENM) (condition condition' : String) :
    SameContent DENM.stationid KeepsFields received
        (denmSelect condition (Store.receiveAll receiveFromDen received Store.new)).1
        (denmSelect condition' (Store.receiveAll receiveFromDen received Store.new).restart).1 ↔
      ∀ stationid denm, lastReceived DENM.stationid received stationid = some denm →
        DenmSurvivesRestart denm := by
  rw [denmStore_content_iff]
  simp only [keepsFields_restoredDenm_iff]

/-- A DENM of station 3 that station 7 has sent on. -/
def relayedDenm : DENM where
  header := some { protocolVersion := some 1, messageID := some 1, stationID := some 7 }
  msg := some
    { managementContainer := some
        { stationID := some 3
          sequenceNumber := some 0
          latitude := some 515000000
          longitude := some 70000000
          semiMajorConfidence := some 0
          semiMinorConfidence := some 0
          semiMajorOrientation := some 0
          altitude := some 120
          altitudeConfidence := some 15
          stationType := some 5 } }

/-- After a restart the reply gives station 7 as the origin of the DENM. -/
theorem not_denmStore_relayedDenm :
    ¬ SameContent DENM.stationid KeepsFields [relayedDenm]
        (denmSelect "" (Store.receiveAll receiveFromDen [relayedDenm] Store.new)).1
        (denmSelect "" (Store.receiveAll receiveFromDen [relayedDenm] Store.new).restart).1 := by
  intro hcontent
  have hkeeps := (denmStore_content_iff [relayedDenm] "" "").mp hcontent 7 relayedDenm rfl
  have hkept := hkeeps .originatingStationID 3 rfl
  exact absurd hkept (by decide)

end OpenC2X.Ldm
