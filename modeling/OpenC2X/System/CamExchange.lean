import OpenC2X.Cam.Alarms
import OpenC2X.Cam.Conversion
import OpenC2X.Common.PackedEncoding
import OpenC2X.Ldm.CamStore
import OpenC2X.System.Exchange

/-!
# From CA service to LDM

CaService generates CAMs at its alarms.  The ASN.1 coder is a parameter: what it encodes fits
into a frame, and it decodes this to the CAM.

The thread of the alarms and the thread that receives CAMs send to the LDM through one socket
without a mutex.  The results are about runs in which they do not do this at the same time.
-/

namespace OpenC2X.System

open Asn1 Cam Dcc Ldm LabelledRun

variable {R : Type*} [Field R] [LinearOrder R] [FloorRing R]

/-- What the coder does with a CAM that can be encoded. -/
structure CamCodec (uper_encode : CAM → Option (List UInt8))
    (uper_decode : List UInt8 → Option CAM) : Prop where
  decode_encode : ∀ {cam bytes}, uper_encode cam = some bytes → uper_decode bytes = some cam
  length_le : ∀ {cam bytes}, uper_encode cam = some bytes → bytes.length ≤ room .CAM

/-- `CaService`, with the thread that receives CAMs, for `receiveFromCa` of the LDM. -/
def camService (env : Env R) (uper_decode : List UInt8 → Option CAM) :
    Service (Input R) (CaService R) CAM Buffers.CAM where
  type := .CAM
  handle
    | .gps latest, s => some ({ s with mLatestGps := latest }, none)
    | .obd2 latest, s => some ({ s with mLatestObd2 := latest }, none)
    | .alarm r, s => (s.alarm env r).map fun (s, sent) =>
        (s, sent.map fun sent => (sent.cam, sent.data))
  decode := uper_decode
  convertAsn1toProtoBuf cam := some (Cam.convertAsn1toProtoBuf cam)
  mStationID s := s.mStationID.toUInt64
  stationid := Buffers.CAM.stationid
  receiver := .receiveFromCa
  ldmMessage := .cam
  protos := LdmMessage.cams

variable {env : Env R} {uper_decode : List UInt8 → Option CAM}

/-- An alarm that sends a CAM sends it encoded. -/
theorem alarm_data {s s' : CaService R} {r : Readings} {sent : Sent R}
    (h : s.alarm env r = some (s', some sent)) :
    ∃ bytes, env.uper_encode sent.cam = some bytes ∧ sent.data.type = .CAM ∧
      sent.data.content = bytes := by
  rw [CaService.alarm_eq] at h
  cases htrigger : (s.rules env r).2 with
  | none => simp [htrigger] at h
  | some t =>
      rw [htrigger] at h
      unfold CaService.send at h
      simp only [Option.map_map, Option.map_eq_some_iff, Function.comp_apply, Prod.mk.injEq,
        Option.some.injEq] at h
      obtain ⟨bytes, hbytes, -, rfl⟩ := h
      exact ⟨bytes, hbytes, rfl, rfl⟩

theorem mStationID_alarm {s s' : CaService R} {r : Readings} {sent : Option (Sent R)}
    (h : s.alarm env r = some (s', sent)) : s'.mStationID = s.mStationID := by
  cases sent with
  | none =>
      obtain ⟨-, rfl⟩ := CaService.alarm_silent_iff.mp h
      rfl
  | some sent =>
      obtain ⟨-, rfl, -⟩ := CaService.alarm_sent h
      rfl

theorem stationID_alarm {s s' : CaService R} {r : Readings} {sent : Sent R}
    (h : s.alarm env r = some (s', some sent)) :
    sent.cam.header.stationID = s.mStationID.toNat := by
  obtain ⟨-, -, hcam⟩ := CaService.alarm_sent h
  rw [hcam]
  rfl

/-- A message of the service is that of an alarm. -/
theorem camService_handle {i : Input R} {s s' : CaService R} {cam : CAM} {data : DATA}
    (h : (camService env uper_decode).handle i s = some (s', some (cam, data))) :
    ∃ r sent, s.alarm env r = some (s', some sent) ∧ sent.cam = cam ∧ sent.data = data := by
  cases i with
  | gps latest | obd2 latest => cases h
  | alarm r =>
      obtain ⟨⟨s₁, sent⟩, halarm, heq⟩ := Option.map_eq_some_iff.mp h
      cases sent with
      | none => cases heq
      | some sent =>
          cases heq
          exact ⟨r, sent, halarm, rfl, rfl⟩

theorem camService_lawful (hcodec : CamCodec env.uper_encode uper_decode) :
    (camService env uper_decode).Lawful where
  mStationID_eq := by
    intro i s s' sent h
    cases i with
    | gps latest | obd2 latest =>
        obtain ⟨rfl, -⟩ := Prod.mk.inj (Option.some.inj h)
        rfl
    | alarm r =>
        obtain ⟨⟨s₁, sent⟩, halarm, heq⟩ := Option.map_eq_some_iff.mp h
        obtain ⟨rfl, -⟩ := Prod.mk.inj heq
        exact congrArg UInt32.toUInt64 (mStationID_alarm halarm)
  type_eq := by
    intro i s s' cam data h
    obtain ⟨r, sent, halarm, -, rfl⟩ := camService_handle h
    obtain ⟨-, -, htype, -⟩ := alarm_data halarm
    exact htype
  decode_carried := by
    intro i s s' cam data h
    obtain ⟨r, sent, halarm, rfl, rfl⟩ := camService_handle h
    obtain ⟨bytes, hbytes, htype, hcontent⟩ := alarm_data halarm
    have hroom : (carried sent.data).content = sent.data.content.take (room sent.data.type) := rfl
    rw [htype, hcontent, List.take_of_length_le (hcodec.length_le hbytes)] at hroom
    show uper_decode (carried sent.data).content = some sent.cam
    rw [hroom]
    exact hcodec.decode_encode hbytes
  convert := by
    intro i s s' cam data h
    obtain ⟨r, sent, halarm, rfl, -⟩ := camService_handle h
    refine ⟨_, rfl, ?_⟩
    show UInt64.ofInt sent.cam.header.stationID = s.mStationID.toUInt64
    rw [stationID_alarm halarm, ofInt_toNat]
  protos_ldmMessage := fun _ => rfl

/-! ## The CAMs in the LDM -/

variable {N Tid : Type*} [DecidableEq N] [DecidableEq Tid] [Fintype N] [Fintype Tid]

/-- All processes are started, the LDMs on these databases. -/
def camStart (Tid : Type*) (config : N → NodeConfig) (mPacket : N → PacketBuffer)
    (mConfig : N → CaServiceConfig R) (mStationID : N → UInt32) (lastHeading : N → R)
    (tables : N → Tables) : Exchange N Tid (CaService R) CAM Buffers.CAM :=
  exchangeStart Tid CAM Buffers.CAM config mPacket
    (fun n => CaService.new (mConfig n) (mStationID n) (lastHeading n)) tables

variable {sqlite : Sqlite} {config : N → NodeConfig} {mPacket : N → PacketBuffer}
  {mConfig : N → CaServiceConfig R} {mStationID : N → UInt32} {lastHeading : N → R}
  {tables : N → Tables} {tr : List (ExchangeEvent N Tid (Input R) CAM Buffers.CAM)}
  {x : Exchange N Tid (CaService R) CAM Buffers.CAM}

/-- **Exchange of CAMs.**  As long as the threads of its service do not send to it at the same
time, the LDM of a node gets the CAMs of this service and of the nodes that are heard, none more
often than it was generated there, and those of its own station in their order if nobody that is
heard has the same station. -/
theorem cam_exchange (hcodec : CamCodec env.uper_encode uper_decode)
    (h : Run (ExchangeStep sqlite config (camService env uper_decode))
      (camStart Tid config mPacket mConfig mStationID lastHeading tables) tr x) {n : N}
    (hapart : SendsApart (nodeTrace config (camService env uper_decode) n tr)) :
    (storedAt config (camService env uper_decode) n tr : Multiset Buffers.CAM) ≤
        (generatedAt config (camService env uper_decode) n tr +
          ∑ m ∈ heard config n, (generatedAt config (camService env uper_decode) m tr :
            Multiset CAM)).map Cam.convertAsn1toProtoBuf ∧
      ((∀ m ∈ heard config n, mStationID m ≠ mStationID n) →
        ((storedAt config (camService env uper_decode) n tr).filter fun cam =>
            cam.stationid = (mStationID n).toUInt64).Sublist
          ((generatedAt config (camService env uper_decode) n tr).map
            Cam.convertAsn1toProtoBuf)) := by
  have hlawful := camService_lawful hcodec
  constructor
  · have hle := stored_le h hlawful hapart
    rw [← filterMap_sum, ← Multiset.filterMap_add] at hle
    rw [← Multiset.filterMap_eq_map]
    exact hle
  · intro hstations
    rw [← List.filterMap_eq_map]
    refine own_sublist h hlawful hapart fun m hm heq => hstations m hm ?_
    exact UInt32.toUInt64_inj.mp heq

/-- A CAM that an LDM receives was generated by a service with its station. -/
theorem exists_generated_of_stored (hcodec : CamCodec env.uper_encode uper_decode)
    (h : Run (ExchangeStep sqlite config (camService env uper_decode))
      (camStart Tid config mPacket mConfig mStationID lastHeading tables) tr x) {n : N}
    (hapart : SendsApart (nodeTrace config (camService env uper_decode) n tr))
    {cam : Buffers.CAM} (hcam : cam ∈ storedAt config (camService env uper_decode) n tr) :
    ∃ n', (n' = n ∨ n' ∈ heard config n) ∧ cam.stationid = (mStationID n').toUInt64 ∧
      ∃ generatedCam ∈ generatedAt config (camService env uper_decode) n' tr,
        Cam.convertAsn1toProtoBuf generatedCam = cam := by
  obtain ⟨n', hn', hstation, generatedCam, hmem, hconvert⟩ :=
    exists_of_mem_stored h (camService_lawful hcodec) hapart hcam
  exact ⟨n', hn', hstation, generatedCam, hmem, Option.some.inj hconvert⟩

/-- **CAMs in the answers of the LDM.**  As long as, in addition, no request takes a row, what an
LDM answers for a station is the CAM it got last from there, and this was generated by a service
with this station. -/
theorem cam_answer (hcodec : CamCodec env.uper_encode uper_decode) {n : N} {t : LdmThread}
    {received : String × String} {cams : Buffers.LdmData Buffers.CAM}
    {before after : List (ExchangeEvent N Tid (Input R) CAM Buffers.CAM)}
    (h : Run (ExchangeStep sqlite config (camService env uper_decode))
      (camStart Tid config mPacket mConfig mStationID lastHeading tables)
      (before ++ .node n (.ldm t (.reply received (.cams cams))) :: after) x)
    (hapart : SendsApart (nodeTrace config (camService env uper_decode) n before))
    (hrow : TakesNoRow (ldmTrace config (camService env uper_decode) n before))
    {cam : Buffers.CAM} (hcam : cam ∈ cams.data) :
    lastReceived Buffers.CAM.stationid (storedAt config (camService env uper_decode) n before)
        cam.stationid = some cam ∧
      ∃ n', (n' = n ∨ n' ∈ heard config n) ∧ cam.stationid = (mStationID n').toUInt64 ∧
        ∃ generatedCam ∈ generatedAt config (camService env uper_decode) n' before,
          Cam.convertAsn1toProtoBuf generatedCam = cam := by
  obtain ⟨x₁, ldm, hbefore, hstep⟩ := exists_step_of_ldm h
  rw [eq_of_step_cams hstep] at hcam
  have hlast := (cached_at hbefore n).lastReceived_of_mem_cams hcam
  have hprotos : (cachedMessages (ldmTrace config (camService env uper_decode) n before)).flatMap
      LdmMessage.cams = storedAt config (camService env uper_decode) n before :=
    protos_cached hbefore (camService_lawful hcodec) hrow
  rw [hprotos] at hlast
  exact ⟨hlast, exists_generated_of_stored hcodec hbefore hapart
    (of_lastReceived_eq_some hlast).1⟩

/-! ### A CAM of the first of two nodes -/

/-- The packed encoding is such a coder. -/
theorem packed_camCodec : CamCodec Packed.cam.encodeOctets Packed.cam.decodeOctets where
  decode_encode := by
    intro cam bytes h
    have happend := Uper.Coder.decodeOctets_append h []
    rwa [List.append_nil] at happend
  length_le := by
    intro cam bytes h
    have hsize : (Packed.cam.size + 7) / 8 ≤ room .CAM := by decide
    exact (Uper.Coder.length_encodeOctets_le h).trans hsize

def packedEnv : Env ℚ := { meridianEnv with uper_encode := Packed.cam.encodeOctets }

/-- A station without GPS and OBD2 data. -/
def standing (mStationID : UInt32) : CaService ℚ := .new defaultConfig mStationID 0

def firstCam : CAM := ((standing 1).generateCam packedEnv firstAlarm.generate).2

def firstData : DATA :=
  (standing 1).dataPackage firstAlarm.send (Uper.octets (Packed.cam.encode firstCam))

example : Uper.octets (Packed.cam.encode firstCam) =
    [1, 2, 0, 0, 0, 1, 0, 0, 0, 93, 105, 58, 64, 58, 210, 116, 128, 32, 0, 0, 0, 1, 183, 116, 62,
      0, 225, 31, 223, 255, 254, 191, 233, 237, 7, 55, 83, 15, 95, 255, 176] := by decide +kernel

theorem alarm_standing : ∃ s, (camService packedEnv Packed.cam.decodeOctets).handle
    (.alarm firstAlarm) (standing 1) = some (s, some (firstCam, firstData)) := by
  have hsent : ((standing 1).alarm packedEnv firstAlarm).map (fun next =>
      next.2.map fun sent => (sent.cam, sent.data)) = some (some (firstCam, firstData)) := by
    decide +kernel
  obtain ⟨⟨s, sent⟩, halarm, hpair⟩ := Option.map_eq_some_iff.mp hsent
  refine ⟨s, ?_⟩
  have hhandle : (camService packedEnv Packed.cam.decodeOctets).handle (.alarm firstAlarm)
      (standing 1) = ((standing 1).alarm packedEnv firstAlarm).map fun (s, sent) =>
        (s, sent.map fun sent => (sent.cam, sent.data)) := rfl
  rw [hhandle, halarm, Option.map_some]
  exact congrArg (fun sent => some (s, sent)) hpair

def firstTrace : List (ExchangeEvent Bool Unit (Input ℚ) CAM Buffers.CAM) :=
  helloTrace (.alarm firstAlarm) firstCam firstData (Cam.convertAsn1toProtoBuf firstCam)

def twoStations : Exchange Bool Unit (CaService ℚ) CAM Buffers.CAM :=
  camStart Unit twoNodes (fun _ => staleCam) (fun _ => defaultConfig)
    (fun second => if second then 2 else 1) (fun _ => 0) fun _ => LDM.new.tables

abbrev packedService : Service (Input ℚ) (CaService ℚ) CAM Buffers.CAM :=
  camService packedEnv Packed.cam.decodeOctets

theorem firstTrace_run : ∃ x,
    Run (ExchangeStep exactSqlite twoNodes packedService) twoStations firstTrace x ∧
      (x.nodes true).ldm.locals .receiveRequest = .awaiting ∧
      (x.nodes true).ldm.shared.ldm.camCache =
        LDM.new.camCache.assign (Cam.convertAsn1toProtoBuf firstCam) := by
  obtain ⟨s, halarm⟩ := alarm_standing
  have hstore : ∀ tables, Interleaving.Step (LdmAct exactSqlite) (ldmStart tables)
      (.receiveFromCa, .access (.store (.cam (Cam.convertAsn1toProtoBuf firstCam)))) _ :=
    fun tables => .move (.receive (.storeCam _))
  obtain ⟨x, hrun, hldm⟩ := @helloTrace_run _ _ _ _ _ exactSqlite packedService
    (fun second => .new defaultConfig (if second then 2 else 1) 0) (fun _ => LDM.new.tables)
    (.alarm firstAlarm) s firstCam firstData (Cam.convertAsn1toProtoBuf firstCam)
    (camService_lawful packed_camCodec) halarm rfl rfl (by decide +kernel) _ _ (hstore _)
    (hstore _)
  refine ⟨x, hrun, ?_, ?_⟩
  · rw [hldm]
    rfl
  · rw [hldm]
    rfl

theorem firstTrace_apart : SendsApart (nodeTrace twoNodes packedService true firstTrace) :=
  helloTrace_apart _ _ _ _

theorem cam_exchange_first : ∃ x,
    Run (ExchangeStep exactSqlite twoNodes packedService) twoStations firstTrace x ∧
    storedAt twoNodes packedService true firstTrace = [Cam.convertAsn1toProtoBuf firstCam] ∧
    (storedAt twoNodes packedService true firstTrace : Multiset Buffers.CAM) ≤
      (generatedAt twoNodes packedService true firstTrace + ∑ m ∈ heard twoNodes true,
        (generatedAt twoNodes packedService m firstTrace : Multiset CAM)).map
          Cam.convertAsn1toProtoBuf := by
  obtain ⟨x, hrun, -⟩ := firstTrace_run
  exact ⟨x, hrun, rfl, (cam_exchange packed_camCodec hrun firstTrace_apart).1⟩

/-- The LDM of the second node is asked for its CAMs. -/
def requestedTrace : List (ExchangeEvent Bool Unit (Input ℚ) CAM Buffers.CAM) :=
  firstTrace ++ requestAt (Input ℚ) CAM Buffers.CAM true ("CAM", "latest")

def firstReply : Buffers.LdmData Buffers.CAM := ⟨.CAM, [Cam.convertAsn1toProtoBuf firstCam]⟩

theorem requestedTrace_run : ∃ x,
    Run (ExchangeStep exactSqlite twoNodes packedService) twoStations
      (requestedTrace ++ [.node true (.ldm .receiveRequest
        (.reply ("CAM", "latest") (.cams firstReply)))]) x := by
  obtain ⟨x, hrun, hawaiting, hcache⟩ := firstTrace_run
  have hneed : (selectOf exactSqlite ("CAM", "latest")).need (x.nodes true).ldm.shared.ldm =
      false := by
    show (x.nodes true).ldm.shared.ldm.camCache.isEmpty = false
    rw [hcache]
    exact Cache.isEmpty_assign _ _
  have hreply : (selectOf exactSqlite ("CAM", "latest")).reply []
      (x.nodes true).ldm.shared.ldm = .cams firstReply := by
    show Reply.cams ⟨.CAM, (x.nodes true).ldm.shared.ldm.camCache.messages⟩ = _
    rw [hcache]
    rfl
  obtain ⟨x', hanswer⟩ := answerAt_run hawaiting hneed
  rw [hreply] at hanswer
  rw [requestedTrace, List.append_assoc]
  exact ⟨x', hrun.append hanswer⟩

theorem requestedTrace_takesNoRow :
    TakesNoRow (ldmTrace twoNodes packedService true requestedTrace) := by
  have htrace : ldmTrace twoNodes packedService true requestedTrace =
      [(.receiveFromCa, .access (.store (.cam (Cam.convertAsn1toProtoBuf firstCam)))),
        (.receiveRequest, .request ("CAM", "latest")), (.receiveRequest, .access .test)] := rfl
  rw [htrace]
  intro t message hmem
  simp at hmem

theorem cam_answer_first : ∃ x,
    Run (ExchangeStep exactSqlite twoNodes packedService) twoStations
      (requestedTrace ++ [.node true (.ldm .receiveRequest
        (.reply ("CAM", "latest") (.cams firstReply)))]) x ∧
    ∃ cam ∈ firstReply.data,
      lastReceived Buffers.CAM.stationid (storedAt twoNodes packedService true requestedTrace)
          cam.stationid = some cam ∧
        ∃ n', (n' = true ∨ n' ∈ heard twoNodes true) ∧
          cam.stationid = (if n' = true then 2 else 1 : UInt32).toUInt64 ∧
          ∃ generatedCam ∈ generatedAt twoNodes packedService n' requestedTrace,
            Cam.convertAsn1toProtoBuf generatedCam = cam := by
  obtain ⟨x, hrun⟩ := requestedTrace_run
  have hcam : Cam.convertAsn1toProtoBuf firstCam ∈ firstReply.data := List.mem_singleton_self _
  exact ⟨x, hrun, _, hcam,
    cam_answer packed_camCodec hrun firstTrace_apart requestedTrace_takesNoRow hcam⟩

end OpenC2X.System
