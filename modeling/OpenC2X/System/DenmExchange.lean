import OpenC2X.Denm.PackedEncoding
import OpenC2X.Ldm.DenmStore
import OpenC2X.System.Exchange

/-!
# From DEN service to LDM

DenService generates a DENM whenever an application triggers one.  The time stamps are bit
strings whose last bits do not count, so a DENM is decoded up to its time stamps; the message
for the LDM has none.

As in CaService, the results are about runs in which the thread of the triggers and the thread
that receives DENMs do not send to the LDM at the same time.
-/

namespace OpenC2X

/-! ## The service -/

namespace Denm

structure DenService where
  mStationID : UInt32
  mLatestGps : Buffers.GPS

inductive Input where
  | gps (latest : Buffers.GPS)
  /-- A trigger, with the readings of the clock in `generateDenm` and in `send`. -/
  | trigger (generate send : Int64)

/-- The `DATA` package that carries an encoded DENM to DCC. -/
def dataPackage (currTime : Int64) (encodedDenm : List UInt8) : DATA where
  id := Asn1.messageID_denm
  type := .DENM
  priority := .AC_VI
  validUntil := some (int64 (currTime.toInt + 2 * 1000 * 1000 * 1000)) -- 2s
  content := encodedDenm

/-- Generates and encodes a DENM.  If it cannot be encoded, `encodeMessage` throws. -/
def DenService.send (s : DenService) (uper_encode : Asn1.StampedDENM → Option (List UInt8))
    (generate send : Int64) : Option (Asn1.StampedDENM × DATA) :=
  let denm := generateDenm s.mStationID s.mLatestGps generate
  (uper_encode denm).map fun encodedDenm => (denm, dataPackage send encodedDenm)

end Denm

/-! ## The exchange -/

namespace System

open Asn1 Denm Dcc Ldm LabelledRun

/-- What the coder does with a DENM that can be encoded. -/
structure DenmCodec (uper_encode : StampedDENM → Option (List UInt8))
    (uper_decode : List UInt8 → Option StampedDENM) : Prop where
  decode_encode : ∀ {denm bytes}, uper_encode denm = some bytes →
    ∃ denm', uper_decode bytes = some denm' ∧ denm'.toDENM = denm.toDENM
  length_le : ∀ {denm bytes}, uper_encode denm = some bytes → bytes.length ≤ room .DENM

/-- `DenService`, with the thread that receives DENMs, for `receiveFromDen` of the LDM. -/
def denService (uper_encode : StampedDENM → Option (List UInt8))
    (uper_decode : List UInt8 → Option StampedDENM) :
    Service Denm.Input DenService DENM Buffers.DENM where
  type := .DENM
  handle
    | .gps latest, s => some ({ s with mLatestGps := latest }, none)
    | .trigger generate send, s => (s.send uper_encode generate send).map fun (denm, data) =>
        (s, some (denm.toDENM, data))
  decode bytes := (uper_decode bytes).map StampedDENM.toDENM
  convertAsn1toProtoBuf := Denm.convertAsn1toProtoBuf
  mStationID s := s.mStationID.toUInt64
  stationid := Buffers.DENM.stationid
  receiver := .receiveFromDen
  ldmMessage := .denm
  protos := LdmMessage.denms

variable {uper_encode : StampedDENM → Option (List UInt8)}
  {uper_decode : List UInt8 → Option StampedDENM}

/-- A message of the service is a generated DENM. -/
theorem denService_handle {i : Denm.Input} {s s' : DenService} {denm : DENM} {data : DATA}
    (h : (denService uper_encode uper_decode).handle i s = some (s', some (denm, data))) :
    ∃ generate send bytes, uper_encode (generateDenm s.mStationID s.mLatestGps generate) =
        some bytes ∧ denm = (generateDenm s.mStationID s.mLatestGps generate).toDENM ∧
      data = dataPackage send bytes ∧ s' = s := by
  cases i with
  | gps latest => cases h
  | trigger generate send =>
      obtain ⟨⟨stamped, package⟩, hsend, heq⟩ := Option.map_eq_some_iff.mp h
      obtain ⟨bytes, hbytes, hpair⟩ := Option.map_eq_some_iff.mp hsend
      cases hpair
      cases heq
      exact ⟨generate, send, bytes, hbytes, rfl, rfl, rfl⟩

theorem denService_lawful (hcodec : DenmCodec uper_encode uper_decode) :
    (denService uper_encode uper_decode).Lawful where
  mStationID_eq := by
    intro i s s' sent h
    cases i with
    | gps latest =>
        obtain ⟨rfl, -⟩ := Prod.mk.inj (Option.some.inj h)
        rfl
    | trigger generate send =>
        obtain ⟨⟨stamped, package⟩, -, heq⟩ := Option.map_eq_some_iff.mp h
        obtain ⟨rfl, -⟩ := Prod.mk.inj heq
        rfl
  type_eq := by
    intro i s s' denm data h
    obtain ⟨generate, send, bytes, -, -, rfl, -⟩ := denService_handle h
    rfl
  decode_carried := by
    intro i s s' denm data h
    obtain ⟨generate, send, bytes, hbytes, rfl, rfl, -⟩ := denService_handle h
    obtain ⟨denm', hdecode, hsame⟩ := hcodec.decode_encode hbytes
    have hcontent : (carried (dataPackage send bytes)).content = bytes :=
      List.take_of_length_le (hcodec.length_le hbytes)
    show (uper_decode (carried (dataPackage send bytes)).content).map StampedDENM.toDENM = _
    rw [hcontent, hdecode, Option.map_some, hsame]
  convert := by
    intro i s s' denm data h
    obtain ⟨generate, send, bytes, -, rfl, -, -⟩ := denService_handle h
    refine ⟨_, rfl, ?_⟩
    show UInt64.ofInt s.mStationID.toNat = s.mStationID.toUInt64
    exact ofInt_toNat s.mStationID
  protos_ldmMessage := fun _ => rfl

/-! ## The DENMs in the LDM -/

variable {N Tid : Type*} [DecidableEq N] [DecidableEq Tid] [Fintype N] [Fintype Tid]

/-- All processes are started, the LDMs on these databases. -/
def denmStart (Tid : Type*) (config : N → NodeConfig) (mPacket : N → PacketBuffer)
    (start : N → DenService) (tables : N → Tables) :
    Exchange N Tid DenService DENM Buffers.DENM :=
  exchangeStart Tid DENM Buffers.DENM config mPacket start tables

variable {sqlite : Sqlite} {config : N → NodeConfig} {mPacket : N → PacketBuffer}
  {start : N → DenService} {tables : N → Tables}
  {tr : List (ExchangeEvent N Tid Denm.Input DENM Buffers.DENM)}
  {x : Exchange N Tid DenService DENM Buffers.DENM}

/-- **Exchange of DENMs.**  Where all DENMs are those of DenServices, the read from a null
pointer in the conversion never happens.  As long as the threads of its service do not send to it
at the same time, the LDM of a node gets the DENMs of this service and of the nodes that are
heard, none more often than it was generated there, and those of its own station in their order
if nobody that is heard has the same station. -/
theorem denm_exchange (hcodec : DenmCodec uper_encode uper_decode)
    (h : Run (ExchangeStep sqlite config (denService uper_encode uper_decode))
      (denmStart Tid config mPacket start tables) tr x) (n : N) :
    .node n .crash ∉ tr ∧
      (SendsApart (nodeTrace config (denService uper_encode uper_decode) n tr) →
        (storedAt config (denService uper_encode uper_decode) n tr : Multiset Buffers.DENM) ≤
            (generatedAt config (denService uper_encode uper_decode) n tr +
              ∑ m ∈ heard config n, (generatedAt config (denService uper_encode uper_decode) m tr :
                Multiset DENM)).filterMap Denm.convertAsn1toProtoBuf ∧
          ((∀ m ∈ heard config n, (start m).mStationID ≠ (start n).mStationID) →
            ((storedAt config (denService uper_encode uper_decode) n tr).filter fun denm =>
                denm.stationid = (start n).mStationID.toUInt64).Sublist
              ((generatedAt config (denService uper_encode uper_decode) n tr).filterMap
                Denm.convertAsn1toProtoBuf))) := by
  have hlawful := denService_lawful hcodec
  refine ⟨not_crashed h hlawful n, fun hapart => ⟨?_, fun hstations => ?_⟩⟩
  · have hle := stored_le h hlawful hapart
    rw [← filterMap_sum, ← Multiset.filterMap_add] at hle
    exact hle
  · refine own_sublist h hlawful hapart fun m hm heq => hstations m hm ?_
    exact UInt32.toUInt64_inj.mp heq

/-- **DENMs in the answers of the LDM.**  As long as, in addition, no request takes a row, what an
LDM answers for a station is the DENM it got last from there, and this was generated by a service
with this station. -/
theorem denm_answer (hcodec : DenmCodec uper_encode uper_decode) {n : N} {t : LdmThread}
    {received : String × String} {denms : Buffers.LdmData Buffers.DENM}
    {before after : List (ExchangeEvent N Tid Denm.Input DENM Buffers.DENM)}
    (h : Run (ExchangeStep sqlite config (denService uper_encode uper_decode))
      (denmStart Tid config mPacket start tables)
      (before ++ .node n (.ldm t (.reply received (.denms denms))) :: after) x)
    (hapart : SendsApart (nodeTrace config (denService uper_encode uper_decode) n before))
    (hrow : TakesNoRow (ldmTrace config (denService uper_encode uper_decode) n before))
    {denm : Buffers.DENM} (hdenm : denm ∈ denms.data) :
    lastReceived Buffers.DENM.stationid
        (storedAt config (denService uper_encode uper_decode) n before) denm.stationid =
          some denm ∧
      ∃ n', (n' = n ∨ n' ∈ heard config n) ∧ denm.stationid = (start n').mStationID.toUInt64 ∧
        ∃ generatedDenm ∈ generatedAt config (denService uper_encode uper_decode) n' before,
          Denm.convertAsn1toProtoBuf generatedDenm = some denm := by
  obtain ⟨x₁, ldm, hbefore, hstep⟩ := exists_step_of_ldm h
  rw [eq_of_step_denms hstep] at hdenm
  have hlast := (cached_at hbefore n).lastReceived_of_mem_denms hdenm
  have hprotos : (cachedMessages
      (ldmTrace config (denService uper_encode uper_decode) n before)).flatMap LdmMessage.denms =
        storedAt config (denService uper_encode uper_decode) n before :=
    protos_cached hbefore (denService_lawful hcodec) hrow
  rw [hprotos] at hlast
  exact ⟨hlast, exists_of_mem_stored hbefore (denService_lawful hcodec) hapart
    (of_lastReceived_eq_some hlast).1⟩

/-! ### A DENM without a position -/

/-- The packed encoding is such a coder. -/
theorem packed_denmCodec : DenmCodec encodeDenm decodeDenm where
  decode_encode := decodeDenm_of_encodeDenm
  length_le := by
    intro denm bytes h
    have hsize : (Packed.denm.size + 7) / 8 ≤ room .DENM := by decide
    exact (length_encodeDenm_le h).trans hsize

def firstDenm : StampedDENM := generateDenm 1 {} 101000000000

def firstBytes : List UInt8 :=
  [1, 1, 0, 0, 0, 1, 1, 0, 0, 0, 0, 128, 0, 128, 89, 8, 194, 11, 128, 22, 66, 48, 130, 230, 180,
    157, 32, 29, 105, 58, 64, 31, 255, 255, 254, 17, 219, 186, 31, 0, 30, 2, 128]

theorem encodeDenm_first : encodeDenm firstDenm = some firstBytes := by decide +kernel

def twoDenServices (second : Bool) : DenService where
  mStationID := if second then 2 else 1
  mLatestGps := {}

def firstProto : Buffers.DENM := (Denm.convertAsn1toProtoBuf firstDenm.toDENM).getD {}

abbrev packedDenService : Service Denm.Input DenService DENM Buffers.DENM :=
  denService encodeDenm decodeDenm

def denmTrace : List (ExchangeEvent Bool Unit Denm.Input DENM Buffers.DENM) :=
  ownTrace (.trigger 101000000000 102000000000) firstDenm.toDENM
    (dataPackage 102000000000 firstBytes) firstProto

def twoDenStations : Exchange Bool Unit DenService DENM Buffers.DENM :=
  denmStart Unit twoNodes (fun _ => staleCam) twoDenServices fun _ => LDM.new.tables

theorem denmTrace_run : ∃ x,
    Run (ExchangeStep exactSqlite twoNodes packedDenService) twoDenStations denmTrace x ∧
      (x.nodes false).ldm.locals .receiveRequest = .awaiting ∧
      (x.nodes false).ldm.shared.ldm.denmCache = LDM.new.denmCache.assign firstProto := by
  have hsend : (twoDenServices false).send encodeDenm 101000000000 102000000000 =
      some (firstDenm, dataPackage 102000000000 firstBytes) :=
    congrArg (Option.map fun bytes => (firstDenm, dataPackage 102000000000 bytes)) encodeDenm_first
  have hhandle : packedDenService.handle (.trigger 101000000000 102000000000)
      (twoDenServices false) = some (twoDenServices false,
        some (firstDenm.toDENM, dataPackage 102000000000 firstBytes)) :=
    congrArg (Option.map fun sent : StampedDENM × DATA =>
      (twoDenServices false, some (sent.1.toDENM, sent.2))) hsend
  have hconvert : packedDenService.convertAsn1toProtoBuf firstDenm.toDENM = some firstProto := rfl
  have hstore : ∀ tables, Interleaving.Step (LdmAct exactSqlite) (ldmStart tables)
      (.receiveFromDen, .access (.store (.denm firstProto))) _ :=
    fun tables => .move (.receive (.storeDenm _))
  obtain ⟨x, hrun, -, hldm, -⟩ := @ownTrace_run _ _ _ _ _ exactSqlite packedDenService
    twoDenServices (fun _ => LDM.new.tables) (.trigger 101000000000 102000000000)
    (twoDenServices false) firstDenm.toDENM (dataPackage 102000000000 firstBytes) firstProto
    hhandle hconvert _ (hstore _)
  refine ⟨x, hrun, ?_, ?_⟩
  · rw [hldm]
    rfl
  · rw [hldm]
    rfl

theorem denmTrace_apart : SendsApart (nodeTrace twoNodes packedDenService false denmTrace) :=
  ownTrace_apart _ _ _ _

theorem denm_exchange_first : ∃ x,
    Run (ExchangeStep exactSqlite twoNodes packedDenService) twoDenStations denmTrace x ∧
    storedAt twoNodes packedDenService false denmTrace = [firstProto] ∧
    .node false .crash ∉ denmTrace ∧
    (storedAt twoNodes packedDenService false denmTrace : Multiset Buffers.DENM) ≤
      (generatedAt twoNodes packedDenService false denmTrace + ∑ m ∈ heard twoNodes false,
        (generatedAt twoNodes packedDenService m denmTrace : Multiset DENM)).filterMap
          Denm.convertAsn1toProtoBuf := by
  obtain ⟨x, hrun, -⟩ := denmTrace_run
  obtain ⟨hcrash, hstored⟩ := denm_exchange packed_denmCodec hrun false
  exact ⟨x, hrun, rfl, hcrash, (hstored denmTrace_apart).1⟩

/-- The LDM of the node is asked for its DENMs. -/
def denmRequestedTrace : List (ExchangeEvent Bool Unit Denm.Input DENM Buffers.DENM) :=
  denmTrace ++ requestAt Denm.Input DENM Buffers.DENM false ("DENM", "latest")

def firstDenmReply : Buffers.LdmData Buffers.DENM := ⟨.DENM, [firstProto]⟩

theorem denmRequestedTrace_run : ∃ x,
    Run (ExchangeStep exactSqlite twoNodes packedDenService) twoDenStations
      (denmRequestedTrace ++ [.node false (.ldm .receiveRequest
        (.reply ("DENM", "latest") (.denms firstDenmReply)))]) x := by
  obtain ⟨x, hrun, hawaiting, hcache⟩ := denmTrace_run
  have hneed : (selectOf exactSqlite ("DENM", "latest")).need (x.nodes false).ldm.shared.ldm =
      false := by
    show (x.nodes false).ldm.shared.ldm.denmCache.isEmpty = false
    rw [hcache]
    exact Cache.isEmpty_assign _ _
  have hreply : (selectOf exactSqlite ("DENM", "latest")).reply []
      (x.nodes false).ldm.shared.ldm = .denms firstDenmReply := by
    show Reply.denms ⟨.DENM, (x.nodes false).ldm.shared.ldm.denmCache.messages⟩ = _
    rw [hcache]
    rfl
  obtain ⟨x', hanswer⟩ := answerAt_run hawaiting hneed
  rw [hreply] at hanswer
  rw [denmRequestedTrace, List.append_assoc]
  exact ⟨x', hrun.append hanswer⟩

theorem denmRequestedTrace_takesNoRow :
    TakesNoRow (ldmTrace twoNodes packedDenService false denmRequestedTrace) := by
  have htrace : ldmTrace twoNodes packedDenService false denmRequestedTrace =
      [(.receiveFromDen, .access (.store (.denm firstProto))),
        (.receiveRequest, .request ("DENM", "latest")), (.receiveRequest, .access .test)] := rfl
  rw [htrace]
  intro t message hmem
  simp at hmem

theorem denm_answer_first : ∃ x,
    Run (ExchangeStep exactSqlite twoNodes packedDenService) twoDenStations
      (denmRequestedTrace ++ [.node false (.ldm .receiveRequest
        (.reply ("DENM", "latest") (.denms firstDenmReply)))]) x ∧
    ∃ denm ∈ firstDenmReply.data,
      lastReceived Buffers.DENM.stationid
          (storedAt twoNodes packedDenService false denmRequestedTrace) denm.stationid =
            some denm ∧
        ∃ n', (n' = false ∨ n' ∈ heard twoNodes false) ∧
          denm.stationid = (twoDenServices n').mStationID.toUInt64 ∧
          ∃ generatedDenm ∈ generatedAt twoNodes packedDenService n' denmRequestedTrace,
            Denm.convertAsn1toProtoBuf generatedDenm = some denm := by
  obtain ⟨x, hrun⟩ := denmRequestedTrace_run
  have hdenm : firstProto ∈ firstDenmReply.data := List.mem_singleton_self _
  exact ⟨x, hrun, _, hdenm,
    denm_answer packed_denmCodec hrun denmTrace_apart denmRequestedTrace_takesNoRow hdenm⟩

end System

end OpenC2X
