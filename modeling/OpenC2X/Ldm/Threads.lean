import OpenC2X.Lib.Interleaving
import OpenC2X.Ldm.Server

/-!
# The threads of the LDM

Four threads receive messages.  Each puts its messages into a cache and into a table, and a fifth
thread answers the requests from the caches.  A select function that finds its cache empty fills
it from the rows of its table.

The mutexes are for the tables alone, so that the threads can access the caches in any order, and
a request can take an old row over a message that has come in the meantime.  A step is one access
to a cache or to a table here.

A thread that is not disturbed does what the functions of `Ldm.Service` and `Ldm.Server` say
(`alone_of_receiveRequest`).
-/

namespace OpenC2X.Ldm

open Buffers Interleaving

/-! ## Messages -/

inductive LdmMessage
  | cam (cam : CAM)
  | denm (denm : DENM)
  | dccInfo (dccInfo : DccInfo)
  | camInfo (camInfo : CamInfo)

namespace LdmMessage

def cams : LdmMessage → List CAM
  | .cam m => [m]
  | _ => []

def denms : LdmMessage → List DENM
  | .denm m => [m]
  | _ => []

def dccInfos : LdmMessage → List DccInfo
  | .dccInfo m => [m]
  | _ => []

def camInfos : LdmMessage → List CamInfo
  | .camInfo m => [m]
  | _ => []

end LdmMessage

/-- Puts a message into its cache. -/
def LDM.store (message : LdmMessage) (ldm : LDM) : LDM :=
  match message with
  | .cam cam => { ldm with camCache := ldm.camCache.assign cam }
  | .denm denm => { ldm with denmCache := ldm.denmCache.assign denm }
  | .dccInfo dccInfo => { ldm with dccInfoCache := ldm.dccInfoCache.assign dccInfo }
  | .camInfo camInfo => { ldm with camInfoCache := camInfo }

/-- The same, in the memory of the process. -/
def Server.store (message : LdmMessage) (s : Server) : Server :=
  { s with ldm := s.ldm.store message }

/-! ## Steps -/

inductive LdmEvent
  /-- A message that was received is put into its cache. -/
  | store (message : LdmMessage)
  /-- A message that was received is put into its table. -/
  | insert (message : LdmMessage)
  /-- `receiveCamInfo` makes its statement of what `camInfoCache` has. -/
  | print
  /-- A select function tests whether its cache is empty. -/
  | test
  | lock
  | query
  /-- It puts the message of a row into the cache. -/
  | fill (message : LdmMessage)
  | unlock
  deriving Inhabited

namespace LdmEvent

/-- The message that is put into a cache. -/
def cached : LdmEvent → List LdmMessage
  | .store message => [message]
  | .fill message => [message]
  | _ => []

/-- The message among these that was received. -/
def received : LdmEvent → List LdmMessage
  | .store message => [message]
  | _ => []

end LdmEvent

/-- Where a thread stands that receives messages of one kind. -/
inductive Receiver
  | receiveFromCa
  | insertCam (cam : CAM)
  | receiveFromDen
  | insertDenm (denm : DENM)
  | receiveDccInfo
  /-- The message is in the table already. -/
  | storeDccInfo (dccInfo : DccInfo)
  | receiveCamInfo
  | printCamInfo
  | insertCamInfo (camInfo : CamInfo)

section

variable (sqlite : Sqlite)

/-- The steps of the threads that receive. -/
inductive ReceiverAct : Actions Server Receiver LdmEvent
  | storeCam {s : Server} (cam : CAM) :
      ReceiverAct s .receiveFromCa (.store (.cam cam)) (s.store (.cam cam))
        (.insertCam cam)
  | insertCam {s : Server} {cam : CAM} (hfree : s.held .mCamMutex = false) :
      ReceiverAct s (.insertCam cam) (.insert (.cam cam))
        { s with ldm := s.ldm.withCamStore (insertCam cam s.ldm.camStore) } .receiveFromCa
  | storeDenm {s : Server} (denm : DENM) :
      ReceiverAct s .receiveFromDen (.store (.denm denm))
        (s.store (.denm denm)) (.insertDenm denm)
  | insertDenm {s : Server} {denm : DENM} (hfree : s.held .mDenmMutex = false) :
      ReceiverAct s (.insertDenm denm) (.insert (.denm denm))
        { s with ldm := s.ldm.withDenmStore (insertDenm denm s.ldm.denmStore) } .receiveFromDen
  | insertDccInfo {s : Server} (dccInfo : DccInfo) (hfree : s.held .mDccInfoMutex = false) :
      ReceiverAct s .receiveDccInfo (.insert (.dccInfo dccInfo))
        { s with
          ldm := { s.ldm with
            tables := sqlite.insertDccInfo (dccInfoValues dccInfo) s.ldm.tables } }
        (.storeDccInfo dccInfo)
  | storeDccInfo {s : Server} {dccInfo : DccInfo} :
      ReceiverAct s (.storeDccInfo dccInfo) (.store (.dccInfo dccInfo))
        (s.store (.dccInfo dccInfo)) .receiveDccInfo
  | storeCamInfo {s : Server} (camInfo : CamInfo) :
      ReceiverAct s .receiveCamInfo (.store (.camInfo camInfo))
        (s.store (.camInfo camInfo)) .printCamInfo
  | printCamInfo {s : Server} :
      ReceiverAct s .printCamInfo .print s (.insertCamInfo s.ldm.camInfoCache)
  | insertCamInfo {s : Server} {camInfo : CamInfo} (hfree : s.held .mCamInfoMutex = false) :
      ReceiverAct s (.insertCamInfo camInfo) (.insert (.camInfo camInfo))
        { s with
          ldm := { s.ldm with
            tables := sqlite.insertCamInfo (camInfoValues camInfo) s.ldm.tables } }
        .receiveCamInfo

/-! ## The select functions -/

/-- What the select functions differ in. -/
structure Select where
  mutex : Mutex
  /-- whether the table is needed -/
  need : LDM → Bool
  sql : String
  /-- the messages of the rows, for the cache -/
  messages : List (ℕ → SqlValue) → LDM → List (Option LdmMessage)
  reply : List (ℕ → SqlValue) → LDM → Reply

/-- The message of a row; `none` where a text is NULL. -/
def dccInfoMessage (row : Table.Row (DccInfoColumn → SqlValue)) : Option LdmMessage := do
  let _state ← sqlite.column_text (row.column DccInfoColumn.created 3)
  let _accesscategory ← sqlite.column_text (row.column DccInfoColumn.created 4)
  return .dccInfo (readDccInfo sqlite row)

def camInfoMessage (row : ℕ → SqlValue) : Option LdmMessage := do
  let triggerreason ← sqlite.column_text (row 2)
  return .camInfo
    { time := some (sqlite.column_int64 (row 1))
      triggerReason := some triggerreason
      delta := some (sqlite.column_double (row 3)) }

namespace Select

def camSelect : Select where
  mutex := .mCamMutex
  need ldm := ldm.camCache.isEmpty
  sql := camQuery
  messages _ ldm := (ldm.tables.cam.selfUnmatched (Store.laterOf .stationId)).map fun row =>
    some (.cam (readCam row).cam)
  reply _ ldm := .cams ⟨.CAM, ldm.camCache.messages⟩

def denmSelect : Select where
  mutex := .mDenmMutex
  need ldm := ldm.denmCache.isEmpty
  sql := denmQuery
  messages _ ldm := (ldm.tables.denm.selfUnmatched (Store.laterOf .stationId)).map fun row =>
    some (.denm (readDenm row))
  reply _ ldm := .denms ⟨.DENM, ldm.denmCache.messages⟩

def gpsSelect (condition : String) : Select where
  mutex := .mGpsMutex
  need _ := true
  sql := gpsQuery condition
  messages _ _ := []
  reply rows _ := .gpss ⟨.GPS, rows.map (readGps sqlite)⟩

def obd2Select (condition : String) : Select where
  mutex := .mObd2Mutex
  need _ := true
  sql := obd2Query condition
  messages _ _ := []
  reply rows _ := .obd2s ⟨.OBD2, rows.map (readObd2 sqlite)⟩

def dccInfoSelect : Select where
  mutex := .mDccInfoMutex
  need ldm := ldm.dccInfoCache.isEmpty
  sql := dccInfoQuery
  messages _ ldm := (dccInfoRows ldm).map (dccInfoMessage sqlite)
  reply _ ldm := .dccInfos ⟨.dccInfo, ldm.dccInfoCache.messages⟩

def camInfoSelect (condition : String) : Select where
  mutex := .mCamInfoMutex
  need ldm := ldm.camInfoCache.time.isNone
  sql := camInfoQuery condition
  messages rows _ := rows.map (camInfoMessage sqlite)
  reply _ ldm := .camInfos ⟨.camInfo, [ldm.camInfoCache]⟩

end Select

/-- What `receiveRequest` calls for an envelope.  Other requests are sent back. -/
def selectOf (received : String × String) : Select :=
  let envelope := received.1
  let request := received.2
  if envelope = "CAM" then .camSelect
  else if envelope = "DENM" then .denmSelect
  else if envelope = "GPS" then .gpsSelect sqlite request
  else if envelope = "OBD2" then .obd2Select sqlite request
  else if envelope = "dccInfo" then .dccInfoSelect sqlite
  else if envelope = "camInfo" then .camInfoSelect sqlite request
  else
    { mutex := .mGpsMutex
      need := fun _ => false
      sql := ""
      messages := fun _ _ => []
      reply := fun _ _ => .request request }

/-- Where a select function stands. -/
inductive Task
  | test
  | lock
  | query
  /-- The messages of the rows that are left, and all rows. -/
  | fill (messages : List (Option LdmMessage)) (rows : List (ℕ → SqlValue))
  /-- The reply is next. -/
  | reply (rows : List (ℕ → SqlValue))

/-- The steps of a select function up to the reply.  A query without end has no step. -/
inductive SelectAct (select : Select) : Actions Server Task LdmEvent
  | test {s : Server} :
      SelectAct select s .test .test s (if select.need s.ldm then .lock else .reply [])
  | lock {s : Server} (hfree : s.held select.mutex = false) :
      SelectAct select s .lock .lock
        { s with held := Function.update s.held select.mutex true } .query
  | query {s : Server} {rows : List (ℕ → SqlValue)}
      (hrows : sqlite.prepare select.sql s.ldm.tables = .rows rows) :
      SelectAct select s .query .query s (.fill (select.messages rows s.ldm) rows)
  | fill {s : Server} {message : LdmMessage} {messages : List (Option LdmMessage)}
      {rows : List (ℕ → SqlValue)} :
      SelectAct select s (.fill (some message :: messages) rows) (.fill message)
        (s.store message) (.fill messages rows)
  | unlock {s : Server} {rows : List (ℕ → SqlValue)} :
      SelectAct select s (.fill [] rows) .unlock (s.unlock select.mutex) (.reply rows)

/-- An exception ends the process: the statement is rejected, or a text is NULL. -/
inductive Throws (select : Select) : Server → Task → Prop
  | rejected {s : Server} (hrejected : sqlite.prepare select.sql s.ldm.tables = .rejected) :
      Throws select s .query
  | null {s : Server} {messages : List (Option LdmMessage)} {rows : List (ℕ → SqlValue)} :
      Throws select s (.fill (none :: messages) rows)

end

/-! ## Threads that are not disturbed -/

/-- One iteration of the thread that receives this kind of messages. -/
def receiveMessage (sqlite : Sqlite) (message : LdmMessage) (ldm : LDM) : LDM :=
  match message with
  | .cam cam => ldm.withCamStore (receiveFromCa cam ldm.camStore)
  | .denm denm => ldm.withDenmStore (receiveFromDen denm ldm.denmStore)
  | .dccInfo dccInfo => receiveDccInfo sqlite dccInfo ldm
  | .camInfo camInfo => receiveCamInfo sqlite camInfo ldm

/-- The thread that receives this kind of messages. -/
def LdmMessage.receiver : LdmMessage → Receiver
  | .cam _ => .receiveFromCa
  | .denm _ => .receiveFromDen
  | .dccInfo _ => .receiveDccInfo
  | .camInfo _ => .receiveCamInfo

section

variable {sqlite : Sqlite} {s s' : Server}

theorem alone_receiveMessage (hfree : s.Free) (message : LdmMessage) :
    Alone (ReceiverAct sqlite) (s, message.receiver)
      ({ s with ldm := receiveMessage sqlite message s.ldm }, message.receiver) := by
  cases message with
  | cam cam =>
      have hinsert : ReceiverAct sqlite (s.store (.cam cam)) (.insertCam cam)
        (.insert (.cam cam)) _ _ := .insertCam (hfree _)
      exact (Alone.step (.storeCam cam)).trans (.step hinsert)
  | denm denm =>
      have hinsert : ReceiverAct sqlite (s.store (.denm denm)) (.insertDenm denm)
        (.insert (.denm denm)) _ _ := .insertDenm (hfree _)
      exact (Alone.step (.storeDenm denm)).trans (.step hinsert)
  | dccInfo dccInfo =>
      exact (Alone.step (.insertDccInfo dccInfo (hfree _))).trans (.step .storeDccInfo)
  | camInfo camInfo =>
      have hinsert : ReceiverAct sqlite (s.store (.camInfo camInfo)) (.insertCamInfo camInfo)
        (.insert (.camInfo camInfo)) _ _ := .insertCamInfo (hfree _)
      exact ((Alone.step (.storeCamInfo camInfo)).trans (.step .printCamInfo)).trans (.step hinsert)

/-- Puts messages into their caches. -/
def LDM.storeAll (messages : List LdmMessage) (ldm : LDM) : LDM :=
  messages.foldl (fun ldm message => ldm.store message) ldm

theorem storeAll_cams {α : Type} (read : α → CAM) (rows : List α) (ldm : LDM) :
    ldm.storeAll (rows.map fun row => .cam (read row)) =
      { ldm with camCache := ldm.camCache.assignAll (rows.map read) } := by
  induction rows generalizing ldm with
  | nil => rfl
  | cons row rows ih => exact ih _

theorem storeAll_denms {α : Type} (read : α → DENM) (rows : List α) (ldm : LDM) :
    ldm.storeAll (rows.map fun row => .denm (read row)) =
      { ldm with denmCache := ldm.denmCache.assignAll (rows.map read) } := by
  induction rows generalizing ldm with
  | nil => rfl
  | cons row rows ih => exact ih _

/-- A loop over rows that ends without an exception, when each iteration stores a message. -/
theorem exists_storeAll_of_foldlM {α : Type} {f : LDM → α → Except Failure LDM}
    {message : α → Option LdmMessage} {rows : List α} {ldm ldm' : LDM}
    (hf : ∀ {ldm row ldm'}, f ldm row = .ok ldm' →
      ∃ m, message row = some m ∧ ldm' = ldm.store m)
    (h : rows.foldlM f ldm = .ok ldm') :
    ∃ messages, rows.map message = messages.map some ∧ ldm' = ldm.storeAll messages := by
  induction rows generalizing ldm with
  | nil =>
      cases h
      exact ⟨[], rfl, rfl⟩
  | cons row rows ih =>
      rw [List.foldlM_cons] at h
      obtain ⟨mid, hmid, hrest⟩ := bind_eq_ok.mp h
      obtain ⟨m, hm, rfl⟩ := hf hmid
      obtain ⟨messages, hmessages, rfl⟩ := ih hrest
      refine ⟨m :: messages, ?_, rfl⟩
      rw [List.map_cons, List.map_cons, hm, hmessages]

theorem stdString_eq_ok {pointer : Option String} {text : String}
    (h : stdString pointer = .ok text) : pointer = some text := by
  cases pointer with
  | none => cases h
  | some text' => exact congrArg some (Except.ok.inj h)

theorem fillDccInfo_eq_ok {ldm ldm' : LDM} {row : Table.Row (DccInfoColumn → SqlValue)}
    (h : fillDccInfo sqlite ldm row = .ok ldm') :
    ∃ m, dccInfoMessage sqlite row = some m ∧ ldm' = ldm.store m := by
  obtain ⟨state, hstate, hrest⟩ := bind_eq_ok.mp h
  obtain ⟨accesscategory, haccesscategory, hpure⟩ := bind_eq_ok.mp hrest
  cases hpure
  refine ⟨.dccInfo (readDccInfo sqlite row), ?_, rfl⟩
  rw [dccInfoMessage, stdString_eq_ok hstate, stdString_eq_ok haccesscategory]
  rfl

theorem fillCamInfo_eq_ok {ldm ldm' : LDM} {row : ℕ → SqlValue}
    (h : fillCamInfo sqlite ldm row = .ok ldm') :
    ∃ m, camInfoMessage sqlite row = some m ∧ ldm' = ldm.store m := by
  obtain ⟨triggerreason, htriggerreason, hpure⟩ := bind_eq_ok.mp h
  cases hpure
  refine ⟨.camInfo _, ?_, rfl⟩
  rw [camInfoMessage, stdString_eq_ok htriggerreason]
  rfl

variable {select : Select}

theorem alone_fill (messages : List LdmMessage) (rows : List (ℕ → SqlValue)) (s : Server) :
    Alone (SelectAct sqlite select) (s, .fill (messages.map some) rows)
      ({ s with ldm := s.ldm.storeAll messages }, .fill [] rows) := by
  induction messages generalizing s with
  | nil => exact .refl
  | cons message messages ih => exact (Alone.step .fill).trans (ih _)

/-- A query that ends without an exception. -/
theorem alone_of_query {α : Type} {body : List (ℕ → SqlValue) → LDM → Except Failure (α × LDM)}
    {noRows a : α} (hfree : s.Free) (hneed : select.need s.ldm = true)
    (hbody : ∀ {rows a ldm'}, body rows s.ldm = .ok (a, ldm') → ∃ messages,
      select.messages rows s.ldm = messages.map some ∧ ldm' = s.ldm.storeAll messages)
    (h : query sqlite select.mutex select.sql body noRows s = .ok (a, s')) :
    ∃ rows, Alone (SelectAct sqlite select) (s, .test) (s', .reply rows) ∧
      body rows s.ldm = .ok (a, s'.ldm) := by
  rw [query_eq (hfree _)] at h
  split at h
  next rows hrows =>
    obtain ⟨⟨a', ldm'⟩, hresult, hpure⟩ := bind_eq_ok.mp h
    cases hpure
    obtain ⟨messages, hmessages, rfl⟩ := hbody hresult
    refine ⟨rows, ?_, hresult⟩
    have htest : Alone (SelectAct sqlite select) (s, .test) (s, .lock) := by
      have hstep := Alone.step (@SelectAct.test sqlite select s)
      rwa [hneed] at hstep
    have hlock := htest.trans (.step (.lock (hfree _)))
    have hquery := hlock.trans (.step (.query hrows))
    rw [hmessages] at hquery
    have hunlock := (hquery.trans (alone_fill messages rows _)).trans (.step .unlock)
    -- the mutex is free again
    have hheld : Function.update (Function.update s.held select.mutex true) select.mutex false =
        s.held := by
      rw [Function.update_idem, ← hfree select.mutex, Function.update_eq_self]
    rw [Server.unlock, hheld] at hunlock
    exact hunlock
  next => cases h
  next => cases h

/-- A select function that fills its cache if this is empty. -/
theorem alone_of_queryIf {body : List (ℕ → SqlValue) → LDM → Except Failure (Unit × LDM)} {u : Unit}
    (hfree : s.Free)
    (hbody : ∀ {rows u ldm'}, body rows s.ldm = .ok (u, ldm') → ∃ messages,
      select.messages rows s.ldm = messages.map some ∧ ldm' = s.ldm.storeAll messages)
    (h : queryIf (select.need s.ldm) sqlite select.mutex select.sql body s = .ok (u, s')) :
    ∃ rows, Alone (SelectAct sqlite select) (s, .test) (s', .reply rows) := by
  unfold queryIf at h
  split at h
  next hneed =>
    obtain ⟨rows, halone, -⟩ := alone_of_query hfree hneed hbody h
    exact ⟨rows, halone⟩
  next hneed =>
    cases h
    have hstep := Alone.step (@SelectAct.test sqlite select s)
    rw [if_neg hneed] at hstep
    exact ⟨[], hstep⟩

/-- The steps of a select function that is not disturbed lead to this reply. -/
def AnswersAlone (sqlite : Sqlite) (select : Select) (s s' : Server) (reply : Reply) : Prop :=
  ∃ rows, Alone (SelectAct sqlite select) (s, .test) (s', .reply rows) ∧
    select.reply rows s'.ldm = reply

theorem alone_camSelect {condition : String} {cams : LdmData CAM} (hfree : s.Free)
    (h : s.camSelect sqlite condition = .ok (cams, s')) :
    AnswersAlone sqlite .camSelect s s' (.cams cams) := by
  obtain ⟨⟨u, s₁⟩, hquery, hpure⟩ := bind_eq_ok.mp h
  cases hpure
  obtain ⟨rows, halone⟩ := @alone_of_queryIf sqlite _ _ .camSelect _ _ hfree (fun hbody => by
    cases hbody
    refine ⟨(s.ldm.tables.cam.selfUnmatched (Store.laterOf .stationId)).map
      fun row => .cam (readCam row).cam, (List.map_map ..).symm, ?_⟩
    rw [storeAll_cams fun row => (readCam row).cam]
    rfl) hquery
  exact ⟨rows, halone, rfl⟩

theorem alone_denmSelect {condition : String} {denms : LdmData DENM} (hfree : s.Free)
    (h : s.denmSelect sqlite condition = .ok (denms, s')) :
    AnswersAlone sqlite .denmSelect s s' (.denms denms) := by
  obtain ⟨⟨u, s₁⟩, hquery, hpure⟩ := bind_eq_ok.mp h
  cases hpure
  obtain ⟨rows, halone⟩ := @alone_of_queryIf sqlite _ _ .denmSelect _ _ hfree (fun hbody => by
    cases hbody
    refine ⟨(s.ldm.tables.denm.selfUnmatched (Store.laterOf .stationId)).map
      fun row => .denm (readDenm row), (List.map_map ..).symm, ?_⟩
    rw [storeAll_denms readDenm]
    rfl) hquery
  exact ⟨rows, halone, rfl⟩

theorem alone_gpsSelect {condition : String} {gpss : LdmData GPS} (hfree : s.Free)
    (h : s.gpsSelect sqlite condition = .ok (gpss, s')) :
    AnswersAlone sqlite (.gpsSelect sqlite condition) s s' (.gpss gpss) := by
  obtain ⟨⟨data, s₁⟩, hquery, hpure⟩ := bind_eq_ok.mp h
  cases hpure
  obtain ⟨rows, halone, hrows⟩ := @alone_of_query sqlite _ _ (.gpsSelect sqlite condition)
    _ _ _ _ hfree rfl (fun hbody => by
      cases hbody
      exact ⟨[], rfl, rfl⟩) hquery
  obtain rfl := congrArg Prod.fst (Except.ok.inj hrows)
  exact ⟨rows, halone, rfl⟩

theorem alone_obd2Select {condition : String} {obd2s : LdmData OBD2} (hfree : s.Free)
    (h : s.obd2Select sqlite condition = .ok (obd2s, s')) :
    AnswersAlone sqlite (.obd2Select sqlite condition) s s' (.obd2s obd2s) := by
  obtain ⟨⟨data, s₁⟩, hquery, hpure⟩ := bind_eq_ok.mp h
  cases hpure
  obtain ⟨rows, halone, hrows⟩ := @alone_of_query sqlite _ _ (.obd2Select sqlite condition)
    _ _ _ _ hfree rfl (fun hbody => by
      cases hbody
      exact ⟨[], rfl, rfl⟩) hquery
  obtain rfl := congrArg Prod.fst (Except.ok.inj hrows)
  exact ⟨rows, halone, rfl⟩

theorem alone_dccInfoSelect {condition : String} {dccInfos : LdmData DccInfo} (hfree : s.Free)
    (h : s.dccInfoSelect sqlite condition = .ok (dccInfos, s')) :
    AnswersAlone sqlite (.dccInfoSelect sqlite) s s' (.dccInfos dccInfos) := by
  obtain ⟨⟨u, s₁⟩, hquery, hpure⟩ := bind_eq_ok.mp h
  cases hpure
  obtain ⟨rows, halone⟩ := @alone_of_queryIf sqlite _ _ (.dccInfoSelect sqlite) _ _ hfree
    (fun hbody => by
      obtain ⟨ldm, hloop, hpure⟩ := bind_eq_ok.mp hbody
      cases hpure
      exact exists_storeAll_of_foldlM fillDccInfo_eq_ok hloop) hquery
  exact ⟨rows, halone, rfl⟩

theorem alone_camInfoSelect {condition : String} {camInfos : LdmData CamInfo} (hfree : s.Free)
    (h : s.camInfoSelect sqlite condition = .ok (camInfos, s')) :
    AnswersAlone sqlite (.camInfoSelect sqlite condition) s s' (.camInfos camInfos) := by
  obtain ⟨⟨u, s₁⟩, hquery, hpure⟩ := bind_eq_ok.mp h
  cases hpure
  obtain ⟨rows, halone⟩ := @alone_of_queryIf sqlite _ _ (.camInfoSelect sqlite condition) _ _
    hfree
    (fun hbody => by
      obtain ⟨ldm, hloop, hpure⟩ := bind_eq_ok.mp hbody
      cases hpure
      exact exists_storeAll_of_foldlM fillCamInfo_eq_ok hloop) hquery
  exact ⟨rows, halone, rfl⟩

/-- A request that is not disturbed is answered as `receiveRequest` says. -/
theorem alone_of_receiveRequest {received : String × String} {reply : Reply} (hfree : s.Free)
    (h : receiveRequest sqlite received s = .ok (reply, s')) :
    AnswersAlone sqlite (selectOf sqlite received) s s' reply := by
  unfold receiveRequest at h
  unfold selectOf
  dsimp only at h ⊢
  split_ifs at h ⊢
  · obtain ⟨⟨cams, s₁⟩, hselect, hpure⟩ := bind_eq_ok.mp h
    cases hpure
    exact alone_camSelect hfree hselect
  · obtain ⟨⟨denms, s₁⟩, hselect, hpure⟩ := bind_eq_ok.mp h
    cases hpure
    exact alone_denmSelect hfree hselect
  · obtain ⟨⟨gpss, s₁⟩, hselect, hpure⟩ := bind_eq_ok.mp h
    cases hpure
    exact alone_gpsSelect hfree hselect
  · obtain ⟨⟨obd2s, s₁⟩, hselect, hpure⟩ := bind_eq_ok.mp h
    cases hpure
    exact alone_obd2Select hfree hselect
  · obtain ⟨⟨dccInfos, s₁⟩, hselect, hpure⟩ := bind_eq_ok.mp h
    cases hpure
    exact alone_dccInfoSelect hfree hselect
  · obtain ⟨⟨camInfos, s₁⟩, hselect, hpure⟩ := bind_eq_ok.mp h
    cases hpure
    exact alone_camInfoSelect hfree hselect
  · -- the request is sent back
    cases h
    exact ⟨[], Alone.step .test, rfl⟩

end

end OpenC2X.Ldm
