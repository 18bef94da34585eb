import OpenC2X.Lib.PartialRun
import OpenC2X.Ldm.Service

/-!
# The server of the LDM

One thread answers requests.  Every request for GPS or OBD2 data becomes a query with the
condition that the client sends; the others need a query only while their cache is empty.
If SQLite does not accept a statement, the select functions mean to log the message, but
`sqlite3_prepare_v2` does not write one to `errmsg`, and making a string of the null pointer
throws an exception.  Nothing catches it: the process ends, with the mutex locked.

A condition may also make a recursive query of a statement, whose rows come to no end.  Then the
server collects rows, with the mutex locked, and never replies.
-/

namespace OpenC2X.Ldm

open Buffers PartialRun

/-! ## Mutexes and strings -/

inductive Mutex
  | mGpsMutex
  | mObd2Mutex
  | mCamMutex
  | mDenmMutex
  | mDccInfoMutex
  | mCamInfoMutex
  deriving DecidableEq

/-- The LDM and the mutexes that the server holds. -/
structure Server where
  ldm : LDM
  held : Mutex → Bool

/-- What keeps the thread from sending a reply, now and later. -/
inductive Failure
  | exception
  | deadlock
  | nontermination

namespace Server

/-- The server as it waits for its first request. -/
def start (ldm : LDM) : Server where
  ldm := ldm
  held _ := false

/-- No mutex is held. -/
def Free (s : Server) : Prop := ∀ mutex, s.held mutex = false

def lock (mutex : Mutex) (s : Server) : Except Failure Server :=
  if s.held mutex then .error .deadlock
  else .ok { s with held := Function.update s.held mutex true }

def unlock (mutex : Mutex) (s : Server) : Server :=
  { s with held := Function.update s.held mutex false }

end Server

/-- `std::string(pointer)`, which throws for a null pointer. -/
def stdString : Option String → Except Failure String
  | some s => .ok s
  | none => .error .exception

/-! ## Queries -/

/-- The part that all select functions share: under the mutex, `body` reads the rows of the
statement.  If it is not accepted, `errmsg` still is the null pointer. -/
def query {α : Type} (sqlite : Sqlite) (mutex : Mutex) (sql : String)
    (body : List (ℕ → SqlValue) → LDM → Except Failure (α × LDM)) (noRows : α) (s : Server) :
    Except Failure (α × Server) := do
  let errmsg : Option String := none
  let s ← s.lock mutex
  let (a, ldm) ←
    match sqlite.prepare sql s.ldm.tables with
    | .rows rows => body rows s.ldm
    | .endless => .error .nontermination
    | .rejected => do
        let _error ← stdString errmsg
        pure (noRows, s.ldm)
  pure (a, Server.unlock mutex { s with ldm := ldm })

/-- A query that fills a cache, if there is need of it. -/
def queryIf (need : Bool) (sqlite : Sqlite) (mutex : Mutex) (sql : String)
    (body : List (ℕ → SqlValue) → LDM → Except Failure (Unit × LDM)) (s : Server) :
    Except Failure (Unit × Server) :=
  if need then query sqlite mutex sql body () s else .ok ((), s)

section

variable (sqlite : Sqlite)

def readGps (row : ℕ → SqlValue) : GPS where
  latitude := some (sqlite.column_double (row 1))
  longitude := some (sqlite.column_double (row 2))
  altitude := some (sqlite.column_double (row 3))
  epx := some (sqlite.column_double (row 4))
  epy := some (sqlite.column_double (row 5))
  time := some (sqlite.column_int64 (row 6))
  online := some (sqlite.column_int64 (row 7))
  satellites := some (sqlite.column_int (row 8))

def readObd2 (row : ℕ → SqlValue) : OBD2 where
  time := some (sqlite.column_int64 (row 1))
  speed := some (sqlite.column_double (row 2))
  rpm := some (sqlite.column_int (row 3))

def gpsQuery (condition : String) : String := "SELECT * from GPS " ++ condition

def obd2Query (condition : String) : String := "SELECT * from OBD2 " ++ condition

def camInfoQuery (condition : String) : String := "SELECT * from CamInfo " ++ condition

def camQuery : String :=
  "SELECT cam1.* from CAM cam1 LEFT JOIN CAM cam2 ON (cam1.stationId = cam2.stationId AND " ++
  "cam1.key < cam2.key) WHERE cam2.key IS NULL"

def denmQuery : String :=
  "SELECT denm1.* from DENM denm1 LEFT JOIN DENM denm2 ON (denm1.stationId = " ++
  "denm2.stationId AND denm1.key < denm2.key) WHERE denm2.key IS NULL"

def dccInfoQuery : String :=
  "SELECT dccInfo1.* from DccInfo dccInfo1 LEFT JOIN DccInfo dccInfo2 ON (dccInfo1.AC = " ++
  "dccInfo2.AC AND dccInfo1.time < dccInfo2.time) WHERE dccInfo2.time IS NULL"

/-- Fills `camCache` from the rows that its query selects. -/
def fillCamCache (ldm : LDM) : LDM :=
  ldm.withCamStore (ldm.camStore.fill (Store.laterOf .stationId) fun row => (readCam row).cam)

def fillDenmCache (ldm : LDM) : LDM :=
  ldm.withDenmStore (ldm.denmStore.fill (Store.laterOf .stationId) readDenm)

/-- The rows that the query of `dccInfoSelect` selects. -/
def dccInfoRows (ldm : LDM) : List (Table.Row (DccInfoColumn → SqlValue)) :=
  ldm.tables.dccInfo.selfUnmatched laterDccInfo

/-- Stores the message of one row in `dccInfoCache`. -/
def fillDccInfo (ldm : LDM) (row : Table.Row (DccInfoColumn → SqlValue)) :
    Except Failure LDM := do
  let _state ← stdString (sqlite.column_text (row.column DccInfoColumn.created 3))
  let _accesscategory ← stdString (sqlite.column_text (row.column DccInfoColumn.created 4))
  pure { ldm with dccInfoCache := ldm.dccInfoCache.assign (readDccInfo sqlite row) }

/-- Sets `camInfoCache` from one row. -/
def fillCamInfo (ldm : LDM) (row : ℕ → SqlValue) : Except Failure LDM := do
  let triggerreason ← stdString (sqlite.column_text (row 2))
  pure { ldm with
    camInfoCache :=
      { time := some (sqlite.column_int64 (row 1))
        triggerReason := some triggerreason
        delta := some (sqlite.column_double (row 3)) } }

/-! ## The select functions -/

namespace Server

def gpsSelect (condition : String) (s : Server) : Except Failure (LdmData GPS × Server) := do
  let (data, s) ← query sqlite .mGpsMutex (gpsQuery condition)
    (fun rows ldm => .ok (rows.map (readGps sqlite), ldm)) [] s
  pure (⟨.GPS, data⟩, s)

def obd2Select (condition : String) (s : Server) : Except Failure (LdmData OBD2 × Server) := do
  let (data, s) ← query sqlite .mObd2Mutex (obd2Query condition)
    (fun rows ldm => .ok (rows.map (readObd2 sqlite), ldm)) [] s
  pure (⟨.OBD2, data⟩, s)

def camSelect (_condition : String) (s : Server) : Except Failure (LdmData CAM × Server) := do
  let ((), s) ← queryIf s.ldm.camCache.isEmpty sqlite .mCamMutex camQuery
    (fun _ ldm => .ok ((), fillCamCache ldm)) s
  pure (⟨.CAM, s.ldm.camCache.messages⟩, s)

def denmSelect (_condition : String) (s : Server) : Except Failure (LdmData DENM × Server) := do
  let ((), s) ← queryIf s.ldm.denmCache.isEmpty sqlite .mDenmMutex denmQuery
    (fun _ ldm => .ok ((), fillDenmCache ldm)) s
  pure (⟨.DENM, s.ldm.denmCache.messages⟩, s)

def dccInfoSelect (_condition : String) (s : Server) :
    Except Failure (LdmData DccInfo × Server) := do
  let ((), s) ← queryIf s.ldm.dccInfoCache.isEmpty sqlite .mDccInfoMutex dccInfoQuery
    (fun _ ldm => do
      let ldm ← (dccInfoRows ldm).foldlM (fillDccInfo sqlite) ldm
      pure ((), ldm)) s
  pure (⟨.dccInfo, s.ldm.dccInfoCache.messages⟩, s)

def camInfoSelect (condition : String) (s : Server) :
    Except Failure (LdmData CamInfo × Server) := do
  let ((), s) ← queryIf s.ldm.camInfoCache.time.isNone sqlite .mCamInfoMutex
    (camInfoQuery condition)
    (fun rows ldm => do
      let ldm ← rows.foldlM (fillCamInfo sqlite) ldm
      pure ((), ldm)) s
  pure (⟨.camInfo, [s.ldm.camInfoCache]⟩, s)

end Server

/-- The reply to a request, before it is serialized. -/
inductive Reply
  | cams (data : LdmData CAM)
  | denms (data : LdmData DENM)
  | gpss (data : LdmData GPS)
  | obd2s (data : LdmData OBD2)
  | dccInfos (data : LdmData DccInfo)
  | camInfos (data : LdmData CamInfo)
  | request (request : String)

/-- One iteration of `receiveRequest`, for an envelope and a condition. -/
def receiveRequest (received : String × String) (s : Server) :
    Except Failure (Reply × Server) :=
  let envelope := received.1
  let request := received.2
  if envelope = "CAM" then do
    let (cams, s) ← s.camSelect sqlite request
    pure (.cams cams, s)
  else if envelope = "DENM" then do
    let (denms, s) ← s.denmSelect sqlite request
    pure (.denms denms, s)
  else if envelope = "GPS" then do
    let (gpss, s) ← s.gpsSelect sqlite request
    pure (.gpss gpss, s)
  else if envelope = "OBD2" then do
    let (obd2s, s) ← s.obd2Select sqlite request
    pure (.obd2s obd2s, s)
  else if envelope = "dccInfo" then do
    let (dccInfos, s) ← s.dccInfoSelect sqlite request
    pure (.dccInfos dccInfos, s)
  else if envelope = "camInfo" then do
    let (camInfos, s) ← s.camInfoSelect sqlite request
    pure (.camInfos camInfos, s)
  else
    .ok (.request request, s)

end

/-! ## When a request is answered -/

section

variable {ε α β : Type}

theorem bind_eq_ok {x : Except ε α} {f : α → Except ε β} {b : β} :
    (x >>= f) = .ok b ↔ ∃ a, x = .ok a ∧ f a = .ok b := by
  cases x with
  | error e =>
      constructor
      · intro h
        cases h
      · rintro ⟨a, h, -⟩
        cases h
  | ok a =>
      constructor
      · intro h
        exact ⟨a, rfl, h⟩
      · rintro ⟨a', h, hf⟩
        cases h
        exact hf

/-- A computation whose last part cannot fail. -/
theorem exists_bind_pure {x : Except ε α} {f : α → β} :
    (∃ b, (x >>= fun a => pure (f a)) = .ok b) ↔ ∃ a, x = .ok a := by
  constructor
  · rintro ⟨b, h⟩
    obtain ⟨a, ha, -⟩ := bind_eq_ok.mp h
    exact ⟨a, ha⟩
  · rintro ⟨a, ha⟩
    exact ⟨f a, bind_eq_ok.mpr ⟨a, ha, rfl⟩⟩

/-- A loop succeeds if every element lets its iteration succeed. -/
theorem exists_foldlM_iff {f : β → α → Except ε β} {good : α → Prop}
    (hf : ∀ b a, (∃ b', f b a = .ok b') ↔ good a) (l : List α) (b : β) :
    (∃ b', l.foldlM f b = .ok b') ↔ ∀ a ∈ l, good a := by
  induction l generalizing b with
  | nil =>
      constructor
      · intro _ a ha
        cases ha
      · intro _
        exact ⟨b, rfl⟩
  | cons a l ih =>
      rw [List.foldlM_cons, List.forall_mem_cons]
      constructor
      · rintro ⟨b', h⟩
        obtain ⟨mid, hmid, hrest⟩ := bind_eq_ok.mp h
        exact ⟨(hf b a).mp ⟨mid, hmid⟩, (ih mid).mp ⟨b', hrest⟩⟩
      · rintro ⟨ha, hl⟩
        obtain ⟨mid, hmid⟩ := (hf b a).mpr ha
        obtain ⟨b', hrest⟩ := (ih mid).mpr hl
        exact ⟨b', bind_eq_ok.mpr ⟨mid, hmid, hrest⟩⟩

end

theorem exists_stdString_iff (pointer : Option String) :
    (∃ s, stdString pointer = .ok s) ↔ pointer ≠ none := by
  cases pointer with
  | none => simp [stdString]
  | some s => simp [stdString]

section

variable {α : Type} {sqlite : Sqlite} {mutex : Mutex} {sql : String} {noRows : α} {s s' : Server}
  {body : List (ℕ → SqlValue) → LDM → Except Failure (α × LDM)}

/-- A query with a free mutex: the mutex is free afterwards, and a statement that is not
accepted, or has no end, is the end of the thread. -/
theorem query_eq (hfree : s.held mutex = false) :
    query sqlite mutex sql body noRows s =
      match sqlite.prepare sql s.ldm.tables with
      | .rows rows =>
          body rows s.ldm >>= fun result => pure (result.1, { s with ldm := result.2 })
      | .endless => .error .nontermination
      | .rejected => .error .exception := by
  have hheld : Function.update (Function.update s.held mutex true) mutex false = s.held := by
    rw [Function.update_idem, ← hfree, Function.update_eq_self]
  unfold query Server.lock Server.unlock
  rw [hfree]
  cases hprepare : sqlite.prepare sql s.ldm.tables with
  | rejected =>
      simp only [Bool.false_eq_true, ↓reduceIte, bind, Except.bind, hprepare]
      rfl
  | endless => simp only [Bool.false_eq_true, ↓reduceIte, bind, Except.bind, hprepare]
  | rows rows =>
      simp only [Bool.false_eq_true, ↓reduceIte, bind, Except.bind, hprepare, hheld]

theorem exists_query_iff (hfree : s.held mutex = false) :
    (∃ result, query sqlite mutex sql body noRows s = .ok result) ↔
      ∃ rows, sqlite.prepare sql s.ldm.tables = .rows rows ∧
        ∃ result, body rows s.ldm = .ok result := by
  rw [query_eq hfree]
  cases sqlite.prepare sql s.ldm.tables with
  | rejected | endless =>
      constructor
      · rintro ⟨result, h⟩
        cases h
      · rintro ⟨rows, h, -⟩
        cases h
  | rows rows =>
      refine exists_bind_pure.trans ?_
      constructor
      · intro hbody
        exact ⟨rows, rfl, hbody⟩
      · rintro ⟨rows', hrows, hbody⟩
        cases hrows
        exact hbody

theorem held_query {a : α} (hfree : s.held mutex = false)
    (h : query sqlite mutex sql body noRows s = .ok (a, s')) : s'.held = s.held := by
  rw [query_eq hfree] at h
  cases hprepare : sqlite.prepare sql s.ldm.tables with
  | rejected | endless =>
      rw [hprepare] at h
      cases h
  | rows rows =>
      rw [hprepare] at h
      obtain ⟨result, -, hresult⟩ := bind_eq_ok.mp h
      cases hresult
      rfl

end

/-- The texts of a row of the table DccInfo are not NULL. -/
def DccInfoTexts (sqlite : Sqlite) (row : Table.Row (DccInfoColumn → SqlValue)) : Prop :=
  sqlite.column_text (row.column DccInfoColumn.created 3) ≠ none ∧
    sqlite.column_text (row.column DccInfoColumn.created 4) ≠ none

/-- SQLite accepts the statement of a request, if there is one, comes to the end of its rows, and
gives texts where texts are read. -/
def Answerable (sqlite : Sqlite) (ldm : LDM) (received : String × String) : Prop :=
  if received.1 = "CAM" then
    ldm.camCache.isEmpty = true → ∃ rows, sqlite.prepare camQuery ldm.tables = .rows rows
  else if received.1 = "DENM" then
    ldm.denmCache.isEmpty = true → ∃ rows, sqlite.prepare denmQuery ldm.tables = .rows rows
  else if received.1 = "GPS" then
    ∃ rows, sqlite.prepare (gpsQuery received.2) ldm.tables = .rows rows
  else if received.1 = "OBD2" then
    ∃ rows, sqlite.prepare (obd2Query received.2) ldm.tables = .rows rows
  else if received.1 = "dccInfo" then
    ldm.dccInfoCache.isEmpty = true →
      ∃ rows, sqlite.prepare dccInfoQuery ldm.tables = .rows rows ∧
        ∀ row ∈ dccInfoRows ldm, DccInfoTexts sqlite row
  else if received.1 = "camInfo" then
    ldm.camInfoCache.time = none →
      ∃ rows, sqlite.prepare (camInfoQuery received.2) ldm.tables = .rows rows ∧
        ∀ row ∈ rows, sqlite.column_text (row 2) ≠ none
  else
    True

section

variable {sqlite : Sqlite} {s s' : Server}

theorem exists_queryIf_iff {need : Bool} {mutex : Mutex} {sql : String}
    {body : List (ℕ → SqlValue) → LDM → Except Failure (Unit × LDM)} (hfree : s.Free) :
    (∃ result, queryIf need sqlite mutex sql body s = .ok result) ↔
      (need = true → ∃ rows, sqlite.prepare sql s.ldm.tables = .rows rows ∧
        ∃ result, body rows s.ldm = .ok result) := by
  unfold queryIf
  cases need with
  | true =>
      rw [if_pos rfl, exists_query_iff (hfree mutex)]
      simp
  | false => simp

theorem held_queryIf {need : Bool} {mutex : Mutex} {sql : String} {u : Unit}
    {body : List (ℕ → SqlValue) → LDM → Except Failure (Unit × LDM)} (hfree : s.Free)
    (h : queryIf need sqlite mutex sql body s = .ok (u, s')) : s'.held = s.held := by
  unfold queryIf at h
  cases need with
  | true => exact held_query (hfree mutex) h
  | false =>
      cases h
      rfl

theorem exists_fillDccInfo_iff (ldm : LDM) (row : Table.Row (DccInfoColumn → SqlValue)) :
    (∃ ldm', fillDccInfo sqlite ldm row = .ok ldm') ↔ DccInfoTexts sqlite row := by
  unfold fillDccInfo DccInfoTexts
  cases sqlite.column_text (row.column DccInfoColumn.created 3) with
  | none => simp [stdString, bind, Except.bind]
  | some state =>
      cases sqlite.column_text (row.column DccInfoColumn.created 4) with
      | none => simp [stdString, bind, Except.bind]
      | some accesscategory => simp [stdString, bind, Except.bind, pure, Except.pure]

theorem exists_fillCamInfo_iff (ldm : LDM) (row : ℕ → SqlValue) :
    (∃ ldm', fillCamInfo sqlite ldm row = .ok ldm') ↔ sqlite.column_text (row 2) ≠ none :=
  exists_bind_pure.trans (exists_stdString_iff _)

/-- A request is answered exactly if it is answerable. -/
theorem exists_receiveRequest_iff (hfree : s.Free) (received : String × String) :
    (∃ result, receiveRequest sqlite received s = .ok result) ↔
      Answerable sqlite s.ldm received := by
  unfold receiveRequest Answerable
  dsimp only
  split_ifs
  · -- CAM
    refine exists_bind_pure.trans (exists_bind_pure.trans ?_)
    simp [exists_queryIf_iff hfree]
  · -- DENM
    refine exists_bind_pure.trans (exists_bind_pure.trans ?_)
    simp [exists_queryIf_iff hfree]
  · -- GPS
    refine exists_bind_pure.trans (exists_bind_pure.trans ?_)
    simp [exists_query_iff (hfree _)]
  · -- OBD2
    refine exists_bind_pure.trans (exists_bind_pure.trans ?_)
    simp [exists_query_iff (hfree _)]
  · -- dccInfo
    refine exists_bind_pure.trans (exists_bind_pure.trans ?_)
    rw [exists_queryIf_iff hfree]
    refine imp_congr_right fun _ => exists_congr fun rows => and_congr_right fun _ => ?_
    exact exists_bind_pure.trans (exists_foldlM_iff exists_fillDccInfo_iff _ _)
  · -- camInfo
    refine exists_bind_pure.trans (exists_bind_pure.trans ?_)
    rw [exists_queryIf_iff hfree, Option.isNone_iff_eq_none]
    refine imp_congr_right fun _ => exists_congr fun rows => and_congr_right fun _ => ?_
    exact exists_bind_pure.trans (exists_foldlM_iff exists_fillCamInfo_iff _ _)
  · simp

/-- A reply made of a result keeps the mutexes as the result leaves them. -/
theorem held_bind_pure {α β : Type} {x : Except Failure (α × Server)}
    {f : α × Server → β × Server} (hf : ∀ a s₁, (f (a, s₁)).2 = s₁)
    (hx : ∀ a s₁, x = .ok (a, s₁) → s₁.held = s.held) {b : β}
    (h : (x >>= fun result => pure (f result)) = .ok (b, s')) : s'.held = s.held := by
  obtain ⟨⟨a, s₁⟩, ha, hpure⟩ := bind_eq_ok.mp h
  have hs' : (f (a, s₁)).2 = s' := congrArg Prod.snd (Except.ok.inj hpure)
  rw [← hs', hf, hx a s₁ ha]

theorem held_receiveRequest {received : String × String} {reply : Reply} (hfree : s.Free)
    (h : receiveRequest sqlite received s = .ok (reply, s')) : s'.held = s.held := by
  unfold receiveRequest at h
  dsimp only at h
  split_ifs at h
  · exact held_bind_pure (fun _ _ => rfl) (fun _ _ hcams =>
      held_bind_pure (fun _ _ => rfl) (fun _ _ => held_queryIf hfree) hcams) h
  · exact held_bind_pure (fun _ _ => rfl) (fun _ _ hdenms =>
      held_bind_pure (fun _ _ => rfl) (fun _ _ => held_queryIf hfree) hdenms) h
  · exact held_bind_pure (fun _ _ => rfl) (fun _ _ hgpss =>
      held_bind_pure (fun _ _ => rfl) (fun _ _ => held_query (hfree _)) hgpss) h
  · exact held_bind_pure (fun _ _ => rfl) (fun _ _ hobd2s =>
      held_bind_pure (fun _ _ => rfl) (fun _ _ => held_query (hfree _)) hobd2s) h
  · exact held_bind_pure (fun _ _ => rfl) (fun _ _ hdccInfos =>
      held_bind_pure (fun _ _ => rfl) (fun _ _ => held_queryIf hfree) hdccInfos) h
  · exact held_bind_pure (fun _ _ => rfl) (fun _ _ hcamInfos =>
      held_bind_pure (fun _ _ => rfl) (fun _ _ => held_queryIf hfree) hcamInfos) h
  · cases h
    rfl

end

/-! ## Sequences of requests -/

/-- The server with the replies it has sent. -/
structure Session where
  server : Server
  replies : List Reply

/-- Answers one request; `none` if an exception ends the thread. -/
def Session.step (sqlite : Sqlite) (received : String × String) (session : Session) :
    Option Session :=
  match receiveRequest sqlite received session.server with
  | .ok (reply, s) => some ⟨s, session.replies ++ [reply]⟩
  | .error _ => none

def Session.start (ldm : LDM) : Session := ⟨Server.start ldm, []⟩

/-- Whenever the server waits, it has sent one reply to every request and holds no
mutex. -/
structure Waits (requests : List (String × String)) (session : Session) : Prop where
  replies : session.replies.length = requests.length
  free : session.server.Free

/-- The server answers all requests of a sequence. -/
def Survives (sqlite : Sqlite) (ldm : LDM) (requests : List (String × String)) : Prop :=
  ∀ before after, requests = before ++ after →
    ∃ session, run (Session.step sqlite) (.start ldm) before = some session ∧ Waits before session

variable {sqlite : Sqlite} {ldm : LDM}

theorem step_eq_some {received : String × String} {session session' : Session}
    (h : session.step sqlite received = some session') :
    ∃ reply, receiveRequest sqlite received session.server = .ok (reply, session'.server) ∧
      session'.replies = session.replies ++ [reply] := by
  unfold Session.step at h
  split at h
  next reply s heq =>
    cases h
    exact ⟨reply, heq, rfl⟩
  next => cases h

theorem exists_step_iff {received : String × String} {session : Session}
    (hfree : session.server.Free) :
    (∃ session', session.step sqlite received = some session') ↔
      Answerable sqlite session.server.ldm received := by
  rw [← exists_receiveRequest_iff hfree]
  unfold Session.step
  cases receiveRequest sqlite received session.server with
  | error failure => simp
  | ok result => simp

theorem step_waits {requests : List (String × String)} {received : String × String}
    {session session' : Session} (hinv : Waits requests session)
    (h : session.step sqlite received = some session') :
    Waits (requests ++ [received]) session' := by
  obtain ⟨reply, hreply, hreplies⟩ := step_eq_some h
  constructor
  · simp [hreplies, hinv.replies]
  · intro mutex
    rw [held_receiveRequest hinv.free hreply]
    exact hinv.free mutex

theorem waits_start (ldm : LDM) : Waits [] (Session.start ldm) := ⟨rfl, fun _ => rfl⟩

theorem waits {requests : List (String × String)} {session : Session}
    (h : run (Session.step sqlite) (.start ldm) requests = some session) :
    Waits requests session :=
  run_induction (P := Waits) (waits_start ldm) (fun _ _ _ _ _ hinv hstep => step_waits hinv hstep)
    requests session h

/-- **The server survives.**  From any content of the LDM, the server answers all requests
of a sequence, each with one reply and with all mutexes free in between, if and only if each
request is answerable when it arrives. -/
theorem survives_iff (sqlite : Sqlite) (ldm : LDM) (requests : List (String × String)) :
    Survives sqlite ldm requests ↔
      ∀ before received after session, requests = before ++ received :: after →
        run (Session.step sqlite) (.start ldm) before = some session →
        Answerable sqlite session.server.ldm received := by
  constructor
  · intro hsurvives before received after session heq hrun
    obtain ⟨session', hrun', -⟩ := hsurvives (before ++ [received]) after (by simp [heq])
    obtain ⟨mid, hmid, hstep⟩ := run_concat_eq_some.mp hrun'
    obtain rfl : mid = session := Option.some.inj (hmid.symm.trans hrun)
    exact (exists_step_iff (waits hrun).free).mp ⟨session', hstep⟩
  · intro hanswerable before after heq
    refine exists_run (P := Waits) (waits_start ldm) ?_
    intro as received bs session hsplit hrun hinv
    have hnext := hanswerable as received (bs ++ after) session (by simp [heq, hsplit]) hrun
    obtain ⟨session', hstep⟩ := (exists_step_iff hinv.free).mpr hnext
    exact ⟨session', hstep, step_waits hinv hstep⟩

/-- A request for GPS data with an incomplete condition ends the server. -/
theorem not_survives_incompleteCondition :
    ¬Survives exactSqlite LDM.new [("GPS", "WHERE")] := by
  intro hsurvives
  obtain ⟨session, hrun, -⟩ := hsurvives [("GPS", "WHERE")] [] rfl
  obtain ⟨rows, hrows⟩ := (exists_step_iff (fun _ => rfl)).mp ⟨session, run_singleton.mp hrun⟩
  have hsql : gpsQuery "WHERE" = "SELECT * from GPS WHERE" := by decide
  have hrejected : exactSqlite.prepare (gpsQuery "WHERE") LDM.new.tables = .rejected := by
    rw [hsql]
    rfl
  cases hrejected.symm.trans hrows

end OpenC2X.Ldm
