import OpenC2X.Ldm.Threads

/-!
# What the LDM answers

The LDM answers a request for CAMs, DENMs, DccInfos or CamInfos with what its cache has: of every
station or category the message that was put into the cache last, by a thread that had received it
or by a request that took it from a row of the table (`cached_of_run`).

A request can find the cache empty and, by the time it reads the table, a message there that has
come in the meantime.  What it takes from the row does not have all of the message, and can be
older than what the cache has by now.  As long as no request takes a row, the caches have what was
received last (`cachedMessages_eq_received`).
-/

namespace OpenC2X.Ldm

open Buffers Interleaving

/-! ## What the caches have -/

/-- Every cache has of these messages what came last. -/
structure Cached (messages : List LdmMessage) (ldm : LDM) : Prop where
  camCache : ∀ stationid, ldm.camCache.get? (toString stationid) =
    lastReceived CAM.stationid (messages.flatMap LdmMessage.cams) stationid
  denmCache : ∀ stationid, ldm.denmCache.get? (toString stationid) =
    lastReceived DENM.stationid (messages.flatMap LdmMessage.denms) stationid
  dccInfoCache : ∀ category, ldm.dccInfoCache.get? category =
    Cache.latest DccInfo.accesscategory (messages.flatMap LdmMessage.dccInfos) category
  camInfoCache : ldm.camInfoCache = (messages.flatMap LdmMessage.camInfos).getLast?.getD {}

/-- The caches are the same. -/
structure LDM.SameCaches (ldm ldm' : LDM) : Prop where
  camCache : ldm'.camCache = ldm.camCache
  denmCache : ldm'.denmCache = ldm.denmCache
  dccInfoCache : ldm'.dccInfoCache = ldm.dccInfoCache
  camInfoCache : ldm'.camInfoCache = ldm.camInfoCache

/-- The LDM has been started on this database. -/
def LDM.started (tables : Tables) : LDM := { LDM.new with tables := tables }

section

variable {sqlite : Sqlite} {messages : List LdmMessage} {ldm ldm' : LDM} {s s' : Server}

theorem cached_started (tables : Tables) : Cached [] (LDM.started tables) where
  camCache _ := Cache.get?_empty _
  denmCache _ := Cache.get?_empty _
  dccInfoCache _ := Cache.get?_empty _
  camInfoCache := rfl

theorem Cached.of_sameCaches (h : Cached messages ldm) (hsame : ldm.SameCaches ldm') :
    Cached messages ldm' where
  camCache := hsame.camCache ▸ h.camCache
  denmCache := hsame.denmCache ▸ h.denmCache
  dccInfoCache := hsame.dccInfoCache ▸ h.dccInfoCache
  camInfoCache := hsame.camInfoCache ▸ h.camInfoCache

theorem Cached.store (h : Cached messages ldm) (message : LdmMessage) :
    Cached (messages ++ [message]) (ldm.store message) := by
  have hsplit : ∀ {α : Type} (items : LdmMessage → List α),
      (messages ++ [message]).flatMap items = messages.flatMap items ++ items message := by
    intro α items
    rw [List.flatMap_append, List.flatMap_singleton]
  constructor
  · intro stationid
    rw [hsplit]
    cases message with
    | cam cam =>
        rw [LdmMessage.cams, lastReceived_append_singleton, ← h.camCache]
        exact get?_assign_station ldm.camStore cam stationid
    | denm | dccInfo | camInfo => exact (List.append_nil _).symm ▸ h.camCache stationid
  · intro stationid
    rw [hsplit]
    cases message with
    | denm denm =>
        rw [LdmMessage.denms, lastReceived_append_singleton, ← h.denmCache]
        exact get?_assign_station ldm.denmStore denm stationid
    | cam | dccInfo | camInfo => exact (List.append_nil _).symm ▸ h.denmCache stationid
  · intro category
    rw [hsplit]
    cases message with
    | dccInfo dccInfo =>
        rw [LdmMessage.dccInfos, Cache.latest_append_singleton, ← h.dccInfoCache]
        exact Cache.get?_assign _ dccInfo category
    | cam | denm | camInfo => exact (List.append_nil _).symm ▸ h.dccInfoCache category
  · rw [hsplit]
    cases message with
    | camInfo camInfo =>
        rw [LdmMessage.camInfos, List.getLast?_concat]
        rfl
    | cam | denm | dccInfo => exact (List.append_nil _).symm ▸ h.camInfoCache

/-- What an access does to the caches. -/
def Caches (s : Server) (e : LdmEvent) (s' : Server) : Prop :=
  (∃ message, e.cached = [message] ∧ s' = s.store message) ∨
    (e.cached = [] ∧ s.ldm.SameCaches s'.ldm)

theorem ReceiverAct.caches {receiver receiver' : Receiver} {e : LdmEvent}
    (ha : ReceiverAct sqlite s receiver e s' receiver') : Caches s e s' := by
  cases ha with
  | storeCam | storeDenm | storeDccInfo | storeCamInfo => exact .inl ⟨_, rfl, rfl⟩
  | insertCam | insertDenm | insertDccInfo | printCamInfo | insertCamInfo =>
      exact .inr ⟨rfl, rfl, rfl, rfl, rfl⟩

theorem SelectAct.caches {select : Select} {task task' : Task} {e : LdmEvent}
    (ha : SelectAct sqlite select s task e s' task') : Caches s e s' := by
  cases ha with
  | fill => exact .inl ⟨_, rfl, rfl⟩
  | test | lock | query | unlock => exact .inr ⟨rfl, rfl, rfl, rfl, rfl⟩

theorem Cached.access (h : Cached messages s.ldm) {e : LdmEvent} (ha : Caches s e s') :
    Cached (messages ++ e.cached) s'.ldm := by
  rcases ha with ⟨message, hcached, rfl⟩ | ⟨hcached, hsame⟩
  · rw [hcached]
    exact h.store message
  · rw [hcached, List.append_nil]
    exact h.of_sameCaches hsame

/-! ## Replies -/

variable {received : String × String} {rows : List (ℕ → SqlValue)}

theorem eq_of_reply_cams {cams : LdmData CAM}
    (h : (selectOf sqlite received).reply rows ldm = .cams cams) :
    cams = ⟨.CAM, ldm.camCache.messages⟩ := by
  unfold selectOf at h
  dsimp only at h
  split_ifs at h <;> cases h
  rfl

theorem eq_of_reply_denms {denms : LdmData DENM}
    (h : (selectOf sqlite received).reply rows ldm = .denms denms) :
    denms = ⟨.DENM, ldm.denmCache.messages⟩ := by
  unfold selectOf at h
  dsimp only at h
  split_ifs at h <;> cases h
  rfl

theorem eq_of_reply_dccInfos {dccInfos : LdmData DccInfo}
    (h : (selectOf sqlite received).reply rows ldm = .dccInfos dccInfos) :
    dccInfos = ⟨.dccInfo, ldm.dccInfoCache.messages⟩ := by
  unfold selectOf at h
  dsimp only at h
  split_ifs at h <;> cases h
  rfl

/-- The CAMs of a reply are those that came last of every station. -/
theorem Cached.filter_cams (h : Cached messages ldm) (stationid : UInt64) :
    (ldm.camCache.messages.filter fun m => CAM.stationid m = stationid) =
      (lastReceived CAM.stationid (messages.flatMap LdmMessage.cams) stationid).toList := by
  rw [filter_station_messages, h.camCache]

theorem Cached.filter_denms (h : Cached messages ldm) (stationid : UInt64) :
    (ldm.denmCache.messages.filter fun m => DENM.stationid m = stationid) =
      (lastReceived DENM.stationid (messages.flatMap LdmMessage.denms) stationid).toList := by
  rw [filter_station_messages, h.denmCache]

/-- A CAM of a reply is the one that came last of its station. -/
theorem Cached.lastReceived_of_mem_cams (h : Cached messages ldm) {cam : CAM}
    (hcam : cam ∈ ldm.camCache.messages) :
    lastReceived CAM.stationid (messages.flatMap LdmMessage.cams) cam.stationid = some cam := by
  have hmem : cam ∈ ldm.camCache.messages.filter fun m => CAM.stationid m = cam.stationid :=
    List.mem_filter.mpr ⟨hcam, decide_eq_true rfl⟩
  rw [h.filter_cams] at hmem
  exact Option.mem_toList.mp hmem

theorem Cached.lastReceived_of_mem_denms (h : Cached messages ldm) {denm : DENM}
    (hdenm : denm ∈ ldm.denmCache.messages) :
    lastReceived DENM.stationid (messages.flatMap LdmMessage.denms) denm.stationid =
      some denm := by
  have hmem : denm ∈ ldm.denmCache.messages.filter fun m =>
      DENM.stationid m = denm.stationid := List.mem_filter.mpr ⟨hdenm, decide_eq_true rfl⟩
  rw [h.filter_denms] at hmem
  exact Option.mem_toList.mp hmem

end

/-! ## The threads together -/

inductive LdmThread
  | receiveFromCa
  | receiveFromDen
  | receiveDccInfo
  | receiveCamInfo
  | receiveRequest
  deriving DecidableEq

inductive LdmLocal
  | receiving (receiver : Receiver)
  | awaiting
  | answering (received : String × String) (task : Task)

inductive ServiceEvent
  | access (e : LdmEvent)
  | request (received : String × String)
  | reply (received : String × String) (reply : Reply)

/-- The steps of the LDM.  After an exception there is none for the request. -/
inductive LdmAct (sqlite : Sqlite) : Actions Server LdmLocal ServiceEvent
  | receive {s s' : Server} {receiver receiver' : Receiver} {e : LdmEvent}
      (ha : ReceiverAct sqlite s receiver e s' receiver') :
      LdmAct sqlite s (.receiving receiver) (.access e) s' (.receiving receiver')
  | request {s : Server} (received : String × String) :
      LdmAct sqlite s .awaiting (.request received) s (.answering received .test)
  | select {s s' : Server} {received : String × String} {task task' : Task} {e : LdmEvent}
      (ha : SelectAct sqlite (selectOf sqlite received) s task e s' task') :
      LdmAct sqlite s (.answering received task) (.access e) s' (.answering received task')
  | reply {s : Server} {received : String × String} {rows : List (ℕ → SqlValue)} :
      LdmAct sqlite s (.answering received (.reply rows))
        (.reply received ((selectOf sqlite received).reply rows s.ldm)) s .awaiting

abbrev LdmConfig : Type := Config LdmThread Server LdmLocal

abbrev LdmTrace : Type := Trace LdmThread ServiceEvent

/-- The LDM is started on this database. -/
def ldmStart (tables : Tables) : LdmConfig where
  shared := Server.start (.started tables)
  locals
    | .receiveFromCa => .receiving .receiveFromCa
    | .receiveFromDen => .receiving .receiveFromDen
    | .receiveDccInfo => .receiving .receiveDccInfo
    | .receiveCamInfo => .receiving .receiveCamInfo
    | .receiveRequest => .awaiting

namespace ServiceEvent

def cached : ServiceEvent → List LdmMessage
  | .access e => e.cached
  | _ => []

def received : ServiceEvent → List LdmMessage
  | .access e => e.received
  | _ => []

/-- The DccInfo that is put into the table. -/
def insertedDccInfo : ServiceEvent → List DccInfo
  | .access (.insert (.dccInfo dccInfo)) => [dccInfo]
  | _ => []

end ServiceEvent

theorem eq_of_step_cams {sqlite : Sqlite} {c c' : LdmConfig} {t : LdmThread}
    {received : String × String} {cams : LdmData CAM}
    (h : Step (LdmAct sqlite) c (t, .reply received (.cams cams)) c') :
    cams = ⟨.CAM, c.shared.ldm.camCache.messages⟩ := by
  cases h with
  | move ha =>
      generalize c.locals t = l at ha
      generalize hreply : Reply.cams cams = reply at ha
      cases ha with
      | reply => exact eq_of_reply_cams hreply.symm

theorem eq_of_step_denms {sqlite : Sqlite} {c c' : LdmConfig} {t : LdmThread}
    {received : String × String} {denms : LdmData DENM}
    (h : Step (LdmAct sqlite) c (t, .reply received (.denms denms)) c') :
    denms = ⟨.DENM, c.shared.ldm.denmCache.messages⟩ := by
  cases h with
  | move ha =>
      generalize c.locals t = l at ha
      generalize hreply : Reply.denms denms = reply at ha
      cases ha with
      | reply => exact eq_of_reply_denms hreply.symm

theorem eq_of_step_dccInfos {sqlite : Sqlite} {c c' : LdmConfig} {t : LdmThread}
    {received : String × String} {dccInfos : LdmData DccInfo}
    (h : Step (LdmAct sqlite) c (t, .reply received (.dccInfos dccInfos)) c') :
    dccInfos = ⟨.dccInfo, c.shared.ldm.dccInfoCache.messages⟩ := by
  cases h with
  | move ha =>
      generalize c.locals t = l at ha
      generalize hreply : Reply.dccInfos dccInfos = reply at ha
      cases ha with
      | reply => exact eq_of_reply_dccInfos hreply.symm

/-- What the threads have put into the caches. -/
def cachedMessages (tr : LdmTrace) : List LdmMessage := collect ServiceEvent.cached tr

section

variable {sqlite : Sqlite} {tables : Tables} {tr : LdmTrace} {c : LdmConfig}

theorem cachedMessages_concat (tr : LdmTrace) (e : LdmThread × ServiceEvent) :
    cachedMessages (tr ++ [e]) = cachedMessages tr ++ e.2.cached := by
  rw [cachedMessages, collect_append, collect_singleton]
  rfl

/-- The caches have what was put into them last. -/
theorem cached_of_run (h : Run (LdmAct sqlite) (ldmStart tables) tr c) :
    Cached (cachedMessages tr) c.shared.ldm := by
  refine h.invariant (fun tr c => Cached (cachedMessages tr) c.shared.ldm) ?_ ?_
  · exact cached_started tables
  intro tr c t e s l ih ha
  rw [cachedMessages_concat]
  generalize c.locals t = l₀ at ha
  cases ha with
  | receive ha => exact ih.access ha.caches
  | select ha => exact ih.access ha.caches
  | request | reply => exact (List.append_nil _).symm ▸ ih

end

/-- A request that is answered without the table. -/
def answerTrace (received : String × String) (reply : Reply) : LdmTrace :=
  [(.receiveRequest, .request received), (.receiveRequest, .access .test),
    (.receiveRequest, .reply received reply)]

theorem answerTrace_run {sqlite : Sqlite} {c : LdmConfig} {received : String × String}
    (hawaiting : c.locals .receiveRequest = .awaiting)
    (hneed : (selectOf sqlite received).need c.shared.ldm = false) :
    ∃ c', Run (LdmAct sqlite) c
      (answerTrace received ((selectOf sqlite received).reply [] c.shared.ldm)) c' := by
  have hstart : Run (LdmAct sqlite) c [] c := .nil
  have hrequest := hstart.move .receiveRequest hawaiting (.request received)
  have htest := hrequest.move .receiveRequest rfl (.select .test)
  -- the cache has what is needed
  have htask : (if (selectOf sqlite received).need c.shared.ldm = true then Task.lock
      else .reply []) = .reply [] := by
    rw [hneed]
    rfl
  exact ⟨_, htest.move .receiveRequest (congrArg (LdmLocal.answering received) htask) .reply⟩

/-! ## Where the threads stand -/

/-- The places of a thread. -/
def LdmThread.StandsAt : LdmThread → LdmLocal → Prop
  | .receiveFromCa, .receiving .receiveFromCa => True
  | .receiveFromCa, .receiving (.insertCam _) => True
  | .receiveFromDen, .receiving .receiveFromDen => True
  | .receiveFromDen, .receiving (.insertDenm _) => True
  | .receiveDccInfo, .receiving .receiveDccInfo => True
  | .receiveDccInfo, .receiving (.storeDccInfo _) => True
  | .receiveCamInfo, .receiving .receiveCamInfo => True
  | .receiveCamInfo, .receiving .printCamInfo => True
  | .receiveCamInfo, .receiving (.insertCamInfo _) => True
  | .receiveRequest, .awaiting => True
  | .receiveRequest, .answering _ _ => True
  | _, _ => False

theorem LdmThread.StandsAt.act {sqlite : Sqlite} {t : LdmThread} {s s' : Server} {l l' : LdmLocal}
    {e : ServiceEvent} (h : t.StandsAt l) (ha : LdmAct sqlite s l e s' l') : t.StandsAt l' := by
  cases ha with
  | receive ha => cases t <;> cases ha <;> trivial
  | request | select | reply => cases t <;> trivial

theorem standsAt_of_run {sqlite : Sqlite} {tables : Tables} {tr : LdmTrace} {c : LdmConfig}
    (h : Run (LdmAct sqlite) (ldmStart tables) tr c) (t : LdmThread) : t.StandsAt (c.locals t) := by
  refine h.invariant (fun _ c => ∀ t, t.StandsAt (c.locals t)) ?_ ?_ t
  · intro t
    cases t <;> trivial
  intro tr c t e s l hstands ha u
  dsimp only
  by_cases hu : u = t
  · subst hu
    rw [Function.update_self]
    exact (hstands u).act ha
  · rw [Function.update_of_ne hu]
    exact hstands u

/-! ## Runs without rows -/

/-- No request takes a row into a cache. -/
def TakesNoRow (tr : LdmTrace) : Prop :=
  ∀ t message, (t, ServiceEvent.access (.fill message)) ∉ tr

theorem cachedMessages_eq_received {tr : LdmTrace} (h : TakesNoRow tr) :
    cachedMessages tr = collect ServiceEvent.received tr := by
  rw [cachedMessages, collect, collect]
  refine List.flatMap_congr fun e he => ?_
  obtain ⟨t, _ | received | ⟨received, reply⟩⟩ := e
  case access e =>
    cases e with
    | fill message => exact absurd he (h t message)
    | store | insert | print | test | lock | query | unlock => rfl
  case request => rfl
  case reply => rfl

/-! ### DccInfos

A DccInfo is put into the table first. -/

/-- The DccInfos that have been received, and put into the cache. -/
def receivedDccInfos (tr : LdmTrace) : List DccInfo :=
  (collect ServiceEvent.received tr).flatMap LdmMessage.dccInfos

/-- The one that is in the table, and not yet in the cache. -/
def pendingDccInfo : LdmLocal → List DccInfo
  | .receiving (.storeDccInfo dccInfo) => [dccInfo]
  | _ => []

theorem receivedDccInfos_concat (tr : LdmTrace) (e : LdmThread × ServiceEvent) :
    receivedDccInfos (tr ++ [e]) =
      receivedDccInfos tr ++ e.2.received.flatMap LdmMessage.dccInfos := by
  rw [receivedDccInfos, collect_append, collect_singleton, List.flatMap_append]
  rfl

theorem LdmThread.StandsAt.dccInfos_eq {sqlite : Sqlite} {s s' : Server} {l l' : LdmLocal}
    {e : ServiceEvent} (h : LdmThread.receiveDccInfo.StandsAt l) (ha : LdmAct sqlite s l e s' l') :
    e.received.flatMap LdmMessage.dccInfos ++ pendingDccInfo l' =
      pendingDccInfo l ++ e.insertedDccInfo := by
  cases ha with
  | receive ha =>
      cases ha with
      | insertDccInfo | storeDccInfo => rfl
      | _ => exact h.elim
  | request | select | reply => exact h.elim

/-- The other threads have nothing to do with DccInfos that are received. -/
theorem LdmThread.StandsAt.dccInfos_eq_nil {sqlite : Sqlite} {t : LdmThread} {s s' : Server}
    {l l' : LdmLocal} {e : ServiceEvent} (h : t.StandsAt l) (ht : t ≠ .receiveDccInfo)
    (ha : LdmAct sqlite s l e s' l') :
    e.received.flatMap LdmMessage.dccInfos = [] ∧ e.insertedDccInfo = [] := by
  cases ha with
  | receive ha =>
      cases ha with
      | insertDccInfo | storeDccInfo => cases t <;> first | exact h.elim | exact absurd rfl ht
      | _ => exact ⟨rfl, rfl⟩
  | select ha => cases ha <;> exact ⟨rfl, rfl⟩
  | request | reply => exact ⟨rfl, rfl⟩

/-- The DccInfos come into the cache in the order in which they came into the table. -/
theorem receivedDccInfos_append_pending {sqlite : Sqlite} {tables : Tables} {tr : LdmTrace}
    {c : LdmConfig} (h : Run (LdmAct sqlite) (ldmStart tables) tr c) :
    receivedDccInfos tr ++ pendingDccInfo (c.locals .receiveDccInfo) =
      collect ServiceEvent.insertedDccInfo tr := by
  induction h with
  | nil => rfl
  | @snoc tr c c' e hrun hstep ih =>
      obtain ⟨t, e⟩ := e
      cases hstep with
      | move ha =>
          have hstands := standsAt_of_run hrun t
          rw [receivedDccInfos_concat, collect_append, collect_singleton, ← ih]
          dsimp only
          by_cases ht : t = .receiveDccInfo
          · subst ht
            rw [Function.update_self, List.append_assoc, hstands.dccInfos_eq ha, List.append_assoc]
          · obtain ⟨hreceived, hinserted⟩ := hstands.dccInfos_eq_nil ht ha
            rw [Function.update_of_ne (Ne.symm ht), hreceived, hinserted, List.append_nil,
              List.append_nil]

end OpenC2X.Ldm
