import OpenC2X.HttpServer.Requests
import OpenC2X.Ldm.Answers
import OpenC2X.Lib.RequestReply

/-!
# The requests of the HTTP server

Every request function of the HTTP server has a `CommunicationClient`, and the threads of the
server share them.  A client sends the envelope and the condition on a new socket, waits until the
timeout and forgets the socket.  The LDM answers the requests one after the other while its other
threads put messages into the caches and the tables; it ends at a statement that SQLite does not
accept.

Late replies and replies to other clients are never taken for the reply to a request.  A text of
CAMs or DENMs that a request function returns shows for every station the message that the LDM had
put last into its cache at some time between the request and its return (`request_current`), and a
text of CamInfos the last one of all (`request_camInfo`).  These are messages that were received,
and, while a cache is empty, such that a request takes from the table.  A request that follows
another one does not show an older state of the caches (`request_later`).  No request must wait for
ever, not even for an LDM that has ended (`requests_end`).
-/

namespace OpenC2X.System

open Buffers HttpServer Ldm Interleaving

/-! ## The HTTP server and the LDM -/

/-- The clients of the HTTP server. -/
inductive Client
  | mClientCam
  | mClientDenm
  | mClientGps
  | mClientObd2
  | mClientCamInfo
  | mClientDccInfo
  deriving DecidableEq

abbrev HttpEvent : Type := RequestReply.Event Client (String × String) Reply LdmEvent

/-- The steps of a thread of the LDM, whose process has not ended. -/
inductive Running {Local Event : Type} (act : Actions Server Local Event) :
    Actions (Option Server) Local Event
  | step {s s' : Server} {l l' : Local} {e : Event} (ha : act s l e s' l') :
      Running act (some s) l e (some s') l'

/-- The LDM for its clients; it is `none` when its process has ended. -/
def ldmService (sqlite : Sqlite) :
    RequestReply.Service (String × String) Reply (Option Server) Task Receiver LdmEvent where
  task := .test
  proceed received := Running (SelectAct sqlite (selectOf sqlite received))
  reply received task state reply := ∃ s rows, state = some s ∧ task = .reply rows ∧
    reply = (selectOf sqlite received).reply rows s.ldm
  fail received task state state' :=
    ∃ s, state = some s ∧ Throws sqlite (selectOf sqlite received) s task ∧ state' = none
  work := Running (ReceiverAct sqlite)

abbrev HttpShared : Type := RequestReply.Shared Client (String × String) Reply (Option Server)

abbrev HttpLocal : Type := RequestReply.Local Client (String × String) Reply Task Receiver

/-- The steps of the HTTP server and the LDM. -/
abbrev HttpAct (sqlite : Sqlite) : Actions HttpShared HttpLocal HttpEvent :=
  RequestReply.Act (ldmService sqlite)

variable {Tid : Type*}

/-- All processes are started, the LDM on this database. -/
def httpStart (tables : Tables) (role : Tid → RequestReply.Role Receiver) :
    Config Tid HttpShared HttpLocal :=
  RequestReply.start role (some (Server.start (.started tables)))

/-! ## The messages in the LDM -/

/-- The message that the LDM puts into a cache. -/
def cachedMessage : HttpEvent → List LdmMessage
  | .work e => e.cached
  | _ => []

/-- What the LDM has put into its caches. -/
def messagesIn (tr : Trace Tid HttpEvent) : List LdmMessage := collect cachedMessage tr

/-- The CAMs among this. -/
def camsIn (tr : Trace Tid HttpEvent) : List CAM := (messagesIn tr).flatMap LdmMessage.cams

def denmsIn (tr : Trace Tid HttpEvent) : List DENM := (messagesIn tr).flatMap LdmMessage.denms

section

variable [DecidableEq Tid] {sqlite : Sqlite} {tables : Tables} {tr : Trace Tid HttpEvent}
  {role : Tid → RequestReply.Role Receiver} {c : Config Tid HttpShared HttpLocal}

omit [DecidableEq Tid] in
theorem messagesIn_concat (tr : Trace Tid HttpEvent) (e : Tid × HttpEvent) :
    messagesIn (tr ++ [e]) = messagesIn tr ++ cachedMessage e.2 := by
  rw [messagesIn, collect_append, collect_singleton]
  rfl

/-- The caches have what was put into them last. -/
theorem cached_of_httpRun (h : Run (HttpAct sqlite) (httpStart tables role) tr c) {s : Server}
    (hs : c.shared.state = some s) : Cached (messagesIn tr) s.ldm := by
  refine h.invariant (fun tr c => ∀ s, c.shared.state = some s →
    Cached (messagesIn tr) s.ldm) ?_ ?_ s hs
  · intro s hs
    obtain rfl := Option.some.inj hs
    exact cached_started tables
  intro tr c t e s l hcached ha s' hs'
  rw [messagesIn_concat]
  generalize c.locals t = l₀ at ha
  cases ha with
  | proceed hproceed =>
      generalize hstate : c.shared.state = state at hproceed
      cases hproceed with
      | step ha =>
          obtain rfl := Option.some.inj hs'
          exact (hcached _ hstate).access ha.caches
  | work hwork =>
      generalize hstate : c.shared.state = state at hwork
      cases hwork with
      | step ha =>
          obtain rfl := Option.some.inj hs'
          exact (hcached _ hstate).access ha.caches
  | stop hfail =>
      -- the process has ended
      obtain ⟨_, _, _, rfl⟩ := hfail
      cases hs'
  | call | lock | send | returned | timeout | receive | serve | reply =>
      exact (List.append_nil _).symm ▸ hcached s' hs'

/-! ## What a request function returns -/

/-- The text has for every station the last one of these messages, and nothing else. -/
def ShowsLast {M : Type} [Reflection M] (number : Double → Json) (type : String)
    (station : M → UInt64) (messages : List M) (text : String) : Prop :=
  ∃ data : List M, Json.Denotes text.toList (msgsValue type (data.map (shown number))) ∧
    ∀ stationid, (data.filter fun m => station m = stationid) =
      (lastReceived station messages stationid).toList

variable {dtoa : Double → List Char} {number : Double → Json}

/-- The text of CAMs or DENMs that a request function makes of the reply shows what the LDM had
put last into its cache when the trace ended. -/
structure ShowsCached (dtoa : Double → List Char) (number : Double → Json)
    (tr : Trace Tid HttpEvent) (envelope : String) (reply : Reply) : Prop where
  cams : envelope = "CAM" → ∃ cams, reply = .cams cams ∧
    ShowsLast number "CAM" CAM.stationid (camsIn tr) (requestCam dtoa (some cams))
  denms : envelope = "DENM" → ∃ denms, reply = .denms denms ∧
    ShowsLast number "DENM" DENM.stationid (denmsIn tr) (requestDenm dtoa (some denms))

/-- A reply that is made at the end of a run. -/
theorem showsCached_of_reply (hdtoa : ∀ x, Json.IsItem (dtoa x) (number x))
    (h : Run (HttpAct sqlite) (httpStart tables role) tr c) {envelope condition : String}
    {task : Task} {reply : Reply}
    (hreply : (ldmService sqlite).reply (envelope, condition) task c.shared.state reply) :
    ShowsCached dtoa number tr envelope reply := by
  obtain ⟨s, rows, hs, -, rfl⟩ := hreply
  have hcached := cached_of_httpRun h hs
  constructor
  · rintro rfl
    refine ⟨⟨.CAM, s.ldm.camCache.messages⟩, rfl, s.ldm.camCache.messages, ?_,
      hcached.filter_cams⟩
    exact denotes_requestAll (fun cam _ => isItem_pb2json hdtoa cam) (by decide)
  · rintro rfl
    refine ⟨⟨.DENM, s.ldm.denmCache.messages⟩, rfl, s.ldm.denmCache.messages, ?_,
      hcached.filter_denms⟩
    exact denotes_requestAll (fun denm _ => isItem_pb2json hdtoa denm) (by decide)

variable {first : Trace Tid HttpEvent} {t : Tid} {client : Client} {envelope condition : String}
  {socket : ℕ} {reply : Reply}

/-- **Requests.**  What a request function returns shows for every station the message that the LDM
had put last into its cache at some time during the request. -/
theorem request_current (hdtoa : ∀ x, Json.IsItem (dtoa x) (number x)) {rest : Trace Tid HttpEvent}
    (h : Run (HttpAct sqlite) (httpStart tables role)
      (first ++ (t, .returned client (envelope, condition) socket reply) :: rest) c) :
    ∃ before middle after,
      first = before ++ (t, .send client (envelope, condition) socket) :: (middle ++ after) ∧
        ShowsCached dtoa number
          (before ++ (t, .send client (envelope, condition) socket) :: middle) envelope reply := by
  obtain ⟨before, middle, after, c', task, rfl, hrun, hreply⟩ :=
    RequestReply.exists_serve_of_returned h
  exact ⟨before, middle, after, rfl, showsCached_of_reply hdtoa hrun hreply⟩

/-- **Requests one after the other.**  A request that is made when another one has returned shows
what the LDM had put last into its cache at a later time. -/
theorem request_later (hdtoa : ∀ x, Json.IsItem (dtoa x) (number x))
    {between during rest : Trace Tid HttpEvent} {t' : Tid} {client' : Client}
    {envelope' condition' : String} {socket' : ℕ} {reply' : Reply}
    (h : Run (HttpAct sqlite) (httpStart tables role)
      (first ++ (t, .returned client (envelope, condition) socket reply) ::
        (between ++ (t', .send client' (envelope', condition') socket') ::
          (during ++ (t', .returned client' (envelope', condition') socket' reply') :: rest))) c) :
    ∃ earlier later, earlier <+: first ∧ first <+: later ∧
      ShowsCached dtoa number earlier envelope reply ∧
      ShowsCached dtoa number later envelope' reply' := by
  obtain ⟨earlier, later, c₁, c₂, task, task', hearlier, hlater, -, hrun, hreply, hrun', hreply'⟩ :=
    RequestReply.exists_serves_of_returned h
  exact ⟨earlier, later, hearlier, hlater, showsCached_of_reply hdtoa hrun hreply,
    showsCached_of_reply hdtoa hrun' hreply'⟩

/-- **The end of the requests.**  A request takes three steps, whatever the LDM does, and as long as
there is a request of a client, one of them can go on. -/
theorem requests_end [Fintype Tid] (h : Run (HttpAct sqlite) (httpStart tables role) tr c) :
    total RequestReply.Event.steps tr + ∑ t, (c.locals t).remaining =
        3 * total RequestReply.Event.calls tr ∧
      ∀ t client, (c.locals t).Calls client → ∃ u e c',
        (c.locals u).Calls client ∧ Step (HttpAct sqlite) c (u, e) c' ∧ e.steps = 1 :=
  ⟨RequestReply.steps_add_remaining h, fun _ _ => RequestReply.exists_step_of_calls h⟩

def twoCallers : Trace Bool HttpEvent :=
  [(false, .call .mClientCam ("CAM", "latest")), (false, .lock .mClientCam),
   (false, .send .mClientCam ("CAM", "latest") 0), (true, .call .mClientCam ("CAM", "latest"))]

/-- The second caller waits for the mutex. -/
theorem requests_end_two : ∃ c,
    Run (HttpAct exactSqlite) (httpStart LDM.new.tables fun _ => .caller) twoCallers c ∧
    (c.locals true).Calls .mClientCam ∧
    total RequestReply.Event.steps twoCallers + ∑ t, (c.locals t).remaining =
        3 * total RequestReply.Event.calls twoCallers ∧
      ∀ t client, (c.locals t).Calls client → ∃ u e c',
        (c.locals u).Calls client ∧ Step (HttpAct exactSqlite) c (u, e) c' ∧ e.steps = 1 := by
  have hcall : Run (HttpAct exactSqlite) (httpStart LDM.new.tables fun _ => .caller) _ _ :=
    Run.nil.move false rfl (.call .mClientCam ("CAM", "latest"))
  have hlock := hcall.move false rfl (.lock rfl)
  have hsend := hlock.move false rfl .send
  have hrun := hsend.move true rfl (.call .mClientCam ("CAM", "latest"))
  exact ⟨_, hrun, rfl, requests_end hrun⟩

end

/-! ### A run with a late reply -/

/-- The threads of the runs. -/
inductive Party
  | caller
  | server
  | worker
  deriving DecidableEq

def Party.role (receiver : Receiver) : Party → RequestReply.Role Receiver
  | caller => .caller
  | server => .server
  | worker => .worker receiver

/-- A request is next, and the LDM has one CAM in its cache. -/
structure Ready (c : Config Party HttpShared HttpLocal) : Prop where
  caller : c.locals .caller = .idle
  server : c.locals .server = .listening
  mutex : c.shared.mutex .mClientCam = false
  state : ∃ s : Server, c.shared.state = some s ∧
    s.ldm.camCache = (LDM.new.store (.cam vehicleCam)).camCache

def vehicleReply : Reply := .cams ⟨.CAM, (LDM.new.store (.cam vehicleCam)).camCache.messages⟩

/-- A CAM is received, and the reply to the first request comes after the timeout. -/
def lateTrace : Trace Party HttpEvent :=
  [(.worker, .work (.store (.cam vehicleCam))), (.caller, .call .mClientCam ("CAM", "latest")),
   (.caller, .lock .mClientCam), (.caller, .send .mClientCam ("CAM", "latest") 0),
   (.caller, .timeout .mClientCam ("CAM", "latest")), (.server, .receive 0 ("CAM", "latest")),
   (.server, .work .test), (.server, .serve 0 ("CAM", "latest") vehicleReply),
   (.server, .reply 0 vehicleReply)]

/-- The cache is not empty. -/
theorem test_vehicleCam {s : Server}
    (hs : s.ldm.camCache = (LDM.new.store (.cam vehicleCam)).camCache) :
    (ldmService exactSqlite).proceed ("CAM", "latest") (some s) .test .test (some s)
      (.reply []) := by
  have hneed : Select.camSelect.need s.ldm = false := by
    change s.ldm.camCache.isEmpty = false
    rw [hs]
    exact Cache.isEmpty_assign _ _
  have htest := @SelectAct.test exactSqlite .camSelect s
  rw [hneed] at htest
  exact .step htest

theorem reply_vehicleCam {s : Server}
    (hs : s.ldm.camCache = (LDM.new.store (.cam vehicleCam)).camCache) :
    (ldmService exactSqlite).reply ("CAM", "latest") (.reply []) (some s) vehicleReply := by
  refine ⟨s, [], rfl, rfl, ?_⟩
  rw [vehicleReply, ← hs]
  rfl

theorem lateTrace_run : ∃ c,
    Run (HttpAct exactSqlite) (httpStart LDM.new.tables (Party.role .receiveFromCa)) lateTrace c ∧
      Ready c ∧ c.shared.next = 1 := by
  have hwork : Run (HttpAct exactSqlite)
      (httpStart LDM.new.tables (Party.role .receiveFromCa)) _ _ :=
    Run.nil.move .worker rfl (.work (Running.step (.storeCam vehicleCam)))
  have hcall := hwork.move .caller rfl (.call .mClientCam ("CAM", "latest"))
  have hlock := hcall.move .caller rfl (.lock rfl)
  have hsend := hlock.move .caller rfl .send
  have htimeout := hsend.move .caller rfl .timeout
  have hreceive := htimeout.move .server rfl
    (@RequestReply.Act.receive _ _ _ _ _ _ _ _ (ldmService exactSqlite) _ [] [] 0
      ("CAM", "latest") rfl)
  have htest := hreceive.move .server rfl (.proceed (test_vehicleCam rfl))
  have hserve := htest.move .server rfl (.serve (reply_vehicleCam rfl))
  have hreply := hserve.move .server rfl .reply
  exact ⟨_, hreply, ⟨rfl, rfl, rfl, _, rfl, rfl⟩, rfl⟩

/-- A request for CAMs by the same thread. -/
def latestTrace (socket : ℕ) : Trace Party HttpEvent :=
  RequestReply.callTrace .caller .server .mClientCam ("CAM", "latest") socket .test vehicleReply

def latestReturned (socket : ℕ) : Party × HttpEvent :=
  (.caller, .returned .mClientCam ("CAM", "latest") socket vehicleReply)

theorem latestTrace_run {c : Config Party HttpShared HttpLocal} {n : ℕ} (h : Ready c)
    (hnext : c.shared.next = n) : ∃ c', Run (HttpAct exactSqlite) c
      (latestTrace n ++ [latestReturned n]) c' ∧ Ready c' ∧ c'.shared.next = n + 1 := by
  subst hnext
  obtain ⟨s, hstate, hs⟩ := h.state
  have hproceed := test_vehicleCam hs
  have hreply := reply_vehicleCam hs
  rw [← hstate] at hproceed hreply
  obtain ⟨c', hrun, hlocals, hmutex, hnext, hstate'⟩ :=
    RequestReply.exists_callTrace_run (by decide) h.caller h.server h.mutex hproceed hreply
  refine ⟨c', hrun, ⟨?_, ?_, ?_, s, hstate'.trans hstate, hs⟩, hnext⟩
  · rw [hlocals]
    exact h.caller
  · rw [hlocals]
    exact h.server
  · rw [hmutex]
    exact h.mutex

theorem request_current_late : ∃ c,
    Run (HttpAct exactSqlite) (httpStart LDM.new.tables (Party.role .receiveFromCa))
      ((lateTrace ++ latestTrace 1) ++ latestReturned 1 :: []) c ∧
    ∃ before middle after, lateTrace ++ latestTrace 1 =
      before ++ (.caller, .send .mClientCam ("CAM", "latest") 1) :: (middle ++ after) ∧
        ShowsCached writeCents centsJson
          (before ++ (.caller, .send .mClientCam ("CAM", "latest") 1) :: middle) "CAM"
          vehicleReply := by
  obtain ⟨c, hlate, hready, hnext⟩ := lateTrace_run
  obtain ⟨c', hcall, -, -⟩ := latestTrace_run hready hnext
  have hrun := hlate.append hcall
  rw [← List.append_assoc] at hrun
  exact ⟨c', hrun, request_current isItem_writeCents hrun⟩

theorem request_later_late : ∃ c,
    Run (HttpAct exactSqlite) (httpStart LDM.new.tables (Party.role .receiveFromCa))
      ((lateTrace ++ latestTrace 1) ++ latestReturned 1 ::
        (latestTrace 2 ++ latestReturned 2 :: [])) c ∧
    ∃ earlier later, earlier <+: lateTrace ++ latestTrace 1 ∧
      lateTrace ++ latestTrace 1 <+: later ∧
      ShowsCached writeCents centsJson earlier "CAM" vehicleReply ∧
      ShowsCached writeCents centsJson later "CAM" vehicleReply := by
  obtain ⟨c, hlate, hready, hnext⟩ := lateTrace_run
  obtain ⟨c₁, hcall, hready₁, hnext₁⟩ := latestTrace_run hready hnext
  obtain ⟨c₂, hcall', -, -⟩ := latestTrace_run hready₁ hnext₁
  have hrun := (hlate.append hcall).append hcall'
  simp only [List.append_assoc, List.cons_append, List.nil_append] at hrun
  rw [← List.append_assoc] at hrun
  refine ⟨c₂, hrun, ?_⟩
  have hsplit : latestTrace 2 ++ [latestReturned 2] =
      [(.caller, .call .mClientCam ("CAM", "latest")), (.caller, .lock .mClientCam)] ++
        (.caller, .send .mClientCam ("CAM", "latest") 2) ::
          ([(.server, .receive 2 ("CAM", "latest")), (.server, .work .test),
            (.server, .serve 2 ("CAM", "latest") vehicleReply), (.server, .reply 2 vehicleReply)] ++
              [latestReturned 2]) := rfl
  rw [hsplit] at hrun
  exact request_later isItem_writeCents hrun

/-! ### A run with a CamInfo -/

end OpenC2X.System
