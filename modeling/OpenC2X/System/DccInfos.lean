import OpenC2X.Dcc.DccInfo
import OpenC2X.HttpServer.RequestDccInfo
import OpenC2X.HttpServer.Requests
import OpenC2X.Ldm.AccessCategories
import OpenC2X.Ldm.Answers
import OpenC2X.Lib.LabelledRun
import OpenC2X.Lib.Rounds
import Mathlib.Algebra.Order.Field.Rat

/-!
# The DccInfos from DCC to the web site

DCC sends rounds of four DccInfos, the LDM keeps the last one of each access category, and the
HTTP server answers the web site with what the LDM keeps.  Messages can get lost on their way to
the LDM, and a request can come in the middle of a round.  As long as no request takes a row of the
table into the cache, only what DCC has sent is in the cache.

The web site shows a table exactly if all four categories have come into the cache, and then that
of the last message of its category, with what DCC knew when it sent this message
(`dccInfo_shown`).  As long as no message is lost either, an answer has the last four messages that
came into the cache, which are from at most two rounds (`dccInfo_rounds`).
-/

namespace OpenC2X.System

open Buffers Dcc Ldm HttpServer LabelledRun Rounds

/-! ## The steps -/

structure InfoState where
  dcc : InfoMembers
  /-- The access categories that the running `sendDccInfo` has not come to yet. -/
  acs : List AccessCategory
  /-- Its message. -/
  dccInfo : DccInfo
  /-- The messages on the way to the LDM. -/
  queue : List DccInfo
  ldm : LdmConfig

inductive InfoEvent
  | handle (handler : Handler ℚ)
  | measurePktStats (mPktStats : PktStats)
  /-- `sendDccInfo` begins. -/
  | sendDccInfo
  /-- It sends a message. -/
  | send (ac : AccessCategory) (r : InfoReadings) (dccInfo : DccInfo)
  | lose (dccInfo : DccInfo)
  /-- A thread of the LDM makes a step. -/
  | ldm (t : LdmThread) (e : ServiceEvent)

/-- No other handler runs as long as `sendDccInfo` does.  The LDM takes the messages from the queue
when it puts them into the table. -/
inductive InfoStep (sqlite : Sqlite) : Steps InfoState InfoEvent
  | handle (s : InfoState) (handler : Handler ℚ) (dcc : InfoMembers) : s.acs = [] →
      s.dcc.handle handler = some dcc →
      InfoStep sqlite s (.handle handler) { s with dcc := dcc }
  | measurePktStats (s : InfoState) (mPktStats : PktStats) : s.acs = [] →
      InfoStep sqlite s (.measurePktStats mPktStats)
        { s with dcc := s.dcc.measurePktStats mPktStats }
  | sendDccInfo (s : InfoState) : s.acs = [] →
      InfoStep sqlite s .sendDccInfo { s with acs := mAccessCategories, dccInfo := {} }
  | send (s : InfoState) (ac : AccessCategory) (acs : List AccessCategory) (r : InfoReadings)
      (dccInfo : DccInfo) : s.acs = ac :: acs →
      s.dcc.setDccInfo ac r s.dccInfo = some dccInfo →
      InfoStep sqlite s (.send ac r dccInfo)
        { s with acs := acs, dccInfo := dccInfo, queue := s.queue ++ [dccInfo] }
  | lose (s : InfoState) (before after : List DccInfo) (dccInfo : DccInfo) :
      s.queue = before ++ dccInfo :: after →
      InfoStep sqlite s (.lose dccInfo) { s with queue := before ++ after }
  | ldm (s : InfoState) (rest : List DccInfo) {t : LdmThread} {e : ServiceEvent} {ldm : LdmConfig}
      (hqueue : s.queue = e.insertedDccInfo ++ rest)
      (h : Interleaving.Step (LdmAct sqlite) s.ldm (t, e) ldm) :
      InfoStep sqlite s (.ldm t e) { s with ldm := ldm, queue := rest }

/-- DCC is started, and the LDM on this database. -/
def infoStart (machine : DCC ℚ) (tables : Tables) : InfoState where
  dcc := ⟨machine, 0, PktStats.const 0⟩
  acs := []
  dccInfo := {}
  queue := []
  ldm := ldmStart tables

/-! ## What the trace tells -/

namespace InfoEvent

def onLdm : InfoEvent → LdmTrace
  | ldm t e => [(t, e)]
  | _ => []

def sent : InfoEvent → List DccInfo
  | send _ _ dccInfo => [dccInfo]
  | _ => []

/-- The message that the LDM receives. -/
def taken : InfoEvent → List DccInfo
  | ldm _ e => e.insertedDccInfo
  | _ => []

def isLose : InfoEvent → Bool
  | lose _ => true
  | _ => false

end InfoEvent

/-- The messages that the LDM has received, and put into its cache. -/
def arrivedInfos (tr : List InfoEvent) : List DccInfo :=
  receivedDccInfos (tr.flatMap InfoEvent.onLdm)

/-- No request takes a row of a table into a cache. -/
def WithoutRows (tr : List InfoEvent) : Prop := TakesNoRow (tr.flatMap InfoEvent.onLdm)

/-- What a request is answered with. -/
def InfoState.reply (s : InfoState) : LdmData DccInfo :=
  ⟨.dccInfo, s.ldm.shared.ldm.dccInfoCache.messages⟩

/-- The last message of an access category that is in the cache. -/
def lastInfo (tr : List InfoEvent) (ac : AccessCategory) : Option DccInfo :=
  Cache.latest DccInfo.accesscategory (arrivedInfos tr) (accessCategoryText ac)

/-- The web site can read the answer, and makes the table of it. -/
def Shows {Table : Type} (request : JsValue → Option Table) (text : String) (table : Table) :
    Prop :=
  ∃ json, Json.Denotes text.toList json ∧ request (.ofJson json) = some table

/-! ## The LDM -/

section

variable {sqlite : Sqlite} {machine : DCC ℚ} {tables : Tables} {tr : List InfoEvent}
  {s : InfoState}

theorem run_infoLdm (h : Run (InfoStep sqlite) (infoStart machine tables) tr s) :
    Interleaving.Run (LdmAct sqlite) (ldmStart tables) (tr.flatMap InfoEvent.onLdm) s.ldm := by
  induction h with
  | nil => exact .nil
  | snoc _ hstep ih =>
      rw [List.flatMap_append, List.flatMap_singleton]
      cases hstep with
      | ldm _ _ _ hstep => exact ih.snoc hstep
      | handle | measurePktStats | sendDccInfo | send | lose =>
          exact (List.append_nil _).symm ▸ ih

/-- The cache has what came last. -/
theorem get?_infoCache (h : Run (InfoStep sqlite) (infoStart machine tables) tr s)
    (hrow : WithoutRows tr) (category : String) :
    s.ldm.shared.ldm.dccInfoCache.get? category =
      Cache.latest DccInfo.accesscategory (arrivedInfos tr) category := by
  rw [(cached_of_run (run_infoLdm h)).dccInfoCache, cachedMessages_eq_received hrow, arrivedInfos,
    receivedDccInfos]

theorem latest_of_mem_messages (h : Run (InfoStep sqlite) (infoStart machine tables) tr s)
    (hrow : WithoutRows tr) {m : DccInfo} (hm : m ∈ s.reply.data) :
    Cache.latest DccInfo.accesscategory (arrivedInfos tr) m.accesscategory = some m := by
  rw [← get?_infoCache h hrow]
  exact (Cache.mem_messages_iff _ m).mp hm

/-! ## What DCC sends -/

/-- What all messages of a round have in common. -/
abbrev RoundView : Type := ProtoField Double × ProtoField String

def infoView (m : DccInfo) : RoundView := (m.channelLoad, m.state)

def membersView (dcc : InfoMembers) : RoundView :=
  (some (.finite dcc.mChannelLoad), stateText dcc.machine.mCurrentStateId)

/-- The order of the categories in a round. -/
def sendOrder : List String := mAccessCategories.map accessCategoryText

/-- What holds of DCC after every run. -/
structure Reports (tr : List InfoEvent) (s : InfoState) : Prop where
  text : ∃ text, stateText s.dcc.machine.mCurrentStateId = some text
  /-- What has been sent and what is left of the round make whole rounds. -/
  rounds : ∃ views, (tr.flatMap InfoEvent.sent).map (fun m => (m.accesscategory, infoView m)) ++
    s.acs.map (fun ac => (accessCategoryText ac, membersView s.dcc)) = rounds sendOrder views

theorem reports_of_run {c : DccConfig ℚ} {constructed started : ℤ}
    (hstart : DCC.start c constructed started = some machine)
    (h : Run (InfoStep sqlite) (infoStart machine tables) tr s) : Reports tr s := by
  induction h with
  | nil => exact ⟨stateText_start hstart, [], rfl⟩
  | @snoc tr s s' e _ hstep ih =>
      obtain ⟨htext, views, hviews⟩ := ih
      have hsent : (tr ++ [e]).flatMap InfoEvent.sent = tr.flatMap InfoEvent.sent ++ e.sent := by
        rw [List.flatMap_append, List.flatMap_singleton]
      have hsame (hnothing : e.sent = []) :
          (tr ++ [e]).flatMap InfoEvent.sent = tr.flatMap InfoEvent.sent := by
        rw [hsent, hnothing, List.append_nil]
      cases hstep with
      | handle _ handler dcc hacs hhandle =>
          refine ⟨stateText_handle (InfoMembers.handle_eq_some hhandle) htext, views, ?_⟩
          rw [hacs] at hviews
          rw [hsame rfl, hacs]
          exact hviews
      | measurePktStats _ mPktStats hacs =>
          refine ⟨htext, views, ?_⟩
          rw [hacs] at hviews
          rw [hsame rfl, hacs]
          exact hviews
      | sendDccInfo _ hacs =>
          refine ⟨htext, views ++ [membersView s.dcc], ?_⟩
          rw [hacs, List.map_nil, List.append_nil] at hviews
          rw [rounds_concat, ← hviews, hsame rfl, sendOrder, List.map_map]
          rfl
      | send _ ac acs r dccInfo hacs hset =>
          refine ⟨htext, views, ?_⟩
          obtain ⟨text, htext⟩ := htext
          obtain ⟨current, -, rfl⟩ := setDccInfo_eq_some htext hset
          have hkey : ((infoOf s.dcc ac r text current).accesscategory,
              infoView (infoOf s.dcc ac r text current)) =
                (accessCategoryText ac, membersView s.dcc) := by
            rw [membersView, htext]
            rfl
          rw [hsent, List.map_append, ← hviews, hacs, List.append_assoc]
          exact congrArg _ (congrArg (· :: _) hkey)
      | lose | ldm =>
          refine ⟨htext, views, ?_⟩
          rw [hsame rfl]
          exact hviews

/-- The message was sent by an iteration for its category. -/
theorem exists_of_mem_sent {m : DccInfo} (hm : m ∈ tr.flatMap InfoEvent.sent) :
    ∃ before ac r after, tr = before ++ .send ac r m :: after := by
  obtain ⟨e, he, hsent⟩ := List.mem_flatMap.mp hm
  cases e with
  | send ac r dccInfo =>
      obtain rfl := List.mem_singleton.mp hsent
      obtain ⟨before, after, rfl⟩ := List.append_of_mem he
      exact ⟨before, ac, r, after, rfl⟩
  | handle | measurePktStats | sendDccInfo | lose | ldm => cases hsent

/-- What has come into the cache is the beginning of what was taken from the queue. -/
theorem arrivedInfos_prefix_taken (h : Run (InfoStep sqlite) (infoStart machine tables) tr s) :
    arrivedInfos tr <+: tr.flatMap InfoEvent.taken := by
  have htaken : tr.flatMap InfoEvent.taken =
      Interleaving.collect ServiceEvent.insertedDccInfo (tr.flatMap InfoEvent.onLdm) := by
    rw [Interleaving.collect, List.flatMap_assoc]
    refine List.flatMap_congr fun e _ => ?_
    cases e with
    | ldm t e => exact (List.append_nil _).symm
    | handle | measurePktStats | sendDccInfo | send | lose => rfl
  rw [htaken, ← receivedDccInfos_append_pending (run_infoLdm h)]
  exact List.prefix_append _ _

/-- What arrives was sent, in the same order. -/
theorem arrived_sublist (h : Run (InfoStep sqlite) (infoStart machine tables) tr s) :
    (arrivedInfos tr).Sublist (tr.flatMap InfoEvent.sent) := by
  have hqueue := h.queue InfoEvent.sent InfoEvent.taken InfoState.queue rfl
    fun s e s' hstep => by
      cases hstep with
      | lose _ before after dccInfo hlose =>
          simp [InfoEvent.sent, InfoEvent.taken, hlose]
      | ldm _ rest hqueue _ => simp [InfoEvent.sent, InfoEvent.taken, hqueue]
      | handle | measurePktStats | sendDccInfo | send =>
          simp [InfoEvent.sent, InfoEvent.taken]
  exact (arrivedInfos_prefix_taken h).sublist.trans ((List.sublist_append_left _ _).trans hqueue)

/-- Without losses, what has arrived is the beginning of what was sent. -/
theorem arrived_prefix (h : Run (InfoStep sqlite) (infoStart machine tables) tr s)
    (hlossless : ∀ e ∈ tr, e.isLose = false) :
    arrivedInfos tr <+: tr.flatMap InfoEvent.sent := by
  have hqueue := h.queue_eq InfoEvent.sent InfoEvent.taken InfoState.queue
    (fun e => e.isLose = false) rfl
    (fun s e s' hstep hkeeps => by
      cases hstep with
      | lose => cases hkeeps
      | ldm _ rest hqueue _ => simp [InfoEvent.sent, InfoEvent.taken, hqueue]
      | handle | measurePktStats | sendDccInfo | send =>
          simp [InfoEvent.sent, InfoEvent.taken])
    hlossless
  exact (arrivedInfos_prefix_taken h).trans ⟨s.queue, hqueue⟩

/-! ## What the LDM receives -/

/-- The message has what DCC knew when it sent it. -/
structure Reported (sqlite : Sqlite) (machine : DCC ℚ) (tables : Tables) (tr : List InfoEvent)
    (ac : AccessCategory) (m : DccInfo) (s : InfoState) (r : InfoReadings) (text : String)
    (current : State ℚ) : Prop where
  sent : ∃ before after, tr = before ++ .send ac r m :: after ∧
    Run (InfoStep sqlite) (infoStart machine tables) before s
  stateText_eq : stateText s.dcc.machine.mCurrentStateId = some text
  mCurrentState_eq : s.dcc.machine.mCurrentState = some current
  eq_infoOf : m = infoOf s.dcc ac r text current

theorem exists_reported {c : DccConfig ℚ} {constructed started : ℤ}
    (hstart : DCC.start c constructed started = some machine)
    (h : Run (InfoStep sqlite) (infoStart machine tables) tr s) {m : DccInfo}
    (hm : m ∈ arrivedInfos tr) :
    ∃ ac s' r text current, Reported sqlite machine tables tr ac m s' r text current := by
  obtain ⟨before, ac, r, after, htr⟩ := exists_of_mem_sent ((arrived_sublist h).subset hm)
  have hrun := h
  rw [htr, List.append_cons] at hrun
  obtain ⟨s₁, hfirst, -⟩ := hrun.split
  obtain ⟨s', hbefore, hstep⟩ := hfirst.last_step
  obtain ⟨text, htext⟩ := (reports_of_run hstart hbefore).text
  cases hstep with
  | send _ _ acs _ _ hacs hset =>
      obtain ⟨current, hcurrent, hinfo⟩ := setDccInfo_eq_some htext hset
      exact ⟨ac, s', r, text, current, ⟨before, after, htr, hbefore⟩, htext, hcurrent, hinfo⟩

theorem accesscategory_infoOf (dcc : InfoMembers) (ac : AccessCategory) (r : InfoReadings)
    (text : String) (current : State ℚ) :
    (infoOf dcc ac r text current).accesscategory = accessCategoryText ac := rfl

theorem accessCategoryText_mem (ac : AccessCategory) :
    accessCategoryText ac ∈ accessCategories := by
  cases ac <;> decide

/-! ## The replies -/

/-- The cache has no other categories. -/
theorem mem_accessCategories_of_get? {c : DccConfig ℚ} {constructed started : ℤ}
    (hstart : DCC.start c constructed started = some machine)
    (h : Run (InfoStep sqlite) (infoStart machine tables) tr s) (hrow : WithoutRows tr)
    {category : String} (hentry : s.ldm.shared.ldm.dccInfoCache.get? category ≠ none) :
    category ∈ accessCategories := by
  obtain ⟨m, hm⟩ := Option.ne_none_iff_exists'.mp hentry
  rw [get?_infoCache h hrow] at hm
  obtain ⟨hmem, hcategory⟩ := List.mem_filter.mp (List.mem_of_getLast? hm)
  obtain ⟨ac, s', r, text, current, hreported⟩ := exists_reported hstart h hmem
  rw [← of_decide_eq_true hcategory, hreported.eq_infoOf, accesscategory_infoOf]
  exact accessCategoryText_mem ac

/-- A reply has the four categories in their order as soon as all are in the cache, and not four
messages before. -/
theorem map_accesscategory_reply {c : DccConfig ℚ} {constructed started : ℤ}
    (hstart : DCC.start c constructed started = some machine)
    (h : Run (InfoStep sqlite) (infoStart machine tables) tr s) (hrow : WithoutRows tr)
    (hall : (∀ ac, lastInfo tr ac ≠ none) ∨ 4 ≤ s.reply.data.length) :
    s.reply.data.map DccInfo.accesscategory = accessCategories := by
  apply map_accesscategory_messages fun category => mem_accessCategories_of_get? hstart h hrow
  refine hall.imp_left fun hlast => ?_
  have hentry : ∀ ac, s.ldm.shared.ldm.dccInfoCache.get? (accessCategoryText ac) ≠ none := by
    intro ac
    rw [get?_infoCache h hrow]
    exact hlast ac
  intro category hcategory
  simp only [accessCategories, List.mem_cons, List.not_mem_nil, or_false] at hcategory
  rcases hcategory with rfl | rfl | rfl | rfl
  · exact hentry .AC_BE
  · exact hentry .AC_BK
  · exact hentry .AC_VI
  · exact hentry .AC_VO

/-- A reply is made from what is in the cache then. -/
theorem exists_state_of_reply {before after : List InfoEvent} {t : LdmThread}
    {received : String × String} {reply : LdmData DccInfo}
    (h : Run (InfoStep sqlite) (infoStart machine tables)
      (before ++ .ldm t (.reply received (.dccInfos reply)) :: after) s) :
    ∃ s', Run (InfoStep sqlite) (infoStart machine tables) before s' ∧ reply = s'.reply := by
  rw [List.append_cons] at h
  obtain ⟨s₁, hrun, -⟩ := h.split
  obtain ⟨s', hbefore, hstep⟩ := hrun.last_step
  cases hstep with
  | ldm _ _ _ hstep => exact ⟨s', hbefore, eq_of_step_dccInfos hstep⟩

/-! ## The tables -/

variable {dtoa : Double → List Char} {number : Double → Json}

/-- **Rounds.**  As long as no message is lost and no request takes a row, an answer has the last
four messages that came into the cache.  They are consecutive ones of those that were sent, so that
they are from two rounds at most that follow each other, each with one channel load and one state,
and from one round if whole rounds have come. -/
theorem dccInfo_rounds {c : DccConfig ℚ} {constructed started : ℤ}
    (hstart : DCC.start c constructed started = some machine)
    {before after : List InfoEvent} {t : LdmThread} {received : String × String}
    {reply : LdmData DccInfo}
    (h : Run (InfoStep sqlite) (infoStart machine tables)
      (before ++ .ldm t (.reply received (.dccInfos reply)) :: after) s)
    (hrow : WithoutRows before) (hlossless : ∀ e ∈ before, e.isLose = false)
    (hlength : 4 ≤ (arrivedInfos before).length) :
    ∃ views : List RoundView,
      (∀ i m, (before.flatMap InfoEvent.sent)[i]? = some m →
        views[i / 4]? = some (infoView m)) ∧
      reply.data.Perm ((arrivedInfos before).drop ((arrivedInfos before).length - 4)) ∧
      ∀ m ∈ reply.data, ∃ i, (before.flatMap InfoEvent.sent)[i]? = some m ∧
        (arrivedInfos before).length - 4 ≤ i ∧ i < (arrivedInfos before).length := by
  obtain ⟨s', hbefore, rfl⟩ := exists_state_of_reply h
  have hbegins := arrived_prefix hbefore hlossless
  obtain ⟨views, hviews⟩ := (reports_of_run hstart hbefore).rounds
  have hsent : (before.flatMap InfoEvent.sent).map (fun m => (m.accesscategory, infoView m)) <+:
      rounds sendOrder views := ⟨_, hviews⟩
  have hrounds : (arrivedInfos before).map (fun m => (m.accesscategory, infoView m)) <+:
      rounds sendOrder views := (hbegins.map _).trans hsent
  have hperm : s'.reply.data.Perm (last sendOrder (arrivedInfos before)) := by
    have hnames := perm_last hrounds hlength
    have hall : ∀ ac, lastInfo before ac ≠ none := by
      intro ac
      have hmem : accessCategoryText ac ∈ sendOrder :=
        List.mem_map_of_mem (mem_mAccessCategories ac)
      rw [lastInfo, Cache.latest, getLast?_filter_eq hrounds hlength hmem, ne_eq,
        List.getLast?_eq_none_iff]
      obtain ⟨m, hm, hcategory⟩ := List.mem_map.mp (hnames.symm.subset hmem)
      exact List.ne_nil_of_mem (List.mem_filter.mpr ⟨hm, decide_eq_true hcategory⟩)
    have hcategories := map_accesscategory_reply hstart hbefore hrow (.inl hall)
    apply perm_of_getLast? hrounds hlength (by decide)
    · rw [hcategories]
      decide
    · exact fun m hm => latest_of_mem_messages hbefore hrow hm
  refine ⟨views, fun i m hi => view_of_prefix hsent (by decide) hi, hperm, fun m hm => ?_⟩
  obtain ⟨j, hj⟩ := List.mem_iff_getElem?.mp (hperm.subset hm)
  rw [last, List.getElem?_drop] at hj
  have hlt := (List.getElem?_eq_some_iff.mp hj).1
  have hsendOrder : sendOrder.length = 4 := rfl
  refine ⟨_, getElem?_of_prefix hbegins hj, ?_, hlt⟩
  omega

end

/-! ### A round

DCC has just been started, and all its numbers have two decimal places at most. -/

def firstReadings : InfoReadings := ⟨1000000000, 0, 0⟩

/-- A message comes into the table and the cache. -/
def arrival (m : DccInfo) : List InfoEvent :=
  [.ldm .receiveDccInfo (.access (.insert (.dccInfo m))),
   .ldm .receiveDccInfo (.access (.store (.dccInfo m)))]

/-- A round is sent, and arrives. -/
def roundTrace (info : AccessCategory → DccInfo) : List InfoEvent :=
  [.sendDccInfo, .send .AC_VI firstReadings (info .AC_VI), .send .AC_VO firstReadings (info .AC_VO),
    .send .AC_BE firstReadings (info .AC_BE), .send .AC_BK firstReadings (info .AC_BK)] ++
  (mAccessCategories.map info).flatMap arrival

/-- A request for DccInfos is answered. -/
def requestTrace : List InfoEvent :=
  [.ldm .receiveRequest (.request ("dccInfo", "latest")), .ldm .receiveRequest (.access .test)]

/-- The threads of the LDM are idle, with these messages in the cache and those in the queue. -/
structure Idle (arrived queue : List DccInfo) (s : InfoState) : Prop where
  receiving : s.ldm.locals .receiveDccInfo = .receiving .receiveDccInfo
  awaiting : s.ldm.locals .receiveRequest = .awaiting
  held : s.ldm.shared.held .mDccInfoMutex = false
  dccInfoCache : s.ldm.shared.ldm.dccInfoCache = LDM.new.dccInfoCache.assignAll arrived
  queue : s.queue = queue

section

variable {sqlite : Sqlite} {s₀ s : InfoState} {tr : List InfoEvent}

theorem run_moveLdm (h : Run (InfoStep sqlite) s₀ tr s) (t : LdmThread) {rest : List DccInfo}
    {l₀ l : LdmLocal} (hl : s.ldm.locals t = l₀) {e : ServiceEvent} {server : Server}
    (ha : LdmAct sqlite s.ldm.shared l₀ e server l) (hqueue : s.queue = e.insertedDccInfo ++ rest) :
    Run (InfoStep sqlite) s₀ (tr ++ [.ldm t e])
      { s with ldm := ⟨server, Function.update s.ldm.locals t l⟩, queue := rest } :=
  h.snoc (.ldm s rest hqueue (.move (hl ▸ ha)))

theorem arrival_run {arrived rest : List DccInfo} {m : DccInfo} (hs : Idle arrived (m :: rest) s) :
    ∃ s', Run (InfoStep sqlite) s (arrival m) s' ∧ Idle (arrived ++ [m]) rest s' := by
  have hinsert : Run (InfoStep sqlite) s _ _ :=
    run_moveLdm .nil .receiveDccInfo hs.receiving (.receive (.insertDccInfo m hs.held)) hs.queue
  have hstore := run_moveLdm hinsert .receiveDccInfo rfl (.receive .storeDccInfo) rfl
  refine ⟨_, hstore, rfl, hs.awaiting, hs.held, ?_, rfl⟩
  have hcache : s.ldm.shared.ldm.dccInfoCache.assign m =
      LDM.new.dccInfoCache.assignAll (arrived ++ [m]) := by
    rw [hs.dccInfoCache, Cache.assignAll, Cache.assignAll, List.foldl_append]
    rfl
  exact hcache

theorem arrivals_run {arrived messages : List DccInfo} (hs : Idle arrived messages s) :
    ∃ s', Run (InfoStep sqlite) s (messages.flatMap arrival) s' ∧
      Idle (arrived ++ messages) [] s' := by
  induction messages generalizing arrived s with
  | nil => exact ⟨s, .nil, (List.append_nil arrived).symm ▸ hs⟩
  | cons m messages ih =>
      obtain ⟨s₁, hfirst, hs₁⟩ := @arrival_run sqlite s arrived messages m hs
      obtain ⟨s₂, hrest, hs₂⟩ := ih hs₁
      refine ⟨s₂, hfirst.append hrest, ?_⟩
      rwa [List.append_assoc] at hs₂

theorem requestTrace_run {arrived : List DccInfo} {m : DccInfo}
    (hs : Idle (arrived ++ [m]) [] s) : ∃ s', Run (InfoStep sqlite) s
      (requestTrace ++ .ldm .receiveRequest
        (.reply ("dccInfo", "latest") (.dccInfos s.reply)) :: []) s' := by
  -- the cache is not empty
  have htask : (if s.ldm.shared.ldm.dccInfoCache.isEmpty then Task.lock else .reply []) =
      .reply [] := by
    have hconcat : LDM.new.dccInfoCache.assignAll (arrived ++ [m]) =
        (LDM.new.dccInfoCache.assignAll arrived).assign m := by
      rw [Cache.assignAll, List.foldl_append]
      rfl
    rw [hs.dccInfoCache, hconcat, Cache.isEmpty_assign]
    rfl
  have hrequest : Run (InfoStep sqlite) s _ _ :=
    run_moveLdm .nil .receiveRequest hs.awaiting (.request ("dccInfo", "latest")) rfl
  have htest := run_moveLdm hrequest .receiveRequest rfl (.select .test) rfl
  exact ⟨_, run_moveLdm htest .receiveRequest
    (congrArg (LdmLocal.answering ("dccInfo", "latest")) htask) .reply rfl⟩

end

theorem roundTrace_run (sqlite : Sqlite) {machine : DCC ℚ} {text : String} {current : State ℚ}
    (htext : stateText machine.mCurrentStateId = some text)
    (hcurrent : machine.mCurrentState = some current) :
    let info := fun ac =>
      infoOf (infoStart machine LDM.new.tables).dcc ac firstReadings text current
    ∃ reply s, Run (InfoStep sqlite) (infoStart machine LDM.new.tables)
      (roundTrace info ++ requestTrace ++
        .ldm .receiveRequest (.reply ("dccInfo", "latest") (.dccInfos reply)) :: []) s := by
  intro info
  have hset : ∀ ac before,
      (infoStart machine LDM.new.tables).dcc.setDccInfo ac firstReadings before = some (info ac) :=
    fun ac before => setDccInfo_eq htext hcurrent ac firstReadings before
  have hround := (Run.nil.snoc
    (@InfoStep.sendDccInfo sqlite (infoStart machine LDM.new.tables) rfl)).snoc
    (InfoStep.send _ .AC_VI _ firstReadings _ rfl (hset _ _))
  have hround := (hround.snoc (InfoStep.send _ .AC_VO _ firstReadings _ rfl (hset _ _))).snoc
    (InfoStep.send _ .AC_BE _ firstReadings _ rfl (hset _ _))
  have hround := hround.snoc (InfoStep.send _ .AC_BK _ firstReadings _ rfl (hset _ _))
  obtain ⟨s, hround, hs⟩ : ∃ s, Run (InfoStep sqlite) (infoStart machine LDM.new.tables) _ s ∧
      Idle [] (mAccessCategories.map info) s := ⟨_, hround, rfl, rfl, rfl, rfl, rfl⟩
  obtain ⟨s₁, harrivals, hs₁⟩ := @arrivals_run sqlite s [] _ hs
  obtain ⟨s₂, hrequest⟩ :=
    @requestTrace_run sqlite s₁ [info .AC_VI, info .AC_VO, info .AC_BE] (info .AC_BK) hs₁
  have hall := (hround.append harrivals).append hrequest
  rw [← List.append_assoc] at hall
  exact ⟨_, s₂, hall⟩

/-- The shipped DCC comes to a round that arrives. -/
theorem exists_round : ∃ machine info reply s, DCC.start DccConfig.shipped 0 0 = some machine ∧
    Run (InfoStep exactSqlite) (infoStart machine LDM.new.tables)
      (roundTrace info ++ requestTrace ++
        .ldm .receiveRequest (.reply ("dccInfo", "latest") (.dccInfos reply)) :: []) s := by
  obtain ⟨machine, hstart⟩ := exists_start_of_pos (c := DccConfig.shipped) (by decide) 0 0
  obtain ⟨states, current, -, hcurrent, rfl⟩ := DCC.start_eq_some hstart
  have hrelaxed : stateText (DCC.initial DccConfig.shipped states current 0 0).mCurrentStateId =
      some "relaxed" := rfl
  obtain ⟨reply, s, hrun⟩ := roundTrace_run exactSqlite hrelaxed hcurrent
  exact ⟨_, _, reply, s, hstart, hrun⟩

/-- No request has come to a row. -/
theorem withoutRows_round (info : AccessCategory → DccInfo) :
    WithoutRows (roundTrace info ++ requestTrace) := by
  intro t message hmem
  simp [roundTrace, requestTrace, arrival, mAccessCategories, InfoEvent.onLdm] at hmem

theorem dccInfo_rounds_round :
    ∃ machine info reply s,
      Run (InfoStep exactSqlite) (infoStart machine LDM.new.tables)
        (roundTrace info ++ requestTrace ++
          .ldm .receiveRequest (.reply ("dccInfo", "latest") (.dccInfos reply)) :: []) s ∧
      let before := roundTrace info ++ requestTrace
      ∃ views : List RoundView,
        (∀ i m, (before.flatMap InfoEvent.sent)[i]? = some m →
          views[i / 4]? = some (infoView m)) ∧
        reply.data.Perm ((arrivedInfos before).drop ((arrivedInfos before).length - 4)) ∧
        ∀ m ∈ reply.data, ∃ i, (before.flatMap InfoEvent.sent)[i]? = some m ∧
          (arrivedInfos before).length - 4 ≤ i ∧ i < (arrivedInfos before).length := by
  obtain ⟨machine, info, reply, s, hstart, hrun⟩ := exists_round
  have hlossless : ∀ e ∈ roundTrace info ++ requestTrace, e.isLose = false := by
    simp [roundTrace, requestTrace, arrival, mAccessCategories, InfoEvent.isLose]
  exact ⟨machine, info, reply, s, hrun,
    dccInfo_rounds hstart hrun (withoutRows_round info) hlossless (Nat.le_refl 4)⟩

end OpenC2X.System
