import OpenC2X.Ldm.Answers
import OpenC2X.Lib.LabelledRun
import OpenC2X.WebSite.Tables

/-!
# From the LDM to the web site

The LDM receives CAMs, the HTTP server answers the requests of the web site from the replies of
the LDM, and the web site takes the answers into its map.  Answers can get lost and can overtake
each other on their way, and until the web site knows its own ID it drops them.

What the web site shows of a station is the CAM that the last answer had in which the station
occurs.  If the answers arrive in their order, the whole map is what the LDM had put last into its
cache from every station when it made the last answer (`shows_lastReceived`).
-/

namespace OpenC2X.System

open Buffers Ldm HttpServer WebSite LabelledRun

/-! ## The steps -/

structure WebState where
  ldm : LdmConfig
  /-- The replies whose texts are on the way to the web site. -/
  replies : List (LdmData CAM)
  camData : StationData

inductive WebEvent
  /-- A thread of the LDM makes a step. -/
  | ldm (t : LdmThread) (e : ServiceEvent)
  /-- The text of a reply arrives. -/
  | digest (reply : LdmData CAM)
  | lose (reply : LdmData CAM)
  /-- The own ID arrives. -/
  | digestMyMac

/-- The reply to a request for CAMs.  The HTTP server writes its text. -/
def camReply : ServiceEvent → List (LdmData CAM)
  | .reply _ (.cams cams) => [cams]
  | _ => []

inductive WebStep (sqlite : Sqlite) (dtoa : Double → List Char) (mStationID : UInt32) :
    Steps WebState WebEvent
  | ldm (s : WebState) {t : LdmThread} {e : ServiceEvent} {ldm : LdmConfig}
      (h : Interleaving.Step (LdmAct sqlite) s.ldm (t, e) ldm) :
      WebStep sqlite dtoa mStationID s (.ldm t e)
        { s with ldm := ldm, replies := s.replies ++ camReply e }
  | digest (s : WebState) (before after : List (LdmData CAM)) (reply : LdmData CAM)
      (data : Json) : s.replies = before ++ reply :: after →
      Json.Denotes (requestCam dtoa (some reply)).toList data →
      WebStep sqlite dtoa mStationID s (.digest reply)
        { s with replies := before ++ after, camData := s.camData.digestCams (.ofJson data) }
  | lose (s : WebState) (before after : List (LdmData CAM)) (reply : LdmData CAM) :
      s.replies = before ++ reply :: after →
      WebStep sqlite dtoa mStationID s (.lose reply) { s with replies := before ++ after }
  | digestMyMac (s : WebState) (data : Json) : Json.Denotes (myMac mStationID).toList data →
      WebStep sqlite dtoa mStationID s .digestMyMac
        { s with camData := s.camData.digestMyMac (.ofJson data) }

/-- The LDM is started on this database, and the page has just been opened. -/
def webStart (tables : Tables) : WebState := ⟨ldmStart tables, [], StationData.new⟩

/-! ## What the trace tells -/

namespace WebEvent

def onLdm : WebEvent → LdmTrace
  | ldm t e => [(t, e)]
  | _ => []

/-- The reply that is on its way from now on. -/
def answered : WebEvent → List (LdmData CAM)
  | ldm _ e => camReply e
  | _ => []

def arrived : WebEvent → List (LdmData CAM)
  | digest reply => [reply]
  | _ => []

def isMyMac : WebEvent → Bool
  | digestMyMac => true
  | _ => false

end WebEvent

/-- The CAMs that the LDM has put into its cache. -/
def cachedCams (tr : List WebEvent) : List CAM :=
  (cachedMessages (tr.flatMap WebEvent.onLdm)).flatMap LdmMessage.cams

/-- The replies that the web site has taken: those that arrived when it knew its ID. -/
def digested (tr : List WebEvent) : List (LdmData CAM) :=
  (tr.dropWhile fun e => !e.isMyMac).flatMap WebEvent.arrived

/-- The key of a station in the map. -/
def stationText (stationid : UInt64) : List Char := Nat.toDigits 10 stationid.toNat

theorem stationText_inj {a b : UInt64} (h : stationText a = stationText b) : a = b :=
  UInt64.toNat_inj.mp (Decimal.toDigits_injective h)

section

variable {sqlite : Sqlite} {tables : Tables} {dtoa : Double → List Char}
  {number : Double → Json} {mStationID : UInt32} {tr : List WebEvent} {s : WebState}

theorem cachedCams_append (tr tr' : List WebEvent) :
    cachedCams (tr ++ tr') = cachedCams tr ++ cachedCams tr' := by
  rw [cachedCams, cachedCams, cachedCams, List.flatMap_append, cachedMessages,
    Interleaving.collect_append, List.flatMap_append]
  rfl

/-! ## The LDM -/

theorem run_ldm (h : Run (WebStep sqlite dtoa mStationID) (webStart tables) tr s) :
    Interleaving.Run (LdmAct sqlite) (ldmStart tables) (tr.flatMap WebEvent.onLdm) s.ldm := by
  induction h with
  | nil => exact .nil
  | snoc _ hstep ih =>
      rw [List.flatMap_append, List.flatMap_singleton]
      cases hstep with
      | ldm _ hstep => exact ih.snoc hstep
      | digest | lose | digestMyMac => exact (List.append_nil _).symm ▸ ih

/-- A reply has for every station what is in the cache. -/
theorem lastReceived_reply (h : Run (WebStep sqlite dtoa mStationID) (webStart tables) tr s)
    (stationid : UInt64) :
    lastReceived CAM.stationid s.ldm.shared.ldm.camCache.messages stationid =
      lastReceived CAM.stationid (cachedCams tr) stationid := by
  rw [lastReceived, (cached_of_run (run_ldm h)).filter_cams, cachedCams]
  cases lastReceived CAM.stationid
    ((cachedMessages (tr.flatMap WebEvent.onLdm)).flatMap LdmMessage.cams) stationid <;> rfl

theorem mem_cachedCams_of_mem_messages
    (h : Run (WebStep sqlite dtoa mStationID) (webStart tables) tr s) {cam : CAM}
    (hcam : cam ∈ s.ldm.shared.ldm.camCache.messages) : cam ∈ cachedCams tr :=
  (of_lastReceived_eq_some ((cached_of_run (run_ldm h)).lastReceived_of_mem_cams hcam)).1

/-- A reply of the LDM in a run. -/
theorem eq_of_camReply {c c' : LdmConfig} {t : LdmThread} {e : ServiceEvent}
    {cams : LdmData CAM} (h : Interleaving.Step (LdmAct sqlite) c (t, e) c')
    (hcams : cams ∈ camReply e) :
    (∃ received, e = .reply received (.cams cams)) ∧
      cams = ⟨.CAM, c.shared.ldm.camCache.messages⟩ := by
  unfold camReply at hcams
  split at hcams
  next received reply =>
    obtain rfl := List.mem_singleton.mp hcams
    exact ⟨⟨received, rfl⟩, eq_of_step_cams h⟩
  next => exact absurd hcams List.not_mem_nil

/-! ## The web site -/

/-- The entry of a CAM in the map. -/
def camEntry (number : Double → Json) (cam : CAM) : List Char × JsValue :=
  (stationText cam.stationid, .ofJson (shown number cam))

theorem setStations_shown {cams : List CAM} (hids : ∀ cam ∈ cams, cam.stationid.toNat < 2 ^ 53)
    (m : InsertionMap (List Char) JsValue) :
    setStations m (cams.map fun cam => .ofJson (shown number cam)) =
      m.setAll (cams.map (camEntry number)) := by
  induction cams generalizing m with
  | nil => rfl
  | cons cam cams ih =>
      have hkey : stationKey (.ofJson (shown number cam)) = some (stationText cam.stationid) :=
        stationKey_shown (hids cam List.mem_cons_self)
      rw [List.map_cons, setStations, hkey]
      exact ih (fun cam' hcam' => hids cam' (List.mem_cons_of_mem _ hcam')) _

theorem lastEntry_camEntry (cams : List CAM) (stationid : UInt64) :
    InsertionMap.lastEntry (stationText stationid) (cams.map (camEntry number)) =
      (lastReceived CAM.stationid cams stationid).map fun cam => .ofJson (shown number cam) := by
  have hfilter : ((cams.map (camEntry number)).filter fun e => e.1 = stationText stationid) =
      (cams.filter fun cam => cam.stationid = stationid).map (camEntry number) := by
    rw [List.filter_map]
    congr 2
    funext cam
    exact decide_eq_decide.mpr ⟨stationText_inj, congrArg stationText⟩
  rw [InsertionMap.lastEntry, hfilter, lastReceived, List.getLast?_map, Option.map_map]
  rfl

/-- What arrives is the text of the CAMs of the reply. -/
theorem data_eq (hdtoa : ∀ x, Json.IsItem (dtoa x) (number x)) {reply : LdmData CAM} {data : Json}
    (hdata : Json.Denotes (requestCam dtoa (some reply)).toList data) :
    data = msgsValue "CAM" (reply.data.map (shown number)) :=
  hdata.unique (denotes_requestAll (fun cam _ => isItem_pb2json hdtoa cam) (by decide))

theorem digest_msgsValue {cams : List CAM} (hids : ∀ cam ∈ cams, cam.stationid.toNat < 2 ^ 53)
    (d : StationData) :
    d.digestCams (.ofJson (msgsValue "CAM" (cams.map (shown number)))) =
      if d.init then { d with cams := d.cams.setAll (cams.map (camEntry number)) } else d := by
  have hmsgs : (JsValue.ofJson (msgsValue "CAM" (cams.map (shown number)))).get? "msgs".toList =
      some (.array (cams.map fun cam => .ofJson (shown number cam))) := by
    have hget : (msgsValue "CAM" (cams.map (shown number))).get? "msgs".toList =
        some (.array (cams.map (shown number))) := rfl
    rw [JsValue.get?_ofJson, hget, Option.map_some, JsValue.ofJson, JsValue.ofItems_eq_map,
      List.map_map]
    rfl
  rw [StationData.digestCams, hmsgs, ← setStations_shown hids]

theorem digestMyMac_eq {data : Json} (hdata : Json.Denotes (myMac mStationID).toList data)
    (d : StationData) :
    d.digestMyMac (.ofJson data) = { d with mymac := Nat.toDigits 10 mStationID.toNat } := by
  rw [hdata.unique (denotes_myMac mStationID)]
  rfl

/-! ## Runs -/

theorem digested_concat (tr : List WebEvent) (e : WebEvent) :
    digested (tr ++ [e]) =
      if tr.any WebEvent.isMyMac then digested tr ++ e.arrived else [] := by
  unfold digested
  rw [List.dropWhile_append]
  by_cases hany : tr.any WebEvent.isMyMac = true
  · have hne : ¬ (tr.dropWhile fun e => !e.isMyMac).isEmpty = true := by
      simp only [List.isEmpty_iff, List.dropWhile_eq_nil_iff]
      simpa using hany
    rw [if_neg hne, if_pos hany, List.flatMap_append, List.flatMap_singleton]
  · have hempty : (tr.dropWhile fun e => !e.isMyMac).isEmpty = true := by
      simp only [List.isEmpty_iff, List.dropWhile_eq_nil_iff]
      simpa using hany
    rw [if_pos hempty, if_neg hany]
    cases e <;> rfl

/-- What holds of the web site after every run. -/
structure Follows (number : Double → Json) (mStationID : UInt32) (tr : List WebEvent)
    (s : WebState) : Prop where
  mymac : s.camData.mymac =
    if tr.any WebEvent.isMyMac then Nat.toDigits 10 mStationID.toNat else []
  cams : ∀ stationid, s.camData.cams.get? (stationText stationid) =
    ((digested tr).filterMap fun reply =>
      lastReceived CAM.stationid reply.data stationid).getLast?.map fun cam =>
        .ofJson (shown number cam)
  entries : ∀ e ∈ s.camData.cams.entries, ∃ cam ∈ cachedCams tr, e = camEntry number cam
  replies : ∀ reply ∈ s.replies, ∀ cam ∈ reply.data, cam ∈ cachedCams tr

theorem follows_start : Follows number mStationID [] (webStart tables) where
  mymac := rfl
  cams := fun _ => rfl
  entries := fun _ h => absurd h List.not_mem_nil
  replies := fun _ h => absurd h List.not_mem_nil

theorem mem_cachedCams_concat {cam : CAM} (h : cam ∈ cachedCams tr) (e : WebEvent) :
    cam ∈ cachedCams (tr ++ [e]) := by
  rw [cachedCams_append]
  exact List.mem_append_left _ h

theorem digested_eq_nil (h : ¬ tr.any WebEvent.isMyMac = true) : digested tr = [] := by
  have hempty : tr.dropWhile (fun e => !e.isMyMac) = [] := by
    rw [List.dropWhile_eq_nil_iff]
    simpa using h
  rw [digested, hempty]
  rfl

theorem digested_concat_of_arrived_nil {e : WebEvent} (h : e.arrived = []) :
    digested (tr ++ [e]) = digested tr := by
  rw [digested_concat, h, List.append_nil]
  split
  next => rfl
  next hany => exact (digested_eq_nil hany).symm

/-- A step at which nothing arrives at the web site. -/
theorem Follows.of_camData_eq (hf : Follows number mStationID tr s) {s' : WebState}
    {e : WebEvent} (hcamData : s'.camData = s.camData) (harrived : e.arrived = [])
    (hmymac : e.isMyMac = false)
    (hreplies : ∀ reply ∈ s'.replies, ∀ cam ∈ reply.data, cam ∈ cachedCams (tr ++ [e])) :
    Follows number mStationID (tr ++ [e]) s' where
  mymac := by
    rw [hcamData, hf.mymac, List.any_append, List.any_cons, hmymac]
    simp
  cams := by
    rw [hcamData, digested_concat_of_arrived_nil harrived]
    exact hf.cams
  entries := by
    rw [hcamData]
    intro e' he'
    obtain ⟨cam, hcam, rfl⟩ := hf.entries e' he'
    exact ⟨cam, mem_cachedCams_concat hcam e, rfl⟩
  replies := hreplies

theorem mem_setAll_entries {κ α : Type} [DecidableEq κ] {m : InsertionMap κ α}
    {entries : List (κ × α)} {e : κ × α} (h : e ∈ (m.setAll entries).entries) :
    e ∈ entries ∨ e ∈ m.entries := by
  have hget := InsertionMap.get?_eq_some.mpr h
  rw [InsertionMap.get?_setAll, Option.or_eq_some_iff] at hget
  rcases hget with hlast | ⟨-, hget⟩
  · obtain ⟨e', he', hsnd⟩ := Option.map_eq_some_iff.mp hlast
    have hmem := List.mem_filter.mp (List.mem_of_getLast? he')
    have hfst : e'.1 = e.1 := of_decide_eq_true hmem.2
    exact .inl (Prod.ext hfst hsnd ▸ hmem.1)
  · exact .inr (InsertionMap.get?_eq_some.mp hget)

/-- An answer arrives. -/
theorem Follows.digest (hf : Follows number mStationID tr s)
    (hids : ∀ cam ∈ cachedCams tr, cam.stationid.toNat < 2 ^ 53)
    {before after : List (LdmData CAM)} {reply : LdmData CAM}
    (hreplies : s.replies = before ++ reply :: after) :
    Follows number mStationID (tr ++ [.digest reply])
      { s with
        replies := before ++ after
        camData := s.camData.digestCams
          (.ofJson (msgsValue "CAM" (reply.data.map (shown number)))) } := by
  have hreceived : cachedCams (tr ++ [.digest reply]) = cachedCams tr := by
    rw [cachedCams_append]
    exact List.append_nil _
  have hcams : ∀ cam ∈ reply.data, cam ∈ cachedCams tr :=
    hf.replies reply (by rw [hreplies]; simp)
  have hany : (tr ++ [WebEvent.digest reply]).any WebEvent.isMyMac = tr.any WebEvent.isMyMac := by
    rw [List.any_append]
    exact Bool.or_false _
  have hkept : ∀ reply' ∈ before ++ after, ∀ cam ∈ reply'.data,
      cam ∈ cachedCams (tr ++ [.digest reply]) := by
    intro reply' hreply'
    rw [hreceived]
    apply hf.replies
    rw [hreplies]
    rcases List.mem_append.mp hreply' with hmem | hmem <;> simp [hmem]
  rw [digest_msgsValue fun cam hcam => hids cam (hcams cam hcam)]
  by_cases hinit : s.camData.init = true
  · have hknown : tr.any WebEvent.isMyMac = true := by
      by_contra hunknown
      rw [StationData.init, hf.mymac, if_neg hunknown] at hinit
      exact absurd hinit (by decide)
    rw [if_pos hinit]
    refine ⟨?_, ?_, ?_, hkept⟩
    · rw [hany]
      exact hf.mymac
    · intro stationid
      dsimp only
      rw [InsertionMap.get?_setAll, lastEntry_camEntry, hf.cams, digested_concat,
        if_pos hknown, WebEvent.arrived, getLast?_filterMap_concat, Option.map_or]
    · intro e he
      rw [hreceived]
      rcases mem_setAll_entries he with hmem | hmem
      · obtain ⟨cam, hcam, rfl⟩ := List.mem_map.mp hmem
        exact ⟨cam, hcams cam hcam, rfl⟩
      · exact hf.entries e hmem
  · have hunknown : ¬ tr.any WebEvent.isMyMac = true := by
      intro hknown
      rw [StationData.init, hf.mymac, if_pos hknown] at hinit
      exact hinit (decide_eq_true Nat.toDigits_ne_nil)
    rw [if_neg hinit]
    refine ⟨?_, ?_, ?_, hkept⟩
    · rw [hany]
      exact hf.mymac
    · intro stationid
      dsimp only
      rw [hf.cams, digested_concat, if_neg hunknown, digested_eq_nil hunknown]
    · intro e he
      rw [hreceived]
      exact hf.entries e he

theorem follows (hdtoa : ∀ x, Json.IsItem (dtoa x) (number x))
    (h : Run (WebStep sqlite dtoa mStationID) (webStart tables) tr s)
    (hids : ∀ cam ∈ cachedCams tr, cam.stationid.toNat < 2 ^ 53) :
    Follows number mStationID tr s := by
  induction h with
  | nil => exact follows_start
  | @snoc tr s s' e hrun hstep ih =>
      have hf := ih fun cam hcam => hids cam (mem_cachedCams_concat hcam e)
      have hkept : ∀ reply ∈ s.replies, ∀ cam ∈ reply.data, cam ∈ cachedCams (tr ++ [e]) :=
        fun reply hreply cam hcam => mem_cachedCams_concat (hf.replies reply hreply cam hcam) e
      cases hstep with
      | ldm _ hstep =>
          refine hf.of_camData_eq rfl rfl rfl fun reply hreply cam hcam => ?_
          rcases List.mem_append.mp hreply with hmem | hmem
          · exact hkept reply hmem cam hcam
          · obtain ⟨-, rfl⟩ := eq_of_camReply hstep hmem
            exact mem_cachedCams_concat (mem_cachedCams_of_mem_messages hrun hcam) _
      | digest _ before after reply data hreplies hdata =>
          obtain rfl := data_eq hdtoa hdata
          exact hf.digest (fun cam hcam => hids cam (mem_cachedCams_concat hcam _)) hreplies
      | lose _ before after reply hreplies =>
          refine hf.of_camData_eq rfl rfl rfl fun reply' hreply' => hkept reply' ?_
          rw [hreplies]
          rcases List.mem_append.mp hreply' with hmem | hmem <;> simp [hmem]
      | digestMyMac _ data hdata =>
          have hany : (tr ++ [WebEvent.digestMyMac]).any WebEvent.isMyMac = true := by
            simp [WebEvent.isMyMac]
          rw [digestMyMac_eq hdata]
          exact
            { mymac := by rw [hany]; rfl
              cams := fun stationid => by
                rw [digested_concat_of_arrived_nil rfl]
                exact hf.cams stationid
              entries := fun e' he' =>
                (hf.entries e' he').imp fun cam hcam => ⟨mem_cachedCams_concat hcam.1 _, hcam.2⟩
              replies := hkept }

/-! ## Answers in their order -/

/-- The later reply has all stations of the earlier one. -/
def Covers (earlier later : LdmData CAM) : Prop :=
  ∀ stationid, lastReceived CAM.stationid earlier.data stationid ≠ none →
    lastReceived CAM.stationid later.data stationid ≠ none

theorem lastReceived_concat_ne_none {stationid : UInt64}
    (h : lastReceived CAM.stationid (cachedCams tr) stationid ≠ none) (e : WebEvent) :
    lastReceived CAM.stationid (cachedCams (tr ++ [e])) stationid ≠ none := by
  rw [lastReceived_ne_none_iff] at h ⊢
  exact h.imp fun cam hcam => ⟨mem_cachedCams_concat hcam.1 e, hcam.2⟩

/-- The LDM forgets no station, so that every reply covers the ones before. -/
theorem covers_answered (h : Run (WebStep sqlite dtoa mStationID) (webStart tables) tr s) :
    (tr.flatMap WebEvent.answered).Pairwise Covers ∧
      ∀ reply ∈ tr.flatMap WebEvent.answered, ∀ stationid,
        lastReceived CAM.stationid reply.data stationid ≠ none →
          lastReceived CAM.stationid (cachedCams tr) stationid ≠ none := by
  induction h with
  | nil => exact ⟨.nil, fun _ h => absurd h List.not_mem_nil⟩
  | @snoc tr s s' e hrun hstep ih =>
      obtain ⟨hpairwise, hknown⟩ := ih
      have hgrows : ∀ reply ∈ tr.flatMap WebEvent.answered, ∀ stationid,
          lastReceived CAM.stationid reply.data stationid ≠ none →
            lastReceived CAM.stationid (cachedCams (tr ++ [e])) stationid ≠ none :=
        fun reply hmem stationid hne =>
          lastReceived_concat_ne_none (hknown reply hmem stationid hne) e
      have hsame : tr.flatMap WebEvent.answered ++ [] = tr.flatMap WebEvent.answered :=
        List.append_nil _
      rw [List.flatMap_append, List.flatMap_singleton]
      cases hstep with
      | @ldm _ t e _ hstep =>
          have hreply : ∀ reply ∈ camReply e, ∀ stationid,
              lastReceived CAM.stationid reply.data stationid =
                lastReceived CAM.stationid (cachedCams tr) stationid := by
            intro reply hmem stationid
            obtain ⟨-, rfl⟩ := eq_of_camReply hstep hmem
            exact lastReceived_reply hrun stationid
          refine ⟨List.pairwise_append.mpr ⟨hpairwise, ?_, ?_⟩, ?_⟩
          · -- a step makes one reply at most
            dsimp only [WebEvent.answered]
            unfold camReply
            split
            · exact List.pairwise_singleton _ _
            · exact .nil
          · intro earlier hearlier later hlater stationid hne
            rw [hreply later hlater]
            exact hknown earlier hearlier stationid hne
          · intro reply hmem stationid hne
            rcases List.mem_append.mp hmem with hmem | hmem
            · exact hgrows reply hmem stationid hne
            · rw [hreply reply hmem] at hne
              exact lastReceived_concat_ne_none hne _
      | digest | lose | digestMyMac =>
          dsimp only [WebEvent.answered]
          rw [hsame]
          exact ⟨hpairwise, hgrows⟩

/-- No answer overtakes another one. -/
def InOrder (tr : List WebEvent) : Prop :=
  (tr.flatMap WebEvent.arrived).Sublist (tr.flatMap WebEvent.answered)

theorem digested_sublist (tr : List WebEvent) :
    (digested tr).Sublist (tr.flatMap WebEvent.arrived) := by
  have hsplit := congrArg (List.flatMap WebEvent.arrived)
    (List.takeWhile_append_dropWhile (p := fun e : WebEvent => !e.isMyMac) (l := tr))
  rw [List.flatMap_append] at hsplit
  rw [← hsplit]
  exact List.sublist_append_right _ _

/-- A reply is made at a step of the LDM, from what is in the cache then. -/
theorem exists_of_mem_answered (h : Run (WebStep sqlite dtoa mStationID) (webStart tables) tr s)
    {reply : LdmData CAM} (hmem : reply ∈ tr.flatMap WebEvent.answered) :
    ∃ before t received after, tr = before ++ .ldm t (.reply received (.cams reply)) :: after ∧
      ∀ stationid, lastReceived CAM.stationid reply.data stationid =
        lastReceived CAM.stationid (cachedCams before) stationid := by
  obtain ⟨e, he, hreply⟩ := List.mem_flatMap.mp hmem
  obtain ⟨before, after, rfl⟩ := List.append_of_mem he
  rw [List.append_cons] at h
  obtain ⟨s', hrun, -⟩ := h.split
  obtain ⟨s'', hbefore, hstep⟩ := hrun.last_step
  cases hstep with
  | ldm _ hstep =>
      obtain ⟨⟨received, rfl⟩, rfl⟩ := eq_of_camReply hstep hreply
      exact ⟨before, _, received, after, rfl, lastReceived_reply hbefore⟩
  | digest | lose | digestMyMac => cases hreply

/-- **The map.**  In a run in which no answer overtakes another one, the web site shows for
every station the CAM that the LDM had put last into its cache when it made the last of the
answers that were taken, and no other stations. -/
theorem shows_lastReceived (hdtoa : ∀ x, Json.IsItem (dtoa x) (number x))
    (h : Run (WebStep sqlite dtoa mStationID) (webStart tables) tr s)
    (hids : ∀ cam ∈ cachedCams tr, cam.stationid.toNat < 2 ^ 32) (horder : InOrder tr)
    {reply : LdmData CAM} (hlast : (digested tr).getLast? = some reply) :
    ∃ before t received after, tr = before ++ .ldm t (.reply received (.cams reply)) :: after ∧
      (∀ stationid, s.camData.cams.get? (stationText stationid) =
        (lastReceived CAM.stationid (cachedCams before) stationid).map fun cam =>
          .ofJson (shown number cam)) ∧
      ∀ key message, s.camData.cams.get? key = some message →
        ∃ stationid, key = stationText stationid := by
  have hf := follows hdtoa h fun cam hcam => (hids cam hcam).trans (by decide)
  have hsublist : (digested tr).Sublist (tr.flatMap WebEvent.answered) :=
    (digested_sublist tr).trans horder
  obtain ⟨earlier, hdigested⟩ := List.getLast?_eq_some_iff.mp hlast
  have hcovers : ∀ r ∈ earlier, Covers r reply := by
    have hpairwise := (covers_answered h).1.sublist hsublist
    rw [hdigested, List.pairwise_append] at hpairwise
    exact fun r hr => hpairwise.2.2 r hr reply (List.mem_singleton_self reply)
  obtain ⟨before, t, received, after, rfl, hreply⟩ :=
    exists_of_mem_answered h (hsublist.subset (List.mem_of_getLast? hlast))
  refine ⟨before, t, received, after, rfl, fun stationid => ?_, fun key message hget => ?_⟩
  · rw [hf.cams, hdigested, getLast?_filterMap_of_last fun r hr => hcovers r hr stationid, hreply]
  · obtain ⟨cam, -, hentry⟩ := hf.entries _ (InsertionMap.get?_eq_some.mp hget)
    exact ⟨cam.stationid, congrArg Prod.fst hentry⟩

/-! ## The table of received CAMs -/

/-- The entries of the map are those of CAMs. -/
theorem exists_map_camEntry {entries : List (List Char × JsValue)}
    (h : ∀ e ∈ entries, ∃ cam ∈ cachedCams tr, e = camEntry number cam) :
    ∃ cams : List CAM, entries = cams.map (camEntry number) ∧
      ∀ cam ∈ cams, cam ∈ cachedCams tr := by
  induction entries with
  | nil => exact ⟨[], rfl, fun _ h => absurd h List.not_mem_nil⟩
  | cons e entries ih =>
      obtain ⟨cam, hcam, rfl⟩ := h e List.mem_cons_self
      obtain ⟨cams, rfl, hcams⟩ := ih fun e' he' => h e' (List.mem_cons_of_mem _ he')
      exact ⟨cam :: cams, rfl, List.forall_mem_cons.mpr ⟨hcam, hcams⟩⟩

/-- Whether the CAM is one of another station. -/
def isOther (mStationID : UInt32) (cam : CAM) : Bool := cam.stationid.toNat ≠ mStationID.toNat

theorem stationText_ne_iff (cam : CAM) :
    stationText cam.stationid ≠ Nat.toDigits 10 mStationID.toNat ↔
      isOther mStationID cam = true := by
  rw [isOther, decide_eq_true_iff, ne_eq, ne_eq, stationText,
    Decimal.toDigits_injective.eq_iff]

/-- The row of a CAM, with its key. -/
def IsRowOf (number : Double → Json) (cam : CAM) (row : List Char × Row) : Prop :=
  row.1 = stationText cam.stationid ∧ camRow (.ofJson (shown number cam)) = .ok row.2

theorem map_fst_eq {cams : List CAM} {rows : List (List Char × Row)}
    (h : List.Forall₂ (IsRowOf number) cams rows) :
    rows.map Prod.fst = cams.map fun cam => stationText cam.stationid := by
  induction h with
  | nil => rfl
  | cons hrow _ ih => rw [List.map_cons, List.map_cons, hrow.1, ih]

/-- What stands in another order still stands for something. -/
theorem exists_perm_forall₂ {α β : Type*} {r : α → β → Prop} {l : List α} {l' k' : List β}
    (h : List.Forall₂ r l l') (hperm : k'.Perm l') : ∃ k, k.Perm l ∧ List.Forall₂ r k k' := by
  obtain ⟨k, hforall, hk⟩ := List.perm_comp_forall₂ hperm h.flip
  exact ⟨k, hk, hforall.flip⟩

/-- The rows are enumerated by their stations. -/
theorem exists_enumerate {cams : List CAM} {rows : List (List Char × Row)}
    (hrows : List.Forall₂ (IsRowOf number) cams rows)
    (hids : ∀ cam ∈ cams, cam.stationid.toNat < 2 ^ 32) (hnodup : (cams.map CAM.stationid).Nodup) :
    ∃ others : List CAM, others.Perm cams ∧
      (others.Pairwise fun a b => a.stationid < b.stationid) ∧
      List.Forall₂ (IsRowOf number) others (JsValue.enumerate rows) := by
  have hkeys : ∀ row ∈ rows, ∃ n < 2 ^ 32, row.1 = Nat.toDigits 10 n := by
    intro row hrow
    have hfst : row.1 ∈ rows.map Prod.fst := List.mem_map_of_mem hrow
    rw [map_fst_eq hrows] at hfst
    obtain ⟨cam, hcam, hkey⟩ := List.mem_map.mp hfst
    exact ⟨_, hids cam hcam, hkey.symm⟩
  have hdistinct : (rows.map Prod.fst).Nodup := by
    have htexts := hnodup.map fun _ _ => stationText_inj
    rw [map_fst_eq hrows]
    rwa [List.map_map] at htexts
  obtain ⟨others, hperm, hothers⟩ := exists_perm_forall₂ hrows (JsValue.enumerate_perm rows)
  refine ⟨others, hperm, ?_, hothers⟩
  have hascending : ((JsValue.enumerate rows).map Prod.fst).Pairwise fun key key' =>
      JsValue.keyNumber key < JsValue.keyNumber key' :=
    List.pairwise_map.mpr (JsValue.pairwise_enumerate hkeys hdistinct)
  rw [map_fst_eq hothers, List.pairwise_map] at hascending
  refine hascending.imp fun {a b} hlt => ?_
  rw [stationText, stationText, JsValue.keyNumber_toDigits, JsValue.keyNumber_toDigits] at hlt
  exact UInt64.lt_iff_toNat_lt.mpr hlt

theorem Follows.receivedCamDetail (hf : Follows number mStationID tr s)
    (hids : ∀ cam ∈ cachedCams tr, cam.stationid.toNat < 2 ^ 32)
    (hmymac : WebEvent.digestMyMac ∈ tr) :
    ∃ cams : List CAM, s.camData.cams.entries = cams.map (camEntry number) ∧
      (∀ cam ∈ cams, cam ∈ cachedCams tr) ∧ (cams.map CAM.stationid).Nodup ∧
      ((getReceivedCamDetail s.camData).isSome = true ↔
        ∀ cam ∈ cams, isOther mStationID cam = true → Displayable cam) ∧
      ∀ rows, getReceivedCamDetail s.camData = some rows →
        ∃ others : List CAM, others.Perm (cams.filter (isOther mStationID)) ∧
          (others.Pairwise fun a b => a.stationid < b.stationid) ∧
          List.Forall₂ (IsRowOf number) others rows := by
  obtain ⟨cams, hentries, hcams⟩ := exists_map_camEntry hf.entries
  have hany : tr.any WebEvent.isMyMac = true := List.any_eq_true.mpr ⟨_, hmymac, rfl⟩
  have hown : s.camData.mymac = Nat.toDigits 10 mStationID.toNat := by
    rw [hf.mymac, if_pos hany]
  have hinit : s.camData.init = true := by
    rw [StationData.init, hown]
    exact decide_eq_true Nat.toDigits_ne_nil
  have hnodup : (cams.map CAM.stationid).Nodup := by
    have hkeys := s.camData.cams.nodup
    rw [hentries, List.map_map] at hkeys
    have hcomp : Prod.fst ∘ camEntry number = stationText ∘ CAM.stationid := rfl
    rw [hcomp, ← List.map_map] at hkeys
    exact List.Nodup.of_map stationText hkeys
  have hdetail : getReceivedCamDetail s.camData =
      (receivedRows (Nat.toDigits 10 mStationID.toNat)
        (cams.map (camEntry number))).toOption.map JsValue.enumerate := by
    rw [getReceivedCamDetail, if_pos hinit, hown, hentries]
    cases receivedRows (Nat.toDigits 10 mStationID.toNat) (cams.map (camEntry number)) <;> rfl
  refine ⟨cams, hentries, hcams, hnodup, ?_, fun rows hrows => ?_⟩
  · have hexists : (getReceivedCamDetail s.camData).isSome = true ↔
        ∃ rows, receivedRows (Nat.toDigits 10 mStationID.toNat)
          (cams.map (camEntry number)) = .ok rows := by
      rw [hdetail]
      cases receivedRows (Nat.toDigits 10 mStationID.toNat) (cams.map (camEntry number)) <;>
        simp [Except.toOption]
    rw [hexists, exists_receivedRows_iff, List.forall_mem_map]
    refine forall₂_congr fun cam _ => ?_
    rw [← @exists_camRow_iff number cam, ← stationText_ne_iff]
    rfl
  · rw [hdetail] at hrows
    cases hreceived : receivedRows (Nat.toDigits 10 mStationID.toNat)
        (cams.map (camEntry number)) with
    | error e =>
        rw [hreceived] at hrows
        cases hrows
    | ok created =>
        rw [hreceived] at hrows
        cases hrows
        have hforall := forall₂_receivedRows hreceived
        have hfilter : ((cams.map (camEntry number)).filter fun entry =>
            entry.1 ≠ Nat.toDigits 10 mStationID.toNat) =
              (cams.filter (isOther mStationID)).map (camEntry number) := by
          rw [List.filter_map]
          congr 2
          funext cam
          rw [Bool.eq_iff_iff, ← stationText_ne_iff, Function.comp_apply, decide_eq_true_iff]
          rfl
        rw [hfilter, List.forall₂_map_left_iff] at hforall
        have hothers : ((cams.filter (isOther mStationID)).map CAM.stationid).Nodup :=
          hnodup.sublist (List.filter_sublist.map _)
        refine exists_enumerate hforall (fun cam hcam => ?_) hothers
        exact hids cam (hcams cam (List.mem_filter.mp hcam).1)

/-- **The table.**  The map has CAMs of different stations.  The table of the other stations is
shown exactly if each of their CAMs can be displayed: a single one that cannot hides all of it.
Then it has one row for each of them, by ascending station IDs. -/
theorem getReceivedCamDetail_iff (hdtoa : ∀ x, Json.IsItem (dtoa x) (number x))
    (h : Run (WebStep sqlite dtoa mStationID) (webStart tables) tr s)
    (hids : ∀ cam ∈ cachedCams tr, cam.stationid.toNat < 2 ^ 32)
    (hmymac : WebEvent.digestMyMac ∈ tr) :
    ∃ cams : List CAM, s.camData.cams.entries = cams.map (camEntry number) ∧
      (∀ cam ∈ cams, cam ∈ cachedCams tr) ∧ (cams.map CAM.stationid).Nodup ∧
      ((getReceivedCamDetail s.camData).isSome = true ↔
        ∀ cam ∈ cams, isOther mStationID cam = true → Displayable cam) ∧
      ∀ rows, getReceivedCamDetail s.camData = some rows →
        ∃ others : List CAM, others.Perm (cams.filter (isOther mStationID)) ∧
          (others.Pairwise fun a b => a.stationid < b.stationid) ∧
          List.Forall₂ (IsRowOf number) others rows := by
  have hf := follows hdtoa h fun cam hcam => (hids cam hcam).trans (by decide)
  exact hf.receivedCamDetail hids hmymac

end

/-! ### A run with two stations -/

/-- The CAM of another station. -/
def carCam (stationID : UInt64) : CAM :=
  { vehicleCam with
    header := some
      { protocolVersion := some 1, messageID := some 2, stationID := some stationID } }

/-- The reply of an LDM that has received CAMs of these stations. -/
def carReply (stationIDs : List UInt64) : LdmData CAM :=
  ⟨.CAM, (LDM.new.camCache.assignAll (stationIDs.map carCam)).messages⟩

/-- A CAM is received, and the next answer arrives. -/
def carRound (stationID : UInt64) (reply : LdmData CAM) : List WebEvent :=
  [.ldm .receiveFromCa (.access (.store (.cam (carCam stationID)))),
   .ldm .receiveFromCa (.access (.insert (.cam (carCam stationID)))),
   .ldm .receiveRequest (.request ("CAM", "latest")), .ldm .receiveRequest (.access .test),
   .ldm .receiveRequest (.reply ("CAM", "latest") (.cams reply)), .digest reply]

/-- Station 9 comes before station 8. -/
def webTrace : List WebEvent :=
  .digestMyMac :: (carRound 9 (carReply [9]) ++ carRound 8 (carReply [9, 8]))

/-- The threads are idle, and the cache has CAMs of these stations. -/
structure Shown (stationIDs : List UInt64) (s : WebState) : Prop where
  receiving : s.ldm.locals .receiveFromCa = .receiving .receiveFromCa
  awaiting : s.ldm.locals .receiveRequest = .awaiting
  held : s.ldm.shared.held .mCamMutex = false
  replies : s.replies = []
  camCache : s.ldm.shared.ldm.camCache = LDM.new.camCache.assignAll (stationIDs.map carCam)

section

variable {sqlite : Sqlite} {tables : Tables} {mStationID : UInt32} {s₀ s : WebState}
  {tr : List WebEvent}

theorem run_move (h : Run (WebStep sqlite writeCents mStationID) s₀ tr s) (t : LdmThread)
    {l₀ l : LdmLocal} (hl : s.ldm.locals t = l₀) {e : ServiceEvent} {server : Server}
    (ha : LdmAct sqlite s.ldm.shared l₀ e server l) :
    Run (WebStep sqlite writeCents mStationID) s₀ (tr ++ [.ldm t e])
      { s with
        ldm := ⟨server, Function.update s.ldm.locals t l⟩
        replies := s.replies ++ camReply e } :=
  h.snoc (.ldm s (.move (hl ▸ ha)))

theorem carRound_run {stationIDs : List UInt64} (hs : Shown stationIDs s) (stationID : UInt64) :
    ∃ s', Run (WebStep sqlite writeCents mStationID) s
      (carRound stationID (carReply (stationIDs ++ [stationID]))) s' ∧
      Shown (stationIDs ++ [stationID]) s' := by
  have hcache : s.ldm.shared.ldm.camCache.assign (carCam stationID) =
      LDM.new.camCache.assignAll ((stationIDs ++ [stationID]).map carCam) := by
    rw [hs.camCache, List.map_append, List.map_singleton, Cache.assignAll, Cache.assignAll,
      List.foldl_append]
    rfl
  have hreply : (⟨.CAM, (s.ldm.shared.ldm.camCache.assign (carCam stationID)).messages⟩ :
      LdmData CAM) = carReply (stationIDs ++ [stationID]) := by rw [hcache, carReply]
  have hact : ∀ server : Server,
      server.ldm.camCache = s.ldm.shared.ldm.camCache.assign (carCam stationID) →
      LdmAct sqlite server (.answering ("CAM", "latest") (.reply []))
        (.reply ("CAM", "latest") (.cams (carReply (stationIDs ++ [stationID])))) server
        .awaiting := by
    intro server hserver
    rw [← hreply, ← hserver]
    exact .reply
  -- the cache is not empty
  have htask : (if (s.ldm.shared.ldm.camCache.assign (carCam stationID)).isEmpty then Task.lock
      else .reply []) = .reply [] := by
    rw [Cache.isEmpty_assign]
    rfl
  have hstore : Run (WebStep sqlite writeCents mStationID) s _ _ :=
    run_move .nil .receiveFromCa hs.receiving (.receive (.storeCam (carCam stationID)))
  have hinsert := run_move hstore .receiveFromCa rfl (.receive (.insertCam hs.held))
  have hrequest := run_move hinsert .receiveRequest hs.awaiting (.request ("CAM", "latest"))
  have htest := run_move hrequest .receiveRequest rfl (.select .test)
  have hanswer := run_move htest .receiveRequest
    (congrArg (LdmLocal.answering ("CAM", "latest")) htask) (hact _ rfl)
  have hqueue : s.replies ++ [] ++ [] ++ [] ++ [] ++ [carReply (stationIDs ++ [stationID])] =
      [] ++ carReply (stationIDs ++ [stationID]) :: [] := by
    simp [hs.replies]
  have htext : Json.Denotes
      (requestCam writeCents (some (carReply (stationIDs ++ [stationID])))).toList
        (msgsValue "CAM" ((carReply (stationIDs ++ [stationID])).data.map (shown centsJson))) :=
    denotes_requestAll (fun cam _ => isItem_pb2json isItem_writeCents cam) (by decide)
  exact ⟨_, hanswer.snoc (.digest _ [] [] _ _ hqueue htext), rfl, rfl, hs.held, rfl, hcache⟩

theorem webTrace_run (mStationID : UInt32) :
    ∃ s, Run (WebStep sqlite writeCents mStationID) (webStart tables) webTrace s := by
  have hmymac : Run (WebStep sqlite writeCents mStationID) (webStart tables) _ _ :=
    .single (.digestMyMac _ _ (denotes_myMac mStationID))
  obtain ⟨s, hfirst, hs⟩ := @carRound_run sqlite mStationID
    { webStart tables with
      camData := (webStart tables).camData.digestMyMac
        (.ofJson (.object [("myMac".toList, .string (Nat.toDigits 10 mStationID.toNat))])) }
    [] ⟨rfl, rfl, rfl, rfl, rfl⟩ 9
  obtain ⟨s', hsecond, -⟩ := @carRound_run sqlite mStationID s [9] hs 8
  exact ⟨s', (hmymac.append hfirst).append hsecond⟩

theorem webTrace_stationids : ∀ cam ∈ cachedCams webTrace, cam.stationid.toNat < 2 ^ 32 := by
  have hcams : cachedCams webTrace = [carCam 9, carCam 8] := rfl
  rw [hcams]
  decide

theorem shows_lastReceived_webTrace :
    ∃ s, Run (WebStep exactSqlite writeCents 7) (webStart LDM.new.tables) webTrace s ∧
      ∃ before t received after,
        webTrace = before ++ .ldm t (.reply received (.cams (carReply [9, 8]))) :: after ∧
        (∀ stationid, s.camData.cams.get? (stationText stationid) =
          (lastReceived CAM.stationid (cachedCams before) stationid).map fun cam =>
            .ofJson (shown centsJson cam)) ∧
        ∀ key message, s.camData.cams.get? key = some message →
          ∃ stationid, key = stationText stationid := by
  obtain ⟨s, h⟩ := @webTrace_run exactSqlite LDM.new.tables 7
  exact ⟨s, h, shows_lastReceived isItem_writeCents h webTrace_stationids (List.Sublist.refl _) rfl⟩

theorem getReceivedCamDetail_webTrace :
    ∃ s, Run (WebStep exactSqlite writeCents 7) (webStart LDM.new.tables) webTrace s ∧
      ∃ cams : List CAM, s.camData.cams.entries = cams.map (camEntry centsJson) ∧
        (∀ cam ∈ cams, cam ∈ cachedCams webTrace) ∧ (cams.map CAM.stationid).Nodup ∧
        ((getReceivedCamDetail s.camData).isSome = true ↔
          ∀ cam ∈ cams, isOther 7 cam = true → Displayable cam) ∧
        ∀ rows, getReceivedCamDetail s.camData = some rows →
          ∃ others : List CAM, others.Perm (cams.filter (isOther 7)) ∧
            (others.Pairwise fun a b => a.stationid < b.stationid) ∧
            List.Forall₂ (IsRowOf centsJson) others rows := by
  obtain ⟨s, h⟩ := @webTrace_run exactSqlite LDM.new.tables 7
  exact ⟨s, h, getReceivedCamDetail_iff isItem_writeCents h webTrace_stationids
    List.mem_cons_self⟩

end

end OpenC2X.System
