import OpenC2X.System.CamExchange
import OpenC2X.System.WebSite

/-!
# From the services to the web sites

All nodes with all their parts: the CA services, the DCCs and the network between them, the LDMs,
and at every node an HTTP server and a web site that gets its answers.  A run of all this is a run
of the services, the network and the LDMs (`run_exchange`), and at every node a run of the LDM and
the web site (`run_atWeb`).

One CAM that calls its station a vehicle and has no container of one hides the whole table of
received CAMs from the user.  CA services generate none, and nothing on the way makes one, as long
as the threads of the service do not send to the LDM at the same time and no request takes a row
of the table, which has no containers: `receivedCamDetail_shown` is about these runs of nodes that
all run this software.
-/

namespace OpenC2X.System

open Cam Dcc Ldm HttpServer WebSite LabelledRun

/-! ## The nodes -/

variable {N Tid R : Type*} [DecidableEq N]

/-- The exchange of CAMs, and at every node the answers on their way and the web site. -/
structure Sites (N Tid R : Type*) where
  exchange : Exchange N Tid (CaService R) Asn1.CAM Buffers.CAM
  replies : N → List (Buffers.LdmData Buffers.CAM)
  camData : N → StationData

namespace Sites

/-- The LDM of a node with its web site. -/
def web (x : Sites N Tid R) (n : N) : WebState :=
  ⟨(x.exchange.nodes n).ldm, x.replies n, x.camData n⟩

def setWeb (x : Sites N Tid R) (n : N) (w : WebState) : Sites N Tid R :=
  { x with
    replies := Function.update x.replies n w.replies
    camData := Function.update x.camData n w.camData }

end Sites

theorem web_setWeb (x : Sites N Tid R) (n : N) (w : WebState)
    (hldm : w.ldm = (x.exchange.nodes n).ldm) : (x.setWeb n w).web n = w := by
  simp only [Sites.web, Sites.setWeb, Function.update_self, ← hldm]

theorem web_setWeb_of_ne (x : Sites N Tid R) {n n' : N} (hne : n' ≠ n) (w : WebState) :
    (x.setWeb n' w).web n = x.web n := by
  simp only [Sites.web, Sites.setWeb, Function.update_of_ne (Ne.symm hne)]

inductive SitesEvent (N Tid R : Type*)
  | exchange (e : ExchangeEvent N Tid (Input R) Asn1.CAM Buffers.CAM)
  | web (n : N) (e : WebEvent)

variable [DecidableEq Tid] [Field R] [LinearOrder R] [FloorRing R]

/-- What an event of the exchange is for the LDM of a node. -/
def atLdm (config : N → NodeConfig) (service : Service (Input R) (CaService R) Asn1.CAM Buffers.CAM)
    (n : N) (e : ExchangeEvent N Tid (Input R) Asn1.CAM Buffers.CAM) : LdmTrace :=
  (atNode config service.type n e).flatMap (NodeEvent.onLdm service)

/-- The answers for the web site of a node. -/
def camReplies (tr : LdmTrace) : List (Buffers.LdmData Buffers.CAM) :=
  tr.flatMap fun e => camReply e.2

/-- The steps of the LDMs are those of the exchange. -/
inductive SitesStep (sqlite : Sqlite) (config : N → NodeConfig)
    (service : Service (Input R) (CaService R) Asn1.CAM Buffers.CAM) (mStationID : N → UInt32)
    (dtoa : Double → List Char) : Steps (Sites N Tid R) (SitesEvent N Tid R)
  | exchange {x : Sites N Tid R} {e : ExchangeEvent N Tid (Input R) Asn1.CAM Buffers.CAM}
      {y : Exchange N Tid (CaService R) Asn1.CAM Buffers.CAM}
      (h : ExchangeStep sqlite config service x.exchange e y) :
      SitesStep sqlite config service mStationID dtoa x (.exchange e)
        { x with
          exchange := y
          replies := fun n => x.replies n ++ camReplies (atLdm config service n e) }
  | web {x : Sites N Tid R} {n : N} {e : WebEvent} {w : WebState} (hother : e.onLdm = [])
      (h : WebStep sqlite dtoa (mStationID n) (x.web n) e w) :
      SitesStep sqlite config service mStationID dtoa x (.web n e) (x.setWeb n w)

/-- All processes are started, the LDMs on these databases, and all pages have just been opened. -/
def sitesStart (Tid : Type*) (config : N → NodeConfig) (mPacket : N → PacketBuffer)
    (mConfig : N → CaServiceConfig R) (mStationID : N → UInt32) (lastHeading : N → R)
    (tables : N → Tables) : Sites N Tid R where
  exchange := camStart Tid config mPacket mConfig mStationID lastHeading tables
  replies _ := []
  camData _ := StationData.new

/-! ## The parts of a run -/

namespace SitesEvent

def exchanged : SitesEvent N Tid R → List (ExchangeEvent N Tid (Input R) Asn1.CAM Buffers.CAM)
  | exchange e => [e]
  | web _ _ => []

/-- What an event is for the LDM and the web site of a node. -/
def atWeb (config : N → NodeConfig) (service : Service (Input R) (CaService R) Asn1.CAM Buffers.CAM)
    (n : N) : SitesEvent N Tid R → List WebEvent
  | exchange e => (atLdm config service n e).map fun (t, e) => .ldm t e
  | web n' e => if n' = n then [e] else []

end SitesEvent

variable {sqlite : Sqlite} {config : N → NodeConfig} {mPacket : N → PacketBuffer} {env : Env R}
  {uper_decode : List UInt8 → Option Asn1.CAM} {mConfig : N → CaServiceConfig R}
  {mStationID : N → UInt32} {lastHeading : N → R} {tables : N → Tables}
  {dtoa : Double → List Char} {number : Double → Json} {tr : List (SitesEvent N Tid R)}
  {x : Sites N Tid R}

/-- What the threads of the LDM do is seen by the web site. -/
theorem run_web_of_ldm {mac : UInt32} {w : WebState} {events : LdmTrace} {ldm : LdmConfig}
    (h : Interleaving.Run (LdmAct sqlite) w.ldm events ldm) :
    Run (WebStep sqlite dtoa mac) w (events.map fun (t, e) => .ldm t e)
      ⟨ldm, w.replies ++ camReplies events, w.camData⟩ := by
  induction h with
  | nil =>
      rw [camReplies, List.flatMap_nil, List.append_nil]
      exact .nil
  | @snoc events ldm ldm' e _ hstep ih =>
      rw [List.map_append, List.map_singleton, camReplies, List.flatMap_append,
        List.flatMap_singleton, ← List.append_assoc]
      exact ih.snoc (.ldm _ hstep)

theorem ldm_eq_of_onLdm {mac : UInt32} {w w' : WebState} {e : WebEvent}
    (h : WebStep sqlite dtoa mac w e w') (hother : e.onLdm = []) : w'.ldm = w.ldm := by
  cases h with
  | ldm => cases hother
  | digest | lose | digestMyMac => rfl

section

variable (h : Run (SitesStep sqlite config (camService env uper_decode) mStationID dtoa)
  (sitesStart Tid config mPacket mConfig mStationID lastHeading tables) tr x)

include h

theorem run_exchange : Run (ExchangeStep sqlite config (camService env uper_decode))
    (camStart Tid config mPacket mConfig mStationID lastHeading tables)
    (tr.flatMap SitesEvent.exchanged) x.exchange := by
  refine h.project Sites.exchange SitesEvent.exchanged fun x e x' hstep => ?_
  cases hstep with
  | exchange hstep => exact .single hstep
  | web _ _ => exact .nil

theorem run_atWeb (n : N) : Run (WebStep sqlite dtoa (mStationID n)) (webStart (tables n))
    (tr.flatMap (SitesEvent.atWeb config (camService env uper_decode) n)) (x.web n) := by
  refine h.project (fun x => x.web n) (SitesEvent.atWeb config (camService env uper_decode) n)
    fun x e x' hstep => ?_
  cases hstep with
  | exchange hstep => exact run_web_of_ldm (run_nodeLdm (step_node hstep n))
  | @web _ n' e w hother hstep =>
      by_cases hn : n' = n
      · subst hn
        rw [web_setWeb x n' w (ldm_eq_of_onLdm hstep hother), SitesEvent.atWeb, if_pos rfl]
        exact .single hstep
      · rw [web_setWeb_of_ne x hn, SitesEvent.atWeb, if_neg hn]
        exact .nil

/-- The LDM does the same in both runs. -/
theorem onLdm_atWeb (n : N) :
    (tr.flatMap (SitesEvent.atWeb config (camService env uper_decode) n)).flatMap WebEvent.onLdm =
      ldmTrace config (camService env uper_decode) n (tr.flatMap SitesEvent.exchanged) := by
  refine h.invariant (fun tr _ =>
    (tr.flatMap (SitesEvent.atWeb config (camService env uper_decode) n)).flatMap WebEvent.onLdm =
      ldmTrace config (camService env uper_decode) n (tr.flatMap SitesEvent.exchanged)) rfl ?_
  intro tr x e x' ih hstep
  rw [ldmTrace] at ih ⊢
  simp only [List.flatMap_append, nodeTrace_append, List.flatMap_singleton] at ih ⊢
  rw [ih]
  congr 1
  cases hstep with
  | @exchange _ e =>
      rw [SitesEvent.exchanged, nodeTrace, List.flatMap_singleton, SitesEvent.atWeb,
        List.flatMap_map]
      exact List.flatMap_singleton' _
  | @web _ n' e w hother =>
      rw [SitesEvent.exchanged, SitesEvent.atWeb]
      split
      next => rw [List.flatMap_singleton, hother]; rfl
      next => rfl

/-- The CAMs in the cache of the LDM are those that are stored in the exchange. -/
theorem cachedCams_atWeb (hcodec : CamCodec env.uper_encode uper_decode) {n : N}
    (hrow : TakesNoRow (ldmTrace config (camService env uper_decode) n
      (tr.flatMap SitesEvent.exchanged))) :
    cachedCams (tr.flatMap (SitesEvent.atWeb config (camService env uper_decode) n)) =
      storedAt config (camService env uper_decode) n (tr.flatMap SitesEvent.exchanged) := by
  rw [cachedCams, onLdm_atWeb h]
  exact protos_cached (run_exchange h) (camService_lawful hcodec) hrow

end

/-! ## Generated CAMs -/

theorem basicVehicle_convert {cam : Asn1.CAM} {v : Asn1.BasicVehicleContainerHighFrequency}
    (h : cam.highFrequencyContainer = .basicVehicleContainerHighFrequency v) :
    (Cam.convertAsn1toProtoBuf cam).basicvehiclehighfreqcontainer ≠ none := by
  obtain ⟨header, ⟨generationDeltaTime, ⟨basicContainer, highFrequencyContainer⟩⟩⟩ := cam
  cases h
  exact Option.some_ne_none _

/-- A CAM has the container of a vehicle if it calls its station one. -/
theorem displayable_generateCam (s : CaService R) (currTime : ℤ) :
    Displayable (Cam.convertAsn1toProtoBuf (s.generateCam env currTime).2) := by
  have hstationType : (Cam.convertAsn1toProtoBuf
      (s.generateCam env currTime).2).basiccontainer.value.stationType.value =
        .ofInt (if s.mConfig.mIsRSU then Asn1.StationType_roadSideUnit
          else Asn1.StationType_passengerCar) := rfl
  intro hvehicle
  rw [hstationType] at hvehicle
  cases hrsu : s.mConfig.mIsRSU with
  | true =>
      rw [hrsu] at hvehicle
      exact absurd hvehicle (by decide)
  | false =>
      have hcontainer := s.generateCam_highFrequencyContainer env currTime
      rw [CaService.highFrequencyContainer, hrsu] at hcontainer
      exact basicVehicle_convert hcontainer

theorem displayable_of_mem_generated
    {tr : List (NodeEvent (Input R) Asn1.CAM Buffers.CAM)} {start : CaService R} {tables : Tables}
    {x : Node (CaService R) Asn1.CAM Buffers.CAM}
    (h : Run (NodeStep sqlite (camService env uper_decode))
      (nodeStart Asn1.CAM Buffers.CAM start tables) tr x) :
    ∀ cam ∈ tr.flatMap NodeEvent.generated, Displayable (Cam.convertAsn1toProtoBuf cam) := by
  refine h.invariant (fun tr _ => ∀ cam ∈ tr.flatMap NodeEvent.generated,
    Displayable (Cam.convertAsn1toProtoBuf cam)) (fun _ hcam => absurd hcam List.not_mem_nil) ?_
  intro tr x e x' ih hstep cam hcam
  rw [List.flatMap_append, List.flatMap_singleton] at hcam
  rcases List.mem_append.mp hcam with hold | hnew
  · exact ih cam hold
  · cases hstep with
    | send _ _ hhandle =>
        obtain rfl := List.mem_singleton.mp hnew
        obtain ⟨r, sent, halarm, rfl, -⟩ := camService_handle hhandle
        obtain ⟨-, -, hsent⟩ := CaService.alarm_sent halarm
        rw [hsent]
        exact displayable_generateCam _ _
    | _ => exact absurd hnew List.not_mem_nil

/-! ## The tables -/

theorem exists_mem_of_forall₂ {α β : Type*} {r : α → β → Prop} {l : List α} {l' : List β}
    (h : List.Forall₂ r l l') {b : β} (hb : b ∈ l') : ∃ a ∈ l, r a b := by
  induction h with
  | nil => exact absurd hb List.not_mem_nil
  | cons hfirst _ ih =>
      rcases List.mem_cons.mp hb with rfl | hrest
      · exact ⟨_, List.mem_cons_self, hfirst⟩
      · obtain ⟨a, ha, hab⟩ := ih hrest
        exact ⟨a, List.mem_cons_of_mem _ ha, hab⟩

/-- The rows come by ascending stations. -/
theorem pairwise_keys {cams : List Buffers.CAM} {rows : List (List Char × Row)}
    (hrows : List.Forall₂ (IsRowOf number) cams rows)
    (hcams : cams.Pairwise fun a b => a.stationid < b.stationid) :
    (rows.map fun row => JsValue.keyNumber row.1).Pairwise (· < ·) := by
  have hkeys : (rows.map fun row => JsValue.keyNumber row.1) =
      cams.map fun cam => cam.stationid.toNat := by
    have hfst := congrArg (List.map JsValue.keyNumber) (map_fst_eq hrows)
    rw [List.map_map, List.map_map] at hfst
    refine hfst.trans (List.map_congr_left fun cam _ => ?_)
    exact JsValue.keyNumber_toDigits _
  rw [hkeys, List.pairwise_map]
  exact hcams.imp fun hlt => UInt64.lt_iff_toNat_lt.mp hlt

/-- **The table of received CAMs.**  In every run of nodes with this software, a web site that knows
its own ID shows the table, as long as at its node the threads of the service do not send to the
LDM at the same time and no request takes a row.  The table has one row for a station, by ascending
station IDs, and this is the row of a CAM that was generated, with this station, at a node that is
heard. -/
theorem receivedCamDetail_shown [Fintype N] [Fintype Tid]
    (hcodec : CamCodec env.uper_encode uper_decode)
    (hdtoa : ∀ x, Json.IsItem (dtoa x) (number x))
    (h : Run (SitesStep sqlite config (camService env uper_decode) mStationID dtoa)
      (sitesStart Tid config mPacket mConfig mStationID lastHeading tables) tr x) {n : N}
    (hapart : SendsApart (nodeTrace config (camService env uper_decode) n
      (tr.flatMap SitesEvent.exchanged)))
    (hrow : TakesNoRow (ldmTrace config (camService env uper_decode) n
      (tr.flatMap SitesEvent.exchanged)))
    (hmymac : .web n .digestMyMac ∈ tr) :
    ∃ rows, getReceivedCamDetail (x.camData n) = some rows ∧
      (rows.map fun row => JsValue.keyNumber row.1).Pairwise (· < ·) ∧
      ∀ row ∈ rows, ∃ n' ∈ heard config n, mStationID n' ≠ mStationID n ∧
        row.1 = stationText (mStationID n').toUInt64 ∧
        ∃ cam ∈ generatedAt config (camService env uper_decode) n'
            (tr.flatMap SitesEvent.exchanged),
          WebSite.camRow (.ofJson (Buffers.shown number (Cam.convertAsn1toProtoBuf cam))) =
            .ok row.2 := by
  have hgenerated : ∀ cam ∈ cachedCams
      (tr.flatMap (SitesEvent.atWeb config (camService env uper_decode) n)),
      ∃ n', (n' = n ∨ n' ∈ heard config n) ∧ cam.stationid = (mStationID n').toUInt64 ∧
        ∃ generatedCam ∈ generatedAt config (camService env uper_decode) n'
            (tr.flatMap SitesEvent.exchanged),
          Cam.convertAsn1toProtoBuf generatedCam = cam := by
    intro cam hcam
    rw [cachedCams_atWeb h hcodec hrow] at hcam
    exact exists_generated_of_stored hcodec (run_exchange h) hapart hcam
  have hids : ∀ cam ∈ cachedCams
      (tr.flatMap (SitesEvent.atWeb config (camService env uper_decode) n)),
      cam.stationid.toNat < 2 ^ 32 := by
    intro cam hcam
    obtain ⟨n', -, hstation, -⟩ := hgenerated cam hcam
    rw [hstation, UInt32.toNat_toUInt64]
    exact UInt32.toNat_lt _
  have hknown : WebEvent.digestMyMac ∈
      tr.flatMap (SitesEvent.atWeb config (camService env uper_decode) n) := by
    refine List.mem_flatMap.mpr ⟨_, hmymac, ?_⟩
    rw [SitesEvent.atWeb, if_pos rfl]
    exact List.mem_singleton_self _
  have hf := follows hdtoa (run_atWeb h n) fun cam hcam => (hids cam hcam).trans (by decide)
  obtain ⟨cams, -, hcams, -, hshown, hrows⟩ := hf.receivedCamDetail hids hknown
  have hdisplayable : ∀ cam ∈ cams, isOther (mStationID n) cam = true → Displayable cam := by
    intro cam hcam _
    obtain ⟨n', -, -, generatedCam, hmem, rfl⟩ := hgenerated cam (hcams cam hcam)
    exact displayable_of_mem_generated (run_node (run_exchange h) n') generatedCam hmem
  obtain ⟨rows, hdetail⟩ := Option.isSome_iff_exists.mp (hshown.mpr hdisplayable)
  obtain ⟨others, hperm, hascending, hforall⟩ := hrows rows hdetail
  refine ⟨rows, hdetail, pairwise_keys hforall hascending, fun row hrow => ?_⟩
  obtain ⟨cam, hcam, hkey, hrow⟩ := exists_mem_of_forall₂ hforall hrow
  obtain ⟨hmem, hother⟩ := List.mem_filter.mp (hperm.mem_iff.mp hcam)
  obtain ⟨n', hn', hstation, generatedCam, hgenerated, rfl⟩ := hgenerated cam (hcams cam hmem)
  have hne : mStationID n' ≠ mStationID n := by
    intro hsame
    rw [isOther, hstation, hsame] at hother
    exact absurd (UInt32.toNat_toUInt64 _) (of_decide_eq_true hother)
  refine ⟨n', hn'.resolve_left ?_, hne, hstation ▸ hkey, generatedCam, hgenerated, hrow⟩
  rintro rfl
  exact hne rfl

/-! ### The first CAM -/

omit [Field R] [LinearOrder R] [FloorRing R] in
/-- A run of the services and the LDMs is one of all parts. -/
theorem exists_run_of_exchange {service : Service (Input R) (CaService R) Asn1.CAM Buffers.CAM}
    {events : List (ExchangeEvent N Tid (Input R) Asn1.CAM Buffers.CAM)}
    {y : Exchange N Tid (CaService R) Asn1.CAM Buffers.CAM}
    (h : Run (ExchangeStep sqlite config service) x.exchange events y) :
    Run (SitesStep sqlite config service mStationID dtoa) x (events.map .exchange)
      { x with
        exchange := y
        replies := fun n => x.replies n ++ camReplies (ldmTrace config service n events) } := by
  induction h with
  | nil =>
      have hnone : ∀ n : N, camReplies (ldmTrace config service n
        ([] : List (ExchangeEvent N Tid (Input R) Asn1.CAM Buffers.CAM))) = [] := fun _ => rfl
      simp only [hnone, List.append_nil]
      exact .nil
  | @snoc events y y' e _ hstep ih =>
      have hone : ∀ n, camReplies (ldmTrace config service n (events ++ [e])) =
          camReplies (ldmTrace config service n events) ++
            camReplies (atLdm config service n e) := by
        intro n
        rw [ldmTrace, nodeTrace_append, List.flatMap_append, camReplies, List.flatMap_append,
          nodeTrace, nodeTrace, List.flatMap_singleton]
        rfl
      rw [List.map_append, List.map_singleton]
      simp only [hone, ← List.append_assoc]
      exact ih.snoc (.exchange hstep)

def stationIds (second : Bool) : UInt32 := if second then 2 else 1

def twoSites : Sites Bool Unit ℚ :=
  sitesStart Unit twoNodes (fun _ => staleCam) (fun _ => defaultConfig) stationIds (fun _ => 0)
    fun _ => LDM.new.tables

/-- What happens up to the answer with the CAM of the first node. -/
def answeredTrace : List (ExchangeEvent Bool Unit (Input ℚ) Asn1.CAM Buffers.CAM) :=
  requestedTrace ++ [.node true (.ldm .receiveRequest
    (.reply ("CAM", "latest") (.cams firstReply)))]

/-- The second node shows the CAM of the first one. -/
def firstShown : List (SitesEvent Bool Unit ℚ) :=
  answeredTrace.map .exchange ++ [.web true .digestMyMac, .web true (.digest firstReply)]

theorem firstShown_run : ∃ x,
    Run (SitesStep exactSqlite twoNodes packedService stationIds writeCents) twoSites firstShown
      x := by
  obtain ⟨y, hexchange⟩ := requestedTrace_run
  have hanswered : Run (SitesStep exactSqlite twoNodes packedService stationIds writeCents)
      twoSites (answeredTrace.map .exchange) _ := exists_run_of_exchange hexchange
  have hmymac := hanswered.snoc
    (.web (n := true) rfl (.digestMyMac _ _ (denotes_myMac (stationIds true))))
  have htext : Json.Denotes (requestCam writeCents (some firstReply)).toList
      (msgsValue "CAM" (firstReply.data.map (Buffers.shown centsJson))) :=
    denotes_requestAll (fun cam _ => Buffers.isItem_pb2json isItem_writeCents cam) (by decide)
  exact ⟨_, hmymac.snoc (.web rfl (.digest _ [] [] _ _ rfl htext))⟩

theorem receivedCamDetail_shown_first : ∃ x,
    Run (SitesStep exactSqlite twoNodes packedService stationIds writeCents) twoSites firstShown
      x ∧
    ∃ rows, getReceivedCamDetail (x.camData true) = some rows ∧
      (rows.map fun row => JsValue.keyNumber row.1).Pairwise (· < ·) ∧
      ∀ row ∈ rows, ∃ n' ∈ heard twoNodes true, stationIds n' ≠ stationIds true ∧
        row.1 = stationText (stationIds n').toUInt64 ∧
        ∃ cam ∈ generatedAt twoNodes packedService n' (firstShown.flatMap SitesEvent.exchanged),
          WebSite.camRow (.ofJson (Buffers.shown centsJson (Cam.convertAsn1toProtoBuf cam))) =
            .ok row.2 := by
  obtain ⟨x, hrun⟩ := firstShown_run
  have hapart : SendsApart (nodeTrace twoNodes packedService true
      (firstShown.flatMap SitesEvent.exchanged)) := firstTrace_apart
  have hrow : TakesNoRow (ldmTrace twoNodes packedService true
      (firstShown.flatMap SitesEvent.exchanged)) := by
    have htrace : ldmTrace twoNodes packedService true (firstShown.flatMap SitesEvent.exchanged) =
        ldmTrace twoNodes packedService true requestedTrace ++
          [(.receiveRequest, .reply ("CAM", "latest") (.cams firstReply))] := rfl
    rw [htrace]
    intro t message hmem
    rcases List.mem_append.mp hmem with hmem | hmem
    · exact requestedTrace_takesNoRow t message hmem
    · cases List.mem_singleton.mp hmem
  have hmymac : .web true .digestMyMac ∈ firstShown :=
    List.mem_append_right _ List.mem_cons_self
  exact ⟨x, hrun,
    receivedCamDetail_shown packed_camCodec isItem_writeCents hrun hapart hrow hmymac⟩

end OpenC2X.System
