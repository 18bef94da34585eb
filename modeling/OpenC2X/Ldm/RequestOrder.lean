import OpenC2X.Ldm.CamStore
import Mathlib.Data.List.Perm.Basic
import Mathlib.Data.Set.Insert

/-!
# The order of requests and receptions

After a restart the cache is filled by the first request that finds it empty.  A CAM that
is received before any request puts one entry into the cache, which then never is empty
again: the rows of all other stations stay out of every reply.

The stations of a reply are therefore those of the table if a request comes first, and
those of the received CAMs alone if a CAM comes first.
-/

namespace OpenC2X.Ldm

open Buffers

/-! ## Operations -/

inductive CamOperation
  | receive (cam : CAM)
  | request (condition : String)

namespace CamOperation

def perform (s : CamStore) : CamOperation → CamStore
  | .receive cam => receiveFromCa cam s
  | .request condition => (camSelect condition s).2

def performAll (s : CamStore) (operations : List CamOperation) : CamStore :=
  operations.foldl perform s

/-- The CAM that is received. -/
def received : CamOperation → List CAM
  | .receive cam => [cam]
  | .request _ => []

/-- The received CAMs in their order. -/
def allReceived (operations : List CamOperation) : List CAM :=
  operations.flatMap received

def isReceive : CamOperation → Bool
  | .receive _ => true
  | .request _ => false

end CamOperation

open CamOperation

/-- The store after a restart on a table. -/
def restartedOn (table : Table (CamColumn → Int64)) : CamStore where
  cache := Cache.empty
  table := table

/-! ## Stations -/

/-- The stations that have a row in the table. -/
def tableStations (s : CamStore) : Set UInt64 :=
  {stationid | ∃ row ∈ s.table.rows, (row.value .stationId).toUInt64 = stationid}

def replyStations (reply : LdmData CAM) : Set UInt64 :=
  {stationid | ∃ cam ∈ reply.data, cam.stationid = stationid}

def camStations (received : List CAM) : Set UInt64 :=
  {stationid | ∃ cam ∈ received, cam.stationid = stationid}

/-- The stations that have an entry in the cache. -/
def cacheStations (s : CamStore) : Set UInt64 :=
  {stationid | s.cache.get? (toString stationid) ≠ none}

theorem replyStations_camSelect (condition : String) (s : CamStore) :
    replyStations (camSelect condition s).1 = cacheStations (camSelect condition s).2 := by
  ext stationid
  exact exists_message_iff (camSelect condition s).2.cache stationid

theorem cacheStations_receiveFromCa (cam : CAM) (s : CamStore) :
    cacheStations (receiveFromCa cam s) = insert cam.stationid (cacheStations s) := by
  ext stationid
  change (s.assign cam).cache.get? (toString stationid) ≠ none ↔ _
  rw [get?_assign_station, Set.mem_insert_iff]
  by_cases hstation : cam.stationid = stationid
  · simp [hstation]
  · rw [if_neg hstation]
    exact ⟨.inr, fun h => h.resolve_left (Ne.symm hstation)⟩

theorem tableStations_receiveFromCa (cam : CAM) (s : CamStore) :
    tableStations (receiveFromCa cam s) = insert cam.stationid (tableStations s) := by
  ext stationid
  have hrow : (camRow cam .stationId).toUInt64 = cam.stationid := UInt64.toUInt64_toInt64 _
  have hrows : (receiveFromCa cam s).table.rows =
      s.table.rows ++ [⟨s.table.nextKey, camRow cam⟩] := rfl
  simp [tableStations, hrows, hrow, or_comm, eq_comm]

theorem tableStations_camSelect (condition : String) (s : CamStore) :
    tableStations (camSelect condition s).2 = tableStations s := by
  unfold camSelect Store.select
  cases s.cache.isEmpty <;> rfl

theorem camSelect_of_isEmpty_eq_false {s : CamStore} (condition : String)
    (hcache : s.cache.isEmpty = false) : (camSelect condition s).2 = s := by
  rw [camSelect, Store.select, hcache]
  rfl

/-- A request that finds the cache empty fills it with the stations of the table. -/
theorem cacheStations_camSelect_of_isEmpty {s : CamStore} (condition : String)
    (hcache : s.cache.isEmpty = true) :
    cacheStations (camSelect condition s).2 = tableStations s := by
  ext stationid
  have hentry := Store.get?_fill (camStore_matchesLater s) (toString stationid)
  rw [(Cache.isEmpty_iff _).mp hcache, Cache.get?_empty, Option.or_none] at hentry
  have hselect : (camSelect condition s).2 =
      s.fill (Store.laterOf .stationId) fun row => (readCam row).cam := by
    rw [camSelect, Store.select, hcache]
    rfl
  change (camSelect condition s).2.cache.get? (toString stationid) ≠ none ↔ _
  rw [hselect, hentry, latest_stationName, lastReceived_ne_none_iff]
  constructor
  · rintro ⟨cam, hcam, hstation⟩
    obtain ⟨row, hrow, rfl⟩ := List.mem_map.mp hcam
    exact ⟨row, hrow, hstation⟩
  · rintro ⟨row, hrow, hstation⟩
    exact ⟨_, List.mem_map_of_mem hrow, hstation⟩

/-! ## Runs -/

theorem performAll_cons (s : CamStore) (operation : CamOperation)
    (operations : List CamOperation) :
    performAll s (operation :: operations) = performAll (operation.perform s) operations := rfl

theorem camStations_append (received received' : List CAM) :
    camStations (received ++ received') = camStations received ∪ camStations received' := by
  ext stationid
  simp [camStations, or_and_right, exists_or]

theorem camStations_singleton (cam : CAM) : camStations [cam] = {cam.stationid} := by
  ext stationid
  simp [camStations, eq_comm]

theorem allReceived_cons (operation : CamOperation) (operations : List CamOperation) :
    allReceived (operation :: operations) = operation.received ++ allReceived operations := rfl

theorem tableStations_perform (operation : CamOperation) (s : CamStore) :
    tableStations (operation.perform s) = tableStations s ∪ camStations operation.received := by
  cases operation with
  | receive cam =>
      rw [received, camStations_singleton, Set.union_singleton]
      exact tableStations_receiveFromCa cam s
  | request condition =>
      have hnone : camStations [] = ∅ := by simp [camStations]
      rw [received, hnone, Set.union_empty]
      exact tableStations_camSelect condition s

/-- The table gets a row for every received CAM. -/
theorem tableStations_performAll (s : CamStore) (operations : List CamOperation) :
    tableStations (performAll s operations) =
      tableStations s ∪ camStations (allReceived operations) := by
  induction operations generalizing s with
  | nil => simp [performAll, allReceived, camStations]
  | cons operation operations ih =>
      rw [performAll_cons, ih, tableStations_perform, allReceived_cons, camStations_append,
        Set.union_assoc]

/-- A cache with the stations of the table keeps them. -/
theorem cacheStations_perform {s : CamStore} (hcomplete : cacheStations s = tableStations s)
    (operation : CamOperation) :
    cacheStations (operation.perform s) = tableStations (operation.perform s) := by
  cases operation with
  | receive cam =>
      change cacheStations (receiveFromCa cam s) = tableStations (receiveFromCa cam s)
      rw [cacheStations_receiveFromCa, tableStations_receiveFromCa, hcomplete]
  | request condition =>
      change cacheStations (camSelect condition s).2 = tableStations (camSelect condition s).2
      rw [tableStations_camSelect]
      cases hcache : s.cache.isEmpty with
      | true => exact cacheStations_camSelect_of_isEmpty condition hcache
      | false => rw [camSelect_of_isEmpty_eq_false condition hcache, hcomplete]

theorem cacheStations_performAll {s : CamStore} (hcomplete : cacheStations s = tableStations s)
    (operations : List CamOperation) :
    cacheStations (performAll s operations) = tableStations (performAll s operations) := by
  induction operations generalizing s with
  | nil => exact hcomplete
  | cons operation operations ih =>
      rw [performAll_cons]
      exact ih (cacheStations_perform hcomplete operation)

/-- A cache that is not empty only gets the stations of the received CAMs. -/
theorem cacheStations_performAll_of_nonempty {s : CamStore} (hcache : s.cache.isEmpty = false)
    (operations : List CamOperation) :
    cacheStations (performAll s operations) =
      cacheStations s ∪ camStations (allReceived operations) := by
  induction operations generalizing s with
  | nil => simp [performAll, allReceived, camStations]
  | cons operation operations ih =>
      rw [performAll_cons]
      cases operation with
      | receive cam =>
          have hnext : (receiveFromCa cam s).cache.isEmpty = false := Cache.isEmpty_assign _ cam
          change cacheStations (performAll (receiveFromCa cam s) operations) = _
          rw [ih hnext, cacheStations_receiveFromCa, allReceived_cons, received,
            camStations_append, camStations_singleton, ← Set.union_assoc, Set.union_singleton]
      | request condition =>
          change cacheStations (performAll (camSelect condition s).2 operations) = _
          rw [camSelect_of_isEmpty_eq_false condition hcache, ih hcache]
          rfl

/-! ## The reply to the last request -/

/-- The stations in the reply to a request after some operations. -/
def repliedStations (table : Table (CamColumn → Int64)) (earlier : List CamOperation)
    (condition : String) : Set UInt64 :=
  replyStations (camSelect condition (performAll (restartedOn table) earlier)).1

/-- The reply shows all stations that have a row at that time, and other places for the
earlier requests would not change its stations. -/
structure RequestOrder (table : Table (CamColumn → Int64)) (earlier : List CamOperation)
    (condition : String) : Prop where
  complete : repliedStations table earlier condition =
    tableStations (performAll (restartedOn table) earlier)
  placement : ∀ earlier', earlier'.Perm earlier → allReceived earlier' = allReceived earlier →
    repliedStations table earlier' condition = repliedStations table earlier condition

variable {table : Table (CamColumn → Int64)} {condition : String}

/-- If a request comes first, the reply has the stations of the table. -/
theorem repliedStations_request_first (operations : List CamOperation)
    (hfirst : ∀ cam rest, operations ≠ .receive cam :: rest) :
    repliedStations table operations condition =
      tableStations (performAll (restartedOn table) operations) := by
  rw [repliedStations, replyStations_camSelect]
  have hempty : (restartedOn table).cache.isEmpty = true := Cache.isEmpty_empty
  cases operations with
  | nil => exact cacheStations_camSelect_of_isEmpty condition hempty
  | cons operation rest =>
      cases operation with
      | receive cam => exact absurd rfl (hfirst cam rest)
      | request condition' =>
          have hcomplete : cacheStations ((request condition').perform (restartedOn table)) =
              tableStations ((request condition').perform (restartedOn table)) := by
            change cacheStations (camSelect _ _).2 = tableStations (camSelect _ _).2
            rw [cacheStations_camSelect_of_isEmpty condition' hempty, tableStations_camSelect]
          have hall := cacheStations_performAll hcomplete rest
          exact (cacheStations_perform hall (.request condition)).trans
            (tableStations_camSelect condition _)

/-- If a CAM comes first, it has the stations of the received CAMs. -/
theorem repliedStations_receive_first (cam : CAM) (rest : List CamOperation) :
    repliedStations table (.receive cam :: rest) condition =
      camStations (allReceived (.receive cam :: rest)) := by
  have hcache : (receiveFromCa cam (restartedOn table)).cache.isEmpty = false :=
    Cache.isEmpty_assign _ cam
  have hstart : cacheStations (restartedOn table) = ∅ := by
    simp [cacheStations, restartedOn]
  have hall := cacheStations_performAll_of_nonempty hcache (rest ++ [.request condition])
  have hrequest : allReceived (rest ++ [.request condition]) = allReceived rest := by
    simp [allReceived, received]
  rw [repliedStations, replyStations_camSelect, allReceived_cons, received, camStations_append,
    camStations_singleton]
  rw [cacheStations_receiveFromCa, hstart, insert_empty_eq, hrequest] at hall
  rw [← hall, performAll_cons, performAll, performAll, List.foldl_append]
  rfl

theorem tableStations_restartedOn (operations : List CamOperation) :
    tableStations (performAll (restartedOn table) operations) =
      tableStations (restartedOn table) ∪ camStations (allReceived operations) :=
  tableStations_performAll _ _

/-- With all stations of the table among the received CAMs, every reply shows them. -/
theorem repliedStations_of_covered {operations : List CamOperation}
    (hcovered : tableStations (restartedOn table) ⊆ camStations (allReceived operations)) :
    repliedStations table operations condition = camStations (allReceived operations) := by
  by_cases hfirst : ∃ cam rest, operations = .receive cam :: rest
  · obtain ⟨cam, rest, rfl⟩ := hfirst
    exact repliedStations_receive_first cam rest
  · rw [repliedStations_request_first operations fun cam rest heq => hfirst ⟨cam, rest, heq⟩,
      tableStations_restartedOn, Set.union_eq_self_of_subset_left hcovered]

/-- Without any received CAM, every reply shows the stations of the table. -/
theorem repliedStations_of_received_nil {operations : List CamOperation}
    (hnone : allReceived operations = []) :
    repliedStations table operations condition = tableStations (restartedOn table) := by
  rw [repliedStations_request_first operations, tableStations_restartedOn, hnone]
  · simp [camStations]
  · rintro cam rest rfl
    cases hnone

/-- The same operations with all CAMs before all requests. -/
def receivesFirst (operations : List CamOperation) : List CamOperation :=
  operations.filter isReceive ++ operations.filter fun operation => !operation.isReceive

theorem allReceived_filter_isReceive (operations : List CamOperation) :
    allReceived (operations.filter isReceive) = allReceived operations := by
  induction operations with
  | nil => rfl
  | cons operation operations ih =>
      cases operation with
      | receive cam =>
          rw [List.filter_cons_of_pos rfl, allReceived_cons, allReceived_cons, ih]
      | request condition =>
          rw [List.filter_cons_of_neg (by simp [isReceive]), allReceived_cons, ih]
          rfl

theorem allReceived_receivesFirst (operations : List CamOperation) :
    allReceived (receivesFirst operations) = allReceived operations := by
  have hrequests : allReceived (operations.filter fun operation => !operation.isReceive) = [] := by
    rw [allReceived, List.flatMap_eq_nil_iff]
    intro operation hmem
    cases operation with
    | receive cam => simp [isReceive] at hmem
    | request condition => rfl
  rw [receivesFirst, allReceived, List.flatMap_append, ← allReceived, ← allReceived, hrequests,
    List.append_nil, allReceived_filter_isReceive]

theorem receivesFirst_perm (operations : List CamOperation) :
    (receivesFirst operations).Perm operations :=
  List.filter_append_perm isReceive operations

/-- With a received CAM, the arrangement starts with one. -/
theorem exists_receivesFirst {operations : List CamOperation}
    (hsome : allReceived operations ≠ []) :
    ∃ cam rest, receivesFirst operations = .receive cam :: rest := by
  rw [← allReceived_filter_isReceive] at hsome
  cases hreceives : operations.filter isReceive with
  | nil =>
      rw [hreceives] at hsome
      exact absurd rfl hsome
  | cons operation rest =>
      have hfirst : operation.isReceive = true :=
        (List.mem_filter.mp (hreceives ▸ List.mem_cons_self)).2
      cases operation with
      | receive cam => exact ⟨cam, _, by rw [receivesFirst, hreceives]; rfl⟩
      | request condition => cases hfirst

/-- **Order of request and reception.**  The last reply shows all stations of the table,
and its stations do not depend on the places of the earlier requests, if and only if no CAM
has been received since the restart or one from every station of the old table. -/
theorem requestOrder_iff (table : Table (CamColumn → Int64)) (earlier : List CamOperation)
    (condition : String) :
    RequestOrder table earlier condition ↔ allReceived earlier = [] ∨
      tableStations (restartedOn table) ⊆ camStations (allReceived earlier) := by
  constructor
  · rintro ⟨hcomplete, hplacement⟩
    rw [or_iff_not_imp_left]
    intro hsome
    obtain ⟨cam, rest, hfirst⟩ := exists_receivesFirst hsome
    -- with the CAMs first, the reply has their stations only
    have hsame := hplacement (receivesFirst earlier) (receivesFirst_perm earlier)
      (allReceived_receivesFirst earlier)
    rw [hcomplete, hfirst, repliedStations_receive_first, ← hfirst, allReceived_receivesFirst,
      tableStations_restartedOn] at hsame
    rw [hsame]
    exact Set.subset_union_left
  · rintro (hnone | hcovered)
    · refine ⟨?_, fun earlier' _ hreceived => ?_⟩
      · rw [repliedStations_of_received_nil hnone, tableStations_restartedOn, hnone]
        simp [camStations]
      · rw [repliedStations_of_received_nil hnone,
          repliedStations_of_received_nil (hreceived.trans hnone)]
    · refine ⟨?_, fun earlier' _ hreceived => ?_⟩
      · rw [repliedStations_of_covered hcovered, tableStations_restartedOn,
          Set.union_eq_self_of_subset_left hcovered]
      · rw [repliedStations_of_covered hcovered,
          repliedStations_of_covered (hreceived ▸ hcovered), hreceived]

/-! ## A CAM before the first request -/

/-- A CAM of another station than the one in `oldTable`. -/
def neighbourCam : CAM :=
  { vehicleCam with
    header := some { protocolVersion := some 1, messageID := some 2, stationID := some 8 } }

/-- The reply shows the neighbour only, while the table has two stations. -/
theorem not_requestOrder_neighbourCam :
    ¬RequestOrder oldTable [.receive neighbourCam] "" := by
  rintro ⟨hcomplete, -⟩
  rw [repliedStations_receive_first, tableStations_restartedOn] at hcomplete
  have hold : (7 : UInt64) ∈ tableStations (restartedOn oldTable) :=
    ⟨⟨1, camRow vehicleCam⟩, by simp [restartedOn, oldTable]; rfl, rfl⟩
  have hshown : (7 : UInt64) ∈ camStations (allReceived [.receive neighbourCam]) := by
    rw [hcomplete]
    exact .inl hold
  obtain ⟨cam, hcam, hstation⟩ := hshown
  rw [List.mem_singleton.mp hcam] at hstation
  exact absurd hstation (by decide)

end OpenC2X.Ldm
