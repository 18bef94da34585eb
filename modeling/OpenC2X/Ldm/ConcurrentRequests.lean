import OpenC2X.Lib.Interleaving
import OpenC2X.Ldm.CamStore
import Mathlib.Tactic.FinCases

/-!
# Requests while CAMs arrive

One thread receives CAMs and stores each in `camCache` before it inserts the row; another
one answers the requests and fills an empty cache from the rows.  `mCamMutex` orders the
accesses to the table, but neither the test for an empty cache nor the store of a received
CAM is under it.  A request that has found the cache empty therefore stores its rows over
whatever was received since.

The entries of the cache are the latest CAMs as long as no row is stored for a station
from which a CAM has been received.
-/

namespace OpenC2X.Ldm

open Buffers Interleaving

/-! ## The two threads -/

/-- The threads of the LDM that use `camCache`. -/
inductive CamThread
  | receiveFromCa
  | receiveRequest
  deriving DecidableEq

/-- What they share.  `mCamMutex` tells whether the mutex is held. -/
structure CamShared where
  store : CamStore
  mCamMutex : Bool

/-- Where a thread stands. -/
inductive CamLocal
  | receiving
  | inserting (cam : CAM)
  | awaiting
  /-- The request has found the cache empty. -/
  | filling
  /-- The request holds the mutex and has these rows left. -/
  | storing (rows : List (Table.Row (CamColumn → Int64)))
  | replying

inductive CamEvent
  /-- `receiveFromCa` stores a received CAM in the cache. -/
  | store (cam : CAM)
  | insert (cam : CAM)
  /-- `camSelect` tests whether the cache is empty. -/
  | test (empty : Bool)
  | read
  /-- `camSelect` stores the message of a row in the cache. -/
  | fill (cam : CAM)
  | unlock
  | reply (cams : LdmData CAM)

/-- The CAM that `receiveFromCa` stores. -/
def CamEvent.received : CamEvent → List CAM
  | .store cam => [cam]
  | _ => []

/-- The rows that the query of `camSelect` selects. -/
def selectedRows (s : CamStore) : List (Table.Row (CamColumn → Int64)) :=
  s.table.selfUnmatched (Store.laterOf .stationId)

/-- The steps of `receiveFromCa` and of `receiveRequest` with `camSelect`. -/
inductive CamAct : Actions CamShared CamLocal CamEvent
  | store {s : CamShared} (cam : CAM) :
      CamAct s .receiving (.store cam) { s with store := s.store.assign cam } (.inserting cam)
  | insert {s : CamShared} {cam : CAM} (hfree : s.mCamMutex = false) :
      CamAct s (.inserting cam) (.insert cam) { s with store := insertCam cam s.store } .receiving
  | test {s : CamShared} :
      CamAct s .awaiting (.test s.store.cache.isEmpty) s
        (if s.store.cache.isEmpty then .filling else .replying)
  | read {s : CamShared} (hfree : s.mCamMutex = false) :
      CamAct s .filling .read { s with mCamMutex := true } (.storing (selectedRows s.store))
  | fill {s : CamShared} {row : Table.Row (CamColumn → Int64)}
      {rows : List (Table.Row (CamColumn → Int64))} :
      CamAct s (.storing (row :: rows)) (.fill (readCam row).cam)
        { s with store := s.store.assign (readCam row).cam } (.storing rows)
  | unlock {s : CamShared} :
      CamAct s (.storing []) .unlock { s with mCamMutex := false } .replying
  | reply {s : CamShared} :
      CamAct s .replying (.reply ⟨.CAM, s.store.cache.messages⟩) s .awaiting

/-- The LDM after a restart on a table. -/
def camStart (table : Table (CamColumn → Int64)) : Config CamThread CamShared CamLocal where
  shared := { store := ⟨Cache.empty, table⟩, mCamMutex := false }
  locals
    | .receiveFromCa => .receiving
    | .receiveRequest => .awaiting

/-! ## The latest CAMs -/

/-- Every station from which a CAM was received has the last one in the cache. -/
def LatestInCache (tr : Trace CamThread CamEvent) (c : Config CamThread CamShared CamLocal) :
    Prop :=
  ∀ stationid cam,
    lastReceived CAM.stationid (collect CamEvent.received tr) stationid = some cam →
    c.shared.store.cache.get? (toString stationid) = some cam

/-- The message of a row may be stored: no other CAM is the last one from its station. -/
def NotOutdated (before : Trace CamThread CamEvent) : CamEvent → Prop
  | .fill cam => ∀ last,
      lastReceived CAM.stationid (collect CamEvent.received before) cam.stationid = some last →
      cam = last
  | _ => True

variable {table : Table (CamColumn → Int64)} {tr : Trace CamThread CamEvent}
  {c : Config CamThread CamShared CamLocal}

/-- What a step does to the cache and to what was received. -/
theorem act_cache {s s' : CamShared} {l l' : CamLocal} {e : CamEvent} (ha : CamAct s l e s' l') :
    (∃ cam, e = .store cam ∧ s'.store = s.store.assign cam) ∨
      (∃ cam, e = .fill cam ∧ s'.store = s.store.assign cam) ∨
      (e.received = [] ∧ (∀ cam, e ≠ .fill cam) ∧ s'.store.cache = s.store.cache) := by
  cases ha with
  | store => exact .inl ⟨_, rfl, rfl⟩
  | fill => exact .inr (.inl ⟨_, rfl, rfl⟩)
  | _ =>
      refine .inr (.inr ⟨rfl, ?_, rfl⟩)
      intro cam he
      cases he

theorem act_latestInCache {t : CamThread} {e : CamEvent} {s : CamShared} {l : CamLocal}
    (hinv : LatestInCache tr c) (ha : CamAct c.shared (c.locals t) e s l)
    (hfill : NotOutdated tr e) :
    LatestInCache (tr ++ [(t, e)]) ⟨s, Function.update c.locals t l⟩ := by
  intro stationid last hlast
  rw [collect_append, collect_singleton] at hlast
  rcases act_cache ha with ⟨cam, rfl, hstore⟩ | ⟨cam, rfl, hstore⟩ | ⟨hnone, -, hcache⟩
  · -- the received CAM is the last one from its station
    rw [CamEvent.received, lastReceived_append_singleton] at hlast
    change s.store.cache.get? _ = _
    rw [hstore, get?_assign_station]
    by_cases hstation : cam.stationid = stationid
    · rw [if_pos hstation] at hlast ⊢
      exact hlast
    · rw [if_neg hstation] at hlast ⊢
      exact hinv stationid last hlast
  · change lastReceived CAM.stationid (collect CamEvent.received tr ++ []) _ = _ at hlast
    rw [List.append_nil] at hlast
    change s.store.cache.get? _ = _
    rw [hstore, get?_assign_station]
    by_cases hstation : cam.stationid = stationid
    · subst hstation
      rw [if_pos rfl, hfill last hlast]
    · rw [if_neg hstation]
      exact hinv stationid last hlast
  · rw [hnone, List.append_nil] at hlast
    change s.store.cache.get? _ = _
    rw [hcache]
    exact hinv stationid last hlast

/-- **Latest CAM.**  In every run, on any table, the cache holds the last CAM of every
station from which one was received at all times, if and only if no row is ever stored in
the cache after a CAM of its station, unless it reads as the last one. -/
theorem latestInCache_iff (h : Run CamAct (camStart table) tr c) :
    (∀ before after c', tr = before ++ after → Run CamAct (camStart table) before c' →
        LatestInCache before c') ↔
      ∀ before t e after, tr = before ++ (t, e) :: after → NotOutdated before e := by
  constructor
  · intro hall before t e after heq
    cases e with
    | fill cam =>
        intro last hlast
        obtain ⟨c₀, s, l, hbefore, ha, -⟩ := (heq ▸ h).split_event
        have hrun : Run CamAct (camStart table) (before ++ [(t, .fill cam)]) _ :=
          hbefore.snoc (.move ha)
        have hlatest := hall _ after _ (by simp [heq]) hrun cam.stationid last
          (by simpa [CamEvent.received] using hlast)
        -- after the step the entry is the message of the row
        rcases act_cache ha with ⟨_, he, -⟩ | ⟨cam', he, hstore⟩ | ⟨-, hne, -⟩
        · cases he
        · cases he
          change s.store.cache.get? _ = _ at hlatest
          rw [hstore, get?_assign_station, if_pos rfl] at hlatest
          exact Option.some.inj hlatest
        · exact absurd rfl (hne cam)
    | _ => trivial
  · intro hfills before after c' heq hrun
    have hbefore : ∀ before' t e after', before = before' ++ (t, e) :: after' →
        NotOutdated before' e := by
      intro before' t e after' heq'
      exact hfills before' t e (after' ++ after) (by simp [heq, heq'])
    clear heq hfills
    induction hrun with
    | nil =>
        intro stationid cam hlast
        cases hlast
    | @snoc before c₀ c₁ e hrun hstep ih =>
        cases hstep with
        | @move t e s l ha =>
            refine act_latestInCache (ih fun before' t' e' after' heq' => ?_) ha
              (hbefore before t e [] rfl)
            exact hbefore before' t' e' (after' ++ [(t, e)]) (by simp [heq'])

/-! ## Requests that are not disturbed -/

/-- The request has found the cache empty and is not done with its rows. -/
def CamLocal.Filling : CamLocal → Prop
  | .filling | .storing _ => True
  | _ => False

/-- No CAM is stored while a request fills the cache. -/
def Undisturbed (table : Table (CamColumn → Int64)) (tr : Trace CamThread CamEvent) : Prop :=
  ∀ before t cam after c', tr = before ++ (t, .store cam) :: after →
    Run CamAct (camStart table) before c' → ∀ u, ¬(c'.locals u).Filling

theorem Undisturbed.of_append {tr' : Trace CamThread CamEvent}
    (h : Undisturbed table (tr ++ tr')) : Undisturbed table tr := by
  intro before t cam after c' heq
  exact h before t cam (after ++ tr') c' (by simp [heq])

/-- A request that fills the cache comes before all CAMs, and the entries are the latest
ones. -/
structure FillsBefore (tr : Trace CamThread CamEvent)
    (c : Config CamThread CamShared CamLocal) : Prop where
  latest : LatestInCache tr c
  filling : ∀ t, (c.locals t).Filling → collect CamEvent.received tr = []

theorem received_eq_nil_of_isEmpty (hlatest : LatestInCache tr c)
    (hempty : c.shared.store.cache.isEmpty = true) : collect CamEvent.received tr = [] := by
  by_contra hne
  obtain ⟨cam, hcam⟩ := List.exists_mem_of_ne_nil _ hne
  obtain ⟨last, hlast⟩ := exists_lastReceived CAM.stationid hcam
  have hentry := hlatest _ last hlast
  rw [(Cache.isEmpty_iff _).mp hempty, Cache.get?_empty] at hentry
  cases hentry

/-- A step after which a request fills the cache. -/
theorem act_filling {s s' : CamShared} {l l' : CamLocal} {e : CamEvent}
    (ha : CamAct s l e s' l') (hfilling : l'.Filling) :
    e.received = [] ∧ (l.Filling ∨ s.store.cache.isEmpty = true) := by
  cases ha with
  | test =>
      refine ⟨rfl, .inr ?_⟩
      by_contra hne
      rw [if_neg hne] at hfilling
      exact hfilling
  | read | fill => exact ⟨rfl, .inl trivial⟩
  | _ => exact hfilling.elim

theorem act_fillsBefore {t : CamThread} {e : CamEvent} {s : CamShared} {l : CamLocal}
    (hinv : FillsBefore tr c) (ha : CamAct c.shared (c.locals t) e s l)
    (hstore : ∀ cam, e = .store cam → ∀ u, ¬(c.locals u).Filling) :
    FillsBefore (tr ++ [(t, e)]) ⟨s, Function.update c.locals t l⟩ := by
  constructor
  · refine act_latestInCache hinv.latest ha ?_
    cases e with
    | fill cam =>
        intro last hlast
        have hfilling : (c.locals t).Filling := by
          generalize c.locals t = l₀ at ha
          cases ha
          trivial
        rw [hinv.filling t hfilling] at hlast
        cases hlast
    | _ => trivial
  · intro u hu
    change (Function.update c.locals t l u).Filling at hu
    rw [collect_append, collect_singleton]
    by_cases hut : u = t
    · subst hut
      rw [Function.update_self] at hu
      obtain ⟨hnone, hbefore⟩ := act_filling ha hu
      rw [hnone, List.append_nil]
      exact hbefore.elim (hinv.filling u) (received_eq_nil_of_isEmpty hinv.latest)
    · rw [Function.update_of_ne hut] at hu
      rcases act_cache ha with ⟨cam, rfl, -⟩ | ⟨cam, rfl, -⟩ | ⟨hnone, -, -⟩
      · exact absurd hu (hstore cam rfl u)
      · exact (List.append_nil _).trans (hinv.filling u hu)
      · change _ ++ e.received = _
        rw [hnone, List.append_nil]
        exact hinv.filling u hu

/-- The cache is right as long as no CAM comes while a request fills it. -/
theorem latestInCache_of_undisturbed (h : Run CamAct (camStart table) tr c)
    (hundisturbed : Undisturbed table tr) : LatestInCache tr c := by
  have hinv : FillsBefore tr c := by
    induction h with
    | nil =>
        refine ⟨?_, fun _ _ => rfl⟩
        intro stationid cam hlast
        cases hlast
    | @snoc before c₀ c₁ e hrun hstep ih =>
        cases hstep with
        | @move t e s l ha =>
            refine act_fillsBefore (ih hundisturbed.of_append) ha ?_
            rintro cam rfl
            exact hundisturbed before t cam [] c₀ rfl hrun
  exact hinv.latest

/-! ## A request that is disturbed -/

theorem selectedRows_oldTable (cache : Cache (stationName CAM.stationid)) :
    selectedRows ⟨cache, oldTable⟩ = [⟨1, camRow vehicleCam⟩] := by
  have hkey : (Table.empty : Table (CamColumn → Int64)).nextKey = 1 := rfl
  simp [selectedRows, Table.selfUnmatched, Table.unmatched_leftJoin, oldTable, Store.laterOf, hkey]

/-- The next CAM of the station: the vehicle has gone on. -/
def nextCam : CAM := { vehicleCam with coop := some { genDeltaTime := some 2000 } }

/-- The CAM is received after the request has filled the cache. -/
def quietTrace : Trace CamThread CamEvent :=
  [(.receiveRequest, .test true),
   (.receiveRequest, .read),
   (.receiveRequest, .fill (restoredCam vehicleCam)),
   (.receiveRequest, .unlock),
   (.receiveFromCa, .store nextCam)]

theorem latestInCache_quietTrace :
    ∃ c, Run CamAct (camStart oldTable) quietTrace c ∧
      ∀ before after c', quietTrace = before ++ after →
        Run CamAct (camStart oldTable) before c' → LatestInCache before c' := by
  have hstart : Run CamAct (camStart oldTable) [] (camStart oldTable) := .nil
  have htest := hstart.move .receiveRequest rfl .test
  have hread := htest.move .receiveRequest rfl (.read rfl)
  have hfill := hread.move .receiveRequest (congrArg CamLocal.storing (selectedRows_oldTable _))
    .fill
  have hunlock := hfill.move .receiveRequest rfl .unlock
  have hrun : Run CamAct (camStart oldTable) quietTrace _ :=
    hunlock.move .receiveFromCa rfl (.store nextCam)
  refine ⟨_, hrun, (latestInCache_iff hrun).mpr ?_⟩
  rw [forall_event_iff (P := fun before _ e => NotOutdated before e)]
  intro i
  fin_cases i
  · trivial
  · trivial
  · -- nothing has been received before the row is stored
    intro last hlast
    cases hlast
  · trivial
  · trivial

/-- The CAM is received while a request that has found the cache empty waits for the
mutex. -/
def disturbedTrace : Trace CamThread CamEvent :=
  [(.receiveRequest, .test true),
   (.receiveFromCa, .store nextCam),
   (.receiveRequest, .read),
   (.receiveRequest, .fill (restoredCam vehicleCam))]

/-- The row of the old CAM replaces the new one. -/
theorem not_latestInCache_disturbedTrace :
    ∃ c, Run CamAct (camStart oldTable) disturbedTrace c ∧ ¬LatestInCache disturbedTrace c := by
  have hstart : Run CamAct (camStart oldTable) [] (camStart oldTable) := .nil
  have htest := hstart.move .receiveRequest rfl .test
  have hstore := htest.move .receiveFromCa rfl (.store nextCam)
  have hread := hstore.move .receiveRequest rfl (.read rfl)
  have hfill := hread.move .receiveRequest (congrArg CamLocal.storing (selectedRows_oldTable _))
    .fill
  refine ⟨_, hfill, ?_⟩
  intro hlatest
  have hstation : (restoredCam vehicleCam).stationid = 7 := rfl
  have hentry := hlatest 7 nextCam rfl
  change (Store.assign (restoredCam vehicleCam) _).cache.get? (toString (7 : UInt64)) = _ at hentry
  rw [get?_assign_station, if_pos hstation] at hentry
  exact absurd hentry (by decide)

end OpenC2X.Ldm
