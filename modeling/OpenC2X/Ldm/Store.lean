import OpenC2X.Common.Buffers
import OpenC2X.Lib.Cache

/-!
# The stores of the LDM

The LDM keeps what it receives twice: the latest message of every station in a cache, from
which it answers requests, and all messages in a table of the database.  A request that
finds the cache empty first fills it from the table, with a query for the last row of
every station.  That happens after a restart, when only the table is left.

The stores for the kinds of messages differ in the names of the cache, in what is written
into a row, in the condition of the query and in what is read back from a row.
-/

namespace OpenC2X.Ldm

open Buffers

structure Store {M : Type} (name : M → String) (R : Type) where
  cache : Cache name
  table : Table R

namespace Store

variable {M R : Type} {name : M → String}

def new : Store name R where
  cache := Cache.empty
  table := Table.empty

def assign (message : M) (s : Store name R) : Store name R :=
  { s with cache := s.cache.assign message }

def insert (row : R) (s : Store name R) : Store name R :=
  { s with table := s.table.insert row }

/-- Stores every row that the query selects in the cache. -/
def fill (on : Table.Row R → Table.Row R → Bool) (read : Table.Row R → M)
    (s : Store name R) : Store name R :=
  { s with cache := s.cache.assignAll ((s.table.selfUnmatched on).map read) }

/-- The condition of the queries for the latest message of every station: `r.column =
r'.column AND r.key < r'.key`. -/
def laterOf {κ : Type} (column : κ) (row row' : Table.Row (κ → Int64)) : Bool :=
  row.value column = row'.value column && row.key < row'.key

/-- Answers a request from the cache, which is filled first if it is empty. -/
def select (type : LdmData.Type) (on : Table.Row R → Table.Row R → Bool)
    (read : Table.Row R → M) (s : Store name R) : LdmData M × Store name R :=
  let s' := if s.cache.isEmpty then s.fill on read else s
  (⟨type, s'.cache.messages⟩, s')

/-- The process starts again on the same database. -/
def restart (s : Store name R) : Store name R := { s with cache := Cache.empty }

/-! ## The cache against the table -/

variable {type : LdmData.Type} {on : Table.Row R → Table.Row R → Bool}
  {read : Table.Row R → M} {receive : M → Store name R → Store name R}
  {restored : M → M}

/-- A received message goes into the cache and into the table, and its row is read back,
whatever key it got, as a message of the same name. -/
structure ReadsBack (read : Table.Row R → M) (receive : M → Store name R → Store name R)
    (restored : M → M) : Prop where
  exists_row : ∀ m, ∃ row, (∀ key, read ⟨key, row⟩ = restored m) ∧
    ∀ s, receive m s = (s.assign m).insert row
  name_restored : ∀ m, name (restored m) = name m

/-- The query matches a row only with later rows of its name. -/
def MatchesLater (on : Table.Row R → Table.Row R → Bool) (read : Table.Row R → M)
    (s : Store name R) : Prop :=
  s.table.MatchesLater on fun row => name (read row)

/-- A query for the last rows by a column that decides the name. -/
theorem matchesLater_laterOf {κ : Type} {column : κ} {read : Table.Row (κ → Int64) → M}
    (nameOf : Int64 → String) (hname : ∀ row, name (read row) = nameOf (row.value column))
    (s : Store name (κ → Int64)) : s.MatchesLater (laterOf column) read := by
  intro row _ row' _ hon
  obtain ⟨hsame, hkey⟩ := (Bool.and_eq_true _ _).mp hon
  refine ⟨?_, of_decide_eq_true hkey⟩
  show name (read row) = name (read row')
  rw [hname, hname, of_decide_eq_true hsame]

def receiveAll (receive : M → Store name R → Store name R) (messages : List M)
    (s : Store name R) : Store name R :=
  messages.foldl (fun s m => receive m s) s

theorem cache_receiveAll (h : ReadsBack read receive restored) (messages : List M)
    (s : Store name R) :
    (receiveAll receive messages s).cache = s.cache.assignAll messages := by
  induction messages generalizing s with
  | nil => rfl
  | cons m messages ih =>
      obtain ⟨row, -, hreceive⟩ := h.exists_row m
      have hcache : (receive m s).cache = s.cache.assign m := by
        rw [hreceive]
        rfl
      rw [receiveAll, List.foldl_cons, ← receiveAll, ih, hcache]
      rfl

theorem rows_receiveAll (h : ReadsBack read receive restored) (messages : List M)
    (s : Store name R) :
    (receiveAll receive messages s).table.rows.map read =
      s.table.rows.map read ++ messages.map restored := by
  induction messages generalizing s with
  | nil => simp [receiveAll]
  | cons m messages ih =>
      obtain ⟨row, hread, hreceive⟩ := h.exists_row m
      have htable : (receive m s).table.rows.map read =
          s.table.rows.map read ++ [restored m] := by
        rw [hreceive]
        simp [insert, assign, hread]
      rw [receiveAll, List.foldl_cons, ← receiveAll, ih, htable, List.append_assoc]
      rfl

/-- Filling an empty cache gives every name the last row of the table that has it. -/
theorem get?_fill {s : Store name R} (hon : s.MatchesLater on read) (key : String) :
    (s.fill on read).cache.get? key =
      (Cache.latest name (s.table.rows.map read) key).or (s.cache.get? key) := by
  rw [fill, Cache.get?_assignAll, Cache.latest_selfUnmatched hon]

theorem latest_map_restored (h : ReadsBack read receive restored) (messages : List M)
    (key : String) :
    Cache.latest name (messages.map restored) key =
      (Cache.latest name messages key).map restored := by
  simp only [Cache.latest, List.filter_map, List.getLast?_map, Function.comp_def,
    h.name_restored]

/-- The reply lists the cache as the request leaves it. -/
theorem select_fst (s : Store name R) :
    (s.select type on read).1 = ⟨type, (s.select type on read).2.cache.messages⟩ := rfl

/-- The entry of a name in the cache from which a store that has received the messages
answers. -/
theorem get?_select_warm (h : ReadsBack read receive restored) (messages : List M)
    (key : String) :
    ((receiveAll receive messages new).select type on read).2.cache.get? key =
      Cache.latest name messages key := by
  have hcache := cache_receiveAll h messages new
  unfold select
  split
  next hempty =>
    -- nothing was received, so the table is empty as well
    have hnil : messages = [] := by
      cases messages using List.reverseRecOn with
      | nil => rfl
      | append_singleton messages m =>
          rw [hcache, Cache.assignAll, List.foldl_append] at hempty
          simp at hempty
    subst hnil
    rfl
  next =>
    rw [hcache, Cache.get?_assignAll]
    exact Option.or_none

/-- The same after a restart. -/
theorem get?_select_restart (h : ReadsBack read receive restored) {messages : List M}
    (hon : (receiveAll receive messages (new : Store name R)).MatchesLater on read)
    (key : String) :
    ((receiveAll receive messages new).restart.select type on read).2.cache.get? key =
      (Cache.latest name messages key).map restored := by
  have hrows : (receiveAll receive messages (new : Store name R)).table.rows.map read =
      messages.map restored := rows_receiveAll h messages new
  have hfill := get?_fill (s := (receiveAll receive messages new).restart) hon key
  have hempty : (receiveAll receive messages (new : Store name R)).restart.cache.isEmpty = true :=
    Cache.isEmpty_empty
  rw [select, if_pos hempty, hfill]
  simp only [restart, Cache.get?_empty, Option.or_none]
  rw [hrows, latest_map_restored h]

end Store

/-! ## Replies -/

/-- The name in a cache with one entry for every station: `to_string(stationid)`. -/
def stationName {M : Type} (station : M → UInt64) (m : M) : String := toString (station m)

theorem toString_stationid_inj {a b : UInt64} (h : toString a = toString b) : a = b := by
  have hdigits : a.toNat.repr.toList = b.toNat.repr.toList := congrArg String.toList h
  rw [Nat.toList_repr, Nat.toList_repr] at hdigits
  have hnat := congrArg (fun digits => Nat.ofDigitChars 10 digits 0) hdigits
  simp only [Nat.ofDigitChars_ten_toDigits] at hnat
  exact UInt64.toNat_inj.mp hnat

section

variable {M R : Type} {station : M → UInt64}

/-- The CAM or DENM that was received last from a station. -/
def lastReceived (station : M → UInt64) (received : List M) (stationid : UInt64) : Option M :=
  (received.filter fun m => station m = stationid).getLast?

theorem of_lastReceived_eq_some {received : List M} {stationid : UInt64} {m : M}
    (hlast : lastReceived station received stationid = some m) :
    m ∈ received ∧ station m = stationid := by
  have hmem := List.mem_filter.mp (List.mem_of_getLast? hlast)
  exact ⟨hmem.1, of_decide_eq_true hmem.2⟩

theorem exists_lastReceived (station : M → UInt64) {received : List M} {m : M}
    (hm : m ∈ received) :
    ∃ last, lastReceived station received (station m) = some last := by
  have hmem : m ∈ received.filter fun m' => station m' = station m :=
    List.mem_filter.mpr ⟨hm, decide_eq_true rfl⟩
  exact Option.isSome_iff_exists.mp (List.getLast?_isSome.mpr (List.ne_nil_of_mem hmem))

theorem lastReceived_ne_none_iff (received : List M) (stationid : UInt64) :
    lastReceived station received stationid ≠ none ↔ ∃ m ∈ received, station m = stationid := by
  constructor
  · intro hne
    obtain ⟨m, hlast⟩ := Option.ne_none_iff_exists'.mp hne
    exact ⟨m, of_lastReceived_eq_some hlast⟩
  · rintro ⟨m, hm, rfl⟩
    obtain ⟨last, hlast⟩ := exists_lastReceived station hm
    rw [hlast]
    exact Option.some_ne_none last

theorem lastReceived_append_singleton (received : List M) (m : M) (stationid : UInt64) :
    lastReceived station (received ++ [m]) stationid =
      if station m = stationid then some m else lastReceived station received stationid := by
  unfold lastReceived
  rw [List.filter_append]
  by_cases h : station m = stationid
  · simp [h]
  · simp [h]

theorem get?_assign_station (s : Store (stationName station) R) (m : M) (stationid : UInt64) :
    (s.assign m).cache.get? (toString stationid) =
      if station m = stationid then some m else s.cache.get? (toString stationid) := by
  have hname : stationName station m = toString stationid ↔ station m = stationid :=
    ⟨toString_stationid_inj, congrArg toString⟩
  rw [Store.assign, Cache.get?_assign]
  simp only [hname]

/-- A reply has one message for the station of `m`, and it keeps `m`. -/
def Shows (station : M → UInt64) (keeps : M → M → Prop) (reply : LdmData M) (m : M) : Prop :=
  ∃ shown, (reply.data.filter fun m' => station m' = station m) = [shown] ∧ keeps m shown

/-- Two replies describe the same stations, and both show the message that was received
last from each of them. -/
structure SameContent (station : M → UInt64) (keeps : M → M → Prop) (received : List M)
    (warm cold : LdmData M) : Prop where
  stations : ∀ stationid,
    (∃ m ∈ warm.data, station m = stationid) ↔ ∃ m ∈ cold.data, station m = stationid
  last : ∀ stationid m, lastReceived station received stationid = some m →
    Shows station keeps warm m ∧ Shows station keeps cold m

theorem latest_stationName (received : List M) (stationid : UInt64) :
    Cache.latest (stationName station) received (toString stationid) =
      lastReceived station received stationid := by
  unfold Cache.latest lastReceived stationName
  congr 2
  funext m
  exact decide_eq_decide.mpr ⟨toString_stationid_inj, congrArg toString⟩

/-- The messages for a station in the reply that a cache gives. -/
theorem filter_station_messages (cache : Cache (stationName station)) (stationid : UInt64) :
    (cache.messages.filter fun m => station m = stationid) =
      (cache.get? (toString stationid)).toList := by
  rw [← Cache.filter_messages]
  congr 1
  funext m
  exact decide_eq_decide.mpr ⟨congrArg toString, toString_stationid_inj⟩

/-- What the cache has for the station of a message is what its reply shows. -/
theorem shows_messages_iff {keeps : M → M → Prop} {cache : Cache (stationName station)}
    {type : LdmData.Type} {m shown : M}
    (hentry : cache.get? (toString (station m)) = some shown) :
    Shows station keeps ⟨type, cache.messages⟩ m ↔ keeps m shown := by
  unfold Shows
  rw [filter_station_messages, hentry]
  constructor
  · rintro ⟨shown', heq, hkeeps⟩
    obtain rfl := List.singleton_injective heq
    exact hkeeps
  · intro hkeeps
    exact ⟨shown, rfl, hkeeps⟩

theorem exists_message_iff (cache : Cache (stationName station)) (stationid : UInt64) :
    (∃ m ∈ cache.messages, station m = stationid) ↔
      cache.get? (toString stationid) ≠ none := by
  have hmessages := filter_station_messages cache stationid
  constructor
  · rintro ⟨m, hmem, hstation⟩ hnone
    rw [hnone] at hmessages
    exact List.filter_eq_nil_iff.mp hmessages m hmem (decide_eq_true hstation)
  · intro hne
    obtain ⟨m, hm⟩ := Option.ne_none_iff_exists'.mp hne
    rw [hm] at hmessages
    have hmem : m ∈ cache.messages.filter fun m => station m = stationid := by
      rw [hmessages]
      exact List.mem_singleton_self m
    exact ⟨m, (List.mem_filter.mp hmem).1, of_decide_eq_true (List.mem_filter.mp hmem).2⟩

variable {read : Table.Row R → M}
  {receive : M → Store (stationName station) R → Store (stationName station) R}
  {restored : M → M} {on : Table.Row R → Table.Row R → Bool} {received : List M}
  {type : LdmData.Type}

/-- The entry of a station in the cache after a request. -/
theorem entry_warm (h : Store.ReadsBack read receive restored) (stationid : UInt64) :
    ((Store.receiveAll receive received Store.new).select type on read).2.cache.get?
      (toString stationid) = lastReceived station received stationid := by
  rw [Store.get?_select_warm h, latest_stationName]

/-- The same after a restart. -/
theorem entry_restart (h : Store.ReadsBack read receive restored)
    (hon : (Store.receiveAll receive received Store.new).MatchesLater on read)
    (stationid : UInt64) :
    ((Store.receiveAll receive received Store.new).restart.select type on read).2.cache.get?
      (toString stationid) = (lastReceived station received stationid).map restored := by
  rw [Store.get?_select_restart h hon, latest_stationName]

/-- The two replies have the same content exactly if every station's last message is kept
by what is read back of it. -/
theorem sameContent_iff {keeps : M → M → Prop} (h : Store.ReadsBack read receive restored)
    (hon : (Store.receiveAll receive received Store.new).MatchesLater on read)
    (hkeeps : ∀ m, keeps m m) (type : LdmData.Type) :
    SameContent station keeps received
        ((Store.receiveAll receive received Store.new).select type on read).1
        ((Store.receiveAll receive received Store.new).restart.select type on read).1 ↔
      ∀ stationid m, lastReceived station received stationid = some m →
        keeps m (restored m) := by
  have hrestart : ∀ {stationid m}, lastReceived station received stationid = some m →
      ((Store.receiveAll receive received Store.new).restart.select type on read).2.cache.get?
        (toString stationid) = some (restored m) := by
    intro stationid m hlast
    rw [entry_restart h hon, hlast]
    rfl
  constructor
  · intro hcontent stationid m hlast
    obtain ⟨-, rfl⟩ := of_lastReceived_eq_some hlast
    exact (shows_messages_iff (hrestart hlast)).mp (hcontent.last _ m hlast).2
  · intro hrestored
    refine ⟨?_, ?_⟩
    · intro stationid
      rw [Store.select_fst, Store.select_fst, exists_message_iff, exists_message_iff,
        entry_warm h, entry_restart h hon, Ne, Ne, Option.map_eq_none_iff]
    · intro stationid m hlast
      obtain ⟨-, rfl⟩ := of_lastReceived_eq_some hlast
      have hwarm : ((Store.receiveAll receive received Store.new).select type on
          read).2.cache.get? (toString (station m)) = some m := by
        rw [entry_warm h, hlast]
      exact ⟨(shows_messages_iff hwarm).mpr (hkeeps m),
        (shows_messages_iff (hrestart hlast)).mpr (hrestored _ m hlast)⟩

end

end OpenC2X.Ldm
