import OpenC2X.Ldm.Service
import Mathlib.Data.List.Perm.Subperm

/-!
# The access categories of a reply

`dccInfoCache` is ordered by the access category, and so is every reply.  If an LDM receives
messages of the four categories of DCC and of no other, the message of a category has a fixed
place in the reply as soon as all four are there: first BE, then BK, VI and VO.

A process starts with an empty cache, perhaps on the table of an earlier one.  The rows of the
table only matter until something is in the cache: if a request comes before any message, the
cache is filled from them.
-/

namespace OpenC2X.Ldm

open Buffers

/-- The access categories, in the order of `dccInfoCache`. -/
def accessCategories : List String := ["BE", "BK", "VI", "VO"]

/-! ## Operations -/

def LDM.withDccInfoStore (ldm : LDM) (s : DccInfoStore) : LDM :=
  { ldm with dccInfoCache := s.cache, tables := { ldm.tables with dccInfo := s.table } }

inductive DccInfoOperation
  | receive (dccInfo : DccInfo)
  | request (condition : String)

namespace DccInfoOperation

variable (sqlite : Sqlite)

def perform (ldm : LDM) : DccInfoOperation → LDM
  | .receive dccInfo => receiveDccInfo sqlite dccInfo ldm
  | .request condition => ldm.withDccInfoStore (dccInfoSelect sqlite condition ldm.dccInfoStore).2

def performAll (ldm : LDM) (operations : List DccInfoOperation) : LDM :=
  operations.foldl (perform sqlite) ldm

/-- The message that is received. -/
def received : DccInfoOperation → List DccInfo
  | .receive dccInfo => [dccInfo]
  | .request _ => []

def allReceived (operations : List DccInfoOperation) : List DccInfo :=
  operations.flatMap received

end DccInfoOperation

open DccInfoOperation

variable {sqlite : Sqlite} {ldm : LDM}

/-! ## The categories of the cache -/

/-- The cache has entries of the four categories only, and so has the table as long as the
cache may be filled from it. -/
structure OnlyCategories (sqlite : Sqlite) (ldm : LDM) : Prop where
  entries : ∀ category, ldm.dccInfoCache.get? category ≠ none → category ∈ accessCategories
  rows : ldm.dccInfoCache.isEmpty = true → ∀ row ∈ ldm.tables.dccInfo.rows,
    (readDccInfo sqlite row).accesscategory ∈ accessCategories

/-- A process that has just been started. -/
theorem onlyCategories_of_empty (hempty : ldm.dccInfoCache = Cache.empty)
    (hrows : ∀ row ∈ ldm.tables.dccInfo.rows,
      (readDccInfo sqlite row).accesscategory ∈ accessCategories) : OnlyCategories sqlite ldm where
  entries category hentry := by
    rw [hempty, Cache.get?_empty] at hentry
    exact absurd rfl hentry
  rows _ := hrows

theorem dccInfoCache_request (condition : String) :
    (perform sqlite ldm (.request condition)).dccInfoCache =
      if ldm.dccInfoCache.isEmpty then
        ldm.dccInfoCache.assignAll
          ((ldm.tables.dccInfo.selfUnmatched laterDccInfo).map (readDccInfo sqlite))
      else ldm.dccInfoCache := by
  show (if ldm.dccInfoCache.isEmpty then ldm.dccInfoStore.fill laterDccInfo (readDccInfo sqlite)
    else ldm.dccInfoStore).cache = _
  split <;> rfl

theorem dccInfoTable_request (condition : String) :
    (perform sqlite ldm (.request condition)).tables.dccInfo = ldm.tables.dccInfo := by
  show (if ldm.dccInfoCache.isEmpty then ldm.dccInfoStore.fill laterDccInfo (readDccInfo sqlite)
    else ldm.dccInfoStore).table = _
  split <;> rfl

theorem get?_receive (dccInfo : DccInfo) (category : String) :
    (perform sqlite ldm (.receive dccInfo)).dccInfoCache.get? category =
      if dccInfo.accesscategory = category then some dccInfo
      else ldm.dccInfoCache.get? category :=
  Cache.get?_assign ldm.dccInfoCache dccInfo category

theorem OnlyCategories.receive (h : OnlyCategories sqlite ldm) {dccInfo : DccInfo}
    (hcategory : dccInfo.accesscategory ∈ accessCategories) :
    OnlyCategories sqlite (perform sqlite ldm (.receive dccInfo)) := by
  refine ⟨?_, ?_⟩
  · intro category hentry
    rw [get?_receive] at hentry
    split at hentry
    next hsame => exact hsame ▸ hcategory
    next => exact h.entries category hentry
  · intro hempty
    have hnonempty : (ldm.dccInfoCache.assign dccInfo).isEmpty = false :=
      Cache.isEmpty_assign ldm.dccInfoCache dccInfo
    exact absurd hempty (Bool.eq_false_iff.mp hnonempty)

theorem OnlyCategories.request (h : OnlyCategories sqlite ldm) (condition : String) :
    OnlyCategories sqlite (perform sqlite ldm (.request condition)) := by
  refine ⟨?_, ?_⟩
  · intro category hentry
    rw [dccInfoCache_request] at hentry
    split at hentry
    next hempty =>
      -- what has been filled in comes from a row
      rw [(Cache.isEmpty_iff _).mp hempty, Cache.get?_assignAll, Cache.get?_empty,
        Option.or_none] at hentry
      obtain ⟨m, hlatest⟩ := Option.ne_none_iff_exists'.mp hentry
      obtain ⟨hm, hcategory⟩ := List.mem_filter.mp (List.mem_of_getLast? hlatest)
      obtain ⟨row, hrow, rfl⟩ := List.mem_map.mp hm
      rw [← of_decide_eq_true hcategory]
      exact h.rows hempty row (Table.mem_of_mem_selfUnmatched hrow)
    next => exact h.entries category hentry
  · intro hempty row hrow
    rw [dccInfoTable_request] at hrow
    apply h.rows _ row hrow
    rw [dccInfoCache_request] at hempty
    split at hempty
    next hempty' => exact hempty'
    next => exact hempty

theorem OnlyCategories.step (h : OnlyCategories sqlite ldm) {operation : DccInfoOperation}
    (hreceived : ∀ m ∈ received operation, m.accesscategory ∈ accessCategories) :
    OnlyCategories sqlite (perform sqlite ldm operation) := by
  cases operation with
  | receive dccInfo => exact h.receive (hreceived dccInfo (List.mem_singleton_self dccInfo))
  | request condition => exact h.request condition

theorem OnlyCategories.run (h : OnlyCategories sqlite ldm) {operations : List DccInfoOperation}
    (hreceived : ∀ m ∈ allReceived operations, m.accesscategory ∈ accessCategories) :
    OnlyCategories sqlite (performAll sqlite ldm operations) := by
  induction operations generalizing ldm with
  | nil => exact h
  | cons operation operations ih =>
      have hfirst : ∀ m ∈ received operation, m.accesscategory ∈ accessCategories := by
        intro m hm
        exact hreceived m (List.mem_append_left _ hm)
      exact ih (h.step hfirst) fun m hm => hreceived m (List.mem_append_right _ hm)

/-! ## What has been received stays -/

theorem entry_perform {category : String} (h : ldm.dccInfoCache.get? category ≠ none)
    (operation : DccInfoOperation) :
    (perform sqlite ldm operation).dccInfoCache.get? category ≠ none := by
  cases operation with
  | receive dccInfo =>
      rw [get?_receive]
      split
      · exact Option.some_ne_none dccInfo
      · exact h
  | request condition =>
      rw [dccInfoCache_request]
      split
      next hempty =>
        rw [(Cache.isEmpty_iff _).mp hempty, Cache.get?_empty] at h
        exact absurd rfl h
      next => exact h

theorem entry_performAll {category : String} (h : ldm.dccInfoCache.get? category ≠ none)
    (operations : List DccInfoOperation) :
    (performAll sqlite ldm operations).dccInfoCache.get? category ≠ none := by
  induction operations generalizing ldm with
  | nil => exact h
  | cons operation operations ih => exact ih (entry_perform h operation)

/-- A received message leaves an entry of its category. -/
theorem entry_of_received {operations : List DccInfoOperation} {m : DccInfo}
    (hm : m ∈ allReceived operations) :
    (performAll sqlite ldm operations).dccInfoCache.get? m.accesscategory ≠ none := by
  induction operations generalizing ldm with
  | nil => cases hm
  | cons operation operations ih =>
      rcases List.mem_append.mp hm with hfirst | hrest
      · cases operation with
        | receive dccInfo =>
            obtain rfl := List.mem_singleton.mp hfirst
            have hentry : (perform sqlite ldm (.receive m)).dccInfoCache.get? m.accesscategory ≠
                none := by
              rw [get?_receive, if_pos rfl]
              exact Option.some_ne_none m
            exact entry_performAll hentry operations
        | request condition => cases hfirst
      · exact ih hrest

/-! ## The order of a reply -/

/-- A cache of these categories has them in order if all four are there, and as well if it has
messages of four different ones. -/
theorem map_accesscategory_messages {cache : Cache DccInfo.accesscategory}
    (honly : ∀ category, cache.get? category ≠ none → category ∈ accessCategories)
    (hall : (∀ category ∈ accessCategories, cache.get? category ≠ none) ∨
      4 ≤ cache.messages.length) :
    cache.messages.map DccInfo.accesscategory = accessCategories := by
  have hordered : accessCategories.Pairwise fun c c' => compare c c' = .lt := by decide
  have hnodup : (cache.messages.map DccInfo.accesscategory).Nodup :=
    Cache.nodup_of_ordered cache.names_ordered
  have hsubset : cache.messages.map DccInfo.accesscategory ⊆ accessCategories :=
    fun category hmem => honly category ((cache.mem_names_iff category).mp hmem)
  have hsubperm := List.subperm_of_subset hnodup hsubset
  apply Cache.names_eq_of_perm hordered
  rcases hall with hall | hlength
  · have hsubset' : accessCategories ⊆ cache.messages.map DccInfo.accesscategory := by
      intro category hmem
      exact (cache.mem_names_iff category).mpr (hall category hmem)
    exact hsubperm.antisymm
      (List.subperm_of_subset (Cache.nodup_of_ordered hordered) hsubset')
  · apply hsubperm.perm_of_length_le
    rw [List.length_map]
    exact hlength

theorem OnlyCategories.map_reply (h : OnlyCategories sqlite ldm) (condition : String)
    (hall : (∀ category ∈ accessCategories, ldm.dccInfoCache.get? category ≠ none) ∨
      4 ≤ (dccInfoSelect sqlite condition ldm.dccInfoStore).1.data.length) :
    (dccInfoSelect sqlite condition ldm.dccInfoStore).1.data.map DccInfo.accesscategory =
      accessCategories := by
  have hcategories : OnlyCategories sqlite (perform sqlite ldm (.request condition)) :=
    h.request condition
  apply map_accesscategory_messages hcategories.entries
  exact hall.imp_left fun hall category hmem => entry_perform (hall category hmem) _

end OpenC2X.Ldm
