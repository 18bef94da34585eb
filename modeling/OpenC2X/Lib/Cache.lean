import OpenC2X.Lib.Table
import Mathlib.Data.List.Basic
import Mathlib.Data.List.Induction
import Mathlib.Tactic.Common

/-!
# A cache of the latest message of every name

A map from names to messages in which a message is only ever stored under its own name.
Its messages can be listed in the order of the names; every name occurs at most once.
A cache can be filled from a table that keeps all messages ever received.
-/

/-- A map whose entries are stored under their names. -/
structure Cache {M : Type*} (name : M → String) where
  entries : Std.ExtTreeMap String M
  named : ∀ key message, entries[key]? = some message → name message = key

namespace Cache

variable {M : Type*} {name : M → String}

def empty : Cache name where
  entries := ∅
  named := by simp

def isEmpty (cache : Cache name) : Bool := cache.entries.isEmpty

def get? (cache : Cache name) (key : String) : Option M := cache.entries[key]?

/-- `cache[name(message)] = message` -/
def assign (cache : Cache name) (message : M) : Cache name where
  entries := cache.entries.insert (name message) message
  named := by
    intro key message' h
    rw [Std.ExtTreeMap.getElem?_insert] at h
    split at h
    · cases h
      exact Std.LawfulEqCmp.eq_of_compare ‹_›
    · exact cache.named key message' h

/-- The messages, in the order of their names. -/
def messages (cache : Cache name) : List M := cache.entries.toList.map Prod.snd

@[ext] theorem ext {cache cache' : Cache name} (h : ∀ key, cache.get? key = cache'.get? key) :
    cache = cache' := by
  obtain ⟨entries, named⟩ := cache
  obtain ⟨entries', named'⟩ := cache'
  obtain rfl : entries = entries' := Std.ExtTreeMap.ext_getElem? h
  rfl

@[simp] theorem get?_empty (key : String) : (empty : Cache name).get? key = none := by
  simp [get?, empty]

@[simp] theorem isEmpty_empty : (empty : Cache name).isEmpty = true :=
  Std.ExtTreeMap.isEmpty_empty

theorem get?_assign (cache : Cache name) (message : M) (key : String) :
    (cache.assign message).get? key =
      if name message = key then some message else cache.get? key := by
  simp [get?, assign, Std.ExtTreeMap.getElem?_insert, Std.LawfulEqCmp.compare_eq_iff_eq]

theorem isEmpty_iff (cache : Cache name) : cache.isEmpty = true ↔ cache = empty := by
  constructor
  · intro h
    ext key : 1
    have hentries : cache.entries = ∅ := Std.ExtTreeMap.isEmpty_iff.mp h
    simp [get?, empty, hentries]
  · rintro rfl
    exact isEmpty_empty

@[simp] theorem isEmpty_assign (cache : Cache name) (message : M) :
    (cache.assign message).isEmpty = false := by
  rw [Bool.eq_false_iff]
  intro h
  have hself := cache.get?_assign message (name message)
  rw [(isEmpty_iff _).mp h] at hself
  simp at hself

/-! ## Assigning a list of messages -/

/-- The last message of a name in a list. -/
def latest (name : M → String) (messages : List M) (key : String) : Option M :=
  (messages.filter fun message => name message = key).getLast?

theorem latest_append_singleton (messages : List M) (message : M) (key : String) :
    latest name (messages ++ [message]) key =
      if name message = key then some message else latest name messages key := by
  unfold latest
  rw [List.filter_append]
  by_cases h : name message = key
  · simp [h]
  · simp [h]

def assignAll (cache : Cache name) (messages : List M) : Cache name :=
  messages.foldl assign cache

/-- The last message of every name stays. -/
theorem get?_assignAll (cache : Cache name) (messages : List M) (key : String) :
    (cache.assignAll messages).get? key =
      (latest name messages key).or (cache.get? key) := by
  induction messages using List.reverseRecOn with
  | nil => rfl
  | append_singleton messages message ih =>
      rw [assignAll, List.foldl_append, List.foldl_cons, List.foldl_nil, ← assignAll,
        get?_assign, latest_append_singleton, ih]
      by_cases h : name message = key
      · simp [h]
      · simp [h]

/-! ## The list of the messages -/

theorem mem_messages_iff (cache : Cache name) (message : M) :
    message ∈ cache.messages ↔ cache.get? (name message) = some message := by
  constructor
  · intro h
    obtain ⟨⟨key, message'⟩, hmem, rfl⟩ := List.mem_map.mp h
    have hget := Std.ExtTreeMap.mem_toList_iff_getElem?_eq_some.mp hmem
    rw [cache.named key message' hget]
    exact hget
  · intro h
    exact List.mem_map.mpr ⟨(name message, message),
      Std.ExtTreeMap.mem_toList_iff_getElem?_eq_some.mpr h, rfl⟩

/-- No name occurs twice. -/
theorem names_pairwise (cache : Cache name) :
    cache.messages.Pairwise (fun message message' => name message ≠ name message') := by
  rw [messages, List.pairwise_map]
  refine Std.ExtTreeMap.distinct_keys_toList.imp_of_mem ?_
  intro entry entry' hmem hmem' hdistinct hsame
  apply hdistinct
  rw [Std.LawfulEqCmp.compare_eq_iff_eq]
  have hname := cache.named _ _ (Std.ExtTreeMap.mem_toList_iff_getElem?_eq_some.mp hmem)
  have hname' := cache.named _ _ (Std.ExtTreeMap.mem_toList_iff_getElem?_eq_some.mp hmem')
  exact hname.symm.trans (hsame.trans hname')

theorem map_name_messages (cache : Cache name) :
    cache.messages.map name = cache.entries.keys := by
  rw [messages, List.map_map, ← Std.ExtTreeMap.map_fst_toList_eq_keys]
  apply List.map_congr_left
  intro entry hmem
  exact cache.named _ _ (Std.ExtTreeMap.mem_toList_iff_getElem?_eq_some.mp hmem)

theorem mem_names_iff (cache : Cache name) (key : String) :
    key ∈ cache.messages.map name ↔ cache.get? key ≠ none := by
  rw [map_name_messages, Std.ExtTreeMap.mem_keys, get?, Std.ExtTreeMap.mem_iff_isSome_getElem?,
    Option.isSome_iff_ne_none]

/-- The messages are listed in the order of their names. -/
theorem names_ordered (cache : Cache name) :
    (cache.messages.map name).Pairwise fun key key' => compare key key' = .lt := by
  rw [map_name_messages]
  exact Std.ExtTreeMap.ordered_keys

theorem nodup_of_ordered {names : List String}
    (h : names.Pairwise fun key key' => compare key key' = .lt) : names.Nodup := by
  refine h.imp ?_
  rintro key _ hlt rfl
  have hself : compare key key = .eq := Std.ReflCmp.compare_self
  rw [hself] at hlt
  cases hlt

/-- The list is determined by its names. -/
theorem names_eq_of_perm {cache : Cache name} {names : List String}
    (hordered : names.Pairwise fun key key' => compare key key' = .lt)
    (hperm : (cache.messages.map name).Perm names) : cache.messages.map name = names := by
  refine hperm.eq_of_pairwise ?_ cache.names_ordered hordered
  intro key key' _ _ hlt hlt'
  have hgt : compare key key' = .gt := Std.OrientedCmp.gt_iff_lt.mpr hlt'
  rw [hlt] at hgt
  cases hgt

theorem filter_name_of_mem {messages : List M} {message : M}
    (hpairwise : messages.Pairwise fun message message' => name message ≠ name message')
    (hmem : message ∈ messages) :
    (messages.filter fun message' => name message' = name message) = [message] := by
  induction messages with
  | nil => cases hmem
  | cons first rest ih =>
      obtain ⟨hfirst, hrest⟩ := List.pairwise_cons.mp hpairwise
      rcases List.mem_cons.mp hmem with rfl | hmem
      · have hnil : (rest.filter fun message' => name message' = name message) = [] := by
          rw [List.filter_eq_nil_iff]
          intro message' hmem' hsame
          exact hfirst message' hmem' (of_decide_eq_true hsame).symm
        rw [List.filter_cons, if_pos (decide_eq_true rfl), hnil]
      · have hne : ¬decide (name first = name message) = true := by
          simpa using hfirst message hmem
        rw [List.filter_cons, if_neg hne, ih hrest hmem]

/-- The entry of a name is the only one among the messages that has it. -/
theorem filter_messages (cache : Cache name) (key : String) :
    (cache.messages.filter fun message => name message = key) = (cache.get? key).toList := by
  cases hget : cache.get? key with
  | none =>
      rw [Option.toList_none, List.filter_eq_nil_iff]
      intro message hmem hname
      have hentry := (cache.mem_messages_iff message).mp hmem
      rw [of_decide_eq_true hname, hget] at hentry
      cases hentry
  | some message =>
      obtain rfl := cache.named key message hget
      exact filter_name_of_mem cache.names_pairwise ((cache.mem_messages_iff message).mpr hget)

/-- Caches that agree up to a function list the same names, with its values. -/
theorem messages_eq_map {cache cache' : Cache name} {f : M → M}
    (h : ∀ key, cache'.get? key = (cache.get? key).map f) :
    cache'.messages = cache.messages.map f := by
  have hentries : cache'.entries = cache.entries.map fun _ message => f message := by
    apply Std.ExtTreeMap.ext_getElem?
    intro key
    rw [Std.ExtTreeMap.getElem?_map]
    exact h key
  rw [messages, hentries, Std.ExtTreeMap.toList_map, List.map_map, messages, List.map_map]
  rfl

/-! ## Filling a cache from a table -/

/-- Of the rows of a table, those without a match are enough: they hold the last row of
every name. -/
theorem latest_selfUnmatched {α : Type*} {t : Table α} {on : Table.Row α → Table.Row α → Bool}
    {read : Table.Row α → M} (hon : t.MatchesLater on fun row => name (read row))
    (key : String) :
    latest name ((t.selfUnmatched on).map read) key = latest name (t.rows.map read) key := by
  simp only [latest, List.filter_map, List.getLast?_map, Function.comp_def]
  rw [Table.getLast?_group_selfUnmatched hon]

end Cache
