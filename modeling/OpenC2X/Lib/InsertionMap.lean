import Mathlib.Data.List.Induction
import Mathlib.Data.List.Nodup
import Mathlib.Tactic.Common

/-!
# Maps in the order of insertion

A map that keeps its entries in the order in which their keys were first set; setting a key
again replaces its value in its place.

Such a map may be kept up to date from snapshots of another one, each of which sets all the
keys it has.  What the map has for a key is then what the last snapshot with this key had.
If later snapshots have all the keys of the earlier ones, the map is the last snapshot.
-/

structure InsertionMap (κ α : Type*) where
  entries : List (κ × α)
  nodup : (entries.map Prod.fst).Nodup

namespace InsertionMap

variable {κ α : Type*} [DecidableEq κ]

def empty : InsertionMap κ α := ⟨[], List.nodup_nil⟩

/-- Replaces the value of the key, or adds an entry at the end. -/
def setEntries (key : κ) (a : α) : List (κ × α) → List (κ × α)
  | [] => [(key, a)]
  | entry :: rest =>
      if entry.1 = key then (key, a) :: rest else entry :: setEntries key a rest

def getEntries (key : κ) : List (κ × α) → Option α
  | [] => none
  | entry :: rest => if entry.1 = key then some entry.2 else getEntries key rest

theorem mem_map_fst_setEntries {key key' : κ} {a : α} {entries : List (κ × α)} :
    key' ∈ (setEntries key a entries).map Prod.fst ↔
      key' = key ∨ key' ∈ entries.map Prod.fst := by
  induction entries with
  | nil => simp [setEntries]
  | cons entry rest ih =>
      unfold setEntries
      split
      next hkey => simp [hkey]
      next hkey => rw [List.map_cons, List.mem_cons, ih, List.map_cons, List.mem_cons, or_left_comm]

theorem nodup_setEntries {entries : List (κ × α)} (h : (entries.map Prod.fst).Nodup) (key : κ)
    (a : α) : ((setEntries key a entries).map Prod.fst).Nodup := by
  induction entries with
  | nil => exact List.nodup_singleton key
  | cons entry rest ih =>
      rw [List.map_cons, List.nodup_cons] at h
      unfold setEntries
      split
      next hkey =>
        rw [List.map_cons, List.nodup_cons, ← hkey]
        exact h
      next hkey =>
        rw [List.map_cons, List.nodup_cons, mem_map_fst_setEntries]
        exact ⟨fun hmem => hmem.elim hkey h.1, ih h.2⟩

theorem getEntries_setEntries (key key' : κ) (a : α) (entries : List (κ × α)) :
    getEntries key' (setEntries key a entries) =
      if key = key' then some a else getEntries key' entries := by
  induction entries with
  | nil => rfl
  | cons entry rest ih =>
      unfold setEntries
      split
      next hkey =>
        simp only [getEntries, hkey]
        split <;> rfl
      next hkey =>
        simp only [getEntries, ih]
        by_cases hentry : entry.1 = key'
        · have hne : key ≠ key' := fun h => hkey (hentry.trans h.symm)
          rw [if_pos hentry, if_neg hne, if_pos hentry]
        · rw [if_neg hentry, if_neg hentry]

theorem getEntries_eq_some {entries : List (κ × α)} (h : (entries.map Prod.fst).Nodup) {key : κ}
    {a : α} : getEntries key entries = some a ↔ (key, a) ∈ entries := by
  induction entries with
  | nil => simp [getEntries]
  | cons entry rest ih =>
      rw [List.map_cons, List.nodup_cons] at h
      obtain ⟨key', a'⟩ := entry
      rw [getEntries, List.mem_cons]
      split
      next hkey =>
        obtain rfl : key' = key := hkey
        have hrest : (key', a) ∉ rest := by
          intro hmem
          have hfst : key' ∈ rest.map Prod.fst := List.mem_map_of_mem hmem
          exact h.1 hfst
        simp [hrest, eq_comm]
      next hkey =>
        rw [ih h.2]
        simp [Ne.symm hkey]

def set (m : InsertionMap κ α) (key : κ) (a : α) : InsertionMap κ α where
  entries := setEntries key a m.entries
  nodup := nodup_setEntries m.nodup key a

def get? (m : InsertionMap κ α) (key : κ) : Option α := getEntries key m.entries

@[simp] theorem get?_empty (key : κ) : (empty : InsertionMap κ α).get? key = none := rfl

theorem get?_set (m : InsertionMap κ α) (key key' : κ) (a : α) :
    (m.set key a).get? key' = if key = key' then some a else m.get? key' :=
  getEntries_setEntries key key' a m.entries

theorem get?_eq_some {m : InsertionMap κ α} {key : κ} {a : α} :
    m.get? key = some a ↔ (key, a) ∈ m.entries :=
  getEntries_eq_some m.nodup

/-! ## Snapshots -/

/-- Sets the entries one after the other. -/
def setAll (m : InsertionMap κ α) (entries : List (κ × α)) : InsertionMap κ α :=
  entries.foldl (fun m entry => m.set entry.1 entry.2) m

/-- What a list of entries has for a key: the last one counts. -/
def lastEntry (key : κ) (entries : List (κ × α)) : Option α :=
  ((entries.filter fun entry => entry.1 = key).getLast?).map Prod.snd

theorem get?_setAll (m : InsertionMap κ α) (entries : List (κ × α)) (key : κ) :
    (m.setAll entries).get? key = (lastEntry key entries).or (m.get? key) := by
  induction entries using List.reverseRecOn with
  | nil => rfl
  | append_singleton entries entry ih =>
      have hset : m.setAll (entries ++ [entry]) = (m.setAll entries).set entry.1 entry.2 :=
        List.foldl_append
      rw [hset, get?_set, ih, lastEntry, lastEntry, List.filter_append]
      by_cases hkey : entry.1 = key
      · simp [hkey]
      · simp [hkey]

end InsertionMap

section

variable {σ α : Type*} {f : σ → Option α} {earlier : List σ}

/-- The last snapshot counts, if it has a value. -/
theorem getLast?_filterMap_concat (f : σ → Option α) (earlier : List σ) (last : σ) :
    ((earlier ++ [last]).filterMap f).getLast? =
      (f last).or (earlier.filterMap f).getLast? := by
  rw [List.filterMap_append]
  cases hlast : f last with
  | some a => simp [hlast]
  | none => simp [hlast]

/-- If the last snapshot has a value for everything that an earlier one had, its value is the
last one that any snapshot had. -/
theorem getLast?_filterMap_of_last {last : σ} (h : ∀ s ∈ earlier, f s ≠ none → f last ≠ none) :
    ((earlier ++ [last]).filterMap f).getLast? = f last := by
  rw [getLast?_filterMap_concat]
  cases hlast : f last with
  | some a => rfl
  | none =>
      have hnone : ∀ s ∈ earlier, f s = none := fun s hs =>
        by_contra fun hne => h s hs hne hlast
      rw [List.filterMap_eq_nil_iff.mpr hnone]
      rfl

end
