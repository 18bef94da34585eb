import OpenC2X.Lib.PartialRun
import OpenC2X.Lib.Window
import Mathlib.Data.List.Rotate
import Mathlib.Data.Multiset.Defs

/-!
# RingBuffer

`RingBuffer` holds the channel load measurements of one time window.  It is a list that
first grows to `maxSize` entries and is then overwritten in place, `nextInsert` going
round.  Read from `nextInsert` on, the entries are in the order in which they were
inserted (`window`), and an insertion moves a sliding window on by one value.
-/

namespace OpenC2X.Dcc

/-- `nextInsert` is an iterator into `entries`; `none` stands for `entries.end()`. -/
structure RingBuffer (T : Type*) where
  maxSize : ℕ
  entries : List T
  nextInsert : Option ℕ
  length_le : entries.length ≤ maxSize
  /-- an iterator other than `end()` points to an entry of a full buffer -/
  nextInsert_lt : ∀ i, nextInsert = some i → i < entries.length ∧ entries.length = maxSize

namespace RingBuffer

variable {T : Type*}

def reset (maxSize : ℕ) : RingBuffer T where
  maxSize := maxSize
  entries := []
  nextInsert := none
  length_le := Nat.zero_le _
  nextInsert_lt := fun i h => by cases h

/-- `*nextInsert = o; nextInsert++` for an iterator at position `i`. -/
def overwrite (b : RingBuffer T) (i : ℕ) (o : T) (hfull : b.entries.length = b.maxSize) :
    RingBuffer T where
  maxSize := b.maxSize
  entries := b.entries.set i o
  nextInsert := if i + 1 < b.entries.length then some (i + 1) else none
  length_le := by rw [List.length_set]; exact b.length_le
  nextInsert_lt := by
    intro j hj
    rw [List.length_set]
    split_ifs at hj with hlt
    obtain rfl : i + 1 = j := Option.some.inj hj
    exact ⟨hlt, hfull⟩

/-- `insert`; `none` stands for a failed assertion. -/
def insert (b : RingBuffer T) (o : T) : Option (RingBuffer T) :=
  if 0 < b.maxSize then
    match hnext : b.nextInsert with
    | none =>
        if hroom : b.entries.length < b.maxSize then
          -- special case: RingBuffer not yet full
          some
            { maxSize := b.maxSize
              entries := b.entries ++ [o]
              nextInsert := none
              length_le := by rw [List.length_append]; exact hroom
              nextInsert_lt := fun i h => by cases h }
        else
          some (b.overwrite 0 o (Nat.le_antisymm b.length_le (not_lt.mp hroom)))
    | some i => some (b.overwrite i o (b.nextInsert_lt i hnext).2)
  else
    none

/-- The entries in the order in which they were inserted. -/
def window (b : RingBuffer T) : List T := b.entries.rotate (b.nextInsert.getD 0)

theorem window_perm (b : RingBuffer T) : b.window.Perm b.entries :=
  List.rotate_perm _ _

/-- Overwriting the oldest entry: it is dropped and the new one comes last. -/
theorem window_overwrite (b : RingBuffer T) {i : ℕ} (o : T)
    (hfull : b.entries.length = b.maxSize) (hi : i < b.entries.length) :
    (b.overwrite i o hfull).window = (b.entries.rotate i).drop 1 ++ [o] := by
  -- the entries are `older ++ oldest :: newer`
  obtain ⟨older, oldest, newer, hentries, hlen⟩ :
      ∃ older oldest newer, b.entries = older ++ oldest :: newer ∧ older.length = i := by
    refine ⟨b.entries.take i, b.entries[i], b.entries.drop (i + 1), ?_, ?_⟩
    · rw [List.getElem_cons_drop, List.take_append_drop]
    · rw [List.length_take]
      omega
  have hset : b.entries.set i o = older ++ o :: newer := by
    rw [hentries, List.set_append_right _ _ hlen.le, hlen, Nat.sub_self, List.set_cons_zero]
  have hrotate : b.entries.rotate i = (oldest :: newer) ++ older := by
    rw [hentries, ← hlen, List.rotate_append_length_eq]
  have hsplit : older ++ o :: newer = (older ++ [o]) ++ newer := by simp
  have hlast : (older ++ [o]).length = i + 1 := by simp [hlen]
  have hgoal : (older ++ o :: newer).rotate (i + 1) = newer ++ (older ++ [o]) := by
    rw [hsplit, ← hlast, List.rotate_append_length_eq]
  have hwindow : (b.overwrite i o hfull).window = (older ++ o :: newer).rotate
      ((if i + 1 < b.entries.length then some (i + 1) else none).getD 0) := by
    rw [← hset]
    rfl
  rw [hwindow, hrotate]
  split_ifs with hlt
  · rw [Option.getD_some, hgoal]
    simp
  · -- the end of the list: the iterator at `end()` reads like one at the first entry
    have hend : newer = [] := by
      have : b.entries.length = i + 1 + newer.length := by simp [hentries, hlen]; omega
      exact List.eq_nil_of_length_eq_zero (by omega)
    subst hend
    simp

/-- What an insertion can do: append to a buffer that is not full, or overwrite the oldest
entry of a full one. -/
theorem insert_cases {b b' : RingBuffer T} {o : T} (h : b.insert o = some b') :
    (b.entries.length < b.maxSize ∧ b.nextInsert = none ∧ b'.maxSize = b.maxSize ∧
      b'.entries = b.entries ++ [o] ∧ b'.nextInsert = none) ∨
    ∃ (i : ℕ) (hfull : b.entries.length = b.maxSize),
      i < b.entries.length ∧ i = b.nextInsert.getD 0 ∧ b' = b.overwrite i o hfull := by
  unfold insert at h
  by_cases hpos : 0 < b.maxSize
  · rw [if_pos hpos] at h
    split at h
    next hnext =>
      by_cases hroom : b.entries.length < b.maxSize
      · rw [dif_pos hroom] at h
        obtain rfl := Option.some.inj h
        exact Or.inl ⟨hroom, hnext, rfl, rfl, rfl⟩
      · rw [dif_neg hroom] at h
        have hle := b.length_le
        exact Or.inr ⟨0, by omega, by omega, by rw [hnext]; rfl, (Option.some.inj h).symm⟩
    next i hnext =>
      obtain ⟨hi, hfull⟩ := b.nextInsert_lt i hnext
      exact Or.inr ⟨i, hfull, hi, by rw [hnext]; rfl, (Option.some.inj h).symm⟩
  · rw [if_neg hpos] at h
    cases h

theorem window_insert {b b' : RingBuffer T} {o : T} (h : b.insert o = some b') :
    b'.maxSize = b.maxSize ∧ b'.window = (b.window ++ [o]).rtake b.maxSize := by
  rcases insert_cases h with ⟨hroom, hnext, hsize, hentries, hnext'⟩ | ⟨i, hfull, hi, hnext, rfl⟩
  · refine ⟨hsize, ?_⟩
    have hwindow : b.window = b.entries := by
      rw [window, hnext, Option.getD_none, List.rotate_zero]
    have hwindow' : b'.window = b.entries ++ [o] := by
      rw [window, hnext', Option.getD_none, List.rotate_zero, hentries]
    rw [hwindow', hwindow, Window.rtake_of_length_le]
    rw [List.length_append, List.length_singleton]
    exact hroom
  · refine ⟨rfl, ?_⟩
    have hwindow : b.window = b.entries.rotate i := by rw [window, hnext]
    have hlen : (b.window ++ [o]).length - b.maxSize = 1 := by
      rw [hwindow, List.length_append, List.length_rotate, List.length_singleton]
      omega
    have hone : 1 ≤ b.window.length := by
      rw [hwindow, List.length_rotate]
      omega
    rw [window_overwrite b o hfull hi, ← hwindow, List.rtake, hlen,
      List.drop_append_of_le_length hone]

theorem exists_insert {b : RingBuffer T} (hpos : 0 < b.maxSize) (o : T) :
    ∃ b', b.insert o = some b' := by
  unfold insert
  rw [if_pos hpos]
  split
  next =>
    split
    · exact ⟨_, rfl⟩
    · exact ⟨_, rfl⟩
  next => exact ⟨_, rfl⟩

theorem insert_of_maxSize_zero {b : RingBuffer T} (hzero : b.maxSize = 0) (o : T) :
    b.insert o = none := by
  rw [insert, if_neg (by omega)]

/-- The buffer shows the last `size` of the inserted values. -/
structure Shows (b : RingBuffer T) (size : ℕ) (values : List T) : Prop where
  maxSize_eq : b.maxSize = size
  window_eq : b.window = values.rtake size

theorem shows_reset (size : ℕ) : (reset size : RingBuffer T).Shows size [] :=
  ⟨rfl, (List.rtake_nil size).symm⟩

theorem Shows.insert {b b' : RingBuffer T} {size : ℕ} {values : List T} {o : T}
    (h : b.Shows size values) (hinsert : b.insert o = some b') : b'.Shows size (values ++ [o]) := by
  obtain ⟨hsize, hwindow⟩ := window_insert hinsert
  refine ⟨hsize.trans h.maxSize_eq, ?_⟩
  rw [hwindow, h.maxSize_eq, h.window_eq, Window.rtake_rtake_concat]

/-! ## Minimum and maximum -/

variable [LinearOrder T]

/-- `*min_element(entries.begin(), entries.end())`; `none` stands for the dereferenced
`end()` of an empty list. -/
def min (b : RingBuffer T) : Option T := b.entries.min?

def max (b : RingBuffer T) : Option T := b.entries.max?

theorem min_eq (b : RingBuffer T) : b.min = b.window.min? :=
  Window.min?_perm b.window_perm.symm

theorem max_eq (b : RingBuffer T) : b.max = b.window.max? :=
  Window.max?_perm b.window_perm.symm

theorem Shows.min_eq {b : RingBuffer T} {size : ℕ} {values : List T} (h : b.Shows size values) :
    b.min = (values.rtake size).min? := by
  rw [RingBuffer.min_eq, h.window_eq]

theorem Shows.max_eq {b : RingBuffer T} {size : ℕ} {values : List T} (h : b.Shows size values) :
    b.max = (values.rtake size).max? := by
  rw [RingBuffer.max_eq, h.window_eq]

/-! ## Inserting a sequence -/

/-- The inserts of a sequence of values, one after the other. -/
def insertAll (values : List T) (b : RingBuffer T) : Option (RingBuffer T) :=
  PartialRun.run (fun o b => b.insert o) b values

omit [LinearOrder T] in
/-- With room for one entry at least, no assertion fails. -/
theorem exists_insertAll {size : ℕ} (hsize : 1 ≤ size) (values : List T) :
    ∃ b, insertAll values (reset size) = some b ∧ b.Shows size values := by
  apply PartialRun.exists_run (P := fun values (b : RingBuffer T) => b.Shows size values)
    (shows_reset size)
  intro before o after b _ _ hshows
  have hpos : 0 < b.maxSize := by
    rw [hshows.maxSize_eq]
    exact hsize
  obtain ⟨b', hinsert⟩ := exists_insert hpos o
  exact ⟨b', hinsert, hshows.insert hinsert⟩

omit [LinearOrder T] in
theorem Shows.entries_perm {b : RingBuffer T} {size : ℕ} {values : List T}
    (h : b.Shows size values) : b.entries.Perm (values.rtake size) := by
  rw [← h.window_eq]
  exact b.window_perm.symm

/-- The buffer holds these values, and its extreme values are theirs. -/
structure Holds (b : RingBuffer T) (values : List T) : Prop where
  entries_eq : (b.entries : Multiset T) = values
  min_isLeast : ∃ least, b.min = some least ∧ IsLeast {x | x ∈ values} least
  max_isGreatest : ∃ greatest, b.max = some greatest ∧ IsGreatest {x | x ∈ values} greatest

theorem Shows.holds {b : RingBuffer T} {size : ℕ} {values : List T} (h : b.Shows size values)
    (hsize : 1 ≤ size) (hne : values ≠ []) : b.Holds (values.rtake size) := by
  have hwindow : values.rtake size ≠ [] := Window.rtake_ne_nil hsize hne
  obtain ⟨least, hleast⟩ := Window.exists_min? hwindow
  obtain ⟨greatest, hgreatest⟩ := Window.exists_max? hwindow
  refine ⟨Quot.sound h.entries_perm, ⟨least, ?_, ?_⟩, ⟨greatest, ?_, ?_⟩⟩
  · rw [h.min_eq, hleast]
  · exact Window.min?_eq_some_iff_isLeast.mp hleast
  · rw [h.max_eq, hgreatest]
  · exact Window.max?_eq_some_iff_isGreatest.mp hgreatest

/-- **Sliding window.**  After `reset(maxSize)` and a sequence of inserts, the buffer holds
the last values of the sequence, as many as fit. -/
theorem slidingWindow {maxSize : ℕ} (hsize : 1 ≤ maxSize) {values : List T}
    (hne : values ≠ []) :
    ∃ b, insertAll values (reset maxSize) = some b ∧ b.entries.length ≤ maxSize ∧
      b.Holds (values.rtake (Nat.min values.length maxSize)) := by
  obtain ⟨b, hrun, hshows⟩ := exists_insertAll hsize values
  refine ⟨b, hrun, ?_, ?_⟩
  · rw [← hshows.maxSize_eq]
    exact b.length_le
  · have hlast : values.rtake (Nat.min values.length maxSize) = values.rtake maxSize :=
      Window.rtake_min_length values maxSize
    rw [hlast]
    exact hshows.holds hsize hne

/-- Three inserts into a buffer for two values. -/
theorem slidingWindow_three :
    ∃ b, insertAll [5, 7, 6] (reset 2) = some b ∧ b.entries.length ≤ 2 ∧
      b.Holds (List.rtake [5, 7, 6] (Nat.min 3 2)) :=
  slidingWindow (by decide) (by decide)

end RingBuffer

end OpenC2X.Dcc
