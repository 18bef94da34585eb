import Mathlib.Data.List.DropRight
import Mathlib.Order.Bounds.Defs
import Mathlib.Order.MinMax

/-!
# Sliding windows

The window of size `n` over a growing sequence is `List.rtake` of it: its last `n` values,
or all of them as long as there are fewer.  Two windows over one sequence always share
the newest value, and a window forgets what lies more than `n` values back.
-/

namespace Window

variable {α : Type*} {l m : List α} {n : ℕ} {x : α}

theorem length_rtake (l : List α) (n : ℕ) : (l.rtake n).length = min n l.length := by
  rw [List.rtake, List.length_drop]
  omega

theorem rtake_of_length_le (h : l.length ≤ n) : l.rtake n = l := by
  rw [List.rtake, Nat.sub_eq_zero_of_le h, List.drop_zero]

/-- As long as there are fewer values than `n`, all of them count as the last ones. -/
theorem rtake_min_length (l : List α) (n : ℕ) : l.rtake (min l.length n) = l.rtake n := by
  rcases le_total l.length n with hshort | hlong
  · rw [min_eq_left hshort, rtake_of_length_le le_rfl, rtake_of_length_le hshort]
  · rw [min_eq_right hlong]

theorem rtake_append_of_le_length (h : n ≤ m.length) : (l ++ m).rtake n = m.rtake n := by
  rw [List.rtake, List.drop_append, List.length_append, List.drop_eq_nil_of_le (by omega),
    List.nil_append, List.rtake]
  congr 1
  omega

/-- A window that moves on by one value is computed from the window before. -/
theorem rtake_rtake_concat (l : List α) (n : ℕ) (x : α) :
    (l.rtake n ++ [x]).rtake n = (l ++ [x]).rtake n := by
  have hsplit : l ++ [x] = l.take (l.length - n) ++ (l.rtake n ++ [x]) := by
    rw [List.rtake, ← List.append_assoc, List.take_append_drop]
  by_cases hlong : n ≤ l.length
  · have hlen : n ≤ (l.rtake n ++ [x]).length := by
      rw [List.length_append, length_rtake]
      omega
    rw [hsplit, rtake_append_of_le_length hlen]
  · rw [rtake_of_length_le (l := l) (by omega)]

theorem mem_of_mem_rtake (h : x ∈ l.rtake n) : x ∈ l :=
  List.mem_of_mem_drop h

theorem mem_rtake_concat (hn : 1 ≤ n) (l : List α) (x : α) : x ∈ (l ++ [x]).rtake n := by
  obtain ⟨k, rfl⟩ := Nat.exists_eq_add_of_le' hn
  rw [List.rtake_concat_succ]
  exact List.mem_append_right _ (List.mem_singleton_self x)

theorem exists_mem_both {k : ℕ} (hn : 1 ≤ n) (hk : 1 ≤ k) (hne : l ≠ []) :
    ∃ x, x ∈ l.rtake n ∧ x ∈ l.rtake k := by
  obtain ⟨older, newest, rfl⟩ := (List.eq_nil_or_concat' l).resolve_left hne
  exact ⟨newest, mem_rtake_concat hn older newest, mem_rtake_concat hk older newest⟩

theorem rtake_ne_nil (hn : 1 ≤ n) (hne : l ≠ []) : l.rtake n ≠ [] := by
  obtain ⟨x, hx, -⟩ := exists_mem_both hn hn hne
  exact List.ne_nil_of_mem hx

theorem rtake_append_ne_nil (hn : 1 ≤ n) (hlong : n ≤ m.length) : (l ++ m).rtake n ≠ [] := by
  apply rtake_ne_nil hn
  apply List.append_ne_nil_of_right_ne_nil
  exact List.ne_nil_of_length_pos (hn.trans hlong)

/-- A window that reaches back over equal values only has forgotten what was before them. -/
theorem eq_of_mem_rtake (hlong : n ≤ m.length) (hall : ∀ y ∈ m, y = x) {y : α}
    (hy : y ∈ (l ++ m).rtake n) : y = x := by
  rw [rtake_append_of_le_length hlong] at hy
  exact hall y (mem_of_mem_rtake hy)

/-! ## Extreme values -/

variable [LinearOrder α] {bound : α}

theorem min?_eq_some_iff_isLeast : l.min? = some x ↔ IsLeast {y | y ∈ l} x :=
  List.min?_eq_some_iff

theorem max?_eq_some_iff_isGreatest : l.max? = some x ↔ IsGreatest {y | y ∈ l} x :=
  List.max?_eq_some_iff

theorem exists_min? (hne : l ≠ []) : ∃ least, l.min? = some least :=
  Option.isSome_iff_exists.mp (List.isSome_min?_iff.mpr hne)

theorem exists_max? (hne : l ≠ []) : ∃ greatest, l.max? = some greatest :=
  Option.isSome_iff_exists.mp (List.isSome_max?_iff.mpr hne)

theorem le_min_iff (h : l.min? = some x) : bound ≤ x ↔ ∀ y ∈ l, bound ≤ y := by
  obtain ⟨hmem, hleast⟩ := List.min?_eq_some_iff.mp h
  exact ⟨fun hle y hy => hle.trans (hleast y hy), fun hall => hall x hmem⟩

theorem max_lt_iff (h : l.max? = some x) : x < bound ↔ ∀ y ∈ l, y < bound := by
  obtain ⟨hmem, hgreatest⟩ := List.max?_eq_some_iff.mp h
  exact ⟨fun hlt y hy => (hgreatest y hy).trans_lt hlt, fun hall => hall x hmem⟩

theorem min?_rtake_const (hn : 1 ≤ n) (hlong : n ≤ m.length) (hall : ∀ y ∈ m, y = x) :
    ((l ++ m).rtake n).min? = some x := by
  obtain ⟨least, hmin⟩ := exists_min? (rtake_append_ne_nil (l := l) hn hlong)
  rw [hmin, eq_of_mem_rtake hlong hall (List.min?_mem hmin)]

theorem max?_rtake_const (hn : 1 ≤ n) (hlong : n ≤ m.length) (hall : ∀ y ∈ m, y = x) :
    ((l ++ m).rtake n).max? = some x := by
  obtain ⟨greatest, hmax⟩ := exists_max? (rtake_append_ne_nil (l := l) hn hlong)
  rw [hmax, eq_of_mem_rtake hlong hall (List.max?_mem hmax)]

theorem min?_perm (h : l.Perm m) : l.min? = m.min? := by
  apply Option.ext
  intro least
  simp only [List.min?_eq_some_iff, h.mem_iff]

theorem max?_perm (h : l.Perm m) : l.max? = m.max? := by
  apply Option.ext
  intro greatest
  simp only [List.max?_eq_some_iff, h.mem_iff]

end Window
