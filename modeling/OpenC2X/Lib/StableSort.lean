import Mathlib.Data.List.Sort

/-!
# Positions in a stable sort

A stable sort by falling keys puts those elements in front of an element that have a greater
key, and those with the same key that were in front of it before (`idxOf_insertionSort`).
-/

namespace StableSort

variable {α κ : Type*} [LinearOrder κ] (key : α → κ)

/-- The elements that a stable sort by falling keys puts in front of `c`. -/
def ahead [DecidableEq α] (l : List α) (c : α) : ℕ :=
  l.countP (key c < key ·) + (l.takeWhile (· ≠ c)).countP (key · = key c)

theorem pairwise_key_insertionSort (l : List α) :
    (l.insertionSort fun a b => key b ≤ key a).Pairwise fun a b => key b ≤ key a := by
  have : Std.Total fun a b : α => key b ≤ key a := ⟨fun a b => le_total (key b) (key a)⟩
  have : IsTrans α fun a b => key b ≤ key a := ⟨fun _ _ _ hab hbc => hbc.trans hab⟩
  exact List.pairwise_insertionSort _ l

variable {key} [DecidableEq α]

/-- An element is inserted behind those with a greater key. -/
theorem idxOf_orderedInsert_self {a : α} {l : List α}
    (hl : l.Pairwise fun a b => key b ≤ key a) :
    (l.orderedInsert (fun a b => key b ≤ key a) a).idxOf a = l.countP (key a < key ·) := by
  induction l with
  | nil => simp
  | cons b l ih =>
      obtain ⟨hb, hl⟩ := List.pairwise_cons.mp hl
      by_cases hle : key b ≤ key a
      · rw [List.orderedInsert_cons, if_pos hle, List.idxOf_cons_self, eq_comm,
          List.countP_eq_zero]
        intro c hc
        rw [decide_eq_true_eq, not_lt]
        rcases List.mem_cons.mp hc with rfl | hc
        · exact hle
        · exact (hb c hc).trans hle
      · have hne : b ≠ a := fun heq => hle (heq ▸ le_rfl)
        rw [List.orderedInsert_cons, if_neg hle, List.idxOf_cons_ne _ hne, ih hl,
          List.countP_cons, if_pos (decide_eq_true (not_le.mp hle))]

/-- An element moves back if one is inserted with a key that is not less. -/
theorem idxOf_orderedInsert {a c : α} {l : List α} (hl : l.Pairwise fun a b => key b ≤ key a)
    (hc : c ∈ l) (hne : a ≠ c) :
    (l.orderedInsert (fun a b => key b ≤ key a) a).idxOf c =
      l.idxOf c + if key c ≤ key a then 1 else 0 := by
  induction l with
  | nil => exact absurd hc List.not_mem_nil
  | cons b l ih =>
      obtain ⟨hb, hl⟩ := List.pairwise_cons.mp hl
      by_cases hle : key b ≤ key a
      · have hca : key c ≤ key a := by
          rcases List.mem_cons.mp hc with rfl | hc
          · exact hle
          · exact (hb c hc).trans hle
        rw [List.orderedInsert_cons, if_pos hle, List.idxOf_cons_ne _ hne, if_pos hca]
      · rw [List.orderedInsert_cons, if_neg hle]
        by_cases hbc : b = c
        · subst hbc
          rw [List.idxOf_cons_self, List.idxOf_cons_self, if_neg hle]
        · have hcl : c ∈ l := (List.mem_cons.mp hc).resolve_left (Ne.symm hbc)
          rw [List.idxOf_cons_ne _ hbc, List.idxOf_cons_ne _ hbc, ih hl hcl]
          omega

theorem ahead_cons_self (a : α) (l : List α) :
    ahead key (a :: l) a = l.countP (key a < key ·) := by
  rw [ahead, List.countP_cons_of_neg (by simp), List.takeWhile_cons_of_neg (by simp)]
  rfl

theorem ahead_cons_ne {a c : α} (hne : a ≠ c) (l : List α) :
    ahead key (a :: l) c = ahead key l c + if key c ≤ key a then 1 else 0 := by
  have htake : (a :: l).takeWhile (fun b => b ≠ c) = a :: l.takeWhile (fun b => b ≠ c) :=
    List.takeWhile_cons_of_pos (by simpa using hne)
  rw [ahead, ahead, htake, List.countP_cons, List.countP_cons]
  rcases lt_trichotomy (key c) (key a) with hlt | heq | hgt
  · simp only [hlt, hlt.ne', hlt.le, decide_true, decide_false, if_true]
    simp
    omega
  · simp [heq]
    omega
  · simp [hgt.not_gt, hgt.ne, hgt.not_ge]

/-- The position of an element in a stable sort. -/
theorem idxOf_insertionSort {c : α} {l : List α} (hc : c ∈ l) :
    (l.insertionSort fun a b => key b ≤ key a).idxOf c = ahead key l c := by
  induction l with
  | nil => exact absurd hc List.not_mem_nil
  | cons a l ih =>
      have hsorted := pairwise_key_insertionSort key l
      rw [List.insertionSort_cons]
      by_cases hac : a = c
      · subst hac
        rw [idxOf_orderedInsert_self hsorted, ahead_cons_self]
        exact (List.perm_insertionSort _ l).countP_eq _
      · have hcl : c ∈ l := (List.mem_cons.mp hc).resolve_left (Ne.symm hac)
        rw [idxOf_orderedInsert hsorted ((List.mem_insertionSort _).mpr hcl) hac, ih hcl,
          ahead_cons_ne hac]

end StableSort
