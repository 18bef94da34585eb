import Mathlib.Data.List.Perm.Basic
import Mathlib.Data.List.Sort

/-!
# Merging queues

A merge takes the elements of queues one by one, each time the head of a queue whose key is
least among the keys of the heads; which one of several it takes is left open.  A queue is
dropped when it is empty.  The queues have names, and the elements that are taken keep the
name of their queue.

Whatever choices it makes, a merge takes all elements of every queue, in their order
(`Merges.map_snd_filter`), and if the keys of every queue do not decrease, those of the
elements taken do not decrease either (`Merges.pairwise_key`).
-/

variable {ι α κ : Type*} [LinearOrder κ] {key : α → κ}

/-- A queue as long as there is something in it. -/
def unlessEmpty (q : ι × List α) : List (ι × List α) := if q.2 = [] then [] else [q]

/-- The elements taken from the queues in a merge. -/
inductive Merges (key : α → κ) : List (ι × List α) → List (ι × α) → Prop
  | nil : Merges key [] []
  | cons {qs rest : List (ι × List α)} {i : ι} {a : α} {as : List α} {out : List (ι × α)} :
      qs.Perm ((i, a :: as) :: rest) → (∀ q ∈ rest, ∀ b ∈ q.2.head?, key a ≤ key b) →
      Merges key (unlessEmpty (i, as) ++ rest) out → Merges key qs ((i, a) :: out)

theorem mem_unlessEmpty {q q' : ι × List α} : q' ∈ unlessEmpty q ↔ q.2 ≠ [] ∧ q' = q := by
  rw [unlessEmpty]
  split <;> simp_all

namespace Merges

variable {qs : List (ι × List α)} {out : List (ι × α)}

/-- An element that is taken comes from its queue. -/
theorem exists_mem (h : Merges key qs out) {p : ι × α} (hp : p ∈ out) :
    ∃ q ∈ qs, q.1 = p.1 ∧ p.2 ∈ q.2 := by
  induction h with
  | nil => exact absurd hp List.not_mem_nil
  | @cons qs rest i a as out hperm _ _ ih =>
      rcases List.mem_cons.mp hp with rfl | hp
      · exact ⟨(i, a :: as), hperm.mem_iff.mpr List.mem_cons_self, rfl, List.mem_cons_self⟩
      obtain ⟨q, hq, hname, hmem⟩ := ih hp
      rcases List.mem_append.mp hq with hq | hq
      · obtain ⟨-, rfl⟩ := mem_unlessEmpty.mp hq
        exact ⟨(i, a :: as), hperm.mem_iff.mpr List.mem_cons_self, hname,
          List.mem_cons_of_mem _ hmem⟩
      · exact ⟨q, hperm.mem_iff.mpr (List.mem_cons_of_mem _ hq), hname, hmem⟩

theorem fst_mem (h : Merges key qs out) {p : ι × α} (hp : p ∈ out) : p.1 ∈ qs.map Prod.fst := by
  obtain ⟨q, hq, hname, -⟩ := h.exists_mem hp
  exact List.mem_map.mpr ⟨q, hq, hname⟩

/-- The elements that are taken from a queue are its elements, in their order. -/
theorem map_snd_filter [DecidableEq ι] (h : Merges key qs out) (hnames : (qs.map Prod.fst).Nodup)
    {q : ι × List α} (hq : q ∈ qs) : (out.filter (·.1 = q.1)).map Prod.snd = q.2 := by
  induction h generalizing q with
  | nil => exact absurd hq List.not_mem_nil
  | @cons qs rest i a as out hperm _ hmerge ih =>
      have hnodup : (i :: rest.map Prod.fst).Nodup := (hperm.map Prod.fst).nodup_iff.mp hnames
      obtain ⟨hi, hrest⟩ := List.nodup_cons.mp hnodup
      have hnext : ((unlessEmpty (i, as) ++ rest).map Prod.fst).Nodup := by
        rw [unlessEmpty]
        split
        · exact hrest
        · exact hnodup
      rcases List.mem_cons.mp (hperm.mem_iff.mp hq) with rfl | hq
      · -- the queue from which the first element is taken
        rw [List.filter_cons_of_pos (by simp), List.map_cons]
        congr 1
        by_cases has : as = []
        · rw [has, List.map_eq_nil_iff, List.filter_eq_nil_iff]
          intro p hp hname
          have hmem := hmerge.fst_mem hp
          rw [has, unlessEmpty, if_pos rfl, List.nil_append] at hmem
          have hpi : p.1 = i := of_decide_eq_true hname
          exact hi (hpi ▸ hmem)
        · exact ih hnext (List.mem_append_left _ (mem_unlessEmpty.mpr ⟨has, rfl⟩))
      · have hne : i ≠ q.1 := fun heq => hi (heq ▸ List.mem_map.mpr ⟨q, hq, rfl⟩)
        rw [List.filter_cons_of_neg (by simp [hne])]
        exact ih hnext (List.mem_append_right _ hq)

/-- The same where the empty queues are dropped before. -/
theorem map_snd_filter_of_filter [DecidableEq ι]
    (h : Merges key (qs.filter fun q => q.2 ≠ []) out) (hnames : (qs.map Prod.fst).Nodup)
    {q : ι × List α} (hq : q ∈ qs) : (out.filter (·.1 = q.1)).map Prod.snd = q.2 := by
  by_cases hempty : q.2 = []
  · rw [hempty, List.map_eq_nil_iff, List.filter_eq_nil_iff]
    intro p hp hname
    obtain ⟨q', hq', hname', hmem⟩ := h.exists_mem hp
    have hsame : q' = q := List.inj_on_of_nodup_map hnames (List.mem_of_mem_filter hq') hq
      (hname'.trans (of_decide_eq_true hname))
    rw [hsame, hempty] at hmem
    exact absurd hmem List.not_mem_nil
  · refine h.map_snd_filter (hnames.sublist (List.filter_sublist.map _)) ?_
    exact List.mem_filter.mpr ⟨hq, decide_eq_true hempty⟩

/-- A merge of queues in the order of their keys is in the order of the keys. -/
theorem pairwise_key (h : Merges key qs out)
    (hqs : ∀ q ∈ qs, q.2.Pairwise fun a b => key a ≤ key b) :
    out.Pairwise fun p p' => key p.2 ≤ key p'.2 := by
  induction h with
  | nil => exact List.Pairwise.nil
  | @cons qs rest i a as out hperm hmin hmerge ih =>
      have hfirst := hqs _ (hperm.mem_iff.mpr List.mem_cons_self)
      have hrest : ∀ q ∈ rest, q.2.Pairwise fun a b => key a ≤ key b := fun q hq =>
        hqs q (hperm.mem_iff.mpr (List.mem_cons_of_mem _ hq))
      refine List.pairwise_cons.mpr ⟨?_, ih ?_⟩
      · intro p hp
        obtain ⟨q, hq, -, hmem⟩ := hmerge.exists_mem hp
        rcases List.mem_append.mp hq with hq | hq
        · obtain ⟨-, rfl⟩ := mem_unlessEmpty.mp hq
          exact (List.pairwise_cons.mp hfirst).1 _ hmem
        · -- the head of its queue is between the two
          obtain ⟨b, bs, hb⟩ := List.exists_cons_of_ne_nil (List.ne_nil_of_mem hmem)
          have hle := hmin q hq b (by rw [hb]; rfl)
          rw [hb] at hmem
          rcases List.mem_cons.mp hmem with heq | hmem
          · rwa [heq]
          · have hsorted := hrest q hq
            rw [hb] at hsorted
            exact hle.trans ((List.pairwise_cons.mp hsorted).1 _ hmem)
      · intro q hq
        rcases List.mem_append.mp hq with hq | hq
        · obtain ⟨-, rfl⟩ := mem_unlessEmpty.mp hq
          exact (List.pairwise_cons.mp hfirst).2
        · exact hrest q hq

end Merges
