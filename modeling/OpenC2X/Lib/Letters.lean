import Mathlib.Computability.Language

/-!
# Languages that start with a letter

`letter p` is the language of the texts of one letter with the property `p`.  The lemmas say
how the first letter decides whether a text belongs to a language of the form
`letter p * l` or `(letter p)∗ * l`, as a program finds out that reads the text letter by
letter.
-/

open scoped Computability

namespace Language

variable {α : Type*} {p : α → Prop} {l : Language α} {c : α} {w : List α}

def letter (p : α → Prop) : Language α := {w | ∃ c, p c ∧ w = [c]}

theorem mem_letter_mul : w ∈ letter p * l ↔ ∃ c w', p c ∧ w' ∈ l ∧ w = c :: w' := by
  rw [mem_mul]
  constructor
  · rintro ⟨_, ⟨c, hc, rfl⟩, w', hw', rfl⟩
    exact ⟨c, w', hc, hw', rfl⟩
  · rintro ⟨c, w', hc, hw', rfl⟩
    exact ⟨[c], ⟨c, hc, rfl⟩, w', hw', rfl⟩

@[simp] theorem cons_mem_letter_mul : c :: w ∈ letter p * l ↔ p c ∧ w ∈ l := by
  rw [mem_letter_mul]
  constructor
  · rintro ⟨c', w', hc, hw, heq⟩
    obtain ⟨rfl, rfl⟩ := List.cons.inj heq
    exact ⟨hc, hw⟩
  · rintro ⟨hc, hw⟩
    exact ⟨c, w, hc, hw, rfl⟩

@[simp] theorem nil_notMem_letter_mul : [] ∉ letter p * l := by
  rw [mem_letter_mul]
  rintro ⟨c, w', -, -, heq⟩
  exact List.cons_ne_nil _ _ heq.symm

theorem kstar_mul (l m : Language α) : l∗ * m = m + l * (l∗ * m) := by
  calc l∗ * m = (1 + l * l∗) * m := by rw [one_add_self_mul_kstar_eq_kstar]
    _ = m + l * (l∗ * m) := by rw [add_mul, one_mul, mul_assoc]

/-- A text in front of which letters may stand. -/
theorem cons_mem_letter_kstar_mul :
    c :: w ∈ (letter p)∗ * l ↔ c :: w ∈ l ∨ p c ∧ w ∈ (letter p)∗ * l := by
  nth_rewrite 1 [kstar_mul]
  rw [mem_add, cons_mem_letter_mul]

theorem nil_mem_letter_kstar_mul : [] ∈ (letter p)∗ * l ↔ [] ∈ l := by
  rw [kstar_mul, mem_add, or_iff_left nil_notMem_letter_mul]

/-- A fixed number of letters. -/
theorem mem_letter_pow {n : ℕ} : w ∈ letter p ^ n ↔ w.length = n ∧ ∀ c ∈ w, p c := by
  induction n generalizing w with
  | zero =>
      rw [pow_zero, mem_one, List.length_eq_zero_iff]
      constructor
      · rintro rfl
        exact ⟨rfl, by simp⟩
      · exact And.left
  | succ n ih =>
      rw [pow_succ']
      cases w with
      | nil => simp
      | cons c w =>
          rw [cons_mem_letter_mul, ih, List.length_cons, Nat.succ_inj, List.forall_mem_cons,
            and_left_comm]

end Language
