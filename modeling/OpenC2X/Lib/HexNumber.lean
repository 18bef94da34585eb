import Mathlib.Data.List.Induction
import Mathlib.Data.List.TakeWhile
import Mathlib.Data.Nat.Digits.Defs
import Mathlib.Tactic.Common

/-!
# Formatted input of a hexadecimal number

`read` is the hexadecimal extraction of an `istream`: it skips blanks, takes a sign and a
base `0x` where they are there, and then the digits up to the first other character.  It
fails if there is no digit.  The texts must be short enough that the number does not
overflow.

`read_digits` says what it reads where there is nothing but digits, and
`read_eq_neg_digit_iff` which texts it reads as a small negative number.
-/

namespace HexNumber

/-! ## Digits -/

/-- The value of a hexadecimal digit. -/
def digit? (c : Char) : Option ℕ :=
  if '0' ≤ c ∧ c ≤ '9' then some (c.toNat - '0'.toNat)
  else if 'a' ≤ c ∧ c ≤ 'f' then some (c.toNat - 'a'.toNat + 10)
  else if 'A' ≤ c ∧ c ≤ 'F' then some (c.toNat - 'A'.toNat + 10)
  else none

/-- The digits up to the first other character. -/
def leadingDigits : List Char → List ℕ
  | [] => []
  | c :: text =>
      match digit? c with
      | some d => d :: leadingDigits text
      | none => []

/-- The value of digits, the most significant one first. -/
def value (digits : List ℕ) : ℕ := Nat.ofDigits 16 digits.reverse

@[simp] theorem leadingDigits_nil : leadingDigits [] = [] := rfl

theorem leadingDigits_cons_some {c : Char} {d : ℕ} (h : digit? c = some d) (text : List Char) :
    leadingDigits (c :: text) = d :: leadingDigits text := by
  simp [leadingDigits, h]

theorem leadingDigits_cons_none {c : Char} (h : digit? c = none) (text : List Char) :
    leadingDigits (c :: text) = [] := by
  simp [leadingDigits, h]

@[simp] theorem value_nil : value [] = 0 := rfl

theorem value_concat (digits : List ℕ) (d : ℕ) :
    value (digits ++ [d]) = d + 16 * value digits := by
  rw [value, List.reverse_append, List.reverse_singleton, List.singleton_append, Nat.ofDigits_cons]
  rfl

theorem value_replicate_zero (n : ℕ) : value (List.replicate n 0) = 0 := by
  rw [value, List.reverse_replicate, Nat.ofDigits_replicate_zero]

theorem eq_replicate_of_value_eq_zero {digits : List ℕ} (h : value digits = 0) :
    digits = List.replicate digits.length 0 := by
  induction digits using List.reverseRecOn with
  | nil => rfl
  | append_singleton digits d ih =>
      rw [value_concat] at h
      obtain rfl : d = 0 := by omega
      have hdigits := ih (by omega)
      rw [List.length_append, List.length_singleton, List.replicate_succ', ← hdigits]

/-- A value below the base is a digit that follows zeros. -/
theorem value_eq_digit_iff {digits : List ℕ} {k : ℕ} (hpos : 0 < k) (hlt : k < 16) :
    value digits = k ↔ ∃ n, digits = List.replicate n 0 ++ [k] := by
  constructor
  · intro h
    induction digits using List.reverseRecOn with
    | nil =>
        rw [value_nil] at h
        omega
    | append_singleton digits d _ =>
        rw [value_concat] at h
        obtain rfl : d = k := by omega
        have hzero : value digits = 0 := by omega
        exact ⟨digits.length, by rw [← eq_replicate_of_value_eq_zero hzero]⟩
  · rintro ⟨n, rfl⟩
    rw [value_concat, value_replicate_zero, Nat.mul_zero, Nat.add_zero]

/-! ## Reading -/

/-- `isspace` -/
def isBlank (c : Char) : Bool := c ∈ [' ', '\t', '\n', '\x0b', '\x0c', '\r']

def dropBase : List Char → List Char
  | '0' :: 'x' :: text => text
  | '0' :: 'X' :: text => text
  | text => text

def readUnsigned (text : List Char) : Option ℕ :=
  match leadingDigits (dropBase text) with
  | [] => none
  | digits => some (value digits)

def readSigned : List Char → Option ℤ
  | '-' :: text => (readUnsigned text).map fun n : ℕ => -(n : ℤ)
  | '+' :: text => (readUnsigned text).map fun n : ℕ => (n : ℤ)
  | text => (readUnsigned text).map fun n : ℕ => (n : ℤ)

def read (text : List Char) : Option ℤ := readSigned (text.dropWhile isBlank)

/-! ## Nothing but digits -/

theorem ne_of_isSome_digit? {c c' : Char} (h : (digit? c).isSome = true) (hc : digit? c' = none) :
    c ≠ c' := by
  rintro rfl
  simp [hc] at h

theorem digit?_of_isBlank {c : Char} (h : isBlank c = true) : digit? c = none := by
  simp only [isBlank, List.mem_cons, List.not_mem_nil, or_false, decide_eq_true_eq] at h
  rcases h with rfl | rfl | rfl | rfl | rfl | rfl <;> rfl

theorem dropBase_of_ne {c c' : Char} {text : List Char} (hx : c' ≠ 'x') (hX : c' ≠ 'X') :
    dropBase (c :: c' :: text) = c :: c' :: text := by
  unfold dropBase
  split <;> simp_all

theorem dropBase_of_digits {text : List Char} (h : ∀ c ∈ text, (digit? c).isSome = true) :
    dropBase text = text := by
  match text, h with
  | [], _ => rfl
  | [c], _ => simp [dropBase]
  | c :: c' :: text, h =>
      have hc' := h c' (by simp)
      exact dropBase_of_ne (ne_of_isSome_digit? hc' rfl) (ne_of_isSome_digit? hc' rfl)

theorem leadingDigits_of_digits {text : List Char} (h : ∀ c ∈ text, (digit? c).isSome = true) :
    leadingDigits text = text.filterMap digit? := by
  induction text with
  | nil => rfl
  | cons c text ih =>
      obtain ⟨d, hd⟩ := Option.isSome_iff_exists.mp (h c List.mem_cons_self)
      rw [leadingDigits_cons_some hd, List.filterMap_cons_some hd,
        ih fun c' hc' => h c' (List.mem_cons_of_mem c hc')]

theorem readSigned_of_ne {c : Char} {text : List Char} (hminus : c ≠ '-') (hplus : c ≠ '+') :
    readSigned (c :: text) = (readUnsigned (c :: text)).map fun n : ℕ => (n : ℤ) := by
  unfold readSigned
  split <;> simp_all

/-- A text of digits is read as their value. -/
theorem read_digits {text : List Char} (hne : text ≠ [])
    (h : ∀ c ∈ text, (digit? c).isSome = true) :
    read text = some (value (text.filterMap digit?) : ℤ) := by
  obtain ⟨c, rest, rfl⟩ := List.exists_cons_of_ne_nil hne
  have hc := h c List.mem_cons_self
  have hblank : ¬ isBlank c = true := by
    intro hblank
    simp [digit?_of_isBlank hblank] at hc
  obtain ⟨d, hd⟩ := Option.isSome_iff_exists.mp hc
  have hdigits : leadingDigits (dropBase (c :: rest)) = d :: rest.filterMap digit? := by
    rw [dropBase_of_digits h, leadingDigits_of_digits h, List.filterMap_cons_some hd]
  have hunsigned : readUnsigned (c :: rest) = some (value (d :: rest.filterMap digit?)) := by
    rw [readUnsigned, hdigits]
  rw [read, List.dropWhile_cons_of_neg hblank,
    readSigned_of_ne (ne_of_isSome_digit? hc rfl) (ne_of_isSome_digit? hc rfl), hunsigned,
    List.filterMap_cons_some hd]
  rfl

/-! ## Small negative numbers -/

/-- A text that is read as minus the digit `k`: behind the sign and the base, if there is
one, the digit may follow zeros. -/
def IsMinusDigit (text : List Char) (k : ℕ) : Prop :=
  ∃ blanks base zeros digit rest, text = blanks ++ '-' :: (base ++ (zeros ++ digit :: rest)) ∧
    (∀ c ∈ blanks, isBlank c = true) ∧ base ∈ [[], ['0', 'x'], ['0', 'X']] ∧
    (∀ c ∈ zeros, digit? c = some 0) ∧ digit? digit = some k ∧
    ∀ c ∈ rest.head?, digit? c = none

theorem exists_base (text : List Char) :
    ∃ base ∈ [[], ['0', 'x'], ['0', 'X']], text = base ++ dropBase text := by
  unfold dropBase
  split
  · exact ⟨['0', 'x'], by simp, rfl⟩
  · exact ⟨['0', 'X'], by simp, rfl⟩
  · exact ⟨[], by simp, rfl⟩

theorem leadingDigits_eq_nil_iff {text : List Char} :
    leadingDigits text = [] ↔ ∀ c ∈ text.head?, digit? c = none := by
  cases text with
  | nil => simp
  | cons c text =>
      cases hc : digit? c with
      | none => simp [leadingDigits_cons_none hc, hc]
      | some d => simp [leadingDigits_cons_some hc, hc]

/-- The digits of a text are split as their value is. -/
theorem exists_of_leadingDigits {text : List Char} {n k : ℕ}
    (h : leadingDigits text = List.replicate n 0 ++ [k]) :
    ∃ zeros digit rest, text = zeros ++ digit :: rest ∧ (∀ c ∈ zeros, digit? c = some 0) ∧
      digit? digit = some k ∧ ∀ c ∈ rest.head?, digit? c = none := by
  induction n generalizing text with
  | zero =>
      match text, h with
      | c :: text, h =>
        cases hc : digit? c with
        | none => simp [leadingDigits_cons_none hc] at h
        | some d =>
            rw [leadingDigits_cons_some hc] at h
            obtain ⟨rfl, hrest⟩ : d = k ∧ leadingDigits text = [] := by simpa using h
            exact ⟨[], c, text, rfl, by simp, hc, leadingDigits_eq_nil_iff.mp hrest⟩
  | succ n ih =>
      match text, h with
      | c :: text, h =>
        cases hc : digit? c with
        | none => simp [leadingDigits_cons_none hc, List.replicate_succ] at h
        | some d =>
            rw [leadingDigits_cons_some hc, List.replicate_succ, List.cons_append] at h
            obtain ⟨rfl, htext⟩ := List.cons.inj h
            obtain ⟨zeros, digit, rest, rfl, hzeros, hdigit, hrest⟩ := ih htext
            exact ⟨c :: zeros, digit, rest, rfl, by simpa [hc] using hzeros, hdigit, hrest⟩

theorem leadingDigits_zeros {zeros rest : List Char} {digit : Char} {k : ℕ}
    (hzeros : ∀ c ∈ zeros, digit? c = some 0) (hdigit : digit? digit = some k)
    (hrest : ∀ c ∈ rest.head?, digit? c = none) :
    leadingDigits (zeros ++ digit :: rest) = List.replicate zeros.length 0 ++ [k] := by
  induction zeros with
  | nil =>
      rw [List.nil_append, leadingDigits_cons_some hdigit, leadingDigits_eq_nil_iff.mpr hrest]
      rfl
  | cons c zeros ih =>
      rw [List.cons_append, leadingDigits_cons_some (hzeros c List.mem_cons_self),
        ih fun c' hc' => hzeros c' (List.mem_cons_of_mem c hc')]
      rfl

/-- No base stands before a digit that follows zeros. -/
theorem dropBase_zeros {zeros rest : List Char} {digit : Char} {k : ℕ} (hpos : 0 < k)
    (hzeros : ∀ c ∈ zeros, digit? c = some 0) (hdigit : digit? digit = some k) :
    dropBase (zeros ++ digit :: rest) = zeros ++ digit :: rest := by
  have hzero : digit ≠ '0' := by
    rintro rfl
    obtain rfl : 0 = k := Option.some.inj hdigit
    exact absurd hpos (Nat.lt_irrefl 0)
  match zeros, hzeros with
  | [], _ =>
      unfold dropBase
      split <;> simp_all
  | [c], _ =>
      have hsome : (digit? digit).isSome = true := by rw [hdigit]; rfl
      exact dropBase_of_ne (ne_of_isSome_digit? hsome rfl) (ne_of_isSome_digit? hsome rfl)
  | c :: c' :: zeros, hzeros =>
      have hsome : (digit? c').isSome = true := by rw [hzeros c' (by simp)]; rfl
      exact dropBase_of_ne (ne_of_isSome_digit? hsome rfl) (ne_of_isSome_digit? hsome rfl)

theorem readUnsigned_eq_some_iff {text : List Char} {n : ℕ} (hpos : 0 < n) :
    readUnsigned text = some n ↔ value (leadingDigits (dropBase text)) = n := by
  unfold readUnsigned
  cases hdigits : leadingDigits (dropBase text) with
  | nil => simp [hpos.ne]
  | cons d digits => simp

theorem readUnsigned_eq_digit_iff {text : List Char} {k : ℕ} (hpos : 0 < k) (hlt : k < 16) :
    readUnsigned text = some k ↔ ∃ base zeros digit rest, text = base ++ (zeros ++ digit :: rest) ∧
      base ∈ [[], ['0', 'x'], ['0', 'X']] ∧ (∀ c ∈ zeros, digit? c = some 0) ∧
      digit? digit = some k ∧ ∀ c ∈ rest.head?, digit? c = none := by
  rw [readUnsigned_eq_some_iff hpos, value_eq_digit_iff hpos hlt]
  constructor
  · rintro ⟨n, hn⟩
    obtain ⟨base, hbase, htext⟩ := exists_base text
    obtain ⟨zeros, digit, rest, hrest, hzeros⟩ := exists_of_leadingDigits hn
    exact ⟨base, zeros, digit, rest, hrest ▸ htext, hbase, hzeros⟩
  · rintro ⟨base, zeros, digit, rest, rfl, hbase, hzeros, hdigit, hrest⟩
    have hdrop : dropBase (base ++ (zeros ++ digit :: rest)) = zeros ++ digit :: rest := by
      simp only [List.mem_cons, List.not_mem_nil, or_false] at hbase
      obtain rfl | rfl | rfl := hbase
      · exact dropBase_zeros hpos hzeros hdigit
      · rfl
      · rfl
    exact ⟨zeros.length, by rw [hdrop, leadingDigits_zeros hzeros hdigit hrest]⟩

theorem readSigned_eq_neg_iff {text : List Char} {n : ℕ} (hpos : 0 < n) :
    readSigned text = some (-(n : ℤ)) ↔
      ∃ body, text = '-' :: body ∧ readUnsigned body = some n := by
  have hne (m : ℕ) : (m : ℤ) ≠ -n := by omega
  unfold readSigned
  split
  · simp
  · simp [hne]
  · rename_i hminus _
    simp only [Option.map_eq_some_iff, hne, and_false, exists_false, false_iff, not_exists, not_and]
    exact fun body heq => absurd heq (hminus body)

theorem read_eq_neg_digit_iff {text : List Char} {k : ℕ} (hpos : 0 < k) (hlt : k < 16) :
    read text = some (-(k : ℤ)) ↔ IsMinusDigit text k := by
  rw [read, readSigned_eq_neg_iff hpos]
  constructor
  · rintro ⟨body, hbody, hread⟩
    obtain ⟨base, zeros, digit, rest, rfl, hdigits⟩ := (readUnsigned_eq_digit_iff hpos hlt).mp hread
    refine ⟨text.takeWhile isBlank, base, zeros, digit, rest, ?_, ?_, hdigits⟩
    · rw [← hbody, List.takeWhile_append_dropWhile]
    · exact fun c hc => List.mem_takeWhile_imp hc
  · rintro ⟨blanks, base, zeros, digit, rest, rfl, hblanks, hdigits⟩
    refine ⟨base ++ (zeros ++ digit :: rest), ?_, ?_⟩
    · rw [List.dropWhile_append_of_pos hblanks]
      rfl
    · exact (readUnsigned_eq_digit_iff hpos hlt).mpr ⟨base, zeros, digit, rest, rfl, hdigits⟩

end HexNumber
