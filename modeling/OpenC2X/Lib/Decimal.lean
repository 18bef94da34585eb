import OpenC2X.Lib.Digits
import OpenC2X.Lib.Parser

/-!
# Numbers in decimal notation

`ofInt` is the text of an integer, `padded` that of a number with zeros in front, and
`fixed places` what a formatted output with a fixed number of decimals writes.  `number`
takes a number off the front of a text: it skips blanks and reads a sign, the digits before
and after a point, and an exponent if there is one.

A number that has no more decimals than are written is read as the same number
(`number_fixed`).
-/

namespace Decimal

open Parser

/-! ## Writing -/

/-- The digits of a number with zeros in front of them, `width` digits at least. -/
def padded (width n : ℕ) : List Char := (Nat.toDigits 10 n).leftpad width '0'

def withSign (negative : Bool) (text : List Char) : List Char :=
  if negative then '-' :: text else text

def ofInt (n : ℤ) : List Char := withSign (n < 0) (Nat.toDigits 10 n.natAbs)

/-- A number with one decimal at least.  What is rounded to zero keeps its sign. -/
def fixed (places : ℕ) (x : ℚ) : List Char :=
  let units := (roundHalfEven (|x| * 10 ^ places)).toNat
  withSign (x < 0)
    (Nat.toDigits 10 (units / 10 ^ places) ++ '.' :: padded places (units % 10 ^ places))

/-! ## Reading -/

def isBlank (c : Char) : Bool := c = ' ' || ('\t' ≤ c && c ≤ '\r')

/-- Whether there is a minus sign. -/
def sign : Parser Bool := do
  if ← optional '-' then
    return true
  else
    let _ ← optional '+'
    return false

def fraction : Parser (List Char) := do
  if ← optional '.' then span Char.isDigit else return []

def signed (negative : Bool) (n : ℕ) : ℤ := if negative then -n else n

/-- An exponent with its letter. -/
def exponentTail : Parser ℤ := do
  let c ← next
  if c = 'e' ∨ c = 'E' then
    let negative ← sign
    let digits ← span Char.isDigit
    if digits = [] then failure else return signed negative (Nat.ofDigitChars 10 digits 0)
  else
    failure

/-- A letter without digits behind it is not an exponent. -/
def exponent : Parser ℤ := fun s => some ((exponentTail s).getD (0, s))

def number : Parser ℚ := do
  let _ ← span isBlank
  let negative ← sign
  let whole ← span Char.isDigit
  let frac ← fraction
  if whole ++ frac = [] then
    failure
  else
    let exp ← exponent
    return (signed negative (Nat.ofDigitChars 10 (whole ++ frac) 0) : ℚ)
      * 10 ^ (exp - (frac.length : ℤ))

/-! ## What is written -/

theorem isDigit_of_mem_toDigits {n : ℕ} {c : Char} (hc : c ∈ Nat.toDigits 10 n) :
    c.isDigit = true :=
  Nat.isDigit_of_mem_toDigits (by omega) (by omega) hc

theorem toDigits_injective : Function.Injective (Nat.toDigits 10) := by
  intro m n h
  have hvalue := congrArg (Nat.ofDigitChars 10 · 0) h
  rwa [Nat.ofDigitChars_ten_toDigits, Nat.ofDigitChars_ten_toDigits] at hvalue

theorem ofInt_injective : Function.Injective ofInt := by
  intro m n h
  -- a digit is not a minus sign
  have hsign : ∀ {k l : ℕ}, '-' :: Nat.toDigits 10 k ≠ Nat.toDigits 10 l := by
    intro k l hkl
    have hdigit : Char.isDigit '-' = true := isDigit_of_mem_toDigits (hkl ▸ List.mem_cons_self)
    exact absurd hdigit (by decide)
  simp only [ofInt, withSign, decide_eq_true_eq] at h
  split at h <;> split at h
  · have habs := toDigits_injective (List.cons.inj h).2
    omega
  · exact absurd h hsign
  · exact absurd h.symm hsign
  · have habs := toDigits_injective h
    omega

/-- An integer is written with digits and a sign. -/
theorem mem_ofInt {n : ℤ} {c : Char} (hc : c ∈ ofInt n) : c.isDigit = true ∨ c = '-' := by
  rw [ofInt, withSign] at hc
  split at hc
  · rcases List.mem_cons.mp hc with rfl | hc
    · exact .inr rfl
    · exact .inl (isDigit_of_mem_toDigits hc)
  · exact .inl (isDigit_of_mem_toDigits hc)

theorem isDigit_of_mem_padded {width n : ℕ} {c : Char} (hc : c ∈ padded width n) :
    c.isDigit = true := by
  rw [padded, List.leftpad, List.mem_append] at hc
  rcases hc with hc | hc
  · rw [List.eq_of_mem_replicate hc]
    rfl
  · exact isDigit_of_mem_toDigits hc

/-- The zeros in front do not count. -/
theorem ofDigitChars_padded (width n : ℕ) : Nat.ofDigitChars 10 (padded width n) 0 = n := by
  rw [padded, List.leftpad, Nat.ofDigitChars_append, Nat.ofDigitChars_replicate_zero, Nat.mul_zero,
    Nat.ofDigitChars_ten_toDigits]

theorem length_padded {width n : ℕ} (hwidth : 0 < width) (hn : n < 10 ^ width) :
    (padded width n).length = width := by
  have hle : (Nat.toDigits 10 n).length ≤ width :=
    (Nat.length_toDigits_le_iff (by omega) hwidth).mpr hn
  rw [padded, List.leftpad, List.length_append, List.length_replicate, Nat.sub_add_cancel hle]

/-- A number is written with digits, a point and a sign. -/
theorem mem_fixed {places : ℕ} {x : ℚ} {c : Char} (hc : c ∈ fixed places x) :
    c.isDigit = true ∨ c = '-' ∨ c = '.' := by
  have hunsigned : ∀ {m n : ℕ}, c ∈ Nat.toDigits 10 m ++ '.' :: padded places n →
      c.isDigit = true ∨ c = '-' ∨ c = '.' := by
    intro m n hc
    rcases List.mem_append.mp hc with hc | hc
    · exact .inl (isDigit_of_mem_toDigits hc)
    · rcases List.mem_cons.mp hc with rfl | hc
      · exact .inr (.inr rfl)
      · exact .inl (isDigit_of_mem_padded hc)
  simp only [fixed, withSign] at hc
  split at hc
  · rcases List.mem_cons.mp hc with rfl | hc
    · exact .inr (.inl rfl)
    · exact hunsigned hc
  · exact hunsigned hc

/-! ## What is read -/

theorem span_append_cons {cond : Char → Bool} {s : List Char} {c : Char}
    (hs : ∀ c ∈ s, cond c = true) (hc : cond c = false) (t : List Char) :
    span cond (s ++ c :: t) = some (s, c :: t) := by
  have htake : (s ++ c :: t).takeWhile cond = s ++ (c :: t).takeWhile cond :=
    List.takeWhile_append_of_pos hs
  have hdrop : (s ++ c :: t).dropWhile cond = (c :: t).dropWhile cond :=
    List.dropWhile_append_of_pos hs
  rw [span, htake, hdrop, List.takeWhile_cons_of_neg (by simp [hc]),
    List.dropWhile_cons_of_neg (by simp [hc]), List.append_nil]

theorem span_eq_self {cond : Char → Bool} {s : List Char} (hs : ∀ c ∈ s, cond c = true) :
    span cond s = some (s, []) := by
  rw [span, List.takeWhile_eq_self_iff.mpr hs, List.dropWhile_eq_nil_iff.mpr hs]

theorem isBlank_of_isDigit {c : Char} (hc : c.isDigit = true) : isBlank c = false := by
  simp only [Char.isDigit, Bool.and_eq_true, decide_eq_true_eq, ge_iff_le] at hc
  simp only [isBlank, Bool.or_eq_false_iff, Bool.and_eq_false_iff, decide_eq_false_iff_not]
  obtain ⟨hlow, -⟩ := hc
  refine ⟨?_, .inr ?_⟩
  · rintro rfl
    exact absurd hlow (by decide)
  · intro hle
    have hvals : c.val ≤ '\r'.val := hle
    exact absurd (UInt32.le_trans hlow hvals) (by decide)

/-- The sign of a number that starts with a digit. -/
theorem sign_withSign {c : Char} (hc : c.isDigit = true) (negative : Bool) (s : List Char) :
    sign (withSign negative (c :: s)) = some (negative, c :: s) := by
  have hminus : c ≠ '-' := by
    rintro rfl
    exact absurd hc (by decide)
  have hplus : c ≠ '+' := by
    rintro rfl
    exact absurd hc (by decide)
  cases negative with
  | true => rfl
  | false =>
      have hnoPlus : optional '+' (c :: s) = some (false, c :: s) := by
        rw [optional_cons, if_neg hplus]
      rw [sign, bind_apply, withSign, if_neg Bool.false_ne_true, optional_cons, if_neg hminus]
      show (optional '+' >>= fun _ => pure false) (c :: s) = _
      rw [bind_apply, hnoPlus]
      rfl

/-- A number with a fraction is read up to the end of the text. -/
theorem number_withSign {blanks whole frac : List Char} (hblanks : ∀ c ∈ blanks, isBlank c = true)
    (hne : whole ≠ []) (hwhole : ∀ c ∈ whole, c.isDigit = true)
    (hfrac : ∀ c ∈ frac, c.isDigit = true) (negative : Bool) :
    number (blanks ++ withSign negative (whole ++ '.' :: frac)) =
      some ((signed negative (Nat.ofDigitChars 10 (whole ++ frac) 0) : ℚ)
        / 10 ^ frac.length, []) := by
  obtain ⟨c, rest, rfl⟩ := List.exists_cons_of_ne_nil hne
  have hc : c.isDigit = true := hwhole c List.mem_cons_self
  have hskip : span isBlank (blanks ++ withSign negative (c :: rest ++ '.' :: frac)) =
      some (blanks, withSign negative (c :: rest ++ '.' :: frac)) := by
    cases negative with
    | true => exact span_append_cons hblanks rfl _
    | false => exact span_append_cons hblanks (isBlank_of_isDigit hc) _
  have hsign := sign_withSign hc negative (rest ++ '.' :: frac)
  have hspan : span Char.isDigit (c :: rest ++ '.' :: frac) = some (c :: rest, '.' :: frac) :=
    span_append_cons hwhole rfl frac
  have hfraction : fraction ('.' :: frac) = some (frac, []) := span_eq_self hfrac
  have hexponent : exponent [] = some (0, []) := rfl
  have hpow : (10 : ℚ) ^ (0 - (frac.length : ℤ)) = (10 ^ frac.length)⁻¹ := by
    rw [zero_sub, zpow_neg, zpow_natCast]
  rw [number, bind_apply, hskip]
  show (sign >>= _) (withSign negative (c :: (rest ++ '.' :: frac))) = _
  rw [bind_apply, hsign]
  show (span Char.isDigit >>= _) (c :: rest ++ '.' :: frac) = _
  rw [bind_apply, hspan]
  show (fraction >>= _) ('.' :: frac) = _
  rw [bind_apply, hfraction]
  show (if c :: rest ++ frac = [] then failure else exponent >>= _ : Parser ℚ) [] = _
  rw [if_neg (by simp), bind_apply, hexponent]
  show some (_ * (10 : ℚ) ^ (0 - (frac.length : ℤ)), []) = _
  rw [hpow, ← div_eq_mul_inv]

/-- A number that has no more decimals than are written is read as the same number. -/
theorem number_fixed {places : ℕ} (hplaces : 0 < places) {blanks : List Char}
    (hblanks : ∀ c ∈ blanks, isBlank c = true) (n : ℤ) :
    number (blanks ++ fixed places (n / 10 ^ places)) = some ((n : ℚ) / 10 ^ places, []) := by
  have hpos : (0 : ℚ) < 10 ^ places := by positivity
  have habs : |(n : ℚ) / 10 ^ places| * 10 ^ places = ((n.natAbs : ℤ) : ℚ) := by
    rw [abs_div, abs_of_pos hpos, div_mul_cancel₀ _ hpos.ne', ← Int.abs_eq_natAbs, Int.cast_abs]
  have hneg : (n : ℚ) / 10 ^ places < 0 ↔ n < 0 := by
    rw [div_lt_iff₀ hpos, zero_mul, Int.cast_lt_zero]
  have hlength := length_padded hplaces (Nat.mod_lt n.natAbs (show 0 < 10 ^ places by positivity))
  have hvalue : Nat.ofDigitChars 10 (Nat.toDigits 10 (n.natAbs / 10 ^ places)
      ++ padded places (n.natAbs % 10 ^ places)) 0 = n.natAbs := by
    rw [Nat.ofDigitChars_append, Nat.ofDigitChars_eq_ofDigitChars_zero, hlength,
      Nat.ofDigitChars_ten_toDigits, ofDigitChars_padded, Nat.div_add_mod]
  have hsigned : signed (n < 0) n.natAbs = n := by
    simp only [signed, decide_eq_true_eq]
    split <;> omega
  simp only [fixed, habs, roundHalfEven_intCast, Int.toNat_natCast, hneg]
  rw [number_withSign hblanks Nat.toDigits_ne_nil (fun c hc => isDigit_of_mem_toDigits hc)
    (fun c hc => isDigit_of_mem_padded hc), hvalue, hsigned, hlength]

end Decimal
