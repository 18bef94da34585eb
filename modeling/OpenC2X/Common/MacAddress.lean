import OpenC2X.Lib.Letters
import Mathlib.Data.List.TakeWhile
import Mathlib.Tactic.Ring

/-!
# The check of the MAC address

`GlobalConfig::loadConfig` and the constructor of `SendToHardwareViaMAC` read the MAC address
of the network device from a file and check it with the same loop.  The loop counts the
digits and the separators; a separator must come when the number of digits fits, and any
other character sets the number of separators to -1.

An address is well formed if it is twelve digits, or six pairs of digits with separators
between them.  The loop accepts more than that: the languages `Start` and `Rest` describe
what.

* A separator may come one digit late (`Grouped`).
* Behind twelve digits without separators the loop stops at a separator, and does not read
  the rest of the text.
* As long as there is no more than one digit, -1 is the number of separators that fits, so a
  separator takes back the error that other characters have made (`Start`).

The address is a text of `char`s that are as many as an `int` can count.
-/

open scoped Computability

namespace OpenC2X.MacAddress

open Language

/-! ## The check -/

def isxdigit (c : Char) : Bool :=
  c.isDigit || ('a' ≤ c && c ≤ 'f') || ('A' ≤ c && c ≤ 'F')

def isSeparator (c : Char) : Bool := c = ':' || c = '-'

/-- The characters of `c_str()` up to the terminating zero. -/
def c_str (text : List Char) : List Char := text.takeWhile (· ≠ '\x00')

/-- The loop: the numbers of digits and of separators at its end. -/
def scan (i : ℕ) (s : ℤ) : List Char → ℕ × ℤ
  | [] => (i, s)
  | c :: mac =>
      if isxdigit c then scan (i + 1) s mac
      else if isSeparator c then
        if i = 0 ∨ ((i / 2 : ℕ) : ℤ) - 1 ≠ s then (i, s) -- break
        else scan i (s + 1) mac
      else scan i (-1) mac

/-- The condition behind the loop. -/
def valid (counts : ℕ × ℤ) : Bool := counts.1 = 12 && (counts.2 = 5 || counts.2 = 0)

def accepts (text : List Char) : Bool := valid (scan 0 0 (c_str text))

/-- The check of `loadConfig`, which ends the process if it fails. -/
def loadConfig (mMac : List Char) : Option (List Char) := if accepts mMac then some mMac else none

/-- The check of the constructor of `SendToHardwareViaMAC`, which has an address to go on
with. -/
def SendToHardwareViaMAC (mOwnMac : List Char) : List Char :=
  if accepts mOwnMac then mOwnMac else "12:23:34:45:56:67".toList

/-! ## The texts -/

def hex : Language Char := letter fun c => isxdigit c = true

def separator : Language Char := letter fun c => isSeparator c = true

def other : Language Char := letter fun c => isxdigit c = false ∧ isSeparator c = false

/-- Twelve digits, or six groups of two digits with five separators between them. -/
def WellFormed : Language Char := hex ^ 12 + hex ^ 2 * (separator * hex ^ 2) ^ 5

/-- Twelve digits and five separators if `i` digits and `s` separators have been read: at
each separator the number of digits is twice the number of separators, or one more. -/
structure IsGrouped (i s : ℕ) (w : List Char) : Prop where
  digits : i + w.countP isxdigit = 12
  separators : s + w.countP isSeparator = 5
  length : w.length = w.countP isxdigit + w.countP isSeparator
  places : ∀ u c v, w = u ++ c :: v → isSeparator c = true →
    (i + u.countP isxdigit) / 2 = s + u.countP isSeparator + 1

def Grouped (i s : ℕ) : Language Char := {w | IsGrouped i s w}

/-- The end of the text, or a separator and anything. -/
def Ended : Language Char := 1 + separator * ⊤

/-- Twelve digits if `i` digits have been read. -/
def Plain (i : ℕ) : Language Char := {w | ∃ n, i + n = 12 ∧ w ∈ hex ^ n * Ended}

/-- What may follow the first digit. -/
def Rest : Language Char := Plain 1 + Grouped 1 0

/-- Other characters and a separator. -/
def Erased : Language Char := other * (other∗ * separator)

/-- The first digit, with other characters that a separator has made up for. -/
def Start : Language Char :=
  hex * Erased∗ + other * (other∗ * (hex * (other∗ * (separator * Erased∗))))

/-- The texts that are accepted. -/
def Lenient : Language Char := Start * Rest

variable {c : Char} {w : List Char} {i : ℕ}

@[simp] theorem cons_mem_hex_mul {l : Language Char} :
    c :: w ∈ hex * l ↔ isxdigit c = true ∧ w ∈ l := cons_mem_letter_mul

@[simp] theorem cons_mem_separator_mul {l : Language Char} :
    c :: w ∈ separator * l ↔ isSeparator c = true ∧ w ∈ l := cons_mem_letter_mul

@[simp] theorem cons_mem_other_mul {l : Language Char} :
    c :: w ∈ other * l ↔ (isxdigit c = false ∧ isSeparator c = false) ∧ w ∈ l :=
  cons_mem_letter_mul

theorem isxdigit_of_isSeparator (h : isSeparator c = true) : isxdigit c = false := by
  simp only [isSeparator, Bool.or_eq_true, decide_eq_true_eq] at h
  rcases h with rfl | rfl <;> rfl

theorem isSeparator_of_isxdigit (h : isxdigit c = true) : isSeparator c = false := by
  by_contra hc
  rw [isxdigit_of_isSeparator (by simpa using hc)] at h
  exact Bool.false_ne_true h

/-- A letter is a digit, a separator or another character. -/
theorem kinds (c : Char) :
    isxdigit c = true ∨ isSeparator c = true ∨ isxdigit c = false ∧ isSeparator c = false := by
  cases isxdigit c <;> cases isSeparator c <;> simp

/-! ### The first character of `Plain` -/

theorem nil_mem_Ended : [] ∈ Ended := (mem_add _ _ _).mpr (.inl nil_mem_one)

theorem cons_mem_Ended : c :: w ∈ Ended ↔ isSeparator c = true := by
  rw [Ended, mem_add, mem_one, cons_mem_separator_mul, or_iff_right (List.cons_ne_nil _ _)]
  exact and_iff_left trivial

theorem nil_mem_Plain : [] ∈ Plain i ↔ i = 12 := by
  constructor
  · rintro ⟨n, hn, hw⟩
    cases n with
    | zero => exact hn
    | succ n =>
        rw [pow_succ', mul_assoc] at hw
        exact absurd hw nil_notMem_letter_mul
  · rintro rfl
    refine ⟨0, rfl, ?_⟩
    rw [pow_zero, one_mul]
    exact nil_mem_Ended

theorem cons_mem_hex_pow_mul {n : ℕ} {l : Language Char} :
    c :: w ∈ hex ^ (n + 1) * l ↔ isxdigit c = true ∧ w ∈ hex ^ n * l := by
  rw [pow_succ', mul_assoc, cons_mem_hex_mul]

theorem cons_mem_hex_pow_zero_mul : c :: w ∈ hex ^ 0 * Ended ↔ isSeparator c = true := by
  rw [pow_zero, one_mul, cons_mem_Ended]

theorem cons_mem_Plain_of_isxdigit (hc : isxdigit c = true) :
    c :: w ∈ Plain i ↔ w ∈ Plain (i + 1) := by
  constructor
  · rintro ⟨n, hn, hw⟩
    cases n with
    | zero =>
        rw [cons_mem_hex_pow_zero_mul, isSeparator_of_isxdigit hc] at hw
        exact absurd hw Bool.false_ne_true
    | succ n => exact ⟨n, by omega, (cons_mem_hex_pow_mul.mp hw).2⟩
  · rintro ⟨n, hn, hw⟩
    exact ⟨n + 1, by omega, cons_mem_hex_pow_mul.mpr ⟨hc, hw⟩⟩

theorem cons_mem_Plain_of_isSeparator (hc : isSeparator c = true) :
    c :: w ∈ Plain i ↔ i = 12 := by
  constructor
  · rintro ⟨n, hn, hw⟩
    cases n with
    | zero => exact hn
    | succ n =>
        rw [cons_mem_hex_pow_mul, isxdigit_of_isSeparator hc] at hw
        exact absurd hw.1 Bool.false_ne_true
  · rintro rfl
    exact ⟨0, rfl, cons_mem_hex_pow_zero_mul.mpr hc⟩

theorem cons_notMem_Plain (hx : isxdigit c = false) (hc : isSeparator c = false) :
    c :: w ∉ Plain i := by
  rintro ⟨n, -, hw⟩
  cases n with
  | zero =>
      rw [cons_mem_hex_pow_zero_mul, hc] at hw
      exact Bool.false_ne_true hw
  | succ n =>
      rw [cons_mem_hex_pow_mul, hx] at hw
      exact Bool.false_ne_true hw.1

/-! ### The first character of `Grouped` -/

variable {s : ℕ}

theorem nil_mem_Grouped : [] ∈ Grouped i s ↔ i = 12 ∧ s = 5 := by
  constructor
  · rintro ⟨hi, hs, -⟩
    exact ⟨hi, hs⟩
  · rintro ⟨rfl, rfl⟩
    exact ⟨rfl, rfl, rfl, fun u c v h => absurd h (by simp)⟩

/-- The places of the separators, with one character in front. -/
theorem forall_split_cons {P : List Char → Char → Prop} :
    (∀ u c' v, c :: w = u ++ c' :: v → P u c') ↔
      P [] c ∧ ∀ u c' v, w = u ++ c' :: v → P (c :: u) c' := by
  constructor
  · intro h
    exact ⟨h [] c w rfl, fun u c' v hw => h (c :: u) c' v (by rw [hw, List.cons_append])⟩
  · rintro ⟨hnil, hcons⟩ u c' v heq
    cases u with
    | nil =>
        obtain ⟨rfl, -⟩ := List.cons.inj heq
        exact hnil
    | cons d u =>
        obtain ⟨rfl, hw⟩ := List.cons.inj heq
        exact hcons u c' v hw

theorem cons_mem_Grouped_of_isxdigit (hc : isxdigit c = true) :
    c :: w ∈ Grouped i s ↔ w ∈ Grouped (i + 1) s := by
  have hx : ∀ u, (c :: u).countP isxdigit = u.countP isxdigit + 1 :=
    fun u => List.countP_cons_of_pos hc
  have hs : ∀ u, (c :: u).countP isSeparator = u.countP isSeparator :=
    fun u => List.countP_cons_of_neg (by simp [isSeparator_of_isxdigit hc])
  constructor
  · rintro ⟨hdigits, hseparators, hlength, hplaces⟩
    rw [hx] at hdigits
    rw [hs] at hseparators
    rw [hx, hs, List.length_cons] at hlength
    refine ⟨by omega, hseparators, by omega, fun u c' v hw hc' => ?_⟩
    have hplace := (forall_split_cons.mp hplaces).2 u c' v hw hc'
    rw [hx, hs] at hplace
    omega
  · rintro ⟨hdigits, hseparators, hlength, hplaces⟩
    refine ⟨by rw [hx]; omega, by rw [hs]; exact hseparators,
      by rw [hx, hs, List.length_cons]; omega, forall_split_cons.mpr ⟨?_, fun u c' v hw hc' => ?_⟩⟩
    · intro hsep
      rw [isSeparator_of_isxdigit hc] at hsep
      exact absurd hsep Bool.false_ne_true
    · have hplace := hplaces u c' v hw hc'
      rw [hx, hs]
      omega

theorem cons_mem_Grouped_of_isSeparator (hc : isSeparator c = true) :
    c :: w ∈ Grouped i s ↔ i / 2 = s + 1 ∧ w ∈ Grouped i (s + 1) := by
  have hx : ∀ u, (c :: u).countP isxdigit = u.countP isxdigit :=
    fun u => List.countP_cons_of_neg (by simp [isxdigit_of_isSeparator hc])
  have hs : ∀ u, (c :: u).countP isSeparator = u.countP isSeparator + 1 :=
    fun u => List.countP_cons_of_pos hc
  constructor
  · rintro ⟨hdigits, hseparators, hlength, hplaces⟩
    rw [hx] at hdigits
    rw [hs] at hseparators
    rw [hx, hs, List.length_cons] at hlength
    refine ⟨(forall_split_cons.mp hplaces).1 hc, hdigits, by omega, by omega,
      fun u c' v hw hc' => ?_⟩
    have hplace := (forall_split_cons.mp hplaces).2 u c' v hw hc'
    rw [hx, hs] at hplace
    omega
  · rintro ⟨hi, hdigits, hseparators, hlength, hplaces⟩
    refine ⟨by rw [hx]; exact hdigits, by rw [hs]; omega,
      by rw [hx, hs, List.length_cons]; omega,
      forall_split_cons.mpr ⟨fun _ => hi, fun u c' v hw hc' => ?_⟩⟩
    have hplace := hplaces u c' v hw hc'
    rw [hx, hs]
    omega

theorem cons_notMem_Grouped (hx : isxdigit c = false) (hc : isSeparator c = false) :
    c :: w ∉ Grouped i s := by
  rintro ⟨-, -, hlength, -⟩
  have hle : w.countP isSeparator ≤ w.countP fun c => !isxdigit c :=
    List.countP_mono_left fun c _ hc => by simp [isxdigit_of_isSeparator hc]
  have hsplit := List.length_eq_countP_add_countP isxdigit (l := w)
  rw [List.countP_cons_of_neg (by simp [hx]), List.countP_cons_of_neg (by simp [hc]),
    List.length_cons] at hlength
  simp only [Bool.not_eq_true, Bool.decide_eq_false] at hsplit
  omega

/-! ## The loop -/

section

variable {s : ℤ}

theorem scan_isxdigit (hc : isxdigit c = true) : scan i s (c :: w) = scan (i + 1) s w := by
  rw [scan, if_pos hc]

/-- A separator at a place where the loop goes on. -/
theorem scan_isSeparator (hc : isSeparator c = true) (hi : i ≠ 0) (hs : ((i / 2 : ℕ) : ℤ) - 1 = s) :
    scan i s (c :: w) = scan i (s + 1) w := by
  rw [scan, if_neg (by simp [isxdigit_of_isSeparator hc]), if_pos hc, if_neg (by omega)]

/-- A separator at another place ends the loop. -/
theorem scan_break (hc : isSeparator c = true) (h : i = 0 ∨ ((i / 2 : ℕ) : ℤ) - 1 ≠ s) :
    scan i s (c :: w) = (i, s) := by
  rw [scan, if_neg (by simp [isxdigit_of_isSeparator hc]), if_pos hc, if_pos h]

theorem scan_other (hx : isxdigit c = false) (hc : isSeparator c = false) :
    scan i s (c :: w) = scan i (-1) w := by
  rw [scan, if_neg (by simp [hx]), if_neg (by simp [hc])]

end

theorem valid_iff (s : ℤ) : valid (i, s) = true ↔ i = 12 ∧ (s = 5 ∨ s = 0) := by
  simp [valid]

/-- From two digits on, other characters cannot be made up for. -/
theorem not_valid_scan (hi : 2 ≤ i) : ¬valid (scan i (-1) w) = true := by
  have hend : ¬valid (i, -1) = true := by
    rw [valid_iff]
    omega
  induction w generalizing i with
  | nil => exact hend
  | cons c w ih =>
      rcases kinds c with hc | hc | ⟨hx, hc⟩
      · rw [scan_isxdigit hc]
        exact ih (by omega) (by rw [valid_iff]; omega)
      · rwa [scan_break hc (.inr (by omega))]
      · rw [scan_other hx hc]
        exact ih hi hend

/-- What is accepted from two digits on. -/
theorem valid_scan_iff (hi : 2 ≤ i) :
    valid (scan i s w) = true ↔ s = 0 ∧ w ∈ Plain i ∨ w ∈ Grouped i s := by
  induction w generalizing i s with
  | nil =>
      rw [scan, valid_iff, nil_mem_Plain, nil_mem_Grouped]
      omega
  | cons c w ih =>
      rcases kinds c with hc | hc | ⟨hx, hc⟩
      · rw [scan_isxdigit hc, ih (by omega), cons_mem_Plain_of_isxdigit hc,
          cons_mem_Grouped_of_isxdigit hc]
      · rw [cons_mem_Plain_of_isSeparator hc, cons_mem_Grouped_of_isSeparator hc]
        by_cases hplace : i / 2 = s + 1
        · have hgo : scan i s (c :: w) = scan i (s + 1 : ℕ) w := by
            rw [scan_isSeparator hc (by omega) (by omega), Nat.cast_succ]
          have hplain : ¬(s = 0 ∧ i = 12) := by omega
          rw [hgo, ih hi, and_iff_right hplace, or_iff_right hplain,
            or_iff_right (fun h => Nat.succ_ne_zero s h.1)]
        · rw [scan_break hc (.inr (by omega)), valid_iff]
          omega
      · rw [scan_other hx hc]
        refine iff_of_false (not_valid_scan hi) ?_
        rintro (⟨-, hw⟩ | hw)
        · exact cons_notMem_Plain hx hc hw
        · exact cons_notMem_Grouped hx hc hw

/-! ### With one digit -/

/-- The texts that are accepted behind one digit. -/
def AfterDigit : Language Char := Erased∗ * Rest

/-- The texts that are accepted behind one digit and other characters. -/
def AfterOther : Language Char := other∗ * (separator * AfterDigit)

theorem AfterDigit_eq : AfterDigit = Rest + other * AfterOther := by
  rw [AfterDigit, kstar_mul, AfterOther, AfterDigit, Erased]
  simp only [mul_assoc]

theorem nil_notMem_Rest : [] ∉ Rest := by
  rw [Rest, mem_add, nil_mem_Plain, nil_mem_Grouped]
  omega

theorem cons_mem_Rest : c :: w ∈ Rest ↔ isxdigit c = true ∧ (w ∈ Plain 2 ∨ w ∈ Grouped 2 0) := by
  rw [Rest, mem_add]
  rcases kinds c with hc | hc | ⟨hx, hc⟩
  · rw [cons_mem_Plain_of_isxdigit hc, cons_mem_Grouped_of_isxdigit hc, and_iff_right hc]
  · rw [cons_mem_Plain_of_isSeparator hc, cons_mem_Grouped_of_isSeparator hc,
      isxdigit_of_isSeparator hc]
    simp
  · rw [hx]
    refine iff_of_false ?_ (fun h => Bool.false_ne_true h.1)
    rintro (hw | hw)
    · exact cons_notMem_Plain hx hc hw
    · exact cons_notMem_Grouped hx hc hw

theorem nil_notMem_AfterOther : [] ∉ AfterOther := by
  rw [AfterOther, other, nil_mem_letter_kstar_mul]
  exact nil_notMem_letter_mul

theorem cons_mem_AfterOther :
    c :: w ∈ AfterOther ↔ isSeparator c = true ∧ w ∈ AfterDigit ∨
      (isxdigit c = false ∧ isSeparator c = false) ∧ w ∈ AfterOther := by
  nth_rewrite 1 [AfterOther]
  rw [other, cons_mem_letter_kstar_mul, cons_mem_separator_mul]
  rfl

theorem nil_notMem_AfterDigit : [] ∉ AfterDigit := by
  rw [AfterDigit_eq, mem_add, other, or_iff_left nil_notMem_letter_mul]
  exact nil_notMem_Rest

theorem cons_mem_AfterDigit :
    c :: w ∈ AfterDigit ↔ isxdigit c = true ∧ (w ∈ Plain 2 ∨ w ∈ Grouped 2 0) ∨
      (isxdigit c = false ∧ isSeparator c = false) ∧ w ∈ AfterOther := by
  rw [AfterDigit_eq, mem_add, cons_mem_Rest, cons_mem_other_mul]

/-- With one digit, a separator fits if there are other characters to be made up for. -/
theorem valid_scan_one :
    (valid (scan 1 0 w) = true ↔ w ∈ AfterDigit) ∧
    (valid (scan 1 (-1) w) = true ↔ w ∈ AfterOther) := by
  induction w with
  | nil =>
      exact ⟨iff_of_false (by decide) nil_notMem_AfterDigit,
        iff_of_false (by decide) nil_notMem_AfterOther⟩
  | cons c w ih =>
      obtain ⟨ihDigit, ihOther⟩ := ih
      rw [cons_mem_AfterDigit, cons_mem_AfterOther]
      rcases kinds c with hc | hc | ⟨hx, hc⟩
      · have hsep := isSeparator_of_isxdigit hc
        rw [scan_isxdigit hc, scan_isxdigit hc]
        refine ⟨?_, iff_of_false (not_valid_scan (le_refl 2)) (by simp [hc, hsep])⟩
        have hscan := valid_scan_iff (w := w) (s := 0) (le_refl 2)
        rw [Nat.cast_zero] at hscan
        simp [hscan, hc]
      · have hx := isxdigit_of_isSeparator hc
        rw [scan_break hc (.inr (by decide)), scan_isSeparator hc (by decide) (by decide)]
        exact ⟨iff_of_false (by decide) (by simp [hx, hc]), by simp [ihDigit, hx, hc]⟩
      · rw [scan_other hx hc, scan_other hx hc]
        exact ⟨by simp [ihOther, hx, hc], by simp [ihOther, hx, hc]⟩

/-! ### Without a digit -/

/-- Other characters in front of the first digit. -/
theorem valid_scan_zero_neg_one :
    valid (scan 0 (-1) w) = true ↔ w ∈ other∗ * (hex * AfterOther) := by
  induction w with
  | nil =>
      rw [other, nil_mem_letter_kstar_mul]
      exact iff_of_false (by decide) nil_notMem_letter_mul
  | cons c w ih =>
      have hcons : c :: w ∈ other∗ * (hex * AfterOther) ↔ (isxdigit c = true ∧ w ∈ AfterOther) ∨
          (isxdigit c = false ∧ isSeparator c = false) ∧ w ∈ other∗ * (hex * AfterOther) := by
        nth_rewrite 1 [other]
        rw [cons_mem_letter_kstar_mul, cons_mem_hex_mul]
        rfl
      rw [hcons]
      rcases kinds c with hc | hc | ⟨hx, hc⟩
      · rw [scan_isxdigit hc]
        simp [valid_scan_one.2, hc]
      · rw [scan_break hc (.inl rfl)]
        exact iff_of_false (by decide) (by simp [isxdigit_of_isSeparator hc, hc])
      · rw [scan_other hx hc]
        simp [ih, hx, hc]

theorem Lenient_eq :
    Lenient = hex * AfterDigit + other * (other∗ * (hex * AfterOther)) := by
  rw [Lenient, Start, AfterOther, AfterDigit, add_mul]
  simp only [mul_assoc]

theorem valid_scan_zero : valid (scan 0 0 w) = true ↔ w ∈ Lenient := by
  rw [Lenient_eq, mem_add]
  cases w with
  | nil => exact iff_of_false (by decide) (by simp [hex, other])
  | cons c w =>
      rw [cons_mem_hex_mul, cons_mem_other_mul]
      rcases kinds c with hc | hc | ⟨hx, hc⟩
      · rw [scan_isxdigit hc]
        simp [valid_scan_one.1, hc]
      · rw [scan_break hc (.inl rfl)]
        exact iff_of_false (by decide) (by simp [isxdigit_of_isSeparator hc, hc])
      · rw [scan_other hx hc]
        simp [valid_scan_zero_neg_one, hx, hc]

/-! ## What is accepted -/

theorem c_str_of_notMem (h : '\x00' ∉ w) : c_str w = w := by
  rw [c_str, List.takeWhile_eq_self_iff]
  intro c hc
  simp only [decide_eq_true_eq]
  rintro rfl
  exact h hc

theorem accepts_iff_mem_Lenient (h : '\x00' ∉ w) : accepts w = true ↔ w ∈ Lenient := by
  rw [accepts, c_str_of_notMem h, valid_scan_zero]

theorem scan_hex_pow {n : ℕ} (hw : w ∈ hex ^ n) (i : ℕ) (s : ℤ) (v : List Char) :
    scan i s (w ++ v) = scan (i + n) s v := by
  obtain ⟨hlength, hdigits⟩ := mem_letter_pow.mp hw
  subst hlength
  clear hw
  induction w generalizing i with
  | nil => rfl
  | cons c w ih =>
      obtain ⟨hc, hw⟩ := List.forall_mem_cons.mp hdigits
      rw [List.cons_append, scan_isxdigit hc, ih _ hw, List.length_cons]
      ring_nf

/-- Separators in front of pairs of digits come at their places. -/
theorem scan_groups {n : ℕ} (hw : w ∈ (separator * hex ^ 2) ^ n) (k : ℕ) (v : List Char) :
    scan (2 * (k + 1)) k (w ++ v) = scan (2 * (k + 1 + n)) (k + n : ℕ) v := by
  induction n generalizing w k with
  | zero =>
      rw [pow_zero, mem_one] at hw
      rw [hw]
      rfl
  | succ n ih =>
      rw [pow_succ', mul_assoc, separator, mem_letter_mul] at hw
      obtain ⟨c, w, hc, hw, rfl⟩ := hw
      obtain ⟨digits, hdigits, groups, hgroups, rfl⟩ := mem_mul.mp hw
      have hnext : scan (2 * (k + 1 + 1)) (k + 1 : ℕ) (groups ++ v) =
          scan (2 * (k + 1 + 1 + n)) (k + 1 + n : ℕ) v := ih hgroups (k + 1)
      rw [List.cons_append, scan_isSeparator hc (by omega) (by omega), List.append_assoc,
        scan_hex_pow hdigits, ← Nat.cast_succ, show 2 * (k + 1) + 2 = 2 * (k + 1 + 1) from rfl,
        hnext]
      congr 1 <;> omega

/-- A well-formed address is accepted. -/
theorem mem_Lenient_of_mem_WellFormed (hw : w ∈ WellFormed) : w ∈ Lenient := by
  rw [← valid_scan_zero, ← List.append_nil w]
  rcases (mem_add _ _ _).mp hw with hdigits | hpairs
  · rw [scan_hex_pow hdigits]
    rfl
  · obtain ⟨digits, hdigits, groups, hgroups, rfl⟩ := mem_mul.mp hpairs
    have hscan := scan_groups hgroups 0 []
    rw [List.append_assoc, scan_hex_pow hdigits]
    exact (congrArg valid hscan).trans rfl

/-- The check is right about the well-formed addresses and about the texts that it does not
accept. -/
theorem accepts_iff_wellFormed_iff (text : List Char) (h : '\x00' ∉ text) :
    (accepts text = true ↔ text ∈ WellFormed) ↔ text ∈ WellFormed ∨ text ∉ Lenient := by
  rw [accepts_iff_mem_Lenient h]
  constructor
  · intro hiff
    by_cases hw : text ∈ WellFormed
    · exact .inl hw
    · exact .inr (mt hiff.mp hw)
  · rintro (hw | hw)
    · exact iff_of_true (mem_Lenient_of_mem_WellFormed hw) hw
    · exact iff_of_false hw (mt mem_Lenient_of_mem_WellFormed hw)

theorem accepts_iff_wellFormed_iff_device :
    (accepts "00:0d:b9:3f:7c:bc".toList = true ↔ "00:0d:b9:3f:7c:bc".toList ∈ WellFormed) ↔
      "00:0d:b9:3f:7c:bc".toList ∈ WellFormed ∨ "00:0d:b9:3f:7c:bc".toList ∉ Lenient :=
  accepts_iff_wellFormed_iff _ (by decide)

/-- The third character of a well-formed address that is not twelve digits long. -/
theorem isSeparator_of_mem_WellFormed {c₁ c₂ c₃ : Char} (hw : c₁ :: c₂ :: c₃ :: w ∈ WellFormed)
    (hlength : (c₁ :: c₂ :: c₃ :: w).length ≠ 12) : isSeparator c₃ = true := by
  rcases (mem_add _ _ _).mp hw with hdigits | hpairs
  · exact absurd (mem_letter_pow.mp hdigits).1 hlength
  · rw [cons_mem_hex_pow_mul, cons_mem_hex_pow_mul, pow_zero, one_mul, pow_succ', mul_assoc,
      cons_mem_separator_mul] at hpairs
    exact hpairs.2.2.1

/-- Twelve digits and a separator, separators after an odd number of digits, and another
character that a separator makes up for. -/
theorem not_accepts_iff_wellFormed :
    accepts "112233445566:".toList = true ∧
    accepts "123:4:56:78:9a:bc".toList = true ∧
    accepts "1g:23456789abc".toList = true ∧
    ¬∀ text : List Char, '\x00' ∉ text → (accepts text = true ↔ text ∈ WellFormed) := by
  have haccepts : accepts "112233445566:".toList = true := by decide
  refine ⟨haccepts, by decide, by decide, fun hall => ?_⟩
  have hwell := (hall _ (by decide)).mp haccepts
  exact absurd (isSeparator_of_mem_WellFormed hwell (by decide)) (by decide)

end OpenC2X.MacAddress
