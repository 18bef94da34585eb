import OpenC2X.Lib.HexNumber
import Mathlib.Algebra.Order.Ring.Rat
import Mathlib.Tactic.Linarith
import Mathlib.Tactic.NormNum

/-!
# The serial port

`readSpeed` and `readRpm` take a number out of the answer of the adapter.  They test the
echo of the request and the header of the reply, and nothing behind it.

* An answer that ends with the echo, or with the header, throws `out_of_range`: the
  position of the next comparison or substring lies behind the end.
* Behind a right header, what are not digits is read as 0, or as what an extraction makes
  of it, and not reported as -1.

`serialPort_iff` says that nothing else goes wrong.
-/

namespace OpenC2X.Obd2

/-! ## Strings of the standard library -/

inductive StdException where
  | out_of_range
  deriving DecidableEq, Repr

abbrev Throwing (α : Type) := Except StdException α

/-- `s.substr(pos, n)` -/
def substr (s : List Char) (pos n : ℕ) : Throwing (List Char) :=
  if s.length < pos then .error .out_of_range else .ok ((s.drop pos).take n)

/-- `s.compare(pos, n, t) == 0` -/
def compareEq (s : List Char) (pos n : ℕ) (t : List Char) : Throwing Bool := do
  let part ← substr s pos n
  return part = t

/-- What an extraction stores if there is nothing but blanks before the end of the stream. -/
inductive AtEnd where
  /-- It is not begun, and the variable keeps its value. -/
  | keeps
  /-- It fails as everywhere else. -/
  | zero
  deriving DecidableEq, Repr

/-- `stream << hex << text; stream >> number` -/
def extract (atEnd : AtEnd) (number : ℤ) (text : List Char) : ℤ :=
  match HexNumber.read text with
  | some n => n
  | none =>
      match atEnd with
      | .keeps => if text.all HexNumber.isBlank then number else 0
      | .zero => 0

theorem extract_of_read {text : List Char} {n : ℤ} (h : HexNumber.read text = some n)
    (atEnd : AtEnd) (number : ℤ) : extract atEnd number text = n := by
  simp [extract, h]

/-- Nothing but a number makes an extraction store one that is neither 0 nor there before. -/
theorem extract_eq_iff {atEnd : AtEnd} {number n : ℤ} {text : List Char} (hzero : n ≠ 0)
    (hne : n ≠ number) : extract atEnd number text = n ↔ HexNumber.read text = some n := by
  unfold extract
  cases HexNumber.read text with
  | some m => simp
  | none =>
      cases atEnd with
      | keeps =>
          by_cases hblank : text.all HexNumber.isBlank = true
          · simp [hblank, hne.symm]
          · simp [hblank, hzero.symm]
      | zero => simp [hzero.symm]

/-! ## The two functions -/

def BUFFER_SIZE : ℕ := 30

/-- What stands in `mBuffer` before the first NUL. -/
structure Answer where
  response : List Char
  length_lt : response.length < BUFFER_SIZE
  nul_notMem : '\x00' ∉ response
  deriving DecidableEq

namespace SerialPort

/-- The test of the echo and of the header.  Where the first comparison fails, the second
one is not made. -/
def isAnswer (request header response : List Char) : Throwing Bool := do
  if ← compareEq response 0 4 request then
    compareEq response 5 5 header
  else
    return false

/-- `readSpeed` for an answer of the adapter. -/
def readSpeed (atEnd : AtEnd) (answer : Answer) : Throwing ℚ := do
  let speedKmh : ℤ := -1
  let speedMs : ℚ := -1
  if ← isAnswer ['0', '1', '0', 'D'] ['4', '1', ' ', '0', 'D'] answer.response then
    let text ← substr answer.response 11 2
    let speedKmh := extract atEnd speedKmh text
    return speedKmh / 3.6
  else
    return speedMs

/-- `readRpm` for an answer of the adapter. -/
def readRpm (atEnd : AtEnd) (answer : Answer) : Throwing ℤ := do
  let rpm : ℤ := -1
  if ← isAnswer ['0', '1', '0', 'C'] ['4', '1', ' ', '0', 'C'] answer.response then
    let first ← substr answer.response 11 2
    let second ← substr answer.response 14 2
    let rpm := extract atEnd rpm (first ++ second)
    return rpm.tdiv 4
  else
    return rpm

/-! ## What the answers say -/

/-- The answer begins with the echo and has the header at the positions 5 to 9. -/
structure HasFormat (request header response : List Char) : Prop where
  echo : response.take 4 = request
  header_eq : (response.drop 5).take 5 = header

instance (request header response : List Char) : Decidable (HasFormat request header response) :=
  decidable_of_iff (response.take 4 = request ∧ (response.drop 5).take 5 = header)
    ⟨fun h => ⟨h.1, h.2⟩, fun h => ⟨h.echo, h.header_eq⟩⟩

/-- The digits at the positions; `none` if there is something else at one of them. -/
def digitsAt (positions : List ℕ) (response : List Char) : Option (List ℕ) :=
  positions.mapM fun i => response[i]?.bind HexNumber.digit?

/-- The speed that an answer gives in m/s. -/
def speedOf (response : List Char) : ℚ :=
  if HasFormat ['0', '1', '0', 'D'] ['4', '1', ' ', '0', 'D'] response then
    match digitsAt [11, 12] response with
    | some digits => HexNumber.value digits / 3.6
    | none => -1
  else
    -1

/-- The revolutions per minute that an answer gives. -/
def rpmOf (response : List Char) : ℤ :=
  if HasFormat ['0', '1', '0', 'C'] ['4', '1', ' ', '0', 'C'] response then
    match digitsAt [11, 12, 14, 15] response with
    | some digits => HexNumber.value digits / 4
    | none => -1
  else
    -1

/-! ## Characters at positions -/

/-- The characters at those positions that the answer has. -/
def charsAt (positions : List ℕ) (response : List Char) : List Char :=
  positions.filterMap (response[·]?)

theorem take_two_drop (response : List Char) (i : ℕ) :
    (response.drop i).take 2 = charsAt [i, i + 1] response := by
  have hfirst : (response.drop i)[0]? = response[i]? := by rw [List.getElem?_drop]; rfl
  have hsecond : (response.drop i)[1]? = response[i + 1]? := by rw [List.getElem?_drop]
  have hchars : charsAt [i, i + 1] response = response[i]?.toList ++ response[i + 1]?.toList := by
    cases hi : response[i]? <;> cases hi' : response[i + 1]? <;> simp [charsAt, hi, hi']
  rw [hchars, ← hfirst, ← hsecond]
  match response.drop i with
  | [] => rfl
  | [c] => rfl
  | c :: c' :: rest => rfl

theorem charsAt_append (positions positions' : List ℕ) (response : List Char) :
    charsAt (positions ++ positions') response =
      charsAt positions response ++ charsAt positions' response := by
  rw [charsAt, List.filterMap_append]
  rfl

theorem digitsAt_cons {i : ℕ} {positions digits : List ℕ} {response : List Char} :
    digitsAt (i :: positions) response = some digits ↔ ∃ c d rest, response[i]? = some c ∧
      HexNumber.digit? c = some d ∧ digitsAt positions response = some rest ∧
      digits = d :: rest := by
  simp only [digitsAt, List.mapM_cons, Option.bind_eq_bind, Option.bind_eq_some_iff,
    Option.pure_def, Option.some.injEq]
  constructor
  · rintro ⟨d, ⟨c, hc, hd⟩, rest, hrest, rfl⟩
    exact ⟨c, d, rest, hc, hd, hrest, rfl⟩
  · rintro ⟨c, d, rest, hc, hd, hrest, rfl⟩
    exact ⟨d, ⟨c, hc, hd⟩, rest, hrest, rfl⟩

/-- Where the digits stand, the answer has the positions, with nothing but digits. -/
theorem charsAt_of_digitsAt {positions digits : List ℕ} {response : List Char}
    (h : digitsAt positions response = some digits) :
    (charsAt positions response).filterMap HexNumber.digit? = digits ∧
      (∀ c ∈ charsAt positions response, (HexNumber.digit? c).isSome = true) ∧
      ∀ i ∈ positions, i < response.length := by
  induction positions generalizing digits with
  | nil =>
      obtain rfl : [] = digits := by simpa [digitsAt] using h
      simp [charsAt]
  | cons i positions ih =>
      obtain ⟨c, d, rest, hc, hd, hrest, rfl⟩ := digitsAt_cons.mp h
      obtain ⟨hdigits, hchars, hlt⟩ := ih hrest
      have hcons : charsAt (i :: positions) response = c :: charsAt positions response := by
        rw [charsAt, List.filterMap_cons_some hc]
        rfl
      have hi : i < response.length := (List.getElem?_eq_some_iff.mp hc).1
      refine ⟨?_, ?_, ?_⟩
      · rw [hcons, List.filterMap_cons_some hd, hdigits]
      · simpa [hcons, hd] using hchars
      · simpa [hi] using hlt

/-- Where the digits stand, the extraction reads their value. -/
theorem extract_of_digitsAt {i : ℕ} {positions digits : List ℕ} {response : List Char}
    (h : digitsAt (i :: positions) response = some digits) (atEnd : AtEnd) (number : ℤ) :
    extract atEnd number (charsAt (i :: positions) response) = HexNumber.value digits := by
  obtain ⟨hdigits, hchars, -⟩ := charsAt_of_digitsAt h
  obtain ⟨c, -, -, hc, -⟩ := digitsAt_cons.mp h
  have hne : charsAt (i :: positions) response ≠ [] := by
    rw [charsAt, List.filterMap_cons_some hc]
    exact List.cons_ne_nil _ _
  apply extract_of_read
  rw [HexNumber.read_digits hne hchars, hdigits]

/-! ## The test -/

theorem substr_of_le {s : List Char} {pos : ℕ} (h : pos ≤ s.length) (n : ℕ) :
    substr s pos n = .ok ((s.drop pos).take n) := if_neg (Nat.not_lt.mpr h)

theorem substr_of_lt {s : List Char} {pos : ℕ} (h : s.length < pos) (n : ℕ) :
    substr s pos n = .error .out_of_range := if_pos h

theorem isAnswer_eq_ite (request header response : List Char) :
    isAnswer request header response =
      if response.take 4 = request then compareEq response 5 5 header else .ok false := by
  have hfirst : compareEq response 0 4 request = .ok (decide (response.take 4 = request)) := by
    rw [compareEq, substr_of_le (Nat.zero_le _)]
    rfl
  rw [isAnswer, hfirst]
  by_cases hecho : response.take 4 = request
  · rw [decide_eq_true hecho, if_pos hecho]
    rfl
  · rw [decide_eq_false hecho, if_neg hecho]
    rfl

/-- The test throws for an answer that is the echo and nothing else. -/
theorem isAnswer_eq {request header response : List Char} (hrequest : request.length = 4) :
    isAnswer request header response =
      if response = request then .error .out_of_range
      else .ok (decide (HasFormat request header response)) := by
  rw [isAnswer_eq_ite]
  by_cases hecho : response.take 4 = request
  · have hlength : 4 ≤ response.length := by
      rw [← hrequest, ← hecho, List.length_take]
      exact Nat.min_le_right _ _
    rw [if_pos hecho]
    obtain hlt | heq := Nat.lt_or_eq_of_le hlength
    · have hne : response ≠ request := by
        rintro rfl
        omega
      have hformat : HasFormat request header response ↔ (response.drop 5).take 5 = header :=
        ⟨fun h => h.header_eq, fun h => ⟨hecho, h⟩⟩
      rw [if_neg hne, compareEq, substr_of_le hlt, decide_eq_decide.mpr hformat]
      rfl
    · have hecho' : response = request := by rw [← hecho, heq, List.take_length]
      rw [if_pos hecho', compareEq, substr_of_lt (by omega)]
      rfl
  · have hne : response ≠ request := by
      rintro rfl
      exact hecho (by rw [← hrequest, List.take_length])
    have hformat : ¬ HasFormat request header response := fun h => hecho h.echo
    rw [if_neg hecho, if_neg hne, decide_eq_false hformat]

/-! ## Behind the header -/

/-- An answer with the header is more than the echo. -/
theorem HasFormat.ne_request {request header response : List Char}
    (h : HasFormat request header response) (hrequest : request.length = 4)
    (hheader : header ≠ []) :
    response ≠ request := by
  rintro rfl
  apply hheader
  rw [← h.header_eq, List.drop_of_length_le (by omega), List.take_nil]

theorem isAnswer_of_hasFormat {request header response : List Char}
    (h : HasFormat request header response) (hrequest : request.length = 4)
    (hheader : header ≠ []) :
    isAnswer request header response = .ok true := by
  rw [isAnswer_eq hrequest, if_neg (h.ne_request hrequest hheader), decide_eq_true h]

/-- Behind a right header the speed is what the extraction makes of two characters. -/
theorem readSpeed_of_hasFormat {answer : Answer}
    (hformat : HasFormat ['0', '1', '0', 'D'] ['4', '1', ' ', '0', 'D'] answer.response)
    (atEnd : AtEnd) :
    readSpeed atEnd answer = if answer.response.length < 11 then .error .out_of_range
      else .ok (extract atEnd (-1) (charsAt [11, 12] answer.response) / 3.6) := by
  rw [readSpeed, isAnswer_of_hasFormat hformat rfl (List.cons_ne_nil _ _)]
  by_cases hlt : answer.response.length < 11
  · rw [if_pos hlt, substr_of_lt hlt]
    rfl
  · rw [if_neg hlt, substr_of_le (Nat.not_lt.mp hlt), take_two_drop]
    rfl

/-- Behind a right header the revolutions are what the extraction makes of four characters. -/
theorem readRpm_of_hasFormat {answer : Answer}
    (hformat : HasFormat ['0', '1', '0', 'C'] ['4', '1', ' ', '0', 'C'] answer.response)
    (atEnd : AtEnd) :
    readRpm atEnd answer = if answer.response.length < 14 then .error .out_of_range
      else .ok ((extract atEnd (-1) (charsAt [11, 12, 14, 15] answer.response)).tdiv 4) := by
  have hchars : charsAt [11, 12, 14, 15] answer.response =
      charsAt [11, 12] answer.response ++ charsAt [14, 15] answer.response :=
    charsAt_append [11, 12] [14, 15] answer.response
  rw [readRpm, isAnswer_of_hasFormat hformat rfl (List.cons_ne_nil _ _)]
  by_cases hlt : answer.response.length < 14
  · rw [if_pos hlt]
    by_cases hlt' : answer.response.length < 11
    · rw [substr_of_lt hlt']
      rfl
    · rw [substr_of_le (Nat.not_lt.mp hlt'), substr_of_lt hlt]
      rfl
  · rw [if_neg hlt, substr_of_le (by omega), substr_of_le (Nat.not_lt.mp hlt), take_two_drop,
      take_two_drop, hchars]
    rfl

/-- The quotient of an integer is never -1 km/h in m/s. -/
theorem div_ne_neg_one (n : ℤ) : (n : ℚ) / 3.6 ≠ -1 := by
  intro h
  have heq : (5 * n : ℚ) = -18 := by
    rw [div_eq_iff (by norm_num)] at h
    linarith
  have hint : 5 * n = -18 := by exact_mod_cast heq
  omega

theorem tdiv_four_eq_neg_one_iff {n : ℤ} :
    n.tdiv 4 = -1 ↔ ∃ k : ℕ, 4 ≤ k ∧ k ≤ 7 ∧ n = -(k : ℤ) := by
  have hnat (m : ℕ) : (m : ℤ).tdiv 4 = ((m / 4 : ℕ) : ℤ) := (Int.ofNat_tdiv m 4).symm
  obtain ⟨m, rfl | rfl⟩ := Int.eq_nat_or_neg n
  · rw [hnat]
    constructor
    · intro h
      omega
    · rintro ⟨k, hge, -, heq⟩
      omega
  · rw [Int.neg_tdiv, hnat]
    constructor
    · intro h
      exact ⟨m, by omega, by omega, rfl⟩
    · rintro ⟨k, hge, hle, heq⟩
      omega

/-! ## The conditions -/

/-- The answer is more than the echo, and there are two digits behind a right header. -/
structure SpeedReadable (response : List Char) : Prop where
  ne_echo : response ≠ ['0', '1', '0', 'D']
  digits : HasFormat ['0', '1', '0', 'D'] ['4', '1', ' ', '0', 'D'] response →
    (digitsAt [11, 12] response).isSome = true

/-- The answer is more than the echo, and there are four digits behind a right header, or
by accident characters that read as one of the numbers -4 to -7, whose quarter is -1. -/
structure RpmReadable (response : List Char) : Prop where
  ne_echo : response ≠ ['0', '1', '0', 'C']
  digits : HasFormat ['0', '1', '0', 'C'] ['4', '1', ' ', '0', 'C'] response →
    (digitsAt [11, 12, 14, 15] response).isSome = true ∨
      14 ≤ response.length ∧ ∃ k, 4 ≤ k ∧ k ≤ 7 ∧
        HexNumber.IsMinusDigit (charsAt [11, 12, 14, 15] response) k

theorem readSpeed_of_not_hasFormat {answer : Answer}
    (hformat : ¬ HasFormat ['0', '1', '0', 'D'] ['4', '1', ' ', '0', 'D'] answer.response)
    (atEnd : AtEnd) :
    readSpeed atEnd answer = if answer.response = ['0', '1', '0', 'D'] then .error .out_of_range
      else .ok (-1) := by
  rw [readSpeed, isAnswer_eq rfl, decide_eq_false hformat]
  split <;> rfl

theorem readRpm_of_not_hasFormat {answer : Answer}
    (hformat : ¬ HasFormat ['0', '1', '0', 'C'] ['4', '1', ' ', '0', 'C'] answer.response)
    (atEnd : AtEnd) :
    readRpm atEnd answer = if answer.response = ['0', '1', '0', 'C'] then .error .out_of_range
      else .ok (-1) := by
  rw [readRpm, isAnswer_eq rfl, decide_eq_false hformat]
  split <;> rfl

theorem readSpeed_iff (atEnd : AtEnd) (answer : Answer) :
    readSpeed atEnd answer = .ok (speedOf answer.response) ↔ SpeedReadable answer.response := by
  by_cases hformat : HasFormat ['0', '1', '0', 'D'] ['4', '1', ' ', '0', 'D'] answer.response
  · have hecho := hformat.ne_request rfl (List.cons_ne_nil _ _)
    have hreadable : SpeedReadable answer.response ↔
        (digitsAt [11, 12] answer.response).isSome = true :=
      ⟨fun h => h.digits hformat, fun h => ⟨hecho, fun _ => h⟩⟩
    rw [hreadable, readSpeed_of_hasFormat hformat, speedOf, if_pos hformat]
    cases hdigits : digitsAt [11, 12] answer.response with
    | none =>
        have hne := div_ne_neg_one (extract atEnd (-1) (charsAt [11, 12] answer.response))
        split <;> simp [hne]
    | some digits =>
        have hlt := (charsAt_of_digitsAt hdigits).2.2 12 (by simp)
        rw [if_neg (by omega), extract_of_digitsAt hdigits, Int.cast_natCast]
        simp
  · rw [readSpeed_of_not_hasFormat hformat, speedOf, if_neg hformat]
    split
    · rename_i hecho
      simpa using fun h : SpeedReadable answer.response => h.ne_echo hecho
    · rename_i hecho
      simpa using (⟨hecho, fun h => absurd h hformat⟩ : SpeedReadable answer.response)

theorem readRpm_iff (atEnd : AtEnd) (answer : Answer) :
    readRpm atEnd answer = .ok (rpmOf answer.response) ↔ RpmReadable answer.response := by
  by_cases hformat : HasFormat ['0', '1', '0', 'C'] ['4', '1', ' ', '0', 'C'] answer.response
  · have hecho := hformat.ne_request rfl (List.cons_ne_nil _ _)
    have hreadable : RpmReadable answer.response ↔
        ((digitsAt [11, 12, 14, 15] answer.response).isSome = true ∨
          14 ≤ answer.response.length ∧ ∃ k, 4 ≤ k ∧ k ≤ 7 ∧
            HexNumber.IsMinusDigit (charsAt [11, 12, 14, 15] answer.response) k) :=
      ⟨fun h => h.digits hformat, fun h => ⟨hecho, fun _ => h⟩⟩
    rw [hreadable, readRpm_of_hasFormat hformat, rpmOf, if_pos hformat]
    cases hdigits : digitsAt [11, 12, 14, 15] answer.response with
    | none =>
        by_cases hlt : answer.response.length < 14
        · rw [if_pos hlt]
          simp [hlt]
        · rw [if_neg hlt, Except.ok.injEq, tdiv_four_eq_neg_one_iff]
          simp only [Option.isSome_none, Bool.false_eq_true, false_or, Nat.not_lt.mp hlt, true_and]
          apply exists_congr
          intro k
          apply and_congr_right
          intro hge
          apply and_congr_right
          intro hle
          rw [extract_eq_iff (by omega) (by omega),
            HexNumber.read_eq_neg_digit_iff (by omega) (by omega)]
    | some digits =>
        have hlt := (charsAt_of_digitsAt hdigits).2.2 15 (by simp)
        rw [if_neg (by omega), extract_of_digitsAt hdigits]
        have hquotient : (HexNumber.value digits : ℤ).tdiv 4 = HexNumber.value digits / 4 :=
          Int.tdiv_eq_ediv_of_nonneg (Int.natCast_nonneg _)
        simp [hquotient]
  · rw [readRpm_of_not_hasFormat hformat, rpmOf, if_neg hformat]
    split
    · rename_i hecho
      simpa using fun h : RpmReadable answer.response => h.ne_echo hecho
    · rename_i hecho
      simpa using (⟨hecho, fun h => absurd h hformat⟩ : RpmReadable answer.response)

/-- **Answers of the adapter.**  The two functions return what the answer says, or -1 where
it says nothing, if and only if the answer is more than the echo and the digits are there
behind a right header. -/
theorem serialPort_iff (atEnd : AtEnd) (answer : Answer) :
    (readSpeed atEnd answer = .ok (speedOf answer.response) ↔ SpeedReadable answer.response) ∧
      (readRpm atEnd answer = .ok (rpmOf answer.response) ↔ RpmReadable answer.response) :=
  ⟨readSpeed_iff atEnd answer, readRpm_iff atEnd answer⟩

/-- The echo without a reply. -/
def echoOnly : Answer := ⟨['0', '1', '0', 'D'], by decide, by decide⟩

/-- A reply whose digits got lost. -/
def garbled : Answer where
  response := ['0', '1', '0', 'D', '\r', '4', '1', ' ', '0', 'D', ' ', '?', '?']
  length_lt := by decide
  nul_notMem := by decide

/-- The echo alone ends the service, and the garbled reply is reported as standstill. -/
theorem not_readSpeed_echoOnly :
    readSpeed .zero echoOnly = .error .out_of_range ∧ speedOf echoOnly.response = -1 ∧
      readSpeed .zero garbled = .ok 0 ∧ speedOf garbled.response = -1 := by
  have hformat : HasFormat ['0', '1', '0', 'D'] ['4', '1', ' ', '0', 'D'] garbled.response := by
    decide
  have hextract : extract .zero (-1) (charsAt [11, 12] garbled.response) = 0 := by decide
  refine ⟨rfl, rfl, ?_, rfl⟩
  rw [readSpeed_of_hasFormat hformat, if_neg (by decide), hextract, Int.cast_zero, zero_div]

end SerialPort

end OpenC2X.Obd2
