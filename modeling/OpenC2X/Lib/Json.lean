import OpenC2X.Lib.Parser
import Mathlib.Data.List.DropRight
import Mathlib.Data.List.Nodup

/-!
# JSON

A parser for JSON texts.  `Denotes text value` says that the text is well formed and has
this value; a text has at most one value (`Denotes.unique`).  Strings are kept as they are
written, with their escapes.

A text is put together from smaller ones.  `IsItem text value` says that the text is the value
in an array or in an object, where a comma or a bracket follows; the rules at the end make
items of arrays, objects and numbers, and `IsItem.of_denotes` makes one of any text that
denotes something else than a number.
-/

inductive Json where
  | null
  | bool (b : Bool)
  /-- `mantissa * 10 ^ exponent` -/
  | number (mantissa exponent : ℤ)
  | string (s : List Char)
  | array (items : List Json)
  | object (members : List (List Char × Json))

namespace Json

open Parser

/-! ## The parser -/

def isBlank (c : Char) : Bool := c = ' ' || c = '\t' || c = '\n' || c = '\r'

def blanks : Parser (List Char) := span isBlank

/-- One digit or more. -/
def digits : Parser (List Char) := do
  let c ← next
  if c.isDigit then
    let rest ← span Char.isDigit
    return c :: rest
  else
    failure

/-- The digits before the point, of which the first one has been read; none follow a zero. -/
def integer (c : Char) : Parser (List Char) :=
  if c = '0' then return [c]
  else if c.isDigit then do
    let rest ← span Char.isDigit
    return c :: rest
  else failure

def fraction : Parser (List Char) := do
  if ← optional '.' then digits else return []

/-- An exponent behind its letter. -/
def exponentTail : Parser ℤ := do
  if ← optional '-' then
    return -(Nat.ofDigitChars 10 (← digits) 0 : ℤ)
  else
    let _ ← optional '+'
    return (Nat.ofDigitChars 10 (← digits) 0 : ℤ)

def exponent : Parser ℤ := do
  if ← optional 'e' then
    exponentTail
  else if ← optional 'E' then
    exponentTail
  else
    return 0

/-- A number without its sign, of which the first character has been read. -/
def unsigned (sign : ℤ) (c : Char) : Parser Json := do
  let int ← integer c
  let frac ← fraction
  let exp ← exponent
  return .number (sign * (Nat.ofDigitChars 10 (int ++ frac) 0 : ℤ)) (exp - (frac.length : ℤ))

def numeral (c : Char) : Parser Json :=
  if c = '-' then do
    let c ← next
    unsigned (-1) c
  else
    unsigned 1 c

def hexDigit : Parser Char := do
  let c ← next
  if c.isDigit || ('a' ≤ c && c ≤ 'f') || ('A' ≤ c && c ≤ 'F') then return c else failure

/-- What follows a backslash. -/
def escape : Parser (List Char) := do
  let c ← next
  if c = 'u' then
    let a ← hexDigit
    let b ← hexDigit
    let d ← hexDigit
    let e ← hexDigit
    return [c, a, b, d, e]
  else if c ∈ ['"', '\\', '/', 'b', 'f', 'n', 'r', 't'] then
    return [c]
  else
    failure

/-- A string behind its first quote, up to the other one. -/
def stringTail : ℕ → Parser (List Char)
  | 0 => failure
  | fuel + 1 => do
      let c ← next
      if c = '"' then
        return []
      else if c = '\\' then
        let e ← escape
        let rest ← stringTail fuel
        return c :: (e ++ rest)
      else if c < ' ' then
        failure
      else
        let rest ← stringTail fuel
        return c :: rest

/-- A value with blanks around it. -/
def item (element : Parser Json) : Parser Json := do
  let _ ← blanks
  let v ← element
  let _ ← blanks
  return v

def member (element : Parser Json) (fuel : ℕ) : Parser (List Char × Json) := do
  let _ ← blanks
  expect '"'
  let key ← stringTail fuel
  let _ ← blanks
  expect ':'
  let v ← item element
  return (key, v)

/-- One entry or more, up to the closing bracket. -/
def entries {α : Type} (entry : Parser α) (close : Char) : ℕ → Parser (List α)
  | 0 => failure
  | fuel + 1 => do
      let a ← entry
      let c ← next
      if c = close then
        return [a]
      else if c = ',' then
        let rest ← entries entry close fuel
        return a :: rest
      else
        failure

/-- What stands between brackets, of which the first one has been read. -/
def bracketed {α : Type} (entry : Parser α) (close : Char) (fuel : ℕ) : Parser (List α) := do
  let _ ← blanks
  if ← optional close then return [] else entries entry close fuel

/-- A value other than a number, of which the first character has been read. -/
def compound (element : Parser Json) (fuel : ℕ) (c : Char) : Parser Json :=
  if c = '{' then do
    return .object (← bracketed (member element fuel) '}' fuel)
  else if c = '[' then do
    return .array (← bracketed (item element) ']' fuel)
  else if c = '"' then do
    return .string (← stringTail fuel)
  else if c = 't' then do
    word ['r', 'u', 'e']
    return .bool true
  else if c = 'f' then do
    word ['a', 'l', 's', 'e']
    return .bool false
  else if c = 'n' then do
    word ['u', 'l', 'l']
    return .null
  else
    failure

/-- A value; the fuel bounds the depth and the lengths. -/
def value : ℕ → Parser Json
  | 0 => failure
  | fuel + 1 => do
      let c ← next
      if c = '-' || c.isDigit then numeral c else compound (value fuel) fuel c

/-- The text is well formed JSON and has this value. -/
def Denotes (text : List Char) (v : Json) : Prop := ∃ fuel, item (value fuel) text = some (v, [])

/-! ## A text that goes on -/

theorem extends_digits : Extends digits digits := by
  apply closes_next.extends.bind
  intro c
  split
  · exact (extends_span _).bind fun rest => extends_pure _
  · exact (closes_failure _).extends

theorem extends_integer (c : Char) : Extends (integer c) (integer c) := by
  unfold integer
  split_ifs
  · exact extends_pure _
  · exact (extends_span _).bind fun rest => extends_pure _
  · exact (closes_failure _).extends

theorem extends_fraction : Extends fraction fraction := by
  apply (extends_optional _).bind
  intro found
  split
  · exact extends_digits
  · exact extends_pure _

theorem extends_exponentTail : Extends exponentTail exponentTail := by
  apply (extends_optional _).bind
  intro found
  split
  · exact extends_digits.bind fun _ => extends_pure _
  · exact (extends_optional _).bind fun _ => extends_digits.bind fun _ => extends_pure _

theorem extends_exponent : Extends exponent exponent := by
  apply (extends_optional _).bind
  intro found
  split
  · exact extends_exponentTail
  · apply (extends_optional _).bind
    intro found'
    split
    · exact extends_exponentTail
    · exact extends_pure _

theorem extends_unsigned (sign : ℤ) (c : Char) : Extends (unsigned sign c) (unsigned sign c) :=
  (extends_integer c).bind fun _ => extends_fraction.bind fun _ =>
    extends_exponent.bind fun _ => extends_pure _

theorem extends_numeral (c : Char) : Extends (numeral c) (numeral c) := by
  unfold numeral
  split_ifs
  · exact closes_next.extends.bind fun c => extends_unsigned _ c
  · exact extends_unsigned _ c

theorem closes_hexDigit : Closes hexDigit hexDigit := by
  apply closes_next.bind
  intro c
  split
  · exact follows_pure _
  · exact (closes_failure _).toFollows

theorem closes_escape : Closes escape escape := by
  apply closes_next.bind
  intro c
  split
  · have hdigit := closes_hexDigit.toFollows
    exact hdigit.bind fun _ => hdigit.bind fun _ => hdigit.bind fun _ => hdigit.bind fun _ =>
      follows_pure _
  · split
    · exact follows_pure _
    · exact (closes_failure _).toFollows

/-- The second parser may have more fuel. -/
theorem closes_stringTail {fuel fuel' : ℕ} (h : fuel ≤ fuel') :
    Closes (stringTail fuel) (stringTail fuel') := by
  induction fuel generalizing fuel' with
  | zero => exact closes_failure _
  | succ fuel ih =>
      obtain ⟨more, rfl⟩ := Nat.exists_eq_add_of_le' h
      have htail : Closes (stringTail fuel) (stringTail (more + fuel)) := ih (by omega)
      apply closes_next.bind
      intro c
      split_ifs
      · exact follows_pure _
      · exact closes_escape.toFollows.bind fun _ => htail.toFollows.bind fun _ => follows_pure _
      · exact (closes_failure _).toFollows
      · exact htail.toFollows.bind fun _ => follows_pure _

section

variable {element element' : Parser Json}

theorem extends_item (h : Extends element element') : Extends (item element) (item element') :=
  (extends_span _).bind fun _ => h.bind fun _ => (extends_span _).bind fun _ => extends_pure _

theorem extends_member (h : Extends element element') {fuel fuel' : ℕ} (hle : fuel ≤ fuel') :
    Extends (member element fuel) (member element' fuel') := by
  refine (extends_span _).bind fun _ => (closes_expect _).extends.bind fun _ => ?_
  refine (closes_stringTail hle).extends.bind fun key => ?_
  refine (extends_span _).bind fun _ => (closes_expect _).extends.bind fun _ => ?_
  exact (extends_item h).bind fun v => extends_pure _

theorem closes_entries {α : Type} {entry entry' : Parser α} (h : Extends entry entry')
    (close : Char) {fuel fuel' : ℕ} (hle : fuel ≤ fuel') :
    Closes (entries entry close fuel) (entries entry' close fuel') := by
  induction fuel generalizing fuel' with
  | zero => exact closes_failure _
  | succ fuel ih =>
      obtain ⟨more, rfl⟩ := Nat.exists_eq_add_of_le' hle
      have hrest : Closes (entries entry close fuel) (entries entry' close (more + fuel)) :=
        ih (by omega)
      refine h.bind_closes fun v => closes_next.bind fun c => ?_
      split_ifs
      · exact follows_pure _
      · exact hrest.toFollows.bind fun _ => follows_pure _
      · exact (closes_failure _).toFollows

theorem closes_bracketed {α : Type} {entry entry' : Parser α} (h : Extends entry entry')
    (close : Char) {fuel fuel' : ℕ} (hle : fuel ≤ fuel') :
    Closes (bracketed entry close fuel) (bracketed entry' close fuel') :=
  (extends_span _).bind_closes fun _ =>
    closes_optional_bind (follows_pure []) (closes_entries h close hle)

theorem closes_compound (h : Extends element element') {fuel fuel' : ℕ} (hle : fuel ≤ fuel')
    (c : Char) : Closes (compound element fuel c) (compound element' fuel' c) := by
  unfold compound
  split_ifs
  · exact (closes_bracketed (extends_member h hle) _ hle).bind fun _ => follows_pure _
  · exact (closes_bracketed (extends_item h) _ hle).bind fun _ => follows_pure _
  · exact (closes_stringTail hle).bind fun _ => follows_pure _
  · exact (closes_word _ _).bind fun _ => follows_pure _
  · exact (closes_word _ _).bind fun _ => follows_pure _
  · exact (closes_word _ _).bind fun _ => follows_pure _
  · exact closes_failure _

end

theorem extends_value {fuel fuel' : ℕ} (h : fuel ≤ fuel') :
    Extends (value fuel) (value fuel') := by
  induction fuel generalizing fuel' with
  | zero => exact (closes_failure _).extends
  | succ fuel ih =>
      obtain ⟨more, rfl⟩ := Nat.exists_eq_add_of_le' h
      have hle : fuel ≤ more + fuel := by omega
      apply closes_next.extends.bind
      intro c
      split
      · exact extends_numeral c
      · exact (closes_compound (ih hle) hle c).extends

/-- A text has at most one value. -/
theorem Denotes.unique {text : List Char} {v v' : Json} (h : Denotes text v)
    (h' : Denotes text v') : v = v' := by
  obtain ⟨fuel, hread⟩ := h
  obtain ⟨fuel', hread'⟩ := h'
  have hmax := (extends_item (extends_value (le_max_left fuel fuel'))).apply_eq_some hread
  have hmax' := (extends_item (extends_value (le_max_right fuel fuel'))).apply_eq_some hread'
  rw [hmax] at hmax'
  exact (Prod.mk.inj (Option.some.inj hmax')).1

theorem exists_of_numeral {c : Char} {s rest : List Char} {v : Json}
    (h : numeral c s = some (v, rest)) : ∃ mantissa exponent, v = number mantissa exponent := by
  have hunsigned : ∀ {sign c s}, unsigned sign c s = some (v, rest) →
      ∃ mantissa exponent, v = number mantissa exponent := by
    intro sign c s h
    obtain ⟨int, s₁, -, h⟩ := bind_eq_some.mp h
    obtain ⟨frac, s₂, -, h⟩ := bind_eq_some.mp h
    obtain ⟨exp, s₃, -, h⟩ := bind_eq_some.mp h
    exact ⟨_, _, (Prod.mk.inj (Option.some.inj h)).1.symm⟩
  unfold numeral at h
  split at h
  · obtain ⟨c', s', -, h⟩ := bind_eq_some.mp h
    exact hunsigned h
  · exact hunsigned h

/-- What is not a number is read in the same way whatever follows. -/
theorem append_value {fuel fuel' : ℕ} (h : fuel ≤ fuel') {s rest : List Char} {v : Json}
    (hread : value fuel s = some (v, rest)) (hv : ∀ mantissa exponent, v ≠ number mantissa exponent)
    (t : List Char) : value fuel' (s ++ t) = some (v, rest ++ t) := by
  cases fuel with
  | zero => cases hread
  | succ fuel =>
      obtain ⟨more, rfl⟩ := Nat.exists_eq_add_of_le' h
      have hle : fuel ≤ more + fuel := by omega
      obtain ⟨c, s', hnext, hread⟩ := bind_eq_some.mp hread
      refine bind_eq_some.mpr ⟨c, s' ++ t, closes_next.append hnext t, ?_⟩
      split at hread
      next =>
        obtain ⟨mantissa, exponent, rfl⟩ := exists_of_numeral hread
        exact absurd rfl (hv mantissa exponent)
      next hnumeral =>
        rw [if_neg hnumeral]
        exact (closes_compound (extends_value hle) hle c).append hread t

/-! ## Putting texts together -/

/-- What may follow an item of an array or of an object. -/
def itemEnds : List Char := [',', ']', '}']

/-- The text is the value, whatever follows. -/
def IsValue (text : List Char) (v : Json) : Prop := ∃ fuel, Reads (value fuel) text v

/-- The text is the value in an array or in an object. -/
def IsItem (text : List Char) (v : Json) : Prop :=
  ∃ fuel, ReadsBefore itemEnds (item (value fuel)) text v

theorem value_nil (fuel : ℕ) : value fuel [] = none := by
  cases fuel with
  | zero => rfl
  | succ fuel => rfl

theorem value_blank {c : Char} (h : isBlank c = true) (fuel : ℕ) (s : List Char) :
    value fuel (c :: s) = none := by
  cases fuel with
  | zero => rfl
  | succ fuel =>
      simp only [isBlank, Bool.or_eq_true, decide_eq_true_eq] at h
      rcases h with ((rfl | rfl) | rfl) | rfl <;> rfl

theorem item_eq_some {element : Parser Json} {s rest : List Char} {v : Json} :
    item element s = some (v, rest) ↔
      ∃ s', element (s.dropWhile isBlank) = some (v, s') ∧ s'.dropWhile isBlank = rest := by
  unfold item
  rw [bind_eq_some]
  constructor
  · rintro ⟨_, s₁, hblanks, h⟩
    obtain ⟨v', s', helement, h⟩ := bind_eq_some.mp h
    obtain ⟨_, s₂, hblanks', h⟩ := bind_eq_some.mp h
    obtain ⟨rfl, rfl⟩ := Prod.mk.inj (Option.some.inj h)
    obtain ⟨-, rfl⟩ := Prod.mk.inj (Option.some.inj hblanks)
    exact ⟨s', helement, (Prod.mk.inj (Option.some.inj hblanks')).2⟩
  · rintro ⟨s', helement, rfl⟩
    exact ⟨_, _, rfl, bind_eq_some.mpr ⟨v, s', helement, rfl⟩⟩

theorem dropWhile_isBlank_append {s : List Char} (h : s.dropWhile isBlank ≠ []) (t : List Char) :
    (s ++ t).dropWhile isBlank = s.dropWhile isBlank ++ t := by
  rw [List.dropWhile_append, if_neg (by simpa using h)]

theorem any_isBlank_itemEnds : itemEnds.any isBlank = false := by decide

theorem dropWhile_itemEnds {c : Char} (h : c ∈ itemEnds) (t : List Char) :
    (c :: t).dropWhile isBlank = c :: t :=
  List.dropWhile_cons_of_neg (List.any_eq_false.mp any_isBlank_itemEnds c h)

/-- A value other than a number may be written with blanks around it. -/
theorem IsItem.of_denotes {text : List Char} {v : Json} (h : Denotes text v)
    (hv : ∀ mantissa exponent, v ≠ number mantissa exponent) : IsItem text v := by
  obtain ⟨fuel, hread⟩ := h
  obtain ⟨s', hvalue, hblank⟩ := item_eq_some.mp hread
  refine ⟨fuel, fun c hc t => item_eq_some.mpr ⟨s' ++ c :: t, ?_, ?_⟩⟩
  · have hne : text.dropWhile isBlank ≠ [] := by
      intro hnil
      rw [hnil, value_nil] at hvalue
      cases hvalue
    rw [dropWhile_isBlank_append hne]
    exact append_value le_rfl hvalue hv (c :: t)
  · rw [List.dropWhile_append, if_pos (by simp [hblank]), dropWhile_itemEnds hc]

theorem IsValue.dropWhile_isBlank {text : List Char} {v : Json} (h : IsValue text v) :
    text.dropWhile isBlank = text ∧ text ≠ [] := by
  obtain ⟨fuel, hread⟩ := h
  cases text with
  | nil =>
      have hnil := hread []
      rw [List.nil_append, value_nil] at hnil
      cases hnil
  | cons c text =>
      refine ⟨List.dropWhile_cons_of_neg ?_, List.cons_ne_nil c text⟩
      intro hblank
      have hnone := hread []
      rw [List.cons_append, value_blank hblank] at hnone
      cases hnone

theorem IsValue.isItem {text : List Char} {v : Json} (h : IsValue text v) : IsItem text v := by
  obtain ⟨hblank, hne⟩ := h.dropWhile_isBlank
  obtain ⟨fuel, hread⟩ := h
  refine ⟨fuel, fun c hc t => item_eq_some.mpr ⟨c :: t, ?_, dropWhile_itemEnds hc t⟩⟩
  rw [dropWhile_isBlank_append (by rwa [hblank]), hblank]
  exact hread (c :: t)

theorem IsValue.denotes {text : List Char} {v : Json} (h : IsValue text v) : Denotes text v := by
  obtain ⟨hblank, -⟩ := h.dropWhile_isBlank
  obtain ⟨fuel, hread⟩ := h
  have hend := hread []
  rw [List.append_nil] at hend
  refine ⟨fuel, item_eq_some.mpr ⟨[], ?_, rfl⟩⟩
  rw [hblank, hend]

/-! ### Strings -/

/-- The character stands for itself in a string. -/
def isPlain (c : Char) : Bool := c ≠ '"' && c ≠ '\\' && ' ' ≤ c

theorem reads_stringTail {s : List Char} (h : s.all isPlain = true) :
    ∃ fuel, Reads (stringTail fuel) (s ++ ['"']) s := by
  induction s with
  | nil => exact ⟨1, fun _ => rfl⟩
  | cons c s ih =>
      rw [List.all_cons, Bool.and_eq_true] at h
      obtain ⟨hplain, hall⟩ := h
      obtain ⟨fuel, hrest⟩ := ih hall
      refine ⟨fuel + 1, (reads_next c).bind ?_⟩
      simp only [isPlain, ne_eq, decide_not, Bool.and_eq_true, Bool.not_eq_true',
        decide_eq_false_iff_not, decide_eq_true_eq] at hplain
      rw [if_neg hplain.1.1, if_neg hplain.1.2, if_neg (Char.not_lt.mpr hplain.2)]
      exact hrest.bind_nil (reads_pure _)

theorem isValue_string {s : List Char} (h : s.all isPlain = true) :
    IsValue ('"' :: (s ++ ['"'])) (.string s) := by
  obtain ⟨fuel, hread⟩ := reads_stringTail h
  exact ⟨fuel + 1, (reads_next '"').bind (hread.bind_nil (reads_pure _))⟩

/-! ### Numbers -/

theorem readsBefore_integer {ends : List Char} (hends : ends.any Char.isDigit = false) {c : Char}
    {s : List Char} (h : (c :: s).all Char.isDigit = true) (hzero : c = '0' → s = []) :
    ReadsBefore ends (integer c) s (c :: s) := by
  rw [List.all_cons, Bool.and_eq_true] at h
  unfold integer
  split
  next hc =>
    rw [hzero hc]
    exact (reads_pure _).before
  next =>
    rw [if_pos h.1]
    have hspan : ReadsBefore ends (span Char.isDigit) s s := readsBefore_span h.2 hends
    exact hspan.bind_nil (reads_pure _).before

theorem readsBefore_unsigned {sign : ℤ} {c : Char} {s : List Char}
    (h : (c :: s).all Char.isDigit = true) (hzero : c = '0' → s = []) :
    ReadsBefore itemEnds (unsigned sign c) s
      (.number (sign * (Nat.ofDigitChars 10 (c :: s) 0 : ℤ)) 0) := by
  have hfraction : ReadsBefore itemEnds fraction [] [] :=
    (readsBefore_optional (by decide)).bind_nil (reads_pure []).before
  have hexponent : ReadsBefore itemEnds exponent [] 0 :=
    (readsBefore_optional (by decide)).bind_nil
      ((readsBefore_optional (by decide)).bind_nil (reads_pure 0).before)
  refine (readsBefore_integer (by decide) h hzero).bind_nil
    (hfraction.bind_nil (hexponent.bind_nil ?_))
  rw [List.append_nil]
  exact (reads_pure _).before

/-- A number is not written with leading zeros. -/
theorem toDigits_ten_eq_zero_cons {k : ℕ} {s : List Char} (h : Nat.toDigits 10 k = '0' :: s) :
    s = [] := by
  induction k using Nat.strongRecOn generalizing s with
  | ind k ih =>
      by_cases hk : k < 10
      · rw [Nat.toDigits_of_lt_base hk] at h
        exact (List.cons.inj h).2.symm
      · rw [Nat.toDigits_of_base_le (by omega) (by omega)] at h
        rcases hhead : Nat.toDigits 10 (k / 10) with _ | ⟨c, s'⟩
        · exact absurd hhead Nat.toDigits_ne_nil
        · rw [hhead] at h
          obtain rfl : c = '0' := (List.cons.inj h).1
          obtain rfl := ih (k / 10) (by omega) hhead
          have hzero := Nat.ofDigitChars_ten_toDigits (n := k / 10)
          rw [hhead, show Nat.ofDigitChars 10 ['0'] 0 = 0 from rfl] at hzero
          omega

theorem isItem_toDigits (k : ℕ) : IsItem (Nat.toDigits 10 k) (.number k 0) := by
  have hdigit : (Nat.toDigits 10 k).all Char.isDigit = true :=
    List.all_eq_true.mpr fun c hc => Nat.isDigit_of_mem_toDigits (by omega) (by omega) hc
  have hvalue : Nat.ofDigitChars 10 (Nat.toDigits 10 k) 0 = k := Nat.ofDigitChars_ten_toDigits
  rcases hdigits : Nat.toDigits 10 k with _ | ⟨c, s⟩
  · exact absurd hdigits Nat.toDigits_ne_nil
  rw [hdigits] at hdigit hvalue
  have hc : c.isDigit = true := List.all_eq_true.mp hdigit c List.mem_cons_self
  have hzero : c = '0' → s = [] := fun hc => toDigits_ten_eq_zero_cons (hc ▸ hdigits)
  have hunsigned : ReadsBefore itemEnds (unsigned 1 c) s (.number k 0) := by
    have hread := @readsBefore_unsigned 1 c s hdigit hzero
    rwa [hvalue, Int.one_mul] at hread
  have hblank : ¬ isBlank c = true := by
    intro hblank
    simp only [isBlank, Bool.or_eq_true, decide_eq_true_eq] at hblank
    rcases hblank with ((rfl | rfl) | rfl) | rfl <;> simp at hc
  have hminus : c ≠ '-' := by
    rintro rfl
    simp at hc
  refine ⟨1, fun e he t => item_eq_some.mpr ⟨e :: t, ?_, dropWhile_itemEnds he t⟩⟩
  rw [List.cons_append, List.dropWhile_cons_of_neg hblank]
  refine bind_eq_some.mpr ⟨c, s ++ e :: t, rfl, ?_⟩
  rw [if_pos (by simp [hc]), numeral, if_neg hminus]
  exact hunsigned e he t

/-! ### Arrays and objects -/

/-- A separator stands before every text but the first. -/
theorem intercalate_cons {x : Char} (text : List Char) (texts : List (List Char)) :
    [x].intercalate (text :: texts) = text ++ (texts.map fun text => x :: text).flatten := by
  induction texts generalizing text with
  | nil => simp
  | cons text' texts ih =>
      rw [List.intercalate_cons_cons, ih, List.map_cons, List.flatten_cons, List.append_assoc]
      rfl

section

variable {α : Type} {entry : ℕ → Parser α} {close : Char}

/-- Blanks that are skipped anyway. -/
theorem blanks_bind_dropWhile (p : Parser α) (s : List Char) :
    (blanks >>= fun _ => p) (s.dropWhile isBlank) = (blanks >>= fun _ => p) s := by
  rw [bind_apply, bind_apply, blanks, span, Option.bind_some, List.dropWhile_idempotent, span,
    Option.bind_some]

/-- A parser for entries that may stand between brackets, for every fuel. -/
structure BetweenBrackets (entry : ℕ → Parser α) (close : Char) : Prop where
  mono : ∀ {fuel fuel'}, fuel ≤ fuel' → Extends (entry fuel) (entry fuel')
  apply_dropWhile : ∀ fuel s, entry fuel (s.dropWhile isBlank) = entry fuel s
  apply_close : ∀ fuel s, entry fuel (close :: s) = none
  close_mem : close ∈ itemEnds
  ne_close : ',' ≠ close

/-- With enough fuel the text is an entry where a comma or a bracket follows. -/
def IsEntry (entry : ℕ → Parser α) (text : List Char) (a : α) : Prop :=
  ∃ fuel, ReadsBefore itemEnds (entry fuel) text a

variable {texts : List (List Char)} {values : List α}

/-- The entries are read to the closing bracket. -/
theorem BetweenBrackets.reads_entries (h : BetweenBrackets entry close)
    (htexts : List.Forall₂ (IsEntry entry) texts values) (hne : texts ≠ []) :
    ∃ fuel, Reads (entries (entry fuel) close fuel)
      ([','].intercalate texts ++ [close]) values := by
  induction htexts with
  | nil => exact absurd rfl hne
  | @cons text a texts values hentry hrest ih =>
      obtain ⟨fuel, hread⟩ := hentry
      cases hrest with
      | nil =>
          have hentry := (h.mono fuel.le_succ).readsBefore hread
          have hend : Reads (if close = close then pure [a] else if close = ',' then do
              let rest ← entries (entry (fuel + 1)) close fuel
              pure (a :: rest) else failure) [] [a] := by
            rw [if_pos rfl]
            exact reads_pure [a]
          refine ⟨fuel + 1, ?_⟩
          rw [List.intercalate_singleton]
          exact hentry.bind h.close_mem ((reads_next close).bind_nil hend)
      | @cons text' a' texts values hentry' hrest =>
          obtain ⟨fuel', hreads⟩ := ih (List.cons_ne_nil _ _)
          have hle : fuel ≤ max fuel fuel' + 1 := by omega
          have hle' : fuel' ≤ max fuel fuel' + 1 := by omega
          have hentry := (h.mono hle).readsBefore hread
          have hreads' :=
            (closes_entries (h.mono hle') close (le_max_right fuel fuel')).extends.reads hreads
          refine ⟨max fuel fuel' + 1, ?_⟩
          rw [List.intercalate_cons_cons, List.append_assoc, List.append_assoc]
          refine hentry.bind (by decide) ((reads_next ',').bind ?_)
          rw [if_neg h.ne_close, if_pos rfl]
          exact hreads'.bind_nil (reads_pure _)

/-- If there are entries, the brackets are not taken for empty ones. -/
theorem BetweenBrackets.bracketed_of_entries (h : BetweenBrackets entry close) {fuel : ℕ}
    {s rest : List Char} (hentries : entries (entry fuel) close fuel s = some (values, rest)) :
    bracketed (entry fuel) close fuel s = some (values, rest) := by
  have hskip : entries (entry fuel) close fuel (s.dropWhile isBlank) = some (values, rest) := by
    cases fuel with
    | zero => cases hentries
    | succ fuel =>
        rw [entries, bind_apply, h.apply_dropWhile]
        exact hentries
  have hhead : (s.dropWhile isBlank).head? ≠ some close := by
    intro hhead
    obtain ⟨tail, htail⟩ := List.head?_eq_some_iff.mp hhead
    rw [htail] at hskip
    cases fuel with
    | zero => cases hskip
    | succ fuel =>
        rw [entries, bind_apply, h.apply_close] at hskip
        cases hskip
  exact bind_eq_some.mpr ⟨_, _, rfl, bind_eq_some.mpr ⟨_, _, optional_of_head?_ne hhead, hskip⟩⟩

theorem BetweenBrackets.reads_bracketed (h : BetweenBrackets entry close)
    (htexts : List.Forall₂ (IsEntry entry) texts values) :
    ∃ fuel, Reads (bracketed (entry fuel) close fuel)
      ([','].intercalate texts ++ [close]) values := by
  cases htexts with
  | nil =>
      have hblanks : ReadsBefore itemEnds blanks [] [] :=
        readsBefore_span rfl any_isBlank_itemEnds
      have hoptional : Reads (optional close) [close] true := fun t => if_pos rfl
      exact ⟨0, hblanks.bind h.close_mem (hoptional.bind_nil (reads_pure []))⟩
  | cons hentry hrest =>
      obtain ⟨fuel, hread⟩ :=
        h.reads_entries (List.Forall₂.cons hentry hrest) (List.cons_ne_nil _ _)
      exact ⟨fuel, fun t => h.bracketed_of_entries (hread t)⟩

end

theorem isValue_array {texts : List (List Char)} {vs : List Json}
    (h : List.Forall₂ IsItem texts vs) :
    IsValue ('[' :: ([','].intercalate texts ++ [']'])) (.array vs) := by
  have hitem : BetweenBrackets (fun fuel => item (value fuel)) ']' :=
    { mono := fun hle => extends_item (extends_value hle)
      apply_dropWhile := fun fuel s => blanks_bind_dropWhile _ s
      apply_close := by
        intro fuel s
        cases fuel with
        | zero => rfl
        | succ fuel => rfl
      close_mem := by decide
      ne_close := by decide }
  obtain ⟨fuel, hread⟩ := hitem.reads_bracketed h
  exact ⟨fuel + 1, (reads_next '[').bind (hread.bind_nil (reads_pure _))⟩

/-- The text is a member of an object. -/
def IsMember (text : List Char) (m : List Char × Json) : Prop :=
  IsEntry (fun fuel => member (value fuel) fuel) text m

theorem isMember_of_reads {key space text : List Char} {v : Json}
    (hkey : ∃ fuel, Reads (stringTail fuel) (key ++ ['"']) key)
    (hspace : space.all isBlank = true) (h : IsItem text v) :
    IsMember ('"' :: (key ++ '"' :: (space ++ ':' :: text))) (key, v) := by
  obtain ⟨fuel, hstring⟩ := hkey
  obtain ⟨fuel', hread⟩ := h
  let more := max fuel fuel'
  have hstring' : Reads (stringTail more) (key ++ ['"']) key :=
    (closes_stringTail (le_max_left fuel fuel')).extends.reads hstring
  have hitem : ReadsBefore itemEnds (item (value more)) text v :=
    (extends_item (extends_value (le_max_right fuel fuel'))).readsBefore hread
  have hblanks : ReadsBefore ['"'] blanks [] [] := readsBefore_span rfl (by decide)
  have hblanks' : ReadsBefore [':'] blanks space space := readsBefore_span hspace (by decide)
  have hmember : ReadsBefore itemEnds (member (value more) more)
      ([] ++ '"' :: ((key ++ ['"']) ++ (space ++ ':' :: text))) (key, v) := by
    refine hblanks.bind_before (by decide) ((reads_expect '"').bind_before ?_)
    refine hstring'.bind_before (hblanks'.bind_before (by decide) ?_)
    exact (reads_expect ':').bind_before (hitem.bind_nil (reads_pure _).before)
  rw [List.append_assoc] at hmember
  exact ⟨more, hmember⟩

theorem isMember {key space text : List Char} {v : Json} (hkey : key.all isPlain = true)
    (hspace : space.all isBlank = true) (h : IsItem text v) :
    IsMember ('"' :: (key ++ '"' :: (space ++ ':' :: text))) (key, v) :=
  isMember_of_reads (reads_stringTail hkey) hspace h

theorem isValue_object {texts : List (List Char)} {ms : List (List Char × Json)}
    (h : List.Forall₂ IsMember texts ms) :
    IsValue ('{' :: ([','].intercalate texts ++ ['}'])) (.object ms) := by
  have hmember : BetweenBrackets (fun fuel => member (value fuel) fuel) '}' :=
    { mono := fun hle => extends_member (extends_value hle) hle
      apply_dropWhile := fun fuel s => blanks_bind_dropWhile _ s
      apply_close := fun _ _ => rfl
      close_mem := by decide
      ne_close := by decide }
  obtain ⟨fuel, hread⟩ := hmember.reads_bracketed h
  exact ⟨fuel + 1, (reads_next '{').bind (hread.bind_nil (reads_pure _))⟩

/-! ## Access -/

/-- The member with this key, the last one if there are several. -/
def get? (key : List Char) : Json → Option Json
  | .object ms => (ms.reverse.find? fun m => m.1 = key).map Prod.snd
  | _ => none

def getItem? (i : ℕ) : Json → Option Json
  | .array vs => vs[i]?
  | _ => none

/-- If the keys differ, it does not matter from where a member is looked for. -/
theorem get?_object {ms : List (List Char × Json)} (h : (ms.map Prod.fst).Nodup)
    (key : List Char) :
    (Json.object ms).get? key = (ms.find? fun m => m.1 = key).map Prod.snd := by
  have hfind : ms.reverse.find? (fun m => decide (m.1 = key)) =
      ms.find? fun m => decide (m.1 = key) := by
    cases hms : ms.find? fun m => decide (m.1 = key) with
    | none =>
        rw [List.find?_eq_none] at hms ⊢
        exact fun m hm => hms m (List.mem_reverse.mp hm)
    | some m =>
        have hmem := List.mem_of_find?_eq_some hms
        have hkey := List.find?_some hms
        cases hreverse : ms.reverse.find? fun m => decide (m.1 = key) with
        | none => exact absurd hkey (List.find?_eq_none.mp hreverse m (List.mem_reverse.mpr hmem))
        | some m' =>
            have hmem' := List.mem_reverse.mp (List.mem_of_find?_eq_some hreverse)
            have hkey' := List.find?_some hreverse
            have hfst : m'.1 = m.1 :=
              (of_decide_eq_true hkey').trans (of_decide_eq_true hkey).symm
            rw [List.inj_on_of_nodup_map h hmem' hmem hfst]
  rw [get?, hfind]

end Json
