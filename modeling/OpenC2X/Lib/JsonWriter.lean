import OpenC2X.Lib.Decimal
import OpenC2X.Lib.Json

/-!
# Writing JSON

The rules for what a writer puts down for a value that is neither an array nor an object:
`null`, `true` and `false`, integers with their sign, and strings whose characters stand for
themselves or are escaped.  Arrays and objects are put together from them with
`isValue_array` and `isValue_object`.
-/

namespace Json

open Parser

/-! ## Words -/

theorem reads_word (s : List Char) : Reads (word s) s () := by
  induction s with
  | nil => exact reads_pure ()
  | cons c s ih =>
      unfold word
      exact (reads_expect c).bind ih

theorem isValue_null : IsValue ['n', 'u', 'l', 'l'] .null :=
  ⟨1, (reads_next 'n').bind ((reads_word ['u', 'l', 'l']).bind_nil (reads_pure null))⟩

theorem isValue_true : IsValue ['t', 'r', 'u', 'e'] (.bool true) :=
  ⟨1, (reads_next 't').bind ((reads_word ['r', 'u', 'e']).bind_nil (reads_pure (bool true)))⟩

theorem isValue_false : IsValue ['f', 'a', 'l', 's', 'e'] (.bool false) :=
  ⟨1, (reads_next 'f').bind
    ((reads_word ['a', 'l', 's', 'e']).bind_nil (reads_pure (bool false)))⟩

/-! ## Numbers -/

/-- What is written before a number that is negative does not change how the rest is read. -/
theorem isItem_withSign {c : Char} {s : List Char} {v : ℤ → Json} (hc : c.isDigit = true)
    (h : ∀ sign, ReadsBefore itemEnds (unsigned sign c) s (v sign)) (negative : Bool) :
    IsItem (Decimal.withSign negative (c :: s)) (v (if negative then -1 else 1)) := by
  have hblank : ¬ isBlank c = true := by
    intro hblank
    simp only [isBlank, Bool.or_eq_true, decide_eq_true_eq] at hblank
    rcases hblank with ((rfl | rfl) | rfl) | rfl <;> simp at hc
  have hminus : c ≠ '-' := by
    rintro rfl
    simp at hc
  cases negative with
  | true =>
      refine ⟨1, fun e he t => item_eq_some.mpr ⟨e :: t, ?_, dropWhile_itemEnds he t⟩⟩
      change value 1 (('-' :: (c :: s ++ e :: t)).dropWhile isBlank) = _
      rw [List.dropWhile_cons_of_neg (by decide)]
      exact bind_eq_some.mpr ⟨'-', c :: (s ++ e :: t), rfl,
        bind_eq_some.mpr ⟨c, s ++ e :: t, rfl, h (-1) e he t⟩⟩
  | false =>
      refine ⟨1, fun e he t => item_eq_some.mpr ⟨e :: t, ?_, dropWhile_itemEnds he t⟩⟩
      change value 1 ((c :: s ++ e :: t).dropWhile isBlank) = _
      rw [List.cons_append, List.dropWhile_cons_of_neg hblank]
      refine bind_eq_some.mpr ⟨c, s ++ e :: t, rfl, ?_⟩
      rw [if_pos (by simp [hc]), numeral, if_neg hminus]
      exact h 1 e he t

theorem exists_toDigits (k : ℕ) : ∃ c s, Nat.toDigits 10 k = c :: s ∧
    (c :: s).all Char.isDigit = true ∧ (c = '0' → s = []) := by
  have hdigit : (Nat.toDigits 10 k).all Char.isDigit = true :=
    List.all_eq_true.mpr fun c hc => Decimal.isDigit_of_mem_toDigits hc
  rcases hdigits : Nat.toDigits 10 k with _ | ⟨c, s⟩
  · exact absurd hdigits Nat.toDigits_ne_nil
  · rw [hdigits] at hdigit
    exact ⟨c, s, rfl, hdigit, fun hc => toDigits_ten_eq_zero_cons (hc ▸ hdigits)⟩

theorem isDigit_of_all {c : Char} {s : List Char} (h : (c :: s).all Char.isDigit = true) :
    c.isDigit = true := List.all_eq_true.mp h c List.mem_cons_self

theorem isItem_ofInt (n : ℤ) : IsItem (Decimal.ofInt n) (.number n 0) := by
  obtain ⟨c, s, hdigits, hall, hzero⟩ := exists_toDigits n.natAbs
  have hitem := isItem_withSign (isDigit_of_all hall)
    (fun sign => @readsBefore_unsigned sign c s hall hzero) (n < 0)
  have hvalue : (Nat.ofDigitChars 10 (c :: s) 0 : ℤ) = n.natAbs := by
    rw [← hdigits, Nat.ofDigitChars_ten_toDigits]
  have hsign : (if decide (n < 0) then -1 else 1) * (n.natAbs : ℤ) = n := by
    by_cases hn : n < 0
    · simp only [hn, decide_true, if_true]
      omega
    · simp only [hn, decide_false, Bool.false_eq_true, if_false]
      omega
  rw [hvalue, hsign, ← hdigits] at hitem
  exact hitem

theorem readsBefore_fraction {c : Char} {s : List Char} (h : (c :: s).all Char.isDigit = true) :
    ReadsBefore itemEnds fraction ('.' :: c :: s) (c :: s) := by
  have hspan : ReadsBefore itemEnds (span Char.isDigit) s s :=
    readsBefore_span (Bool.and_eq_true_iff.mp h).2 (by decide)
  have hdigits : ReadsBefore itemEnds digits (c :: s) (c :: s) := by
    refine (reads_next c).bind_before ?_
    rw [if_pos (isDigit_of_all h)]
    exact hspan.bind_nil (reads_pure _).before
  have hpoint : Reads (optional '.') ['.'] true := fun t => by
    rw [List.singleton_append, optional_cons, if_pos rfl]
  exact hpoint.bind_before hdigits

/-- A number with digits behind the point. -/
theorem isItem_decimal (negative : Bool) (whole : ℕ) {frac : List Char} (hne : frac ≠ [])
    (hfrac : frac.all Char.isDigit = true) :
    IsItem (Decimal.withSign negative (Nat.toDigits 10 whole ++ '.' :: frac))
      (.number ((if negative then -1 else 1) *
        (Nat.ofDigitChars 10 (Nat.toDigits 10 whole ++ frac) 0 : ℤ)) (-(frac.length : ℤ))) := by
  obtain ⟨c, s, hdigits, hall, hzero⟩ := exists_toDigits whole
  obtain ⟨d, t, rfl⟩ := List.exists_cons_of_ne_nil hne
  have hinteger : ReadsBefore ['.'] (integer c) s (c :: s) :=
    readsBefore_integer (by decide) hall hzero
  have hexponent : ReadsBefore itemEnds exponent [] 0 :=
    (readsBefore_optional (by decide)).bind_nil
      ((readsBefore_optional (by decide)).bind_nil (reads_pure 0).before)
  have hread (sign : ℤ) : ReadsBefore itemEnds (unsigned sign c) (s ++ '.' :: d :: t)
      (.number (sign * (Nat.ofDigitChars 10 (c :: s ++ d :: t) 0 : ℤ))
        (-((d :: t).length : ℤ))) := by
    refine hinteger.bind_before (List.mem_singleton_self _) ?_
    refine (readsBefore_fraction hfrac).bind_nil (hexponent.bind_nil ?_)
    rw [Int.zero_sub]
    exact (reads_pure _).before
  rw [hdigits]
  exact isItem_withSign (isDigit_of_all hall) hread negative

/-! ## Strings -/

theorem isPlain_of_isDigit {c : Char} (h : c.isDigit = true) : isPlain c = true := by
  have hspace : ' ' ≤ c := by
    simp only [Char.isDigit, Bool.and_eq_true, decide_eq_true_eq] at h
    have hzero : ' ' ≤ '0' := by decide
    have hdigit : '0' ≤ c := h.1
    exact Char.le_trans hzero hdigit
  have hquote : c ≠ '"' := by
    rintro rfl
    simp at h
  have hbackslash : c ≠ '\\' := by
    rintro rfl
    simp at h
  simp [isPlain, hquote, hbackslash, hspace]

def isHexDigit (c : Char) : Bool :=
  c.isDigit || ('a' ≤ c && c ≤ 'f') || ('A' ≤ c && c ≤ 'F')

theorem reads_hexDigit {c : Char} (h : isHexDigit c = true) : Reads hexDigit [c] c := by
  refine (reads_next c).bind_nil ?_
  rw [if_pos (by exact h)]
  exact reads_pure c

/-- A character of a string, as it may be written. -/
inductive IsStringChar : List Char → Prop
  | plain {c : Char} : isPlain c = true → IsStringChar [c]
  | short {c : Char} : c ∈ ['"', '\\', '/', 'b', 'f', 'n', 'r', 't'] → IsStringChar ['\\', c]
  | hex {a b d e : Char} : isHexDigit a = true → isHexDigit b = true → isHexDigit d = true →
      isHexDigit e = true → IsStringChar ['\\', 'u', a, b, d, e]

theorem reads_escape_short {c : Char} (h : c ∈ ['"', '\\', '/', 'b', 'f', 'n', 'r', 't']) :
    Reads escape [c] [c] := by
  have hu : c ≠ 'u' := by
    rintro rfl
    simp at h
  refine (reads_next c).bind_nil ?_
  rw [if_neg hu, if_pos h]
  exact reads_pure [c]

theorem reads_escape_hex {a b d e : Char} (ha : isHexDigit a = true) (hb : isHexDigit b = true)
    (hd : isHexDigit d = true) (he : isHexDigit e = true) :
    Reads escape ['u', a, b, d, e] ['u', a, b, d, e] :=
  (reads_next 'u').bind <| (reads_hexDigit ha).bind <| (reads_hexDigit hb).bind <|
    (reads_hexDigit hd).bind <| (reads_hexDigit he).bind_nil <| reads_pure _

/-- An escape takes one unit of fuel, and the rest of the string is read as before. -/
theorem reads_stringTail_escape {e text s : List Char} {fuel : ℕ} (he : Reads escape e e)
    (h : Reads (stringTail fuel) text s) :
    Reads (stringTail (fuel + 1)) ('\\' :: (e ++ text)) ('\\' :: (e ++ s)) :=
  (reads_next '\\').bind (he.bind (h.bind_nil (reads_pure _)))

theorem reads_stringTail_plain {c : Char} {text s : List Char} {fuel : ℕ}
    (hc : isPlain c = true) (h : Reads (stringTail fuel) text s) :
    Reads (stringTail (fuel + 1)) (c :: text) (c :: s) := by
  simp only [isPlain, ne_eq, decide_not, Bool.and_eq_true, Bool.not_eq_true',
    decide_eq_false_iff_not, decide_eq_true_eq] at hc
  refine (reads_next c).bind ?_
  rw [if_neg hc.1.1, if_neg hc.1.2, if_neg (Char.not_lt.mpr hc.2)]
  exact h.bind_nil (reads_pure _)

theorem reads_stringTail_flatten {chars : List (List Char)}
    (h : ∀ text ∈ chars, IsStringChar text) :
    ∃ fuel, Reads (stringTail fuel) (chars.flatten ++ ['"']) chars.flatten := by
  induction chars with
  | nil => exact ⟨1, fun _ => rfl⟩
  | cons text chars ih =>
      obtain ⟨fuel, hrest⟩ := ih fun text' htext' => h text' (List.mem_cons_of_mem _ htext')
      rw [List.flatten_cons, List.append_assoc]
      refine ⟨fuel + 1, ?_⟩
      cases h text List.mem_cons_self with
      | plain hc => exact reads_stringTail_plain hc hrest
      | short hc => exact reads_stringTail_escape (reads_escape_short hc) hrest
      | hex ha hb hd he => exact reads_stringTail_escape (reads_escape_hex ha hb hd he) hrest

/-- A string is written character by character. -/
theorem isValue_string_flatten {chars : List (List Char)}
    (h : ∀ text ∈ chars, IsStringChar text) :
    IsValue ('"' :: (chars.flatten ++ ['"'])) (.string chars.flatten) := by
  obtain ⟨fuel, hread⟩ := reads_stringTail_flatten h
  exact ⟨fuel + 1, (reads_next '"').bind (hread.bind_nil (reads_pure _))⟩

theorem isMember_flatten {chars : List (List Char)} {text : List Char} {v : Json}
    (hkey : ∀ text ∈ chars, IsStringChar text) (h : IsItem text v) :
    IsMember ('"' :: (chars.flatten ++ '"' :: ':' :: text)) (chars.flatten, v) :=
  @isMember_of_reads _ [] _ _ (reads_stringTail_flatten hkey) rfl h

end Json
