import Mathlib.Data.List.TakeWhile
import Mathlib.Tactic.Common

/-!
# Parsers

A parser takes a value off the front of a text and leaves the rest, or it fails.  The
question in this file is what happens to a parser when the text goes on.

A parser that knows where it stops reads the same whatever follows: it `Closes`.  One that
looks ahead, as for the end of a number, may read on at the end of a text, so that it only
`Extends` the reading where it stopped before the end or where nothing follows.  Both are
relations between two parsers, of which the second one may have more fuel.

`Reads` is the other way round: the parser reads this text, whatever follows, and
`ReadsBefore` if one of some characters follows, which end what looks ahead.
-/

/-- What is read, and the rest of the text. -/
abbrev Parser (α : Type) : Type := StateT (List Char) Option α

namespace Parser

variable {α β : Type} {p q p' : Parser α} {f f' : α → Parser β}

theorem bind_apply (p : Parser α) (f : α → Parser β) (s : List Char) :
    (p >>= f) s = (p s).bind fun result => f result.1 result.2 := rfl

theorem bind_eq_some {s rest : List Char} {b : β} :
    (p >>= f) s = some (b, rest) ↔ ∃ a s', p s = some (a, s') ∧ f a s' = some (b, rest) := by
  rw [bind_apply, Option.bind_eq_some_iff]
  constructor
  · rintro ⟨⟨a, s'⟩, hp, hf⟩
    exact ⟨a, s', hp, hf⟩
  · rintro ⟨a, s', hp, hf⟩
    exact ⟨(a, s'), hp, hf⟩

@[simp] theorem pure_apply (a : α) (s : List Char) : (pure a : Parser α) s = some (a, s) := rfl

@[simp] theorem failure_apply (s : List Char) : (failure : Parser α) s = none := rfl

/-! ## Characters -/

def next : Parser Char
  | [] => none
  | c :: s => some (c, s)

/-- Reads the character, or fails. -/
def expect (c : Char) : Parser Unit := do
  if (← next) = c then return () else failure

/-- Reads these characters. -/
def word : List Char → Parser Unit
  | [] => return ()
  | c :: s => do
      expect c
      word s

/-- Reads the character if it comes next. -/
def optional (c : Char) : Parser Bool
  | [] => some (false, [])
  | c' :: s => if c' = c then some (true, s) else some (false, c' :: s)

/-- Reads the characters that satisfy a condition. -/
def span (cond : Char → Bool) : Parser (List Char) := fun s =>
  some (s.takeWhile cond, s.dropWhile cond)

/-! ## A text that goes on -/

/-- `q` reads what `p` reads, whatever follows. -/
structure Follows (p q : Parser α) : Prop where
  append : ∀ {s a rest}, p s = some (a, rest) → ∀ t, q (s ++ t) = some (a, rest ++ t)

/-- `q` reads what `p` reads, whatever follows, and `p` reads one character at least. -/
structure Closes (p q : Parser α) : Prop extends Follows p q where
  apply_nil : p [] = none

/-- `q` reads what `p` reads, unless `p` reads up to the end and the text goes on. -/
structure Extends (p q : Parser α) : Prop where
  append : ∀ {s a rest}, p s = some (a, rest) → ∀ t, (rest = [] → t = []) →
    q (s ++ t) = some (a, rest ++ t)
  apply_nil : ∀ {a rest}, p [] = some (a, rest) → rest = []

theorem Extends.apply_eq_some (h : Extends p q) {s rest : List Char} {a : α}
    (hp : p s = some (a, rest)) : q s = some (a, rest) := by
  have happend := h.append hp [] (fun _ => rfl)
  rwa [List.append_nil, List.append_nil] at happend

theorem Closes.extends (h : Closes p q) : Extends p q where
  append hp t _ := h.append hp t
  apply_nil hp := by
    rw [h.apply_nil] at hp
    cases hp

theorem follows_pure (a : α) : Follows (pure a) (pure a) where
  append := by
    intro s b rest hp t
    obtain ⟨rfl, rfl⟩ := Prod.mk.inj (Option.some.inj hp)
    rfl

theorem extends_pure (a : α) : Extends (pure a) (pure a) where
  append hp t _ := (follows_pure a).append hp t
  apply_nil hp := (Prod.mk.inj (Option.some.inj hp)).2.symm

theorem closes_failure (q : Parser α) : Closes failure q where
  append hp := by cases hp
  apply_nil := rfl

theorem Follows.bind (hp : Follows p p') (hf : ∀ a, Follows (f a) (f' a)) :
    Follows (p >>= f) (p' >>= f') where
  append := by
    intro s b rest h t
    obtain ⟨a, s', hread, hrest⟩ := bind_eq_some.mp h
    exact bind_eq_some.mpr ⟨a, s' ++ t, hp.append hread t, (hf a).append hrest t⟩

theorem Closes.bind (hp : Closes p p') (hf : ∀ a, Follows (f a) (f' a)) :
    Closes (p >>= f) (p' >>= f') where
  toFollows := hp.toFollows.bind hf
  apply_nil := by rw [bind_apply, hp.apply_nil, Option.bind_none]

theorem Extends.bind (hp : Extends p p') (hf : ∀ a, Extends (f a) (f' a)) :
    Extends (p >>= f) (p' >>= f') where
  append := by
    intro s b rest h t hend
    obtain ⟨a, s', hread, hrest⟩ := bind_eq_some.mp h
    refine bind_eq_some.mpr ⟨a, s' ++ t, hp.append hread t ?_, (hf a).append hrest t hend⟩
    rintro rfl
    exact hend ((hf a).apply_nil hrest)
  apply_nil := by
    intro b rest h
    obtain ⟨a, s', hread, hrest⟩ := bind_eq_some.mp h
    obtain rfl := hp.apply_nil hread
    exact (hf a).apply_nil hrest

/-- What looks ahead is closed by what comes next. -/
theorem Extends.bind_closes (hp : Extends p p') (hf : ∀ a, Closes (f a) (f' a)) :
    Closes (p >>= f) (p' >>= f') where
  append := by
    intro s b rest h t
    obtain ⟨a, s', hread, hrest⟩ := bind_eq_some.mp h
    refine bind_eq_some.mpr ⟨a, s' ++ t, hp.append hread t ?_, (hf a).append hrest t⟩
    rintro rfl
    rw [(hf a).apply_nil] at hrest
    cases hrest
  apply_nil := by
    cases hnil : p [] with
    | none => rw [bind_apply, hnil, Option.bind_none]
    | some result =>
        obtain ⟨a, s'⟩ := result
        obtain rfl := hp.apply_nil hnil
        rw [bind_apply, hnil, Option.bind_some]
        exact (hf a).apply_nil

theorem closes_next : Closes next next where
  append := by
    intro s c rest h t
    cases s with
    | nil => cases h
    | cons c' s =>
        obtain ⟨rfl, rfl⟩ := Prod.mk.inj (Option.some.inj h)
        rfl
  apply_nil := rfl

theorem closes_expect (c : Char) : Closes (expect c) (expect c) := by
  apply closes_next.bind
  intro c'
  split
  · exact follows_pure ()
  · exact (closes_failure failure).toFollows

theorem follows_word (s : List Char) : Follows (word s) (word s) := by
  induction s with
  | nil => exact follows_pure ()
  | cons c s ih => exact (closes_expect c).toFollows.bind fun _ => ih

theorem closes_word (c : Char) (s : List Char) : Closes (word (c :: s)) (word (c :: s)) :=
  (closes_expect c).bind fun _ => follows_word s

theorem optional_cons (c c' : Char) (s : List Char) :
    optional c (c' :: s) = if c' = c then some (true, s) else some (false, c' :: s) := rfl

theorem optional_of_head?_ne {c : Char} {s : List Char} (h : s.head? ≠ some c) :
    optional c s = some (false, s) := by
  cases s with
  | nil => rfl
  | cons c' s =>
      rw [optional_cons, if_neg]
      rintro rfl
      exact h rfl

theorem extends_optional (c : Char) : Extends (optional c) (optional c) where
  append := by
    intro s b rest h t hend
    cases s with
    | nil =>
        obtain ⟨rfl, rfl⟩ := Prod.mk.inj (Option.some.inj h)
        rw [hend rfl]
        rfl
    | cons c' s =>
        rw [optional_cons] at h
        rw [List.cons_append, optional_cons]
        split_ifs at h ⊢ <;> obtain ⟨rfl, rfl⟩ := Prod.mk.inj (Option.some.inj h) <;> rfl
  apply_nil h := (Prod.mk.inj (Option.some.inj h)).2.symm

/-- What looks ahead for a character is closed by it. -/
theorem closes_optional_bind {c : Char} {f f' : Bool → Parser β}
    (htrue : Follows (f true) (f' true)) (hfalse : Closes (f false) (f' false)) :
    Closes (optional c >>= f) (optional c >>= f') where
  append := by
    intro s b rest h t
    obtain ⟨found, s', hread, hrest⟩ := bind_eq_some.mp h
    cases s with
    | nil =>
        obtain ⟨rfl, rfl⟩ := Prod.mk.inj (Option.some.inj hread)
        rw [hfalse.apply_nil] at hrest
        cases hrest
    | cons c' s =>
        rw [optional_cons] at hread
        rw [bind_apply, List.cons_append, optional_cons]
        split_ifs at hread ⊢ <;> obtain ⟨rfl, rfl⟩ := Prod.mk.inj (Option.some.inj hread)
        · exact htrue.append hrest t
        · exact hfalse.append hrest t
  apply_nil := hfalse.apply_nil

theorem extends_span (cond : Char → Bool) : Extends (span cond) (span cond) where
  append := by
    intro s cs rest h t hend
    obtain ⟨rfl, rfl⟩ := Prod.mk.inj (Option.some.inj h)
    by_cases hall : s.dropWhile cond = []
    · rw [hend hall, List.append_nil, List.append_nil]
      rfl
    · have hdrop : (s ++ t).dropWhile cond = s.dropWhile cond ++ t := by
        rw [List.dropWhile_append, if_neg (by simpa using hall)]
      have htake : (s ++ t).takeWhile cond = s.takeWhile cond := by
        have hsplit := List.takeWhile_append_dropWhile (p := cond) (l := s ++ t)
        rw [hdrop] at hsplit
        apply List.append_cancel_right
        rw [hsplit, ← List.append_assoc, List.takeWhile_append_dropWhile]
      rw [span, htake, hdrop]
  apply_nil h := (Prod.mk.inj (Option.some.inj h)).2.symm

/-! ## Reading a text -/

/-- The parser reads the text, whatever follows. -/
def Reads (p : Parser α) (text : List Char) (a : α) : Prop := ∀ t, p (text ++ t) = some (a, t)

theorem reads_pure (a : α) : Reads (pure a) [] a := fun _ => rfl

theorem Reads.bind {text text' : List Char} {a : α} {b : β} (hp : Reads p text a)
    (hf : Reads (f a) text' b) : Reads (p >>= f) (text ++ text') b := by
  intro t
  rw [List.append_assoc]
  exact bind_eq_some.mpr ⟨a, text' ++ t, hp _, hf t⟩

theorem Reads.bind_nil {text : List Char} {a : α} {b : β} (hp : Reads p text a)
    (hf : Reads (f a) [] b) : Reads (p >>= f) text b :=
  fun t => bind_eq_some.mpr ⟨a, t, hp t, hf t⟩

theorem reads_next (c : Char) : Reads next [c] c := fun _ => rfl

theorem reads_expect (c : Char) : Reads (expect c) [c] () := by
  intro t
  rw [expect, bind_apply, List.singleton_append]
  exact congrFun (if_pos rfl) t

theorem Extends.reads (h : Extends p q) {text : List Char} {a : α} (hp : Reads p text a) :
    Reads q text a := fun t => h.apply_eq_some (hp t)

/-- The parser reads the text if one of the characters comes next. -/
def ReadsBefore (ends : List Char) (p : Parser α) (text : List Char) (a : α) : Prop :=
  ∀ c ∈ ends, ∀ t, p (text ++ c :: t) = some (a, c :: t)

variable {ends text text' : List Char} {a : α} {b : β}

theorem Reads.before (h : Reads p text a) : ReadsBefore ends p text a := fun _ _ _ => h _

theorem Extends.readsBefore (h : Extends p q) (hp : ReadsBefore ends p text a) :
    ReadsBefore ends q text a := fun c hc t => h.apply_eq_some (hp c hc t)

theorem Reads.bind_before (hp : Reads p text a) (hf : ReadsBefore ends (f a) text' b) :
    ReadsBefore ends (p >>= f) (text ++ text') b := by
  intro c hc t
  rw [List.append_assoc]
  exact bind_eq_some.mpr ⟨a, text' ++ c :: t, hp _, hf c hc t⟩

theorem ReadsBefore.bind_nil (hp : ReadsBefore ends p text a) (hf : ReadsBefore ends (f a) [] b) :
    ReadsBefore ends (p >>= f) text b :=
  fun c hc t => bind_eq_some.mpr ⟨a, c :: t, hp c hc t, hf c hc t⟩

theorem ReadsBefore.bind {c : Char} (hp : ReadsBefore ends p text a) (hc : c ∈ ends)
    (hf : Reads (f a) (c :: text') b) : Reads (p >>= f) (text ++ c :: text') b := by
  intro t
  rw [List.append_assoc, List.cons_append]
  exact bind_eq_some.mpr ⟨a, c :: (text' ++ t), hp c hc _, hf t⟩

theorem ReadsBefore.bind_before {ends' : List Char} {c : Char} (hp : ReadsBefore ends p text a)
    (hc : c ∈ ends) (hf : ReadsBefore ends' (f a) (c :: text') b) :
    ReadsBefore ends' (p >>= f) (text ++ c :: text') b := by
  intro c' hc' t
  rw [List.append_assoc, List.cons_append]
  exact bind_eq_some.mpr ⟨a, c :: (text' ++ c' :: t), hp c hc _, hf c' hc' t⟩

theorem readsBefore_optional {c : Char} (hc : c ∉ ends) :
    ReadsBefore ends (optional c) [] false := by
  intro c' hc' t
  rw [List.nil_append, optional_cons, if_neg]
  rintro rfl
  exact hc hc'

theorem readsBefore_span {cond : Char → Bool} (htext : text.all cond = true)
    (hends : ends.any cond = false) : ReadsBefore ends (span cond) text text := by
  intro c hc t
  have hstop : ¬ cond c = true := List.any_eq_false.mp hends c hc
  have hall : ∀ c ∈ text, cond c = true := List.all_eq_true.mp htext
  rw [span, List.takeWhile_append_of_pos hall, List.dropWhile_append_of_pos hall,
    List.takeWhile_cons_of_neg hstop, List.dropWhile_cons_of_neg hstop, List.append_nil]

end Parser
