import Mathlib.Data.List.Induction
import Mathlib.Data.List.TakeWhile
import Mathlib.Tactic.Common

/-!
# Texts and their lines

`readline` takes a line off the front of a text, with the newline that ends it if there is
one; at the end of the text it is empty.  `lines` are the lines without their newlines, as
repeated reading gives them.
-/

/-- The first line and the rest of the text. -/
def readline : List Char → List Char × List Char
  | [] => ([], [])
  | c :: text =>
      if c = '\n' then ([c], text)
      else (c :: (readline text).1, (readline text).2)

/-- The lines; what stands behind the last newline is a line unless it is empty. -/
def lines : List Char → List (List Char)
  | [] => []
  | c :: text =>
      if c = '\n' then [] :: lines text
      else
        match lines text with
        | [] => [[c]]
        | line :: rest => (c :: line) :: rest

@[simp] theorem readline_nil : readline [] = ([], []) := rfl

theorem readline_append_newline {line : List Char} (h : '\n' ∉ line) (text : List Char) :
    readline (line ++ '\n' :: text) = (line ++ ['\n'], text) := by
  induction line with
  | nil => rfl
  | cons c line ih =>
      obtain ⟨hc, hline⟩ := not_or.mp (mt List.mem_cons.mpr h)
      rw [List.cons_append, readline, if_neg (Ne.symm hc), ih hline, List.cons_append]

theorem readline_append (text : List Char) : (readline text).1 ++ (readline text).2 = text := by
  induction text with
  | nil => rfl
  | cons c text ih =>
      rw [readline]
      split
      · rfl
      · rw [List.cons_append, ih]

theorem lines_append_newline {line : List Char} (h : '\n' ∉ line) (text : List Char) :
    lines (line ++ '\n' :: text) = line :: lines text := by
  induction line with
  | nil => rfl
  | cons c line ih =>
      obtain ⟨hc, hline⟩ := not_or.mp (mt List.mem_cons.mpr h)
      rw [List.cons_append, lines, if_neg (Ne.symm hc), ih hline]

/-- The lines of a file to which line after line has been written. -/
theorem lines_flatMap {α : Type} {line : α → List Char} {l : List α}
    (h : ∀ a ∈ l, '\n' ∉ line a) : lines (l.flatMap fun a => line a ++ ['\n']) = l.map line := by
  induction l with
  | nil => rfl
  | cons a l ih =>
      rw [List.flatMap_cons, List.append_assoc, List.singleton_append,
        lines_append_newline (h a List.mem_cons_self),
        ih fun b hb => h b (List.mem_cons_of_mem a hb), List.map_cons]

/-! ## Parts of a text -/

/-- A part without a certain letter is on one side of it. -/
theorem infix_of_infix_append_cons {α : Type*} {part front rest : List α} {c : α} (hc : c ∉ part)
    (h : part <:+: front ++ c :: rest) : part <:+: front ∨ part <:+: rest := by
  have hnil : ∀ u, c ∉ u → u <+: c :: rest → u = [] := by
    intro u hu hprefix
    rcases List.prefix_cons_iff.mp hprefix with rfl | ⟨v, rfl, -⟩
    · rfl
    · exact absurd List.mem_cons_self hu
  rcases List.infix_append_iff.mp h with hfront | hrest | ⟨u, v, rfl, hu, hv⟩
  · exact .inl hfront
  · rcases List.infix_cons_iff.mp hrest with hprefix | hrest
    · rw [hnil part hc hprefix]
      exact .inl List.nil_infix
    · exact .inr hrest
  · rw [hnil v (fun hin => hc (List.mem_append_right u hin)) hv, List.append_nil]
    exact .inl hu.isInfix
