import Mathlib.Data.List.Basic
import Mathlib.Tactic.Common

/-!
# Tables with an integer primary key

A table is the list of its rows in the order of their keys.  An inserted row gets the
key after the largest one.  `leftJoin` and `unmatched` are the parts of a query

  `SELECT l.* FROM l LEFT JOIN r ON … WHERE r.… IS NULL`,

which selects the rows of `l` that match no row of `r`.  With a table joined to itself
and a condition that matches a row with the later ones of its group, these are the last
rows of the groups.
-/

structure Table.Row (α : Type*) where
  key : ℕ
  value : α

/-- The rows of a table, in the order of their keys. -/
structure Table (α : Type*) where
  rows : List (Table.Row α)
  increasing : rows.Pairwise (fun row row' => row.key < row'.key)

namespace Table

variable {α β γ : Type*}

/-! ## Insertion -/

def empty : Table α where
  rows := []
  increasing := List.Pairwise.nil

/-- The key of the next row: one more than the largest key, which is the last one. -/
def nextKey (t : Table α) : ℕ :=
  match t.rows.getLast? with
  | none => 1
  | some row => row.key + 1

/-- In a list of rows with increasing keys the last one has the largest. -/
theorem key_le_of_getLast? {rows : List (Row α)} {row last : Row α}
    (hincreasing : rows.Pairwise fun row row' => row.key < row'.key)
    (hlast : rows.getLast? = some last) (hrow : row ∈ rows) : row.key ≤ last.key := by
  obtain ⟨rest, rfl⟩ := List.getLast?_eq_some_iff.mp hlast
  rcases List.mem_append.mp hrow with hmem | hmem
  · exact Nat.le_of_lt ((List.pairwise_append.mp hincreasing).2.2 row hmem last (by simp))
  · exact Nat.le_of_eq (congrArg Row.key (List.mem_singleton.mp hmem))

theorem key_lt_nextKey (t : Table α) {row : Row α} (hrow : row ∈ t.rows) :
    row.key < t.nextKey := by
  unfold nextKey
  cases hlast : t.rows.getLast? with
  | none =>
      rw [List.getLast?_eq_none_iff.mp hlast] at hrow
      cases hrow
  | some last => exact Nat.lt_succ_of_le (key_le_of_getLast? t.increasing hlast hrow)

/-- `INSERT INTO … VALUES …` -/
def insert (t : Table α) (value : α) : Table α where
  rows := t.rows ++ [⟨t.nextKey, value⟩]
  increasing := by
    refine List.pairwise_append.mpr ⟨t.increasing, List.pairwise_singleton _ _, ?_⟩
    intro row hrow row' hrow'
    rw [List.mem_singleton.mp hrow']
    exact t.key_lt_nextKey hrow

@[simp] theorem rows_empty : (empty : Table α).rows = [] := rfl

@[simp] theorem rows_insert (t : Table α) (value : α) :
    (t.insert value).rows = t.rows ++ [⟨t.nextKey, value⟩] := rfl

/-! ## Joins -/

/-- What a left row contributes: a row for every match, and if there is none a row with
NULL in place of the right side. -/
def joinRow (on : α → β → Bool) (right : List β) (a : α) : List (α × Option β) :=
  if right.any (on a) then (right.filter (on a)).map fun b => (a, some b) else [(a, none)]

/-- `… FROM left LEFT JOIN right ON on` -/
def leftJoin (on : α → β → Bool) (left : List α) (right : List β) : List (α × Option β) :=
  left.flatMap (joinRow on right)

/-- `SELECT left.* … WHERE right.… IS NULL`, for a column of the right table that is never
NULL in a row of it. -/
def unmatched (joined : List (α × Option β)) : List α :=
  (joined.filter fun row => row.2.isNone).map Prod.fst

theorem unmatched_joinRow (on : α → β → Bool) (right : List β) (a : α) :
    unmatched (joinRow on right a) = if right.any (on a) then [] else [a] := by
  unfold unmatched joinRow
  split
  · have hnone : ((right.filter (on a)).map fun b => (a, some b)).filter
        (fun row => row.2.isNone) = [] := by
      rw [List.filter_eq_nil_iff]
      intro row hrow
      obtain ⟨b, -, rfl⟩ := List.mem_map.mp hrow
      simp
    rw [hnone, List.map_nil]
  · rfl

/-- The query keeps the left rows without a match, in their order. -/
theorem unmatched_leftJoin (on : α → β → Bool) (left : List α) (right : List β) :
    unmatched (leftJoin on left right) = left.filter fun a => !right.any (on a) := by
  induction left with
  | nil => rfl
  | cons a left ih =>
      have happend : unmatched (leftJoin on (a :: left) right) =
          unmatched (joinRow on right a) ++ unmatched (leftJoin on left right) := by
        simp [unmatched, leftJoin]
      rw [happend, ih, unmatched_joinRow]
      by_cases hmatch : right.any (on a) = true
      · simp [hmatch]
      · simp [hmatch]

/-! ## The last row of every group -/

/-- The rows of a table that match no row of the same table. -/
def selfUnmatched (t : Table α) (on : Row α → Row α → Bool) : List (Row α) :=
  unmatched (leftJoin on t.rows t.rows)

theorem mem_of_mem_selfUnmatched {t : Table α} {on : Row α → Row α → Bool} {row : Row α}
    (h : row ∈ t.selfUnmatched on) : row ∈ t.rows := by
  rw [selfUnmatched, unmatched_leftJoin] at h
  exact List.mem_of_mem_filter h

/-- The condition matches a row only with later ones of its group. -/
def MatchesLater (t : Table α) (on : Row α → Row α → Bool) (group : Row α → γ) : Prop :=
  ∀ row ∈ t.rows, ∀ row' ∈ t.rows, on row row' = true →
    group row = group row' ∧ row.key < row'.key

theorem getLast?_filter_of_getLast? {p : α → Bool} {l : List α} {a : α}
    (hlast : l.getLast? = some a) (ha : p a = true) : (l.filter p).getLast? = some a := by
  obtain ⟨rest, rfl⟩ := List.getLast?_eq_some_iff.mp hlast
  rw [List.filter_append]
  simp [ha]

/-- The last row of a group has no match, so it is also the last row of its group in the
result of the query. -/
theorem getLast?_group_selfUnmatched [DecidableEq γ] {t : Table α}
    {on : Row α → Row α → Bool} {group : Row α → γ} (hon : t.MatchesLater on group) (g : γ) :
    ((t.selfUnmatched on).filter fun row => group row = g).getLast? =
      (t.rows.filter fun row => group row = g).getLast? := by
  rw [selfUnmatched, unmatched_leftJoin, List.filter_comm]
  cases hlast : (t.rows.filter fun row => group row = g).getLast? with
  | none =>
      rw [List.getLast?_eq_none_iff.mp hlast]
      rfl
  | some row =>
      apply getLast?_filter_of_getLast? hlast
      have hrow := List.mem_filter.mp (List.mem_of_getLast? hlast)
      have hgroup : group row = g := of_decide_eq_true hrow.2
      rw [Bool.not_eq_true', List.any_eq_false]
      intro row' hmem' hmatch
      obtain ⟨hsame, hlt⟩ := hon row hrow.1 row' hmem' hmatch
      -- the matching row belongs to the group as well, so its key is not larger
      have hfilter : row' ∈ t.rows.filter fun row => group row = g :=
        List.mem_filter.mpr ⟨hmem', decide_eq_true (hsame.symm.trans hgroup)⟩
      have hle := key_le_of_getLast? (t.increasing.filter _) hlast hfilter
      exact Nat.not_le.mpr hlt hle

/-! ## Named columns -/

variable {κ : Type*} [DecidableEq κ] [Inhabited α]

/-- The row that `INSERT INTO … (columns) VALUES (values)` stores.  A column that is not
named is NULL, which is read as the default value. -/
def record (columns : List κ) (values : List α) (column : κ) : α :=
  ((columns.zip values).lookup column).getD default

/-- The value of a column by its number, for a table with the given columns after its key.
The key is column 0 and not among the values. -/
def Row.column (columns : List κ) (row : Row (κ → α)) : ℕ → α
  | 0 => default
  | i + 1 =>
      match columns[i]? with
      | none => default
      | some column => row.value column

end Table
