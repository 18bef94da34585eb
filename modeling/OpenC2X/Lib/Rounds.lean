import Mathlib.Data.List.Nodup
import Mathlib.Data.List.Perm.Subperm
import Mathlib.Tactic.Common

/-!
# Rounds

Items are sent in rounds: in every round one for each name, always in the same order, and all of
them with what is valid for the round.  If they come without gaps, what has come are whole rounds
and the beginning of one more.

The last items, as many as there are names, then have all names once (`perm_last`), and so they
are what has come last of every name (`perm_of_getLast?`).  The place of an item tells its round
(`view_of_prefix`).
-/

namespace Rounds

variable {Item Name View : Type*}

/-- The names with what is valid for their round, for some rounds. -/
def rounds (order : List Name) (views : List View) : List (Name × View) :=
  views.flatMap fun v => order.map fun n => (n, v)

theorem rounds_cons (order : List Name) (v : View) (views : List View) :
    rounds order (v :: views) = (order.map fun n => (n, v)) ++ rounds order views :=
  List.flatMap_cons

theorem rounds_concat (order : List Name) (views : List View) (v : View) :
    rounds order (views ++ [v]) = rounds order views ++ order.map fun n => (n, v) := by
  rw [rounds, List.flatMap_append, List.flatMap_singleton]
  rfl

theorem map_fst_round (order : List Name) (v : View) :
    (order.map fun n => (n, v)).map Prod.fst = order := by
  rw [List.map_map]
  exact List.map_id order

/-- The names and what is valid, by the place in the list. -/
theorem getElem?_rounds {order : List Name} (horder : 0 < order.length) (views : List View)
    (i : ℕ) :
    ((rounds order views)[i]?).map Prod.snd = views[i / order.length]? := by
  induction views generalizing i with
  | nil => rfl
  | cons v views ih =>
      rw [rounds_cons]
      rcases Nat.lt_or_ge i order.length with hlt | hle
      · rw [List.getElem?_append_left (by rwa [List.length_map]), Nat.div_eq_of_lt hlt,
          List.getElem?_map, List.getElem?_eq_getElem hlt]
        rfl
      · obtain ⟨j, rfl⟩ := Nat.exists_eq_add_of_le hle
        rw [List.getElem?_append_right (by rw [List.length_map]; exact hle), List.length_map,
          Nat.add_sub_cancel_left, ih, Nat.add_div_left _ horder]
        rfl

/-- The first items stay in their places. -/
theorem getElem?_of_prefix {l l' : List Item} (h : l <+: l') {i : ℕ} {a : Item}
    (hi : l[i]? = some a) : l'[i]? = some a := by
  obtain ⟨rest, rfl⟩ := h
  rw [List.getElem?_append_left (List.getElem?_eq_some_iff.mp hi).1, hi]

/-- What has come ends in some round. -/
theorem exists_of_prefix [Inhabited View] {order : List Name} {views : List View}
    {keys : List (Name × View)} (h : keys <+: rounds order views) :
    ∃ past before after v, order = before ++ after ∧
      keys = rounds order past ++ before.map fun n => (n, v) := by
  induction views generalizing keys with
  | nil =>
      obtain rfl := List.prefix_nil.mp h
      exact ⟨[], [], order, default, rfl, rfl⟩
  | cons v views ih =>
      rw [rounds_cons] at h
      rcases List.prefix_or_prefix_of_prefix h (List.prefix_append _ (rounds order views)) with
        hbefore | ⟨rest, rfl⟩
      · obtain ⟨before, ⟨after, rfl⟩, rfl⟩ := List.prefix_map_iff.mp hbefore
        exact ⟨[], before, after, v, rfl, rfl⟩
      · obtain ⟨past, before, after, w, horder, rfl⟩ :=
          ih ((List.prefix_append_right_inj _).mp h)
        refine ⟨v :: past, before, after, w, horder, ?_⟩
        rw [← List.append_assoc]
        rfl

section

variable [Inhabited View] {order : List Name} {views : List View} {name : Item → Name}
  {view : Item → View} {items : List Item}

omit [Inhabited View] in
/-- An item has what is valid for its round. -/
theorem view_of_prefix (h : items.map (fun a => (name a, view a)) <+: rounds order views)
    (horder : 0 < order.length) {i : ℕ} {a : Item} (hi : items[i]? = some a) :
    views[i / order.length]? = some (view a) := by
  have hkey : (items.map fun a => (name a, view a))[i]? = some (name a, view a) := by
    rw [List.getElem?_map, hi]
    rfl
  rw [← getElem?_rounds horder, getElem?_of_prefix h hkey]
  rfl

/-- The last items, as many as there are names. -/
def last (order : List Name) (items : List Item) : List Item :=
  items.drop (items.length - order.length)

theorem take_append_last (order : List Name) (items : List Item) :
    items.take (items.length - order.length) ++ last order items = items :=
  List.take_append_drop _ items

/-- What is behind the last items, if they are written as a list of their own. -/
theorem map_last {B : Type*} {f : Item → B} {first rest : List B}
    (h : items.map f = first ++ rest) (hlength : rest.length = order.length) :
    (last order items).map f = rest := by
  have hlengths := congrArg List.length h
  rw [List.length_map, List.length_append] at hlengths
  have hfirst : items.length - order.length = first.length := by omega
  rw [last, List.map_drop, h, hfirst, List.drop_left]

/-- The last items are the end of one round and the beginning of the next one, or a whole
round. -/
theorem exists_last (h : items.map (fun a => (name a, view a)) <+: rounds order views)
    (hlength : order.length ≤ items.length) :
    ∃ before after v w, order = before ++ after ∧
      (last order items).map (fun a => (name a, view a)) =
        (after.map fun n => (n, v)) ++ before.map fun n => (n, w) := by
  obtain ⟨past, before, after, w, rfl, hkeys⟩ := exists_of_prefix h
  rcases List.eq_nil_or_concat' past with rfl | ⟨past, v, rfl⟩
  · -- not even one round is over, so that it is just over
    have hlengths := congrArg List.length hkeys
    simp only [rounds, List.flatMap_nil, List.nil_append, List.length_map,
      List.length_append] at hlengths hlength
    obtain rfl : after = [] := List.length_eq_zero_iff.mp (by omega)
    refine ⟨before, [], w, w, rfl, map_last hkeys ?_⟩
    simp
  · refine ⟨before, after, v, w, rfl, ?_⟩
    apply @map_last _ _ _ _ _ _ (rounds (before ++ after) past ++ before.map fun n => (n, v))
    · rw [hkeys, rounds_concat, List.map_append]
      simp only [List.append_assoc]
    · simp [Nat.add_comm]

/-- The last items have all names. -/
theorem perm_last (h : items.map (fun a => (name a, view a)) <+: rounds order views)
    (hlength : order.length ≤ items.length) : ((last order items).map name).Perm order := by
  obtain ⟨before, after, v, w, rfl, hlast⟩ := exists_last h hlength
  have hnames : (last (before ++ after) items).map name = after ++ before := by
    have hfst := congrArg (List.map Prod.fst) hlast
    rw [List.map_append, map_fst_round, map_fst_round, List.map_map] at hfst
    exact hfst
  rw [hnames]
  exact List.perm_append_comm

/-- What has come last of a name is one of the last items. -/
theorem getLast?_filter_eq [DecidableEq Name]
    (h : items.map (fun a => (name a, view a)) <+: rounds order views)
    (hlength : order.length ≤ items.length) {n : Name} (hn : n ∈ order) :
    (items.filter fun a => name a = n).getLast? =
      ((last order items).filter fun a => name a = n).getLast? := by
  have hmem : n ∈ (last order items).map name := (perm_last h hlength).mem_iff.mpr hn
  obtain ⟨a, ha, rfl⟩ := List.mem_map.mp hmem
  have hne : (last order items).filter (fun b => name b = name a) ≠ [] :=
    List.ne_nil_of_mem (List.mem_filter.mpr ⟨ha, decide_eq_true rfl⟩)
  conv_lhs => rw [← take_append_last order items, List.filter_append]
  exact List.getLast?_append_of_ne_nil _ hne

/-- Items that have all names once and are the last ones of these names are the last items, in
some order. -/
theorem perm_of_getLast? [DecidableEq Name]
    (h : items.map (fun a => (name a, view a)) <+: rounds order views)
    (hlength : order.length ≤ items.length) (horder : order.Nodup) {shown : List Item}
    (hshown : (shown.map name).Perm order)
    (hlast : ∀ a ∈ shown, (items.filter fun b => name b = name a).getLast? = some a) :
    shown.Perm (last order items) := by
  have hsubset : shown ⊆ last order items := by
    intro a ha
    have hn : name a ∈ order := hshown.subset (List.mem_map_of_mem ha)
    have hget := hlast a ha
    rw [getLast?_filter_eq h hlength hn] at hget
    exact (List.mem_filter.mp (List.mem_of_getLast? hget)).1
  have hcount : (last order items).length ≤ shown.length := by
    calc (last order items).length
        = ((last order items).map name).length := (List.length_map _).symm
      _ = order.length := (perm_last h hlength).length_eq
      _ = (shown.map name).length := hshown.length_eq.symm
      _ ≤ shown.length := Nat.le_of_eq (List.length_map _)
  have hshownNodup : shown.Nodup := List.Nodup.of_map name (hshown.nodup_iff.mpr horder)
  exact (List.subperm_of_subset hshownNodup hsubset).perm_of_length_le hcount

end

end Rounds
