import OpenC2X.Lib.Decimal
import OpenC2X.Lib.Double
import OpenC2X.Lib.Json
import Mathlib.Data.List.Sort

/-!
# Values of JavaScript

`JSON.parse` makes a value of a text.  Its numbers are doubles, so that an integer with more than
53 bits can come out as another one.  Strings are kept as they are written, with their escapes.  A
value is `none` where it is `undefined`, and reading a property of that is a `TypeError`.

The properties of an object are enumerated with the array indices first, in ascending order, and
the others in the order in which they were created.
-/

inductive JsValue where
  | null
  | bool (b : Bool)
  | number (x : Double)
  | string (s : List Char)
  | array (items : List JsValue)
  | object (members : List (List Char × JsValue))

namespace JsValue

/-! ## Parsing -/

mutual

/-- `JSON.parse`, from what the text denotes. -/
def ofJson : Json → JsValue
  | .null => .null
  | .bool b => .bool b
  | .number mantissa exponent => .number (.nearest (mantissa * 10 ^ exponent))
  | .string s => .string s
  | .array items => .array (ofItems items)
  | .object members => .object (ofMembers members)

def ofItems : List Json → List JsValue
  | [] => []
  | v :: items => ofJson v :: ofItems items

def ofMembers : List (List Char × Json) → List (List Char × JsValue)
  | [] => []
  | (key, v) :: members => (key, ofJson v) :: ofMembers members

end

theorem ofItems_eq_map (items : List Json) : ofItems items = items.map ofJson := by
  induction items with
  | nil => rfl
  | cons v items ih => rw [ofItems, ih, List.map_cons]

theorem ofMembers_eq_map (members : List (List Char × Json)) :
    ofMembers members = members.map fun m => (m.1, ofJson m.2) := by
  induction members with
  | nil => rfl
  | cons m members ih => rw [ofMembers, ih, List.map_cons]

/-- An integer that has at most 53 bits is kept exactly. -/
theorem ofJson_number {n : ℤ} (hn : |n| < 2 ^ 53) : ofJson (.number n 0) = .number (.finite n) := by
  rw [ofJson, zpow_zero, mul_one, Double.nearest_intCast_eq_self hn]

/-! ## Properties -/

inductive TypeError
  | cannotReadProperty

/-- The property with this key; of several in the text, the last one. -/
def get? (key : List Char) : JsValue → Option JsValue
  | .object ms => (ms.reverse.find? fun m => m.1 = key).map Prod.snd
  | _ => none

def getItem? (i : ℕ) : JsValue → Option JsValue
  | .array vs => vs[i]?
  | _ => none

theorem get?_ofJson (key : List Char) (v : Json) :
    (ofJson v).get? key = (v.get? key).map ofJson := by
  cases v with
  | object members =>
      rw [ofJson, ofMembers_eq_map, get?, Json.get?, ← List.map_reverse, List.find?_map,
        Option.map_map, Option.map_map]
      rfl
  | null | bool | number | string | array => rfl

theorem getItem?_ofJson (i : ℕ) (v : Json) :
    (ofJson v).getItem? i = (v.getItem? i).map ofJson := by
  cases v with
  | array items => rw [ofJson, ofItems_eq_map, getItem?, Json.getItem?, List.getElem?_map]
  | null | bool | number | string | object => rfl

/-- `value.key` -/
def property (key : String) : Option JsValue → Except TypeError (Option JsValue)
  | none => .error .cannotReadProperty
  | some .null => .error .cannotReadProperty
  | some v => .ok (v.get? key.toList)

/-- `value.key.key.key` -/
def properties (keys : List String) (v : Option JsValue) : Except TypeError (Option JsValue) :=
  keys.foldlM (fun v key => property key v) v

theorem properties_cons {key : String} {v v' : Option JsValue} (h : property key v = .ok v')
    (keys : List String) : properties (key :: keys) v = properties keys v' := by
  rw [properties, List.foldlM_cons, h]
  rfl

/-! ## Numbers -/

/-- `value.toString()` of an integer with at most 53 bits. -/
def numberToString : Option JsValue → Option (List Char)
  | some (.number (.finite x)) =>
      if x.den = 1 ∧ |x.num| < 2 ^ 53 then some (Decimal.ofInt x.num) else none
  | _ => none

/-- `value / d` -/
def divide (v : Option JsValue) (d : ℚ) : Double :=
  match v with
  | some (.number (.finite x)) => .nearest (x / d)
  | some (.number x) => x
  | _ => .nan false

/-! ## The order of properties -/

/-- The number whose digits a key has. -/
def keyNumber (key : List Char) : ℕ := Nat.ofDigitChars 10 key 0

/-- Whether a key is an array index. -/
def isArrayIndex (key : List Char) : Bool :=
  Nat.toDigits 10 (keyNumber key) = key ∧ keyNumber key < 2 ^ 32 - 1

section

variable {α : Type*}

/-- The properties in the order in which they are enumerated. -/
def enumerate (members : List (List Char × α)) : List (List Char × α) :=
  (members.filter fun m => isArrayIndex m.1).insertionSort
      (fun m m' => keyNumber m.1 ≤ keyNumber m'.1) ++
    members.filter fun m => !isArrayIndex m.1

theorem enumerate_perm (members : List (List Char × α)) : (enumerate members).Perm members := by
  have hsort := List.perm_insertionSort (fun m m' : List Char × α => keyNumber m.1 ≤ keyNumber m'.1)
    (members.filter fun m => isArrayIndex m.1)
  exact (hsort.append_right _).trans (List.filter_append_perm _ members)

@[simp] theorem keyNumber_toDigits (n : ℕ) : keyNumber (Nat.toDigits 10 n) = n :=
  Nat.ofDigitChars_ten_toDigits

/-- Keys that are numbers of 32 bits are enumerated in ascending order. -/
theorem pairwise_enumerate {members : List (List Char × α)}
    (hkeys : ∀ m ∈ members, ∃ n < 2 ^ 32, m.1 = Nat.toDigits 10 n)
    (hnodup : (members.map Prod.fst).Nodup) :
    (enumerate members).Pairwise fun m m' => keyNumber m.1 < keyNumber m'.1 := by
  have hlarge : ∀ m ∈ members.filter (fun m => !isArrayIndex m.1),
      keyNumber m.1 = 2 ^ 32 - 1 := by
    intro m hm
    obtain ⟨hmem, hindex⟩ := List.mem_filter.mp hm
    obtain ⟨n, hn, hkey⟩ := hkeys m hmem
    have hnot : ¬ n < 2 ^ 32 - 1 := by
      intro hlt
      have htrue : isArrayIndex m.1 = true := by
        rw [isArrayIndex, hkey, keyNumber_toDigits]
        exact decide_eq_true ⟨rfl, hlt⟩
      rw [htrue] at hindex
      exact absurd hindex (by decide)
    rw [hkey, keyNumber_toDigits]
    omega
  have hsmall : ∀ m ∈ members.filter (fun m => isArrayIndex m.1),
      keyNumber m.1 < 2 ^ 32 - 1 := by
    intro m hm
    have hindex := (List.mem_filter.mp hm).2
    exact (of_decide_eq_true hindex).2
  have hle : (enumerate members).Pairwise fun m m' => keyNumber m.1 ≤ keyNumber m'.1 := by
    have : Std.Total fun m m' : List Char × α => keyNumber m.1 ≤ keyNumber m'.1 :=
      ⟨fun _ _ => le_total _ _⟩
    have : IsTrans (List Char × α) fun m m' => keyNumber m.1 ≤ keyNumber m'.1 :=
      ⟨fun _ _ _ h h' => h.trans h'⟩
    refine List.pairwise_append.mpr ⟨List.pairwise_insertionSort _ _, ?_, ?_⟩
    · refine List.pairwise_iff_forall_sublist.mpr fun {m m'} hsub => ?_
      rw [hlarge m (hsub.subset List.mem_cons_self),
        hlarge m' (hsub.subset (List.mem_cons_of_mem _ List.mem_cons_self))]
    · intro m hm m' hm'
      have hmem := (List.mem_insertionSort _).mp hm
      exact ((hsmall m hmem).trans_le (hlarge m' hm').ge).le
  have hne : (enumerate members).Pairwise fun m m' => m.1 ≠ m'.1 := by
    have hperm := (enumerate_perm members).map Prod.fst
    exact List.pairwise_map.mp (hperm.nodup_iff.mpr hnodup)
  refine (hle.and hne).imp_of_mem fun {m m'} hm hm' h => lt_of_le_of_ne h.1 fun heq => h.2 ?_
  obtain ⟨n, -, hkey⟩ := hkeys m ((enumerate_perm members).mem_iff.mp hm)
  obtain ⟨n', -, hkey'⟩ := hkeys m' ((enumerate_perm members).mem_iff.mp hm')
  rw [hkey, hkey', keyNumber_toDigits, keyNumber_toDigits] at heq
  rw [hkey, hkey', heq]

end

end JsValue
