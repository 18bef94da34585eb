import OpenC2X.Lib.JsonWriter
import OpenC2X.Lib.Double

/-!
# RapidJSON

The values that pbjson builds from messages, and the writer that makes a text of them.  Every
text denotes the value it was made of, with the strings as they are escaped.

How a `double` is written is a parameter, `dtoa`, and so is the number that its text denotes.
-/

namespace OpenC2X.RapidJson

open Json hiding escape

inductive Value where
  | null
  | bool (b : Bool)
  /-- An `int`, `unsigned`, `int64_t` or `uint64_t`. -/
  | int (n : ℤ)
  | double (x : Double)
  | string (s : List Char)
  | array (items : List Value)
  | object (members : List (List Char × Value))

/-! ## The writer -/

namespace Writer

def hexDigits : List Char :=
  ['0', '1', '2', '3', '4', '5', '6', '7', '8', '9', 'A', 'B', 'C', 'D', 'E', 'F']

/-- The table `escape`, without its zeros. -/
def escape (c : Char) : Option Char :=
  if c = '"' ∨ c = '\\' then some c
  else if c.toNat = 0x08 then some 'b'
  else if c.toNat = 0x09 then some 't'
  else if c.toNat = 0x0A then some 'n'
  else if c.toNat = 0x0C then some 'f'
  else if c.toNat = 0x0D then some 'r'
  else if c.toNat < 0x20 then some 'u'
  else none

/-- One round of the loop in `WriteString`. -/
def writeChar (c : Char) : List Char :=
  match escape c with
  | some 'u' =>
      ['\\', 'u', '0', '0', hexDigits.getD (c.toNat >>> 4) '0',
        hexDigits.getD (c.toNat &&& 0xF) '0']
  | some letter => ['\\', letter]
  | none => [c]

def WriteString (s : List Char) : List Char := '"' :: ((s.map writeChar).flatten ++ ['"'])

/-- A value behind its prefix: a comma, except before the first one. -/
def Prefix (first : Bool) : List Char := if first then [] else [',']

section

variable (dtoa : Double → List Char)

mutual

/-- `Accept` with the writer as its handler. -/
def Accept : Value → List Char
  | .null => ['n', 'u', 'l', 'l']
  | .bool true => ['t', 'r', 'u', 'e']
  | .bool false => ['f', 'a', 'l', 's', 'e']
  | .int n => Decimal.ofInt n
  | .double x => dtoa x
  | .string s => WriteString s
  | .array items => '[' :: (acceptItems true items ++ [']'])
  | .object members => '{' :: (acceptMembers true members ++ ['}'])

def acceptItems (first : Bool) : List Value → List Char
  | [] => []
  | v :: items => Prefix first ++ Accept v ++ acceptItems false items

def acceptMembers (first : Bool) : List (List Char × Value) → List Char
  | [] => []
  | (key, v) :: members =>
      Prefix first ++ WriteString key ++ ':' :: Accept v ++ acceptMembers false members

end

end

end Writer

/-! ## The value of a text -/

section

variable (number : Double → Json)

/-- A string as it is escaped. -/
def escaped (s : List Char) : List Char := (s.map Writer.writeChar).flatten

mutual

def Value.toJson : Value → Json
  | .null => .null
  | .bool b => .bool b
  | .int n => .number n 0
  | .double x => number x
  | .string s => .string (escaped s)
  | .array items => .array (toJsonItems items)
  | .object members => .object (toJsonMembers members)

def Value.toJsonItems : List Value → List Json
  | [] => []
  | v :: items => v.toJson :: toJsonItems items

def Value.toJsonMembers : List (List Char × Value) → List (List Char × Json)
  | [] => []
  | (key, v) :: members => (escaped key, v.toJson) :: toJsonMembers members

end

end

/-! ## Strings -/

open Writer

theorem isPlain_of_escape_eq_none {c : Char} (h : escape c = none) : isPlain c = true := by
  unfold escape at h
  split_ifs at h with hquote _ _ _ _ _ hcontrol
  have hspace : ' ' ≤ c := by
    change (0x20 : ℕ) ≤ c.toNat
    omega
  simp only [isPlain, ne_eq, decide_not, Bool.and_eq_true, Bool.not_eq_true',
    decide_eq_false_iff_not, decide_eq_true_eq]
  exact ⟨⟨fun h => hquote (.inl h), fun h => hquote (.inr h)⟩, hspace⟩

theorem mem_of_escape_eq_some {c letter : Char} (h : escape c = some letter)
    (hu : letter ≠ 'u') : letter ∈ ['"', '\\', '/', 'b', 'f', 'n', 'r', 't'] := by
  unfold escape at h
  split_ifs at h with hquote
  · rcases hquote with rfl | rfl <;> cases h <;> simp
  all_goals cases h
  all_goals first | exact absurd rfl hu | simp

theorem isHexDigit_hexDigits (n : ℕ) : isHexDigit (hexDigits.getD n '0') = true := by
  have hall : hexDigits.all isHexDigit = true := by decide
  rw [List.getD_eq_getElem?_getD]
  rcases hget : hexDigits[n]? with _ | c
  · rfl
  · exact List.all_eq_true.mp hall c (List.mem_of_getElem? hget)

theorem isStringChar_writeChar (c : Char) : IsStringChar (writeChar c) := by
  unfold writeChar
  split
  next => exact .hex (by decide) (by decide) (isHexDigit_hexDigits _) (isHexDigit_hexDigits _)
  next letter hu hescape => exact .short (mem_of_escape_eq_some hescape (hu ·))
  next hescape => exact .plain (isPlain_of_escape_eq_none hescape)

theorem isStringChar_of_mem {s text : List Char} (h : text ∈ s.map writeChar) :
    IsStringChar text := by
  obtain ⟨c, -, rfl⟩ := List.mem_map.mp h
  exact isStringChar_writeChar c

/-! ## The texts of the entries -/

section

variable (dtoa : Double → List Char)

def memberText (member : List Char × Value) : List Char :=
  '"' :: (escaped member.1 ++ '"' :: ':' :: Accept dtoa member.2)

theorem acceptItems_false (items : List Value) :
    acceptItems dtoa false items = (items.map fun v => ',' :: Accept dtoa v).flatten := by
  induction items with
  | nil => rfl
  | cons v items ih =>
      rw [acceptItems, ih, List.map_cons, List.flatten_cons]
      rfl

theorem acceptMembers_false (members : List (List Char × Value)) :
    acceptMembers dtoa false members =
      (members.map fun member => ',' :: memberText dtoa member).flatten := by
  induction members with
  | nil => rfl
  | cons member members ih =>
      obtain ⟨key, v⟩ := member
      rw [acceptMembers, ih, List.map_cons, List.flatten_cons]
      simp [Prefix, WriteString, memberText, escaped]

theorem acceptItems_true (items : List Value) :
    acceptItems dtoa true items = [','].intercalate (items.map (Accept dtoa)) := by
  cases items with
  | nil => rfl
  | cons v items =>
      rw [acceptItems, acceptItems_false, List.map_cons, intercalate_cons, List.map_map]
      rfl

theorem acceptMembers_true (members : List (List Char × Value)) :
    acceptMembers dtoa true members = [','].intercalate (members.map (memberText dtoa)) := by
  cases members with
  | nil => rfl
  | cons member members =>
      obtain ⟨key, v⟩ := member
      rw [acceptMembers, acceptMembers_false, List.map_cons, intercalate_cons, List.map_map]
      simp [Prefix, WriteString, memberText, escaped, Function.comp_def]

end

/-! ## What the writer puts down -/

section

variable {dtoa : Double → List Char} {number : Double → Json}

mutual

theorem isItem_Accept (hdtoa : ∀ x, IsItem (dtoa x) (number x)) :
    ∀ v : Value, IsItem (Accept dtoa v) (v.toJson number)
  | .null => isValue_null.isItem
  | .bool true => isValue_true.isItem
  | .bool false => isValue_false.isItem
  | .int n => isItem_ofInt n
  | .double x => hdtoa x
  | .string _ => (isValue_string_flatten fun _ => isStringChar_of_mem).isItem
  | .array items => by
      rw [Accept, acceptItems_true, Value.toJson]
      exact (isValue_array (forall₂_items hdtoa items)).isItem
  | .object members => by
      rw [Accept, acceptMembers_true, Value.toJson]
      exact (isValue_object (forall₂_members hdtoa members)).isItem

theorem forall₂_items (hdtoa : ∀ x, IsItem (dtoa x) (number x)) :
    ∀ items : List Value,
      List.Forall₂ IsItem (items.map (Accept dtoa)) (Value.toJsonItems number items)
  | [] => .nil
  | v :: items => .cons (isItem_Accept hdtoa v) (forall₂_items hdtoa items)

theorem forall₂_members (hdtoa : ∀ x, IsItem (dtoa x) (number x)) :
    ∀ members : List (List Char × Value),
      List.Forall₂ IsMember (members.map (memberText dtoa)) (Value.toJsonMembers number members)
  | [] => .nil
  | (_, v) :: members =>
      .cons (isMember_flatten (fun _ => isStringChar_of_mem) (isItem_Accept hdtoa v))
        (forall₂_members hdtoa members)

end

end

end OpenC2X.RapidJson
