import OpenC2X.HttpServer.Bin2Ascii
import OpenC2X.HttpServer.RapidJson

/-!
# Messages as JSON

`pbjson` makes a JSON value of any protocol buffer message, by its descriptor: an optional field
that is not set is left out, a required one is written with its default value, a repeated one
is an array.  The way back reads the members of an object one after the other into a message.

A message has the values that its descriptor asks for, by its type.  The descriptors are those
that the `.proto` files make use of: there is no `float`, a field has no other default than that
of its type, and no message contains one of its own type.  Reading back what was written of a
message gives the message, with its required fields set.
-/

namespace OpenC2X.PbJson

open RapidJson

/-! ## Descriptors -/

inductive Label
  | optional
  | required
  | repeated
  deriving DecidableEq

/-- What is kept for a field: a value or none, or any number of values. -/
abbrev Label.Values (α : Type) : Label → Type
  | .optional => Option α
  | .required => Option α
  | .repeated => List α

mutual

inductive FieldType
  | double
  | int64
  | uint64
  | int32
  | uint32
  | bool
  | string
  | bytes
  /-- The first value, which is the default, and the others. -/
  | enum (first : List Char × Int32) (others : List (List Char × Int32))
  | message (descriptor : Descriptor)

/-- The fields of a message, in the order of their declaration. -/
inductive Descriptor
  | nil
  | field (name : List Char) (label : Label) (type : FieldType) (rest : Descriptor)

end

def Descriptor.names : Descriptor → List (List Char)
  | .nil => []
  | .field name _ _ rest => name :: rest.names

mutual

/-- The names of the fields differ, in every message. -/
def Descriptor.WellFormed : Descriptor → Prop
  | .nil => True
  | .field name _ type rest => name ∉ rest.names ∧ type.WellFormed ∧ rest.WellFormed

def FieldType.WellFormed : FieldType → Prop
  | .message descriptor => descriptor.WellFormed
  | _ => True

end

mutual

/-- Whether the names differ can be decided. -/
def Descriptor.decidableWellFormed :
    (descriptor : Descriptor) → Decidable descriptor.WellFormed
  | .nil => isTrue trivial
  | .field name _ type rest =>
      @instDecidableAnd _ _ (inferInstanceAs (Decidable (name ∉ rest.names)))
        (@instDecidableAnd _ _ type.decidableWellFormed rest.decidableWellFormed)

def FieldType.decidableWellFormed : (type : FieldType) → Decidable type.WellFormed
  | .message descriptor => descriptor.decidableWellFormed
  | .double | .int64 | .uint64 | .int32 | .uint32 | .bool | .string | .bytes | .enum _ _ =>
      isTrue trivial

end

instance (descriptor : Descriptor) : Decidable descriptor.WellFormed :=
  descriptor.decidableWellFormed

/-! ## Messages -/

mutual

@[reducible] def FieldType.Value : FieldType → Type
  | .double => Double
  | .int64 => Int64
  | .uint64 => UInt64
  | .int32 => Int32
  | .uint32 => UInt32
  | .bool => Bool
  | .string => List Char
  | .bytes => Bytes
  | .enum first others => {number : Int32 // number ∈ (first :: others).map Prod.snd}
  | .message descriptor => descriptor.Message

@[reducible] def Descriptor.Message : Descriptor → Type
  | .nil => Unit
  | .field _ label type rest => label.Values type.Value × rest.Message

end

def Label.unset {α : Type} : (label : Label) → label.Values α
  | .optional => none
  | .required => none
  | .repeated => []

/-- A new message. -/
def Descriptor.unset : (descriptor : Descriptor) → descriptor.Message
  | .nil => ()
  | .field _ label _ rest => (label.unset, rest.unset)

/-- What the accessor of a field returns that is not set. -/
def FieldType.default : (type : FieldType) → type.Value
  | .double => Double.finite 0
  | .int64 => (0 : Int64)
  | .uint64 => (0 : UInt64)
  | .int32 => (0 : Int32)
  | .uint32 => (0 : UInt32)
  | .bool => false
  | .string => ([] : List Char)
  | .bytes => ([] : Bytes)
  | .enum first _ => ⟨first.2, List.mem_cons_self⟩
  | .message descriptor => descriptor.unset

/-! ## From messages to JSON -/

/-- The characters of a `std::string`. -/
def chars (s : Bytes) : List Char := s.map fun c => Char.ofNat c.toNat

mutual

/-- `field2json` for one value. -/
def value2json : (type : FieldType) → type.Value → RapidJson.Value
  | .double, x => .double x
  | .int64, n => .int (Int64.toInt n)
  | .uint64, n => .int (UInt64.toNat n)
  | .int32, n => .int (Int32.toInt n)
  | .uint32, n => .int (UInt32.toNat n)
  | .bool, b => .bool b
  | .string, s => .string s
  | .bytes, s => .string (chars (Bin2Ascii.b64_encode s))
  | .enum _ _, number => .int number.val.toInt
  | .message descriptor, m => .object (parse_fields descriptor m)

/-- The loop of `parse_msg` over the fields. -/
def parse_fields : (descriptor : Descriptor) → descriptor.Message →
    List (List Char × RapidJson.Value)
  | .nil, _ => []
  | .field _ .optional _ rest, (none, m) => parse_fields rest m
  | .field name .optional type rest, (some v, m) =>
      (name, value2json type v) :: parse_fields rest m
  | .field name .required type rest, (v, m) =>
      (name, value2json type (v.getD type.default)) :: parse_fields rest m
  | .field name .repeated type rest, (vs, m) =>
      (name, .array (vs.map fun v => value2json type v)) :: parse_fields rest m

end

def parse_msg (descriptor : Descriptor) (m : descriptor.Message) : RapidJson.Value :=
  .object (parse_fields descriptor m)

/-- With the allocator of the caller, who has the value for as long as it; the other
`pb2jsonobject` frees the memory of the value that it returns. -/
def pb2jsonobject (descriptor : Descriptor) (m : descriptor.Message) : RapidJson.Value :=
  parse_msg descriptor m

def pb2json (dtoa : Double → List Char) (descriptor : Descriptor) (m : descriptor.Message) :
    List Char :=
  Writer.Accept dtoa (pb2jsonobject descriptor m)

/-! ## From JSON to messages -/

inductive Failure
  /-- The result that is returned, and the text in `err`. -/
  | returned (id : ℤ) (err : String)
  /-- An exception. -/
  | thrown (what : String)
  /-- An assertion of RapidJSON. -/
  | aborted

def ERR_INVALID_ARG : ℤ := -1
def ERR_INVALID_JSON : ℤ := -4

/-- A number, by an accessor of RapidJSON that takes the integers in a range. -/
def getNumber {α : Type} (range : ℤ → Bool) (convert : ℤ → α) : RapidJson.Value → Except Failure α
  | .int n => if range n then .ok (convert n) else .error .aborted
  | .double _ => .error .aborted
  | _ => .error (.returned ERR_INVALID_JSON "Not a number")

def isInt (n : ℤ) : Bool := -2 ^ 31 ≤ n ∧ n < 2 ^ 31
def isUint (n : ℤ) : Bool := 0 ≤ n ∧ n < 2 ^ 32
def isInt64 (n : ℤ) : Bool := -2 ^ 63 ≤ n ∧ n < 2 ^ 63
def isUint64 (n : ℤ) : Bool := 0 ≤ n ∧ n < 2 ^ 64

/-- `GetDouble` of a number. -/
def getDouble : RapidJson.Value → Except Failure Double
  | .double x => .ok x
  | .int n => .ok (.nearest n)
  | _ => .error (.returned ERR_INVALID_JSON "Not a number")

/-- The bytes of a string in UTF-8. -/
def utf8 (s : List Char) : Bytes := s.flatMap String.utf8EncodeChar

section

variable (first : List Char × Int32) (others : List (List Char × Int32))

def FindValueByNumber (number : Int32) :
    Except Failure {number : Int32 // number ∈ (first :: others).map Prod.snd} :=
  if h : number ∈ (first :: others).map Prod.snd then .ok ⟨number, h⟩
  else .error (.returned ERR_INVALID_JSON "Enum value not found")

def FindValueByName (name : List Char) :
    Except Failure {number : Int32 // number ∈ (first :: others).map Prod.snd} :=
  match h : (first :: others).find? fun value => value.1 = name with
  | some value => .ok ⟨value.2, List.mem_map_of_mem (List.mem_of_find?_eq_some h)⟩
  | none => .error (.returned ERR_INVALID_JSON "Enum value not found")

def json2enum :
    RapidJson.Value → Except Failure {number : Int32 // number ∈ (first :: others).map Prod.snd}
  | .int n => if isInt n then FindValueByNumber first others (Int32.ofInt n) else .error .aborted
  | .double _ => .error .aborted
  | .string name => FindValueByName first others name
  | _ => .error (.returned ERR_INVALID_JSON "Not an integer or string")

end

/-- `json2field` for one value that is not a message. -/
def json2scalar (json : RapidJson.Value) : (type : FieldType) → Except Failure type.Value
  | .double => getDouble json
  | .int64 => getNumber isInt64 Int64.ofInt json
  | .uint64 => getNumber isUint64 (fun n => UInt64.ofNat n.toNat) json
  | .int32 => getNumber isInt Int32.ofInt json
  | .uint32 => getNumber isUint (fun n => UInt32.ofNat n.toNat) json
  | .bool =>
      match json with
      | .bool b => .ok b
      | _ => .error (.returned ERR_INVALID_JSON "Not a bool")
  | .string =>
      match json with
      | .string s => .ok s
      | _ => .error (.returned ERR_INVALID_JSON "Not a string")
  | .bytes =>
      match json with
      | .string s => (Bin2Ascii.b64_decode (utf8 s)).mapError .thrown
      | _ => .error (.returned ERR_INVALID_JSON "Not a string")
  | .enum first others => json2enum first others json
  | .message _ => .error (.returned ERR_INVALID_ARG "")

/-- Changes the field with this name, and ignores a name that no field has. -/
def Descriptor.modify (name : List Char)
    (change : (label : Label) → (type : FieldType) → label.Values type.Value →
      Except Failure (label.Values type.Value)) :
    (descriptor : Descriptor) → descriptor.Message → Except Failure descriptor.Message
  | .nil, m => .ok m
  | .field name' label type rest, (values, m) =>
      if name' = name then do
        let values ← change label type values
        return (values, m)
      else do
        let m ← rest.modify name change m
        return (values, m)

/-- What a member of an object does to its field, which is given by its label.  The last two
arguments read the value of the member as one value, and as an array. -/
def parse_member {α : Type} (json : RapidJson.Value) (label : Label)
    (field : Option α → Except Failure α) (array : List α → Except Failure (List α)) :
    label.Values α → Except Failure (label.Values α) :=
  match json, label with
  | .null, label => fun _ => .ok label.unset
  | _, .repeated => array
  | _, .optional => fun current => (field current).map some
  | _, .required => fun current => (field current).map some

mutual

/-- `json2field` for one value, which a message is read into. -/
def json2field : RapidJson.Value → (type : FieldType) → Option type.Value →
    Except Failure type.Value
  | .object members, .message descriptor, current =>
      parse_members members descriptor (current.getD descriptor.unset)
  | json, type, _ => json2scalar json type

/-- The loop over an array, which adds its values to those of the field. -/
def json2array : RapidJson.Value → (type : FieldType) → List type.Value →
    Except Failure (List type.Value)
  | .array items, type, values => json2items items type values
  | _, _, _ => .error (.returned ERR_INVALID_JSON "Not array")

def json2items : List RapidJson.Value → (type : FieldType) → List type.Value →
    Except Failure (List type.Value)
  | [], _, values => .ok values
  | json :: items, type, values => do
      let v ← json2field json type none
      json2items items type (values ++ [v])

/-- The loop of `parse_json` over the members. -/
def parse_members : List (List Char × RapidJson.Value) → (descriptor : Descriptor) →
    descriptor.Message → Except Failure descriptor.Message
  | [], _, m => .ok m
  | (name, json) :: members, descriptor, m => do
      let m ← descriptor.modify name (fun label type =>
        parse_member json label (json2field json type) (json2array json type)) m
      parse_members members descriptor m

end

def parse_json (json : RapidJson.Value) (descriptor : Descriptor) (m : descriptor.Message) :
    Except Failure descriptor.Message :=
  match json with
  | .object members => parse_members members descriptor m
  | _ => .error (.returned ERR_INVALID_ARG "")

def jsonobject2pb (json : RapidJson.Value) (descriptor : Descriptor) (m : descriptor.Message) :
    Except Failure descriptor.Message :=
  parse_json json descriptor m

/-! ## Required fields -/

mutual

/-- The value with all its required fields set. -/
def FieldType.fill : (type : FieldType) → type.Value → type.Value
  | .message descriptor, m => descriptor.fill m
  | .double, x => x
  | .int64, n => n
  | .uint64, n => n
  | .int32, n => n
  | .uint32, n => n
  | .bool, b => b
  | .string, s => s
  | .bytes, s => s
  | .enum _ _, number => number

/-- The message with all its required fields set, those to the default value that were not. -/
def Descriptor.fill : (descriptor : Descriptor) → descriptor.Message → descriptor.Message
  | .nil, m => m
  | .field _ .optional type rest, (v, m) => (v.map fun v => type.fill v, rest.fill m)
  | .field _ .required type rest, (v, m) => (some (type.fill (v.getD type.default)), rest.fill m)
  | .field _ .repeated type rest, (vs, m) => (vs.map fun v => type.fill v, rest.fill m)

end

mutual

/-- All required fields are set, in every message. -/
def FieldType.Initialized : (type : FieldType) → type.Value → Prop
  | .message descriptor, m => descriptor.Initialized m
  | .double, _ | .int64, _ | .uint64, _ | .int32, _ | .uint32, _ | .bool, _ | .string, _
  | .bytes, _ | .enum _ _, _ => True

def Descriptor.Initialized : (descriptor : Descriptor) → descriptor.Message → Prop
  | .nil, _ => True
  | .field _ .optional type rest, (v, m) => (∀ a ∈ v, type.Initialized a) ∧ rest.Initialized m
  | .field _ .required type rest, (v, m) => (∃ a, v = some a ∧ type.Initialized a) ∧
      rest.Initialized m
  | .field _ .repeated type rest, (vs, m) => (∀ a ∈ vs, type.Initialized a) ∧ rest.Initialized m

end

mutual

theorem FieldType.fill_eq_self : ∀ (type : FieldType) {v : type.Value}, type.Initialized v →
    type.fill v = v
  | .message descriptor, _, h => descriptor.fill_eq_self h
  | .double, _, _ | .int64, _, _ | .uint64, _, _ | .int32, _, _ | .uint32, _, _ | .bool, _, _
  | .string, _, _ | .bytes, _, _ | .enum _ _, _, _ => rfl

theorem Descriptor.fill_eq_self : ∀ (descriptor : Descriptor) {m : descriptor.Message},
    descriptor.Initialized m → descriptor.fill m = m
  | .nil, _, _ => rfl
  | .field _ .optional _ rest, (none, _), h =>
      congrArg (Prod.mk none) (rest.fill_eq_self h.2)
  | .field _ .optional type rest, (some v, _), h =>
      congrArg₂ Prod.mk (congrArg some (type.fill_eq_self (h.1 v rfl))) (rest.fill_eq_self h.2)
  | .field _ .required type rest, (_, _), ⟨⟨_, rfl, hv⟩, hrest⟩ =>
      congrArg₂ Prod.mk (congrArg some (type.fill_eq_self hv)) (rest.fill_eq_self hrest)
  | .field _ .repeated type rest, (vs, _), h =>
      congrArg₂ Prod.mk ((List.map_congr_left fun v hv => type.fill_eq_self (h.1 v hv)).trans
        (List.map_id vs)) (rest.fill_eq_self h.2)

end

/-! ## The members of an object -/

theorem map_fst_parse_fields_sublist : ∀ (descriptor : Descriptor) (m : descriptor.Message),
    ((parse_fields descriptor m).map Prod.fst).Sublist descriptor.names
  | .nil, _ => .slnil
  | .field _ .optional _ rest, (none, m) => (map_fst_parse_fields_sublist rest m).cons _
  | .field _ .optional _ rest, (some _, m) => (map_fst_parse_fields_sublist rest m).cons_cons _
  | .field _ .required _ rest, (_, m) => (map_fst_parse_fields_sublist rest m).cons_cons _
  | .field _ .repeated _ rest, (_, m) => (map_fst_parse_fields_sublist rest m).cons_cons _

theorem modify_of_ne {name name' : List Char} (hne : name' ≠ name) {change} {label : Label}
    {type : FieldType} {rest : Descriptor} (values : label.Values type.Value) (m : rest.Message) :
    (Descriptor.field name' label type rest).modify name change (values, m) =
      (do return (values, ← rest.modify name change m)) := by
  rw [Descriptor.modify, if_neg hne]

theorem modify_self {name : List Char} {change} {label : Label} {type : FieldType}
    {rest : Descriptor} (values : label.Values type.Value) (m : rest.Message) :
    (Descriptor.field name label type rest).modify name change (values, m) =
      (do return (← change label type values, m)) := by
  rw [Descriptor.modify, if_pos rfl]

/-- Members with other names leave a field alone. -/
theorem parse_members_of_notMem {members : List (List Char × RapidJson.Value)} {name : List Char}
    (h : ∀ member ∈ members, name ≠ member.1) {label : Label} {type : FieldType}
    {rest : Descriptor} (values : label.Values type.Value) (m : rest.Message) :
    parse_members members (.field name label type rest) (values, m) =
      (do return (values, ← parse_members members rest m)) := by
  induction members generalizing m with
  | nil => rfl
  | cons member members ih =>
      obtain ⟨name', json⟩ := member
      rw [parse_members, parse_members, modify_of_ne (h _ List.mem_cons_self)]
      generalize Descriptor.modify name' _ rest m = result
      cases result with
      | error failure => rfl
      | ok m' => exact ih (fun member hmember => h member (List.mem_cons_of_mem _ hmember)) m'

/-- The member of the first field sets this field, and the other members set the others. -/
theorem parse_members_cons {name : List Char} {json : RapidJson.Value}
    {members : List (List Char × RapidJson.Value)} (h : name ∉ members.map Prod.fst) {label : Label}
    {type : FieldType} {rest : Descriptor} {values values' : label.Values type.Value}
    {m m' : rest.Message}
    (hmember : parse_member json label (json2field json type) (json2array json type) values =
      .ok values') (hrest : parse_members members rest m = .ok m') :
    parse_members ((name, json) :: members) (.field name label type rest) (values, m) =
      .ok (values', m') := by
  have hne : ∀ member ∈ members, name ≠ member.1 := by
    rintro member hmem rfl
    exact h (List.mem_map_of_mem hmem)
  rw [parse_members, modify_self, hmember]
  change parse_members members (.field name label type rest) (values', m) = _
  rw [parse_members_of_notMem hne, hrest]
  rfl

theorem json2items_map {type : FieldType} {toJson : type.Value → RapidJson.Value}
    {fill : type.Value → type.Value}
    (h : ∀ v, json2field (toJson v) type none = .ok (fill v)) (vs values : List type.Value) :
    json2items (vs.map toJson) type values = .ok (values ++ vs.map fill) := by
  induction vs generalizing values with
  | nil => rw [List.map_nil, List.map_nil, json2items, List.append_nil]
  | cons v vs ih =>
      rw [List.map_cons, List.map_cons, json2items, h]
      change json2items (vs.map toJson) type (values ++ [fill v]) = _
      rw [ih, List.append_assoc]
      rfl

theorem value2json_ne_null : ∀ (type : FieldType) (v : type.Value), value2json type v ≠ .null
  | .double, _ | .int64, _ | .uint64, _ | .int32, _ | .uint32, _ | .bool, _ | .string, _
  | .bytes, _ | .enum _ _, _ | .message _, _ => nofun

theorem parse_member_singular {α : Type} {json : RapidJson.Value} (hnull : json ≠ .null)
    {field : Option α → Except Failure α} {array : List α → Except Failure (List α)} {v : α}
    (h : field none = .ok v) :
    parse_member json .optional field array none = .ok (some v) ∧
      parse_member json .required field array none = .ok (some v) := by
  unfold parse_member
  cases json with
  | null => exact absurd rfl hnull
  | _ => dsimp only; rw [h]; exact ⟨rfl, rfl⟩

/-! ## The round trip -/

theorem utf8_chars {s : Bytes} (h : ∀ c ∈ s, c.toNat < 128) : utf8 (chars s) = s := by
  induction s with
  | nil => rfl
  | cons c s ih =>
      have hc : c.toNat < 128 := h c List.mem_cons_self
      have hencode : String.utf8EncodeChar (Char.ofNat c.toNat) = [c] := by
        have hvalid : c.toNat.isValidChar := .inl (by omega)
        have hval : (Char.ofNat c.toNat).val.toNat = c.toNat := by
          rw [Char.ofNat, dif_pos hvalid]
          rfl
        unfold String.utf8EncodeChar
        simp only [hval]
        rw [if_pos (by omega)]
        simp
      rw [chars, utf8, List.map_cons, List.flatMap_cons, hencode]
      exact congrArg (c :: ·) (ih fun c' hc' => h c' (List.mem_cons_of_mem _ hc'))

theorem getNumber_int {α : Type} {range : ℤ → Bool} {convert : ℤ → α} {n : ℤ}
    (h : range n = true) : getNumber range convert (.int n) = .ok (convert n) := by
  rw [getNumber, if_pos h]

theorem isInt64_toInt (n : Int64) : isInt64 n.toInt = true := by
  have hle := n.le_toInt
  have hlt := n.toInt_lt
  simpa [isInt64] using ⟨hle, hlt⟩

theorem isUint64_toNat (n : UInt64) : isUint64 n.toNat = true := by
  have hlt := n.toNat_lt
  simp only [isUint64, Bool.decide_and, Bool.and_eq_true, decide_eq_true_eq]
  omega

theorem isInt_toInt (n : Int32) : isInt n.toInt = true := by
  have hle := n.le_toInt
  have hlt := n.toInt_lt
  simpa [isInt] using ⟨hle, hlt⟩

theorem isUint_toNat (n : UInt32) : isUint n.toNat = true := by
  have hlt := n.toNat_lt
  simp only [isUint, Bool.decide_and, Bool.and_eq_true, decide_eq_true_eq]
  omega

mutual

theorem json2field_value2json : ∀ (type : FieldType), type.WellFormed → ∀ v : type.Value,
    json2field (value2json type v) type none = .ok (type.fill v)
  | .double, _, _ => rfl
  | .int64, _, n => by
      have hread := @getNumber_int _ _ Int64.ofInt _ (isInt64_toInt n)
      rwa [Int64.ofInt_toInt] at hread
  | .uint64, _, n => by
      have hread := @getNumber_int _ _ (fun n => UInt64.ofNat n.toNat) _ (isUint64_toNat n)
      rwa [Int.toNat_natCast, UInt64.ofNat_toNat] at hread
  | .int32, _, n => by
      have hread := @getNumber_int _ _ Int32.ofInt _ (isInt_toInt n)
      rwa [Int32.ofInt_toInt] at hread
  | .uint32, _, n => by
      have hread := @getNumber_int _ _ (fun n => UInt32.ofNat n.toNat) _ (isUint_toNat n)
      rwa [Int.toNat_natCast, UInt32.ofNat_toNat] at hread
  | .bool, _, _ => rfl
  | .string, _, _ => rfl
  | .bytes, _, s => by
      change (Bin2Ascii.b64_decode (utf8 (chars (Bin2Ascii.b64_encode s)))).mapError _ = _
      rw [utf8_chars fun _ => Bin2Ascii.lt_of_mem_b64_encode, Bin2Ascii.b64_decode_encode]
      rfl
  | .enum first others, _, number => by
      change json2enum first others (.int number.val.toInt) = _
      rw [json2enum, if_pos (isInt_toInt number.val), Int32.ofInt_toInt, FindValueByNumber,
        dif_pos number.property]
      rfl
  | .message descriptor, h, m => parse_members_parse_fields descriptor h m

/-- Reading the members that were written sets all fields. -/
theorem parse_members_parse_fields : ∀ (descriptor : Descriptor), descriptor.WellFormed →
    ∀ m : descriptor.Message,
      parse_members (parse_fields descriptor m) descriptor descriptor.unset =
        .ok (descriptor.fill m)
  | .nil, _, _ => rfl
  | .field name .optional type rest, h, (none, m) => by
      have hne : ∀ member ∈ parse_fields rest m, name ≠ member.1 := by
        rintro member hmem rfl
        exact h.1 ((map_fst_parse_fields_sublist rest m).subset (List.mem_map_of_mem hmem))
      rw [parse_fields, Descriptor.unset, parse_members_of_notMem hne,
        parse_members_parse_fields rest h.2.2 m]
      rfl
  | .field name .optional type rest, h, (some v, m) => by
      have hname := fun hmem => h.1 ((map_fst_parse_fields_sublist rest m).subset hmem)
      have hv := json2field_value2json type h.2.1 v
      exact parse_members_cons hname (parse_member_singular (value2json_ne_null type v) hv).1
        (parse_members_parse_fields rest h.2.2 m)
  | .field name .required type rest, h, (v, m) => by
      have hname := fun hmem => h.1 ((map_fst_parse_fields_sublist rest m).subset hmem)
      have hv := json2field_value2json type h.2.1 (v.getD type.default)
      exact parse_members_cons hname (parse_member_singular (value2json_ne_null type _) hv).2
        (parse_members_parse_fields rest h.2.2 m)
  | .field name .repeated type rest, h, (vs, m) => by
      have hname := fun hmem => h.1 ((map_fst_parse_fields_sublist rest m).subset hmem)
      have hvs := json2items_map (json2field_value2json type h.2.1) vs []
      exact parse_members_cons hname hvs (parse_members_parse_fields rest h.2.2 m)

end

/-- **The round trip.**  What is written of a message is read back as the message with its
required fields set, which is the message itself if they were. -/
theorem jsonobject2pb_pb2jsonobject {descriptor : Descriptor} (h : descriptor.WellFormed)
    (m : descriptor.Message) :
    jsonobject2pb (pb2jsonobject descriptor m) descriptor descriptor.unset =
        .ok (descriptor.fill m) ∧
      (descriptor.Initialized m → descriptor.fill m = m) :=
  ⟨parse_members_parse_fields descriptor h m, descriptor.fill_eq_self⟩

end OpenC2X.PbJson
