import OpenC2X.HttpServer.Descriptors

/-!
# Requests for messages

For CAMs, DENMs, GPS data, OBD2 data and CamInfos the HTTP server answers in the same way: the
messages in the reply of the LDM are written one after the other into the array `msgs`, beside
their type and their number.  The text denotes an object with a value for every message, in the
order of the reply, and no text is made of no reply.
-/

namespace OpenC2X.HttpServer

open Buffers Json

/-! ## The HTTP server

In the literals, `\x7b` and `\x7d` are the braces. -/

section

variable {M : Type} (pb2json : M → String)

/-- The loop over the messages, with the counter `i`. -/
def appendAll (data : List M) (i : ℕ) (json : String) : String :=
  if h : i < data.length then
    let tempJson := pb2json data[i]
    if 0 < i then
      appendAll data (i + 1) (json ++ ("," ++ tempJson))
    else
      appendAll data (i + 1) (json ++ tempJson)
  else
    json
termination_by data.length - i

/-- The answer to a request; the reply of the LDM is `none` if there is none in time. -/
def requestAll (type : String) (reply : Option (LdmData M)) : String :=
  match reply with
  | some ldmData =>
      let json := "\x7b\"type\":\"" ++ type ++ "\",\"number\":" ++ toString ldmData.data.length ++
        ",\"msgs\":["
      appendAll pb2json ldmData.data 0 json ++ "]\x7d"
  | none => ""

end

section

variable (dtoa : Double → List Char)

def requestCam : Option (LdmData CAM) → String := requestAll (pb2json dtoa) "CAM"

def requestDenm : Option (LdmData DENM) → String := requestAll (pb2json dtoa) "DENM"

def requestGps : Option (LdmData GPS) → String := requestAll (pb2json dtoa) "GPS"

def requestObd2 : Option (LdmData OBD2) → String := requestAll (pb2json dtoa) "OBD2"

end

def myMac (mStationID : UInt32) : String := "\x7b\"myMac\":\"" ++ toString mStationID ++ "\"\x7d"

/-! ## The value of an answer -/

def msgsValue (type : String) (msgs : List Json) : Json :=
  .object [("type".toList, .string type.toList), ("number".toList, .number msgs.length 0),
    ("msgs".toList, .array msgs)]

section

variable {M : Type} {pb2json : M → String} {value : M → Json} {data : List M}

theorem toList_appendAll_of_pos {i : ℕ} (hi : 0 < i) (json : String) :
    (appendAll pb2json data i json).toList =
      json.toList ++ ((data.drop i).map fun m => ',' :: (pb2json m).toList).flatten := by
  induction hn : data.length - i generalizing i json with
  | zero =>
      have hend : ¬ i < data.length := by omega
      rw [appendAll, dif_neg hend, List.drop_eq_nil_iff.mpr (by omega), List.map_nil,
        List.flatten_nil, List.append_nil]
  | succ n ih =>
      have hlt : i < data.length := by omega
      have hcomma : ("," ++ pb2json data[i]).toList = ',' :: (pb2json data[i]).toList :=
        String.toList_append
      rw [appendAll, dif_pos hlt, if_pos hi, ih (by omega) _ (by omega), String.toList_append,
        hcomma, List.drop_eq_getElem_cons hlt, List.map_cons, List.flatten_cons, List.append_assoc]

/-- The loop writes all messages, with commas between them. -/
theorem toList_appendAll (json : String) :
    (appendAll pb2json data 0 json).toList =
      json.toList ++ [','].intercalate (data.map fun m => (pb2json m).toList) := by
  cases data with
  | nil =>
      have hend : ¬ 0 < ([] : List M).length := Nat.lt_irrefl 0
      rw [appendAll, dif_neg hend, List.map_nil, List.intercalate_nil, List.append_nil]
  | cons m data =>
      have hlt : 0 < (m :: data).length := Nat.succ_pos data.length
      rw [appendAll, dif_pos hlt, if_neg (Nat.lt_irrefl 0),
        toList_appendAll_of_pos Nat.one_pos, String.toList_append, List.map_cons,
        intercalate_cons, List.map_map, List.append_assoc]
      rfl

theorem toList_requestAll (type : String) {kind : LdmData.Type} :
    (requestAll pb2json type (some ⟨kind, data⟩)).toList =
      '{' :: ([','].intercalate
        ['"' :: ("type".toList ++ '"' :: ([] ++ ':' :: ('"' :: (type.toList ++ ['"'])))),
         '"' :: ("number".toList ++ '"' :: ([] ++ ':' :: Nat.toDigits 10 data.length)),
         '"' :: ("msgs".toList ++ '"' :: ([] ++ ':' ::
           ('[' :: ([','].intercalate (data.map fun m => (pb2json m).toList) ++ [']']))))] ++
        ['}']) := by
  have hhead : "\x7b\"type\":\"".toList =
      '{' :: '"' :: ("type".toList ++ ['"', ':', '"']) := rfl
  have hnumber : "\",\"number\":".toList = '"' :: ',' :: '"' :: ("number".toList ++ ['"', ':']) :=
    rfl
  have hmsgs : ",\"msgs\":[".toList = ',' :: '"' :: ("msgs".toList ++ ['"', ':', '[']) := rfl
  have hdigits : (toString data.length).toList = Nat.toDigits 10 data.length := Nat.toList_repr
  rw [requestAll, String.toList_append, toList_appendAll]
  simp only [String.toList_append, hhead, hnumber, hmsgs, hdigits, List.intercalate_cons_cons,
    List.intercalate_singleton, List.append_assoc, List.cons_append, List.nil_append]
  rfl

/-- The web site gets a value for every message of the reply, in its order. -/
theorem denotes_requestAll {type : String} {kind : LdmData.Type}
    (hjson : ∀ m ∈ data, IsItem (pb2json m).toList (value m))
    (htype : type.toList.all isPlain = true) :
    Denotes (requestAll pb2json type (some ⟨kind, data⟩)).toList
      (msgsValue type (data.map value)) := by
  have hitems : List.Forall₂ IsItem (data.map fun m => (pb2json m).toList) (data.map value) := by
    rw [List.forall₂_map_left_iff, List.forall₂_map_right_iff]
    exact List.forall₂_same.mpr hjson
  have hlength := isItem_toDigits data.length
  rw [toList_requestAll, msgsValue, List.length_map]
  apply IsValue.denotes
  apply isValue_object
  refine List.Forall₂.cons (isMember (by decide) rfl (isValue_string htype).isItem) ?_
  refine List.Forall₂.cons (isMember (by decide) rfl hlength) ?_
  exact List.Forall₂.cons (isMember (by decide) rfl (isValue_array hitems).isItem) .nil

end

theorem denotes_myMac (mStationID : UInt32) :
    Denotes (myMac mStationID).toList
      (.object [("myMac".toList, .string (Nat.toDigits 10 mStationID.toNat))]) := by
  have hhead : "\x7b\"myMac\":\"".toList =
      '{' :: '"' :: ("myMac".toList ++ '"' :: ([] ++ [':', '"'])) := rfl
  have hdigits : (toString mStationID).toList = Nat.toDigits 10 mStationID.toNat :=
    Nat.toList_repr
  have htext : (myMac mStationID).toList =
      '{' :: ([','].intercalate ['"' :: ("myMac".toList ++ '"' :: ([] ++ ':' ::
        ('"' :: (Nat.toDigits 10 mStationID.toNat ++ ['"']))))] ++ ['}']) := by
    rw [myMac, String.toList_append, String.toList_append, hhead, hdigits,
      List.intercalate_singleton]
    simp only [List.append_assoc, List.cons_append, List.nil_append]
    rfl
  have hplain : (Nat.toDigits 10 mStationID.toNat).all isPlain = true :=
    List.all_eq_true.mpr fun c hc =>
      isPlain_of_isDigit (Nat.isDigit_of_mem_toDigits (by omega) (by omega) hc)
  rw [htext]
  exact (isValue_object (.cons (isMember (by decide) rfl (isValue_string hplain).isItem)
    .nil)).denotes

/-! ## Doubles with two decimal places -/

/-- How `dtoa` writes a number with two decimal places at most. -/
def writeCents (d : Double) : List Char :=
  let x := d.toRat
  let n := ⌊|x| * 100⌋.toNat
  Decimal.withSign (x < 0) (Nat.toDigits 10 (n / 100) ++ '.' ::
    if n % 10 = 0 then Decimal.padded 1 (n % 100 / 10) else Decimal.padded 2 (n % 100))

example : [0, 4 / 100, 33, -95].map (fun x => writeCents (.finite x)) =
    ["0.0", "0.04", "33.0", "-95.0"].map String.toList := by decide +kernel

def centsJson (d : Double) : Json :=
  let x := d.toRat
  let n := ⌊|x| * 100⌋.toNat
  let frac := if n % 10 = 0 then Decimal.padded 1 (n % 100 / 10) else Decimal.padded 2 (n % 100)
  .number ((if decide (x < 0) then -1 else 1) *
    (Nat.ofDigitChars 10 (Nat.toDigits 10 (n / 100) ++ frac) 0 : ℤ)) (-(frac.length : ℤ))

theorem isItem_writeCents (x : Double) : Json.IsItem (writeCents x) (centsJson x) := by
  have hpadded : ∀ width n, 0 < width → Decimal.padded width n ≠ [] ∧
      (Decimal.padded width n).all Char.isDigit = true := by
    intro width n hwidth
    refine ⟨?_, List.all_eq_true.mpr fun c hc => Decimal.isDigit_of_mem_padded hc⟩
    rw [Decimal.padded, ← List.length_pos_iff, List.length_leftpad]
    exact lt_max_of_lt_left hwidth
  unfold writeCents centsJson
  dsimp only
  split
  · exact Json.isItem_decimal _ _ (hpadded 1 _ one_pos).1 (hpadded 1 _ one_pos).2
  · exact Json.isItem_decimal _ _ (hpadded 2 _ two_pos).1 (hpadded 2 _ two_pos).2

end OpenC2X.HttpServer
