import OpenC2X.Lib.JavaScript
import OpenC2X.Ldm.AccessCategories

/-!
# Requests for the DccInfos

The HTTP server answers the web site with JSON.  For the state of DCC it requests the DccInfos
of the LDM and puts their texts together by hand: four messages make one object, with the keys
Cat0 to Cat3, and all these objects are in the array `msgs`.  How a message is written is
`pb2json`, a parameter.

The web site takes an access category by its key.  That this is the right one depends on the
order in which the LDM replies.
-/

namespace OpenC2X.HttpServer

open Buffers Ldm Json

/-! ## The HTTP server

In the literals, `\x7b` and `\x7d` are the braces. -/

section

variable (pb2json : DccInfo → String)

/-- The loop over the messages of one object, with the counter `j`. -/
def appendCats (data : List DccInfo) (i j : ℕ) (json : String) : String :=
  if h : j < 4 ∧ i + j < data.length then
    let tempJson := pb2json data[i + j]
    if 0 < j then
      appendCats data i (j + 1) (json ++ (",\"Cat" ++ toString j ++ "\" :") ++ tempJson)
    else
      appendCats data i (j + 1) (json ++ ("\"Cat" ++ toString j ++ "\" :") ++ tempJson)
  else
    json
termination_by 4 - j

/-- The loop over all messages, with the counter `i`. -/
def appendMsgs (data : List DccInfo) (i : ℕ) (json : String) : String :=
  if i < data.length then
    let json := if 0 < i then json ++ "," else json
    let json := appendCats pb2json data i 0 (json ++ "\x7b")
    appendMsgs data (i + 4) (json ++ "\x7d")
  else
    json
termination_by data.length - i

/-- The reply of the LDM is `none` if there is none in time. -/
def requestDccInfo (reply : Option (LdmData DccInfo)) : String :=
  match reply with
  | some ldmData =>
      if ldmData.data.length % 4 = 0 then
        let json := "\x7b\"type\":\"dccInfo\",\"number\":" ++ toString (ldmData.data.length / 4) ++
          ",\"msgs\":["
        appendMsgs pb2json ldmData.data 0 json ++ "]\x7d"
      else
        -- received invalid DccInfo
        ""
  | none => ""

end

/-! ## The web site -/

/-- What the web site shows of an access category. -/
def acTable (info : JsValue) : List (String × Option JsValue) :=
  [("category ", info.get? "accessCategory".toList),
   ("state           ", info.get? "state".toList),
   ("time            ", info.get? "time".toList),
   ("token interval  ", info.get? "tokenInterval".toList),
   ("available tokens", info.get? "availableTokens".toList),
   ("channel load    ", info.get? "channelLoad".toList)]

/-- The table that is made of `data.msgs[0][cat]`. -/
def requestAC (ac cat : String) (data : JsValue) :
    Option (String × List (String × Option JsValue)) := do
  let msgs ← data.get? "msgs".toList
  let msg ← msgs.getItem? 0
  let info ← msg.get? cat.toList
  return (ac, acTable info)

def requestAC_BE : JsValue → Option (String × List (String × Option JsValue)) :=
  requestAC "AC_BE" "Cat0"

def requestAC_VI : JsValue → Option (String × List (String × Option JsValue)) :=
  requestAC "AC_VI" "Cat2"

/-! ## Groups of four -/

section

variable {α β γ : Type}

/-- A function of every four elements. -/
def fours (f : α → α → α → α → β) : List α → List β
  | a :: b :: c :: d :: rest => f a b c d :: fours f rest
  | _ => []

theorem fours_nil (f : α → α → α → α → β) : fours f [] = [] := rfl

/-- Induction over the lists that are made of groups of four. -/
theorem fours_induction {P : (l : List α) → 4 ∣ l.length → Prop} (nil : ∀ h, P [] h)
    (cons : ∀ a b c d rest h hrest, P rest hrest → P (a :: b :: c :: d :: rest) h) :
    ∀ (l : List α) (h : 4 ∣ l.length), P l h
  | [], h => nil h
  | a :: b :: c :: d :: rest, h => by
      have hrest : 4 ∣ rest.length := by
        simp only [List.length_cons] at h
        omega
      exact cons a b c d rest h hrest (fours_induction nil cons rest hrest)
  | [_], h | [_, _], h | [_, _, _], h => by
      simp only [List.length_cons, List.length_nil] at h
      omega

variable {l : List α} {f : α → α → α → α → β}

theorem length_fours (h : 4 ∣ l.length) : (fours f l).length = l.length / 4 := by
  induction l, h using fours_induction with
  | nil h => exact (Nat.zero_div 4).symm
  | cons a b c d rest h hrest ih =>
      rw [fours, List.length_cons, ih]
      simp only [List.length_cons]
      omega

theorem getElem?_fours (h : 4 ∣ l.length) {i : ℕ} (hi : 4 * i + 3 < l.length) :
    (fours f l)[i]? = some (f l[4 * i] l[4 * i + 1] l[4 * i + 2] l[4 * i + 3]) := by
  induction l, h using fours_induction generalizing i with
  | nil h => cases hi
  | cons a b c d rest h hrest ih =>
      cases i with
      | zero => rfl
      | succ i =>
          have hi' : 4 * i + 3 < rest.length := by
            simp only [List.length_cons] at hi
            omega
          rw [fours, List.getElem?_cons_succ, ih hi']
          rfl

theorem flatMap_fours (h : 4 ∣ l.length) {g : β → List γ} {k : α → γ}
    (hg : ∀ a b c d, g (f a b c d) = [k a, k b, k c, k d]) :
    (fours f l).flatMap g = l.map k := by
  induction l, h using fours_induction with
  | nil h => rfl
  | cons a b c d rest h hrest ih =>
      rw [fours, List.flatMap_cons, hg, ih]
      rfl

theorem forall₂_fours {R : β → γ → Prop} {g : α → α → α → α → γ} (h : 4 ∣ l.length)
    (hR : ∀ a ∈ l, ∀ b ∈ l, ∀ c ∈ l, ∀ d ∈ l, R (f a b c d) (g a b c d)) :
    List.Forall₂ R (fours f l) (fours g l) := by
  induction l, h using fours_induction with
  | nil h => exact List.Forall₂.nil
  | cons a b c d rest h hrest ih =>
      have hrest' : ∀ x ∈ rest, x ∈ a :: b :: c :: d :: rest := fun x hx => by simp [hx]
      refine List.Forall₂.cons (hR a (by simp) b (by simp) c (by simp) d (by simp)) (ih ?_)
      intro a' ha b' hb c' hc d' hd
      exact hR a' (hrest' a' ha) b' (hrest' b' hb) c' (hrest' c' hc) d' (hrest' d' hd)

end

/-! ## The text -/

section

variable (pb2json : DccInfo → String)

/-- A member of an object in `msgs`. -/
def catText (j : ℕ) (m : DccInfo) : List Char :=
  '"' :: ("Cat".toList ++ Nat.toDigits 10 j ++ '"' :: ([' '] ++ ':' :: (pb2json m).toList))

/-- An object in `msgs`. -/
def msgText (a b c d : DccInfo) : List Char :=
  '{' :: ([','].intercalate [catText pb2json 0 a, catText pb2json 1 b, catText pb2json 2 c,
    catText pb2json 3 d] ++ ['}'])

variable {pb2json} {data rest : List DccInfo} {i : ℕ}

/-- An iteration of the inner loop. -/
theorem exists_appendCats {j : ℕ} {m : DccInfo} (hj : j < 4) (hm : data[i + j]? = some m)
    (json : String) :
    ∃ json', appendCats pb2json data i j json = appendCats pb2json data i (j + 1) json' ∧
      json'.toList = json.toList ++ (if 0 < j then [','] else []) ++ catText pb2json j m := by
  obtain ⟨hlt, rfl⟩ := List.getElem?_eq_some_iff.mp hm
  have hkey : ("\"Cat" ++ toString j ++ "\" :").toList =
      '"' :: ("Cat".toList ++ Nat.toDigits 10 j ++ ['"', ' ', ':']) := by
    have hcat : "\"Cat".toList = '"' :: "Cat".toList := rfl
    have hdigits : (toString j).toList = Nat.toDigits 10 j := Nat.toList_repr
    rw [String.toList_append, String.toList_append, hcat, hdigits]
    rfl
  rw [appendCats, dif_pos ⟨hj, hlt⟩]
  split
  next hpos =>
    have hcomma : ",\"Cat" ++ toString j ++ "\" :" = "," ++ ("\"Cat" ++ toString j ++ "\" :") := by
      rw [← String.append_assoc, ← String.append_assoc]
      rfl
    refine ⟨_, rfl, ?_⟩
    rw [hcomma, String.toList_append, String.toList_append, String.toList_append, hkey, catText]
    simp only [List.append_assoc, List.cons_append, List.nil_append]
    rfl
  next =>
    refine ⟨_, rfl, ?_⟩
    rw [String.toList_append, String.toList_append, hkey, catText]
    simp only [List.append_assoc, List.cons_append, List.nil_append]

/-- The loop writes four members. -/
theorem toList_appendCats {a b c d : DccInfo} (ha : data[i]? = some a) (hb : data[i + 1]? = some b)
    (hc : data[i + 2]? = some c) (hd : data[i + 3]? = some d) (json : String) :
    (appendCats pb2json data i 0 json).toList =
      json.toList ++ [','].intercalate [catText pb2json 0 a, catText pb2json 1 b,
        catText pb2json 2 c, catText pb2json 3 d] := by
  obtain ⟨json₁, h₀, hjson₁⟩ := exists_appendCats (j := 0) (by omega) ha json
  obtain ⟨json₂, h₁, hjson₂⟩ := exists_appendCats (j := 1) (by omega) hb json₁
  obtain ⟨json₃, h₂, hjson₃⟩ := exists_appendCats (j := 2) (by omega) hc json₂
  obtain ⟨json₄, h₃, hjson₄⟩ := exists_appendCats (j := 3) (by omega) hd json₃
  have h₄ : appendCats pb2json data i 4 json₄ = json₄ := by
    rw [appendCats, dif_neg (by omega)]
  rw [h₀, h₁, h₂, h₃, h₄, hjson₄, hjson₃, hjson₂, hjson₁]
  simp only [List.intercalate_cons_cons, List.intercalate_singleton, List.append_assoc]
  rfl

/-- An iteration of the outer loop. -/
theorem exists_appendMsgs {a b c d : DccInfo} (hdata : data.drop i = a :: b :: c :: d :: rest)
    (json : String) :
    ∃ json', appendMsgs pb2json data i json = appendMsgs pb2json data (i + 4) json' ∧
      json'.toList = json.toList ++ (if 0 < i then [','] else []) ++ msgText pb2json a b c d := by
  have hget : ∀ k, data[i + k]? = (a :: b :: c :: d :: rest)[k]? := by
    intro k
    rw [← hdata, List.getElem?_drop]
  have ha : data[i]? = some a := hget 0
  have hlength : i < data.length := (List.getElem?_eq_some_iff.mp ha).1
  rw [appendMsgs, if_pos hlength]
  refine ⟨_, rfl, ?_⟩
  rw [String.toList_append, toList_appendCats ha (hget 1) (hget 2) (hget 3), String.toList_append,
    msgText]
  split
  · rw [String.toList_append]
    simp only [List.append_assoc]
    rfl
  · simp only [List.append_assoc]
    rfl

/-- Behind the first object, the loop writes the others with a comma each. -/
theorem toList_appendMsgs (hrest : 4 ∣ rest.length) (hdata : data.drop i = rest) (hi : 0 < i)
    (json : String) :
    (appendMsgs pb2json data i json).toList =
      json.toList ++ ((fours (msgText pb2json) rest).map fun text => ',' :: text).flatten := by
  induction rest, hrest using fours_induction generalizing i json with
  | nil h =>
      have hend : ¬ i < data.length := not_lt.mpr (List.drop_eq_nil_iff.mp hdata)
      rw [appendMsgs, if_neg hend, fours_nil, List.map_nil, List.flatten_nil, List.append_nil]
  | cons a b c d rest h hrest ih =>
      have hdrop : data.drop (i + 4) = rest := by
        rw [← List.drop_drop, hdata]
        rfl
      obtain ⟨json', hstep, hjson'⟩ := exists_appendMsgs hdata json
      rw [hstep, ih hdrop (by omega), hjson', if_pos hi, fours, List.map_cons, List.flatten_cons]
      simp only [List.append_assoc, List.cons_append, List.nil_append]

theorem toList_appendMsgs_zero (h : 4 ∣ data.length) (json : String) :
    (appendMsgs pb2json data 0 json).toList =
      json.toList ++ [','].intercalate (fours (msgText pb2json) data) := by
  induction data, h using fours_induction with
  | nil h =>
      have hend : ¬ 0 < ([] : List DccInfo).length := Nat.lt_irrefl 0
      rw [appendMsgs, if_neg hend, fours_nil, List.intercalate_nil, List.append_nil]
  | cons a b c d rest h hrest _ =>
      obtain ⟨json', hstep, hjson'⟩ := exists_appendMsgs (i := 0) rfl json
      rw [hstep, toList_appendMsgs hrest rfl (by omega), hjson', if_neg (Nat.lt_irrefl 0), fours,
        intercalate_cons, List.append_nil, List.append_assoc]

/-- The text that answers the web site. -/
theorem toList_requestDccInfo {type : LdmData.Type} (h : 4 ∣ data.length) :
    (requestDccInfo pb2json (some ⟨type, data⟩)).toList =
      '{' :: ([','].intercalate
        ['"' :: ("type".toList ++ '"' :: ([] ++ ':' :: ('"' :: ("dccInfo".toList ++ ['"'])))),
         '"' :: ("number".toList ++ '"' :: ([] ++ ':' :: Nat.toDigits 10 (data.length / 4))),
         '"' :: ("msgs".toList ++ '"' :: ([] ++ ':' ::
           ('[' :: ([','].intercalate (fours (msgText pb2json) data) ++ [']']))))] ++ ['}']) := by
  have hhead : "\x7b\"type\":\"dccInfo\",\"number\":".toList =
      '{' :: '"' :: ("type".toList ++ '"' :: ':' :: '"' :: ("dccInfo".toList ++
        '"' :: ',' :: '"' :: ("number".toList ++ ['"', ':']))) := rfl
  have hmsgs : ",\"msgs\":[".toList = ',' :: '"' :: ("msgs".toList ++ ['"', ':', '[']) := rfl
  have hnumber : (toString (data.length / 4)).toList = Nat.toDigits 10 (data.length / 4) :=
    Nat.toList_repr
  rw [requestDccInfo, if_pos (Nat.mod_eq_zero_of_dvd h), String.toList_append,
    toList_appendMsgs_zero h, String.toList_append, String.toList_append, hhead, hnumber, hmsgs]
  simp only [List.intercalate_cons_cons, List.intercalate_singleton, List.append_assoc,
    List.cons_append, List.nil_append]
  rfl

end

/-! ## The value -/

/-- An object in `msgs`. -/
def msgValue (value : DccInfo → Json) (a b c d : DccInfo) : Json :=
  .object [("Cat0".toList, value a), ("Cat1".toList, value b), ("Cat2".toList, value c),
    ("Cat3".toList, value d)]

/-- The members' values of an object. -/
def memberValues : Json → List Json
  | .object ms => ms.map Prod.snd
  | _ => []

/-- The answer to the web site with these objects. -/
def dccInfoValue (number : ℕ) (msgs : List Json) : Json :=
  .object [("type".toList, .string "dccInfo".toList), ("number".toList, .number number 0),
    ("msgs".toList, .array msgs)]

/-- The text has the messages in groups of four: the object at `i` has the keys Cat0 to Cat3
with the messages from `4 * i` on, and all objects together have every message once, in the
order of the list. -/
def GroupsByFour (value : DccInfo → Json) (data : List DccInfo) (text : String) : Prop :=
  ∃ msgs, Denotes text.toList (dccInfoValue (data.length / 4) msgs) ∧
    msgs.length = data.length / 4 ∧
    (∀ i (hi : 4 * i + 3 < data.length), msgs[i]? =
      some (msgValue value data[4 * i] data[4 * i + 1] data[4 * i + 2] data[4 * i + 3])) ∧
    msgs.flatMap memberValues = data.map value

section

variable {pb2json : DccInfo → String} {value : DccInfo → Json} {data : List DccInfo}

theorem isMember_catText {j : ℕ} {m : DccInfo} {v : Json} {key : List Char}
    (hkey : "Cat".toList ++ Nat.toDigits 10 j = key) (hplain : key.all isPlain = true)
    (h : IsItem (pb2json m).toList v) : IsMember (catText pb2json j m) (key, v) := by
  rw [catText, hkey]
  exact isMember hplain (by decide) h

theorem isItem_msgText {a b c d : DccInfo} (ha : IsItem (pb2json a).toList (value a))
    (hb : IsItem (pb2json b).toList (value b)) (hc : IsItem (pb2json c).toList (value c))
    (hd : IsItem (pb2json d).toList (value d)) :
    IsItem (msgText pb2json a b c d) (msgValue value a b c d) := by
  apply IsValue.isItem
  apply isValue_object
  refine List.Forall₂.cons (isMember_catText rfl (by decide) ha) ?_
  refine List.Forall₂.cons (isMember_catText rfl (by decide) hb) ?_
  refine List.Forall₂.cons (isMember_catText rfl (by decide) hc) ?_
  exact List.Forall₂.cons (isMember_catText rfl (by decide) hd) List.Forall₂.nil

theorem denotes_requestDccInfo {type : LdmData.Type}
    (hjson : ∀ m ∈ data, IsItem (pb2json m).toList (value m)) (h : 4 ∣ data.length) :
    Denotes (requestDccInfo pb2json (some ⟨type, data⟩)).toList
      (dccInfoValue (data.length / 4) (fours (msgValue value) data)) := by
  have htype : IsItem ('"' :: ("dccInfo".toList ++ ['"'])) (.string "dccInfo".toList) :=
    (isValue_string (by decide)).isItem
  have hmsgs : IsItem ('[' :: ([','].intercalate (fours (msgText pb2json) data) ++ [']']))
      (.array (fours (msgValue value) data)) := by
    apply IsValue.isItem
    apply isValue_array
    apply forall₂_fours h
    intro a ha b hb c hc d hd
    exact isItem_msgText (hjson a ha) (hjson b hb) (hjson c hc) (hjson d hd)
  rw [toList_requestDccInfo h]
  apply IsValue.denotes
  apply isValue_object
  refine List.Forall₂.cons (isMember (by decide) rfl htype) ?_
  refine List.Forall₂.cons (isMember (by decide) rfl (isItem_toDigits _)) ?_
  exact List.Forall₂.cons (isMember (by decide) rfl hmsgs) List.Forall₂.nil

theorem groupsByFour_requestDccInfo {type : LdmData.Type}
    (hjson : ∀ m ∈ data, IsItem (pb2json m).toList (value m)) (h : 4 ∣ data.length) :
    GroupsByFour value data (requestDccInfo pb2json (some ⟨type, data⟩)) :=
  ⟨fours (msgValue value) data, denotes_requestDccInfo hjson h, length_fours h,
    fun _ hi => getElem?_fours h hi, flatMap_fours h fun _ _ _ _ => rfl⟩

end

/-! ## The access categories -/

/-- The messages are those of BE, BK, VI and VO in this order, the text has them as Cat0 to Cat3
of its only object, and the web site shows the categories that it means. -/
def ShowsCategories (value : DccInfo → Json) (data : List DccInfo) (text : String) : Prop :=
  ∃ be bk vi vo json, data = [be, bk, vi, vo] ∧
    data.map DccInfo.accesscategory = ["BE", "BK", "VI", "VO"] ∧
    Denotes text.toList json ∧ json = dccInfoValue 1 [msgValue value be bk vi vo] ∧
    requestAC_BE (.ofJson json) = some ("AC_BE", acTable (.ofJson (value be))) ∧
    requestAC_VI (.ofJson json) = some ("AC_VI", acTable (.ofJson (value vi)))

theorem showsCategories_requestDccInfo {pb2json : DccInfo → String} {value : DccInfo → Json}
    {reply : LdmData DccInfo} (hjson : ∀ m ∈ reply.data, IsItem (pb2json m).toList (value m))
    (hcategories : reply.data.map DccInfo.accesscategory = accessCategories) :
    ShowsCategories value reply.data (requestDccInfo pb2json (some reply)) := by
  obtain ⟨type, data⟩ := reply
  have hlength : data.length = 4 := by
    rw [← List.length_map DccInfo.accesscategory, hcategories]
    rfl
  have hnumber : data.length / 4 = 1 := by omega
  have hdenotes : Denotes (requestDccInfo pb2json (some ⟨type, data⟩)).toList
      (dccInfoValue (data.length / 4) (fours (msgValue value) data)) :=
    denotes_requestDccInfo hjson ⟨1, hlength⟩
  rw [hnumber] at hdenotes
  obtain ⟨be, bk, vi, vo, rfl⟩ := List.length_eq_four.mp hlength
  exact ⟨be, bk, vi, vo, _, rfl, hcategories, hdenotes, rfl, rfl, rfl⟩

/-! ### Messages with a category alone -/

/-- `pb2json` writes the fields that are set. -/
def categoryJson (m : DccInfo) : String :=
  "\x7b\"accessCategory\":\"" ++ m.accesscategory ++ "\"\x7d"

def categoryMembers (m : DccInfo) : List (List Char × Json) :=
  [("accessCategory".toList, .string m.accesscategory.toList)]

theorem denotes_categoryJson {m : DccInfo}
    (h : m.accesscategory.toList.all isPlain = true) :
    Denotes (categoryJson m).toList (.object (categoryMembers m)) := by
  have hhead : "\x7b\"accessCategory\":\"".toList =
      '{' :: '"' :: ("accessCategory".toList ++ ['"', ':', '"']) := rfl
  have htail : "\"\x7d".toList = ['"', '}'] := rfl
  have htext : (categoryJson m).toList =
      '{' :: ([','].intercalate ['"' :: ("accessCategory".toList ++ '"' :: ([] ++ ':' ::
        ('"' :: (m.accesscategory.toList ++ ['"']))))] ++ ['}']) := by
    have hsplit : (categoryJson m).toList =
        "\x7b\"accessCategory\":\"".toList ++ m.accesscategory.toList ++ "\"\x7d".toList :=
      String.toList_append.trans (congrArg (fun l => l ++ "\"\x7d".toList) String.toList_append)
    rw [hsplit, hhead, htail, List.intercalate_singleton]
    simp only [List.append_assoc, List.cons_append, List.nil_append]
  have hmember : IsMember ('"' :: ("accessCategory".toList ++ '"' :: ([] ++ ':' ::
      ('"' :: (m.accesscategory.toList ++ ['"'])))))
      ("accessCategory".toList, .string m.accesscategory.toList) :=
    isMember (by decide) rfl (isValue_string h).isItem
  rw [htext]
  exact (isValue_object (List.Forall₂.cons hmember List.Forall₂.nil)).denotes

theorem denotes_of_mem_categories {m : DccInfo} (h : m.accesscategory ∈ accessCategories) :
    Denotes (categoryJson m).toList (.object (categoryMembers m)) := by
  have hplain : ∀ category ∈ accessCategories, category.toList.all isPlain = true := by decide
  exact denotes_categoryJson (hplain m.accesscategory h)

def categoryInfo (category : String) : DccInfo := { accessCategory := some category }

/-- The categories come in another order, one of them twice. -/
def categoryOperations : List DccInfoOperation :=
  [.receive (categoryInfo "VO"), .receive (categoryInfo "BE"), .request "latest",
   .receive (categoryInfo "VI"), .receive (categoryInfo "BK"), .receive (categoryInfo "BE")]

/-! ### All messages -/

/-- The answer to the web site has the DccInfos of the LDM in groups of four.  If an LDM has
received messages of the categories BE, BK, VI and VO and of no other, since it was started or
before, a reply with all of them shows every category in its place. -/
theorem dccInfo_grouping (pb2json : DccInfo → String)
    (members : DccInfo → List (List Char × Json)) :
    (∀ type data, (∀ m ∈ data, Denotes (pb2json m).toList (.object (members m))) →
      4 ∣ data.length →
      GroupsByFour (fun m => .object (members m)) data
        (requestDccInfo pb2json (some ⟨type, data⟩))) ∧
    ∀ sqlite ldm operations condition, ldm.dccInfoCache = Cache.empty →
      (∀ row ∈ ldm.tables.dccInfo.rows,
        (readDccInfo sqlite row).accesscategory ∈ accessCategories) →
      (∀ m ∈ DccInfoOperation.allReceived operations, m.accesscategory ∈ accessCategories) →
      let reply := (dccInfoSelect sqlite condition
        (DccInfoOperation.performAll sqlite ldm operations).dccInfoStore).1
      (∀ m ∈ reply.data, Denotes (pb2json m).toList (.object (members m))) →
      (∀ category ∈ accessCategories,
          ∃ m ∈ DccInfoOperation.allReceived operations, m.accesscategory = category) ∨
        reply.data ≠ [] ∧ 4 ∣ reply.data.length →
      ShowsCategories (fun m => .object (members m)) reply.data
        (requestDccInfo pb2json (some reply)) := by
  have hitem : ∀ {m}, Denotes (pb2json m).toList (.object (members m)) →
      IsItem (pb2json m).toList (.object (members m)) :=
    fun h => IsItem.of_denotes h fun _ _ => nofun
  constructor
  · intro type data hjson h
    exact groupsByFour_requestDccInfo (fun m hm => hitem (hjson m hm)) h
  intro sqlite ldm operations condition hempty hrows hreceived reply hjson hall
  apply showsCategories_requestDccInfo fun m hm => hitem (hjson m hm)
  have honly : OnlyCategories sqlite (DccInfoOperation.performAll sqlite ldm operations) :=
    (onlyCategories_of_empty hempty hrows).run hreceived
  apply honly.map_reply
  rcases hall with hall | ⟨hne, hdvd⟩
  · left
    intro category hcategory
    obtain ⟨m, hm, rfl⟩ := hall category hcategory
    exact entry_of_received hm
  · right
    exact Nat.le_of_dvd (List.length_pos_of_ne_nil hne) hdvd

theorem dccInfo_grouping_categories :
    GroupsByFour (fun m => .object (categoryMembers m)) (accessCategories.map categoryInfo)
      (requestDccInfo categoryJson (some ⟨.dccInfo, accessCategories.map categoryInfo⟩)) ∧
    let reply := (dccInfoSelect exactSqlite "latest"
      (DccInfoOperation.performAll exactSqlite .new categoryOperations).dccInfoStore).1
    ShowsCategories (fun m => .object (categoryMembers m)) reply.data
      (requestDccInfo categoryJson (some reply)) := by
  obtain ⟨hgroups, hshows⟩ := dccInfo_grouping categoryJson categoryMembers
  have hreceived : ∀ m ∈ DccInfoOperation.allReceived categoryOperations,
      m.accesscategory ∈ accessCategories := by decide
  have hall : ∀ category ∈ accessCategories,
      ∃ m ∈ DccInfoOperation.allReceived categoryOperations, m.accesscategory = category := by
    decide
  have hrows : ∀ row ∈ LDM.new.tables.dccInfo.rows,
      (readDccInfo exactSqlite row).accesscategory ∈ accessCategories :=
    fun row hrow => absurd hrow List.not_mem_nil
  refine ⟨hgroups .dccInfo _ ?_ (by decide), ?_⟩
  · intro m hm
    obtain ⟨category, hcategory, rfl⟩ := List.mem_map.mp hm
    exact denotes_of_mem_categories hcategory
  · refine hshows exactSqlite .new categoryOperations "latest" rfl hrows hreceived ?_ (.inl hall)
    have honly : OnlyCategories exactSqlite
        (DccInfoOperation.performAll exactSqlite .new categoryOperations) :=
      (onlyCategories_of_empty rfl hrows).run hreceived
    have hentries : ∀ category ∈ accessCategories,
        (DccInfoOperation.performAll exactSqlite .new
          categoryOperations).dccInfoCache.get? category ≠ none := by
      intro category hcategory
      obtain ⟨m, hm, rfl⟩ := hall category hcategory
      exact entry_of_received hm
    intro m hm
    apply denotes_of_mem_categories
    rw [← honly.map_reply "latest" (.inl hentries)]
    exact List.mem_map_of_mem hm

end OpenC2X.HttpServer
