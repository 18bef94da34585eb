import OpenC2X.Common.Communication
import Mathlib.Algebra.Order.Ring.Nat
import Mathlib.Tactic.Common

/-!
# Base 64

Bytes as text: three bytes are 24 bits, and these are four letters of six bits each.  What is
missing at the end is filled up with `=`.  Decoding undoes this, and it accepts every text of
full groups of letters, with `=` as a letter for zero in any place.
-/

namespace OpenC2X.Bin2Ascii

/-! ## The code -/

/-- The table of `b64_encode`. -/
def lookup : Bytes :=
  (['A', 'B', 'C', 'D', 'E', 'F', 'G', 'H', 'I', 'J', 'K', 'L', 'M', 'N', 'O', 'P', 'Q', 'R', 'S',
    'T', 'U', 'V', 'W', 'X', 'Y', 'Z', 'a', 'b', 'c', 'd', 'e', 'f', 'g', 'h', 'i', 'j', 'k', 'l',
    'm', 'n', 'o', 'p', 'q', 'r', 's', 't', 'u', 'v', 'w', 'x', 'y', 'z', '0', '1', '2', '3', '4',
    '5', '6', '7', '8', '9', '+', '/'] : List Char).map Char.toUInt8

/-- The character `=`. -/
def pad : UInt8 := 0x3d

def letter (n : ℕ) : UInt8 := lookup.getD n 0

/-- `(u1)(n >> shift) & 0x3f` -/
def sextet (n shift : ℕ) : ℕ := (n >>> shift) % 256 &&& 0x3f

/-- The letters of all groups, of which the last one may be short. -/
def b64_encodeGroups : Bytes → Bytes
  | [] => []
  | [a] =>
      let n := a.toNat <<< 16
      [letter (sextet n 18), letter (sextet n 12)]
  | [a, b] =>
      let n := a.toNat <<< 16 ||| b.toNat <<< 8
      [letter (sextet n 18), letter (sextet n 12), letter (sextet n 6)]
  | a :: b :: c :: rest =>
      let n := a.toNat <<< 16 ||| b.toNat <<< 8 ||| c.toNat
      letter (sextet n 18) :: letter (sextet n 12) :: letter (sextet n 6) ::
        letter (sextet n 0) :: b64_encodeGroups rest

def b64_encode (s : Bytes) : Bytes :=
  b64_encodeGroups s ++ List.replicate ((3 - s.length % 3) % 3) pad

/-- The table of `b64_decode`; what it has no letter for is 0x80. -/
def reverseLookup : List ℕ :=
  List.replicate 0x2b 0x80 ++ [0x3e, 0x80, 0x80, 0x80, 0x3f] ++ List.range' 0x34 10 ++
    [0x80, 0x80, 0x80, 0x00, 0x80, 0x80, 0x80] ++ List.range' 0 26 ++ List.replicate 6 0x80 ++
    List.range' 0x1a 26 ++ List.replicate 0x85 0x80

def value (c : UInt8) : ℕ := reverseLookup.getD c.toNat 0x80

/-- One round of the loop in `b64_decode`. -/
def b64_decodeGroup (c₀ c₁ c₂ c₃ : UInt8) : Except String Bytes :=
  let n₀ := value c₀
  let n₁ := value c₁
  let n₂ := value c₂
  let n₃ := value c₃
  if 0x80 &&& (n₀ ||| n₁ ||| n₂ ||| n₃) = 0 then
    let n := n₀ <<< 18 ||| n₁ <<< 12 ||| n₂ <<< 6 ||| n₃
    .ok (UInt8.ofNat ((n >>> 16) &&& 0xff) ::
      ((if c₂ ≠ pad then [UInt8.ofNat ((n >>> 8) &&& 0xff)] else []) ++
        if c₃ ≠ pad then [UInt8.ofNat (n &&& 0xff)] else []))
  else
    .error ("Invalid hex data: " ++
      String.ofList ([c₀, c₁, c₂, c₃].map fun c => Char.ofNat c.toNat))

def b64_decodeGroups : Bytes → Except String Bytes
  | c₀ :: c₁ :: c₂ :: c₃ :: rest => do
      let group ← b64_decodeGroup c₀ c₁ c₂ c₃
      let r ← b64_decodeGroups rest
      return group ++ r
  | _ => return []

def b64_decode (s : Bytes) : Except String Bytes :=
  if s.length = 0 then return []
  else if s.length % 4 = 0 then b64_decodeGroups s
  else throw "Invalid base64 data size"

/-! ## Letters -/

theorem value_letter : ∀ n < 64, value (letter n) = n ∧ letter n ≠ pad := by decide

theorem value_pad : value pad = 0 := by decide

theorem letter_lt : ∀ n < 64, (letter n).toNat < 128 := by decide

/-- The test of a group: no value has the bit 0x80. -/
theorem and_or_eq_zero {n₀ n₁ n₂ n₃ : ℕ} (h₀ : n₀ < 64) (h₁ : n₁ < 64) (h₂ : n₂ < 64)
    (h₃ : n₃ < 64) : 0x80 &&& (n₀ ||| n₁ ||| n₂ ||| n₃) = 0 := by
  have hsmall : ∀ n < 64, 0x80 &&& n = 0 := by decide
  have hor : n₀ ||| n₁ ||| n₂ ||| n₃ < 2 ^ 6 :=
    Nat.or_lt_two_pow (Nat.or_lt_two_pow (Nat.or_lt_two_pow h₀ h₁) h₂) h₃
  exact hsmall _ hor

/-! ## Bits -/

theorem sextet_eq (n shift : ℕ) : sextet n shift = n / 2 ^ shift % 64 := by
  have hmask : (0x3f : ℕ) = 2 ^ 6 - 1 := rfl
  rw [sextet, hmask, Nat.and_two_pow_sub_one_eq_mod, Nat.shiftRight_eq_div_pow]
  omega

theorem sextet_lt (n shift : ℕ) : sextet n shift < 64 := by
  rw [sextet_eq]
  exact Nat.mod_lt _ (by omega)

theorem byte_eq (n shift : ℕ) : (n >>> shift) &&& 0xff = n / 2 ^ shift % 256 := by
  have hmask : (0xff : ℕ) = 2 ^ 8 - 1 := rfl
  rw [hmask, Nat.and_two_pow_sub_one_eq_mod, Nat.shiftRight_eq_div_pow]

/-- Bits below the shift are added. -/
theorem shiftLeft_or {b i : ℕ} (a : ℕ) (hb : b < 2 ^ i) : a <<< i ||| b = a * 2 ^ i + b := by
  rw [← Nat.shiftLeft_add_eq_or_of_lt hb, Nat.shiftLeft_eq]

theorem bytes_or {a b c : ℕ} (hb : b < 256) (hc : c < 256) :
    a <<< 16 ||| b <<< 8 ||| c = a * 65536 + b * 256 + c := by
  have hlow : b <<< 8 ||| c = b * 256 + c := shiftLeft_or b hc
  rw [Nat.or_assoc, hlow, shiftLeft_or a (by omega)]
  omega

theorem sextets_or {n₀ n₁ n₂ n₃ : ℕ} (h₁ : n₁ < 64) (h₂ : n₂ < 64) (h₃ : n₃ < 64) :
    n₀ <<< 18 ||| n₁ <<< 12 ||| n₂ <<< 6 ||| n₃ =
      n₀ * 262144 + n₁ * 4096 + n₂ * 64 + n₃ := by
  have h₂₃ : n₂ <<< 6 ||| n₃ = n₂ * 64 + n₃ := shiftLeft_or n₂ h₃
  have h₁₂₃ : n₁ <<< 12 ||| (n₂ * 64 + n₃) = n₁ * 4096 + (n₂ * 64 + n₃) :=
    shiftLeft_or n₁ (by omega)
  rw [Nat.or_assoc, Nat.or_assoc, h₂₃, h₁₂₃, shiftLeft_or n₀ (by omega)]
  omega

/-- The four sextets of 24 bits are all of them. -/
theorem sextets {n : ℕ} (hn : n < 2 ^ 24) :
    sextet n 18 <<< 18 ||| sextet n 12 <<< 12 ||| sextet n 6 <<< 6 ||| sextet n 0 = n := by
  rw [sextets_or (sextet_lt n 12) (sextet_lt n 6) (sextet_lt n 0)]
  simp only [sextet_eq]
  omega

/-! ## The round trip -/

/-- A group with the values of the four sextets is decoded to the three bytes, or to the first
ones of them if it is padded. -/
theorem b64_decodeGroup_eq {n : ℕ} {c₀ c₁ c₂ c₃ : UInt8} (hn : n < 2 ^ 24)
    (h₀ : value c₀ = sextet n 18) (h₁ : value c₁ = sextet n 12) (h₂ : value c₂ = sextet n 6)
    (h₃ : value c₃ = sextet n 0) :
    b64_decodeGroup c₀ c₁ c₂ c₃ = .ok (UInt8.ofNat (n / 65536 % 256) ::
      ((if c₂ ≠ pad then [UInt8.ofNat (n / 256 % 256)] else []) ++
        if c₃ ≠ pad then [UInt8.ofNat (n % 256)] else [])) := by
  have hbyte : n &&& 0xff = n % 256 := by
    have hshift := byte_eq n 0
    rwa [Nat.shiftRight_zero, Nat.pow_zero, Nat.div_one] at hshift
  have hfirst : n >>> 16 &&& 0xff = n / 65536 % 256 := byte_eq n 16
  have hsecond : n >>> 8 &&& 0xff = n / 256 % 256 := byte_eq n 8
  unfold b64_decodeGroup
  dsimp only
  rw [h₀, h₁, h₂, h₃, if_pos (and_or_eq_zero (sextet_lt n 18) (sextet_lt n 12) (sextet_lt n 6)
    (sextet_lt n 0)), sextets hn, hfirst, hsecond, hbyte]

theorem ofNat_toNat_of_eq {a : UInt8} {n : ℕ} (h : n = a.toNat) : UInt8.ofNat n = a := by
  rw [h, UInt8.ofNat_toNat]

theorem b64_decodeGroups_encode (s : Bytes) : b64_decodeGroups (b64_encode s) = .ok s := by
  unfold b64_encode
  induction s using b64_encodeGroups.induct with
  | case1 => rfl
  | case2 a =>
      have ha := a.toNat_lt
      obtain ⟨n, hn⟩ : ∃ n, a.toNat <<< 16 = n := ⟨_, rfl⟩
      have hsum : n = a.toNat * 65536 := hn.symm.trans (Nat.shiftLeft_eq a.toNat 16)
      have hzero : sextet n 6 = 0 ∧ sextet n 0 = 0 := by
        simp only [sextet_eq]
        omega
      have hgroup := b64_decodeGroup_eq (by omega) (value_letter _ (sextet_lt n 18)).1
        (value_letter _ (sextet_lt n 12)).1 (value_pad.trans hzero.1.symm)
        (value_pad.trans hzero.2.symm)
      have hfirst : n / 65536 % 256 = a.toNat := by omega
      rw [if_neg (not_not.mpr rfl), if_neg (not_not.mpr rfl), ofNat_toNat_of_eq hfirst] at hgroup
      have hpad : List.replicate ((3 - [a].length % 3) % 3) pad = [pad, pad] := rfl
      rw [hpad, b64_encodeGroups, hn]
      dsimp only [List.cons_append, List.nil_append]
      rw [b64_decodeGroups, hgroup]
      rfl
  | case3 a b =>
      have ha := a.toNat_lt
      have hb := b.toNat_lt
      obtain ⟨n, hn⟩ : ∃ n, a.toNat <<< 16 ||| b.toNat <<< 8 = n := ⟨_, rfl⟩
      have hsum : n = a.toNat * 65536 + b.toNat * 256 := by
        have hor := @bytes_or a.toNat b.toNat 0 hb (by omega)
        rwa [Nat.or_zero, Nat.add_zero, hn] at hor
      have hzero : sextet n 0 = 0 := by
        rw [sextet_eq]
        omega
      have hgroup := b64_decodeGroup_eq (by omega) (value_letter _ (sextet_lt n 18)).1
        (value_letter _ (sextet_lt n 12)).1 (value_letter _ (sextet_lt n 6)).1
        (value_pad.trans hzero.symm)
      have hfirst : n / 65536 % 256 = a.toNat := by omega
      have hsecond : n / 256 % 256 = b.toNat := by omega
      rw [if_pos (value_letter _ (sextet_lt n 6)).2, if_neg (not_not.mpr rfl),
        ofNat_toNat_of_eq hfirst, ofNat_toNat_of_eq hsecond] at hgroup
      have hpad : List.replicate ((3 - [a, b].length % 3) % 3) pad = [pad] := rfl
      rw [hpad, b64_encodeGroups, hn]
      dsimp only [List.cons_append, List.nil_append]
      rw [b64_decodeGroups, hgroup]
      rfl
  | case4 a b c rest ih =>
      have ha := a.toNat_lt
      have hb := b.toNat_lt
      have hc := c.toNat_lt
      obtain ⟨n, hn⟩ : ∃ n, a.toNat <<< 16 ||| b.toNat <<< 8 ||| c.toNat = n := ⟨_, rfl⟩
      have hsum : n = a.toNat * 65536 + b.toNat * 256 + c.toNat := hn.symm.trans (bytes_or hb hc)
      have hgroup := b64_decodeGroup_eq (by omega) (value_letter _ (sextet_lt n 18)).1
        (value_letter _ (sextet_lt n 12)).1 (value_letter _ (sextet_lt n 6)).1
        (value_letter _ (sextet_lt n 0)).1
      have hfirst : n / 65536 % 256 = a.toNat := by omega
      have hsecond : n / 256 % 256 = b.toNat := by omega
      have hthird : n % 256 = c.toNat := by omega
      have hlength : (a :: b :: c :: rest).length % 3 = rest.length % 3 := by
        simp only [List.length_cons]
        omega
      rw [if_pos (value_letter _ (sextet_lt n 6)).2, if_pos (value_letter _ (sextet_lt n 0)).2,
        ofNat_toNat_of_eq hfirst, ofNat_toNat_of_eq hsecond, ofNat_toNat_of_eq hthird] at hgroup
      rw [hlength, b64_encodeGroups, hn]
      dsimp only [List.cons_append]
      rw [b64_decodeGroups, hgroup, ih]
      rfl

/-- The text is ASCII. -/
theorem lt_of_mem_b64_encode {s : Bytes} {c : UInt8} (h : c ∈ b64_encode s) : c.toNat < 128 := by
  rw [b64_encode, List.mem_append, List.mem_replicate] at h
  rcases h with h | ⟨-, rfl⟩
  · induction s using b64_encodeGroups.induct with
    | case1 => simp [b64_encodeGroups] at h
    | case2 a =>
        simp only [b64_encodeGroups, List.mem_cons, List.not_mem_nil, or_false] at h
        rcases h with rfl | rfl <;> exact letter_lt _ (sextet_lt _ _)
    | case3 a b =>
        simp only [b64_encodeGroups, List.mem_cons, List.not_mem_nil, or_false] at h
        rcases h with rfl | rfl | rfl <;> exact letter_lt _ (sextet_lt _ _)
    | case4 a b c rest ih =>
        simp only [b64_encodeGroups, List.mem_cons] at h
        rcases h with rfl | rfl | rfl | rfl | h
        · exact letter_lt _ (sextet_lt _ _)
        · exact letter_lt _ (sextet_lt _ _)
        · exact letter_lt _ (sextet_lt _ _)
        · exact letter_lt _ (sextet_lt _ _)
        · exact ih h
  · decide

/-- The text consists of full groups. -/
theorem length_b64_encode (s : Bytes) : (b64_encode s).length = 4 * ((s.length + 2) / 3) := by
  have hgroups : (b64_encodeGroups s).length + (3 - s.length % 3) % 3 =
      4 * ((s.length + 2) / 3) := by
    induction s using b64_encodeGroups.induct with
    | case1 => rfl
    | case2 a => simp [b64_encodeGroups]
    | case3 a b => simp [b64_encodeGroups]
    | case4 a b c rest ih =>
        simp only [b64_encodeGroups, List.length_cons] at ih ⊢
        omega
  rw [b64_encode, List.length_append, List.length_replicate, hgroups]

theorem b64_decode_encode (s : Bytes) : b64_decode (b64_encode s) = .ok s := by
  unfold b64_decode
  rw [b64_decodeGroups_encode, length_b64_encode, Nat.mul_mod_right, if_pos rfl]
  split
  next hlength =>
    have hnil : s = [] := List.eq_nil_of_length_eq_zero (by omega)
    rw [hnil]
    rfl
  next => rfl

end OpenC2X.Bin2Ascii
