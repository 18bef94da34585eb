import Mathlib.Algebra.Order.Ring.Nat
import Mathlib.Data.List.Basic
import Mathlib.Tactic.Common
import Mathlib.Tactic.Ring

/-!
# Unaligned packed encoding

The unaligned packed encoding rules of ASN.1 write the components of a value one after the
other, without tags and without padding: a number in a range with as many bits as the range
needs, a choice behind the number of its alternative.  Only at the end the bits are filled
up to whole octets.

A `Coder` carries the proof that what it writes is read back, whatever follows.  Coders are
put together from coders (`int`, `pair`, `choice`, `map`), and so are the proofs.
-/

namespace Uper

/-! ## Numbers -/

/-- The lowest bits of a number, the most significant one first. -/
def bits : ℕ → ℕ → List Bool
  | 0, _ => []
  | count + 1, n => n.testBit count :: bits count n

/-- The number that bits denote, behind those that were read before. -/
def number (n : ℕ) : List Bool → ℕ
  | [] => n
  | b :: rest => number (2 * n + b.toNat) rest

/-- How many bits the numbers up to `n` need. -/
def width (n : ℕ) : ℕ := if n = 0 then 0 else n.log2 + 1

theorem lt_two_pow_width (n : ℕ) : n < 2 ^ width n := by
  unfold width
  split
  next h =>
    rw [h]
    exact Nat.one_pos
  next => exact Nat.lt_log2_self

@[simp] theorem length_bits (count n : ℕ) : (bits count n).length = count := by
  induction count with
  | zero => rfl
  | succ count ih => rw [bits, List.length_cons, ih]

theorem number_bits (count n m : ℕ) :
    number m (bits count n) = m * 2 ^ count + n % 2 ^ count := by
  induction count generalizing m with
  | zero => rw [bits, number, pow_zero, Nat.mod_one, Nat.mul_one, Nat.add_zero]
  | succ count ih =>
      rw [bits, number, ih, Nat.mod_pow_succ, Nat.testBit_eq_decide_div_mod_eq, pow_succ]
      rcases Nat.mod_two_eq_zero_or_one (n / 2 ^ count) with h | h
      · rw [h]
        simp only [zero_ne_one, decide_false, Bool.toNat_false]
        ring
      · rw [h]
        simp only [decide_true, Bool.toNat_true]
        ring

/-- Reads bits from the front. -/
def takeBits (count : ℕ) (input : List Bool) : Option (List Bool × List Bool) :=
  if count ≤ input.length then some (input.take count, input.drop count) else none

theorem takeBits_append (front rest : List Bool) :
    takeBits front.length (front ++ rest) = some (front, rest) := by
  rw [takeBits, if_pos (by rw [List.length_append]; omega), List.take_left, List.drop_left]

/-! ## Coders -/

structure Coder (α : Type*) where
  /-- The values of the type. -/
  Valid : α → Prop
  decidableValid : DecidablePred Valid
  encode : α → List Bool
  /-- A value, and the bits that follow. -/
  decode : List Bool → Option (α × List Bool)
  /-- An upper bound for the number of bits. -/
  size : ℕ
  decode_encode : ∀ a rest, Valid a → decode (encode a ++ rest) = some (a, rest)
  length_le : ∀ a, (encode a).length ≤ size

namespace Coder

instance {α : Type*} (c : Coder α) : DecidablePred c.Valid := c.decidableValid

/-- A number in a range. -/
def int (lower upper : ℤ) : Coder ℤ where
  Valid x := lower ≤ x ∧ x ≤ upper
  decidableValid := fun _ => inferInstanceAs (Decidable (_ ∧ _))
  encode x := bits (width (upper - lower).toNat) (x - lower).toNat
  decode input := (takeBits (width (upper - lower).toNat) input).bind fun (front, rest) =>
    if lower + number 0 front ≤ upper then some (lower + number 0 front, rest) else none
  size := width (upper - lower).toNat
  decode_encode := by
    intro x rest ⟨hlower, hupper⟩
    set count := width (upper - lower).toNat
    have hfits : (x - lower).toNat < 2 ^ count := by
      calc (x - lower).toNat ≤ (upper - lower).toNat := by omega
        _ < 2 ^ count := lt_two_pow_width _
    have htake := takeBits_append (bits count (x - lower).toNat) rest
    rw [length_bits] at htake
    have hnumber : lower + (number 0 (bits count (x - lower).toNat) : ℤ) = x := by
      rw [number_bits, Nat.mod_eq_of_lt hfits]
      omega
    rw [htake, Option.bind_some]
    dsimp only
    rw [hnumber, if_pos hupper]
  length_le := fun _ => (length_bits _ _).le

/-- Bits that are the same for all values. -/
def const (marker : List Bool) : Coder Unit where
  Valid _ := True
  decidableValid := fun _ => instDecidableTrue
  encode _ := marker
  decode input := (takeBits marker.length input).bind fun (front, rest) =>
    if front = marker then some ((), rest) else none
  size := marker.length
  decode_encode := by
    intro _ rest _
    rw [takeBits_append, Option.bind_some]
    exact if_pos rfl
  length_le := fun _ => le_rfl

/-- One value behind the other. -/
def pair {α β : Type*} (c : Coder α) (d : Coder β) : Coder (α × β) where
  Valid x := c.Valid x.1 ∧ d.Valid x.2
  decidableValid := fun _ => inferInstanceAs (Decidable (_ ∧ _))
  encode x := c.encode x.1 ++ d.encode x.2
  decode input := (c.decode input).bind fun (a, input) =>
    (d.decode input).map fun (b, rest) => ((a, b), rest)
  size := c.size + d.size
  decode_encode := by
    intro ⟨a, b⟩ rest ⟨ha, hb⟩
    rw [List.append_assoc, c.decode_encode a _ ha, Option.bind_some]
    dsimp only
    rw [d.decode_encode b _ hb, Option.map_some]
  length_le := by
    intro x
    rw [List.length_append]
    exact Nat.add_le_add (c.length_le x.1) (d.length_le x.2)

/-- Two alternatives, behind a bit that tells which one it is. -/
def choice {α β : Type*} (c : Coder α) (d : Coder β) : Coder (α ⊕ β) where
  Valid := Sum.elim c.Valid d.Valid
  decidableValid
    | .inl a => c.decidableValid a
    | .inr b => d.decidableValid b
  encode
    | .inl a => false :: c.encode a
    | .inr b => true :: d.encode b
  decode
    | [] => none
    | false :: input => (c.decode input).map fun (a, rest) => (.inl a, rest)
    | true :: input => (d.decode input).map fun (b, rest) => (.inr b, rest)
  size := 1 + max c.size d.size
  decode_encode := by
    intro x rest hx
    cases x with
    | inl a => exact congrArg (Option.map _) (c.decode_encode a rest hx)
    | inr b => exact congrArg (Option.map _) (d.decode_encode b rest hx)
  length_le := by
    intro x
    cases x with
    | inl a =>
        have := c.length_le a
        rw [List.length_cons]
        omega
    | inr b =>
        have := d.length_le b
        rw [List.length_cons]
        omega

/-- Values that are written as those of another type. -/
def map {α β : Type*} (c : Coder α) (f : β → α) (g : α → β) (h : ∀ b, g (f b) = b) :
    Coder β where
  Valid b := c.Valid (f b)
  decidableValid := fun b => c.decidableValid (f b)
  encode b := c.encode (f b)
  decode input := (c.decode input).map fun (a, rest) => (g a, rest)
  size := c.size
  decode_encode := by
    intro b rest hb
    rw [c.decode_encode (f b) rest hb, Option.map_some]
    dsimp only
    rw [h]
  length_le := fun b => c.length_le (f b)

end Coder

/-! ## Octets -/

/-- The bits, and zeros up to a whole number of octets. -/
def fill (input : List Bool) : List Bool :=
  input ++ List.replicate ((8 - input.length % 8) % 8) false

def octets (input : List Bool) : List UInt8 :=
  (List.range ((input.length + 7) / 8)).map fun k =>
    .ofNat (number 0 (((fill input).drop (8 * k)).take 8))

def ofOctets (bytes : List UInt8) : List Bool := bytes.flatMap fun byte => bits 8 byte.toNat

theorem length_fill (input : List Bool) : (fill input).length = 8 * ((input.length + 7) / 8) := by
  rw [fill, List.length_append, List.length_replicate]
  omega

@[simp] theorem length_octets (input : List Bool) :
    (octets input).length = (input.length + 7) / 8 := by
  rw [octets, List.length_map, List.length_range]

theorem number_eq (n : ℕ) (input : List Bool) :
    number n input = n * 2 ^ input.length + number 0 input := by
  induction input generalizing n with
  | nil => rw [number, number, List.length_nil, pow_zero, Nat.mul_one, Nat.add_zero]
  | cons b input ih =>
      rw [number, number, ih, ih (2 * 0 + b.toNat), List.length_cons, pow_succ]
      ring

theorem number_lt (input : List Bool) : number 0 input < 2 ^ input.length := by
  induction input with
  | nil => exact Nat.one_pos
  | cons b input ih =>
      have hb : b.toNat ≤ 1 := Bool.toNat_le b
      have hprod : b.toNat * 2 ^ input.length ≤ 1 * 2 ^ input.length := Nat.mul_le_mul_right _ hb
      rw [number, number_eq, List.length_cons, pow_succ, Nat.mul_zero, Nat.zero_add]
      omega

theorem bits_number (input : List Bool) (n : ℕ) :
    bits input.length (number n input) = input := by
  induction input generalizing n with
  | nil => rfl
  | cons b input ih =>
      have hfirst : (number (2 * n + b.toNat) input).testBit input.length = b := by
        rw [number_eq, Nat.testBit_eq_decide_div_mod_eq, Nat.add_comm, Nat.add_mul_div_right _ _
          (Nat.two_pow_pos _), Nat.div_eq_of_lt (number_lt input)]
        cases b <;> simp
      rw [List.length_cons, bits, number, ih, hfirst]

theorem flatMap_chunks (input : List Bool) (count : ℕ) :
    (List.range count).flatMap (fun k => (input.drop (8 * k)).take 8) = input.take (8 * count) := by
  induction count with
  | zero => rfl
  | succ count ih =>
      rw [List.range_succ, List.flatMap_append, ih, List.flatMap_singleton, Nat.mul_succ,
        List.take_add]

/-- The octets give back the bits, up to those that fill the last one. -/
theorem ofOctets_octets (input : List Bool) : ofOctets (octets input) = fill input := by
  have hchunk : ∀ k ∈ List.range ((input.length + 7) / 8),
      bits 8 (UInt8.ofNat (number 0 (((fill input).drop (8 * k)).take 8))).toNat =
        ((fill input).drop (8 * k)).take 8 := by
    intro k hk
    set chunk := ((fill input).drop (8 * k)).take 8
    have hlength : chunk.length = 8 := by
      rw [List.length_take, List.length_drop, length_fill]
      rw [List.mem_range] at hk
      omega
    have hlt := number_lt chunk
    have hbits := bits_number chunk 0
    rw [hlength] at hlt hbits
    rw [UInt8.toNat_ofNat', Nat.mod_eq_of_lt hlt, hbits]
  rw [ofOctets, octets, List.flatMap_map, List.flatMap_congr hchunk, flatMap_chunks,
    ← length_fill, List.take_length]

namespace Coder

variable {α : Type*} (c : Coder α)

/-- A value of the type in whole octets. -/
def encodeOctets (a : α) : Option (List UInt8) :=
  if c.Valid a then some (octets (c.encode a)) else none

/-- The value in front of the octets. -/
def decodeOctets (bytes : List UInt8) : Option α := (c.decode (ofOctets bytes)).map Prod.fst

theorem encodeOctets_eq_none_iff (a : α) : c.encodeOctets a = none ↔ ¬c.Valid a := by
  unfold encodeOctets
  split
  next h => simp [h]
  next h => simp [h]

variable {c} {a : α} {bytes : List UInt8}

/-- What is encoded is decoded, whatever follows. -/
theorem decodeOctets_append (h : c.encodeOctets a = some bytes) (rest : List UInt8) :
    c.decodeOctets (bytes ++ rest) = some a := by
  unfold encodeOctets at h
  split at h
  next hvalid =>
    obtain rfl := Option.some.inj h
    have hall : ofOctets (octets (c.encode a) ++ rest) = c.encode a ++
        (List.replicate ((8 - (c.encode a).length % 8) % 8) false ++ ofOctets rest) := by
      calc ofOctets (octets (c.encode a) ++ rest)
          = ofOctets (octets (c.encode a)) ++ ofOctets rest := List.flatMap_append
        _ = fill (c.encode a) ++ ofOctets rest := by rw [ofOctets_octets]
        _ = _ := by rw [fill, List.append_assoc]
    rw [decodeOctets, hall, c.decode_encode a _ hvalid, Option.map_some]
  next => cases h

theorem length_encodeOctets_le (h : c.encodeOctets a = some bytes) :
    bytes.length ≤ (c.size + 7) / 8 := by
  unfold encodeOctets at h
  split at h
  next =>
    obtain rfl := Option.some.inj h
    have hle := c.length_le a
    rw [length_octets]
    omega
  next => cases h

end Coder

end Uper
