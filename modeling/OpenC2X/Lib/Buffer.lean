import Mathlib.Data.List.GetD
import Mathlib.Data.Nat.Basic
import Mathlib.Order.MinMax
import Mathlib.Tactic.Common

/-!
# A reused receive buffer

A buffer of `n` bytes that is filled from the front again and again.  `read` stores
as much of a message as fits and returns how much that was; the bytes behind it are
left from earlier messages.  The lemmas say which bytes of the buffer are the
message's and which are left over.
-/

/-- A memory area of `n` bytes. -/
structure Buffer (n : ℕ) where
  bytes : List UInt8
  length_eq : bytes.length = n

namespace Buffer

variable {n : ℕ}

def ofFn (f : ℕ → UInt8) : Buffer n where
  bytes := (List.range n).map f
  length_eq := by simp

def byte (b : Buffer n) (i : ℕ) : UInt8 := b.bytes.getD i 0

/-- The `len` bytes from position `i` on. -/
def slice (b : Buffer n) (i len : ℕ) : List UInt8 := (b.bytes.drop i).take len

/-- `read(socket, buffer, n)`: stores the first `n` bytes of the message and returns
how many were stored. -/
def read (b : Buffer n) (message : List UInt8) : Buffer n × ℕ :=
  ({ bytes := message.take n ++ b.bytes.drop (min n message.length)
     length_eq := by
       rw [List.length_append, List.length_take, List.length_drop, b.length_eq]
       exact Nat.add_sub_of_le (Nat.min_le_left _ _) },
    min n message.length)

theorem byte_ofFn (f : ℕ → UInt8) {i : ℕ} (hi : i < n) :
    (ofFn f : Buffer n).byte i = f i := by
  simp [byte, ofFn, hi]

/-- What was stored is the message's. -/
theorem byte_read_of_lt (b : Buffer n) {message : List UInt8} {i : ℕ}
    (hi : i < message.length) (hn : i < n) :
    (b.read message).1.byte i = message.getD i 0 := by
  have hlen : i < (message.take n).length := by
    rw [List.length_take]
    exact lt_min hn hi
  simp only [byte, read]
  rw [List.getD_append _ _ _ _ hlen]
  simp [List.getD_eq_getElem?_getD, hn]

/-- What lies behind the message is left from before. -/
theorem byte_read_of_le (b : Buffer n) {message : List UInt8} {i : ℕ}
    (hi : message.length ≤ i) : (b.read message).1.byte i = b.byte i := by
  have hlen : (message.take n).length ≤ i := by
    rw [List.length_take]
    exact (Nat.min_le_right _ _).trans hi
  simp only [byte, read]
  rw [List.getD_append_right _ _ _ _ hlen]
  simp only [List.getD_eq_getElem?_getD, List.getElem?_drop, List.length_take]
  congr 2
  omega

theorem slice_read (b : Buffer n) {message : List UInt8} {i len : ℕ}
    (h : i + len ≤ min n message.length) :
    (b.read message).1.slice i len = (message.drop i).take len := by
  have hlen : (message.take n).length = min n message.length := List.length_take
  simp only [slice, read]
  rw [List.drop_append_of_le_length (by omega), List.take_append_of_le_length
    (by rw [List.length_drop]; omega), List.drop_take, List.take_take]
  congr 1
  omega

theorem slice_read_rest (b : Buffer n) {message : List UInt8} {i : ℕ}
    (hi : i ≤ min n message.length) :
    (b.read message).1.slice i (min n message.length - i) = (message.take n).drop i := by
  rw [slice_read b (by omega), List.drop_take]
  rw [List.take_eq_take_iff, List.length_drop]
  omega

end Buffer
