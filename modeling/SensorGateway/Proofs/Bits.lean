import Mathlib.Data.List.Induction
import SensorGateway.Bytes

/-!
# `SensorGateway.Proofs.Bits`: the bits of a byte string

A byte string is also a row of bits, the most significant bit of its
first byte first. `Bytes.bit` picks one of them, and `Bytes.number`
reads a stretch of them as a number, most significant bit first.

* `testBit_toNat`: the number a byte string spells has the string's own
  bits, counted from the other end.
* `testBit_number`: so has the number that a stretch of bits spells.
* `number_congr`: a stretch of bits spells the same number wherever it
  stands.
* `bit_ofNat`: the bytes spelled for a number hold that number's bits.
-/

set_option autoImplicit false

namespace SensorGateway.Bytes

/-- Bit `i` of a byte string, where bit 0 is the most significant bit of
the first byte. Behind the end all bits are zero. -/
def bit (bytes : Bytes) (i : Nat) : Bool :=
  (bytes.getD (i / 8) 0).toNat.testBit (7 - i % 8)

/-- The number that `width` bits from bit `offset` on spell, most
significant bit first. -/
def number (bytes : Bytes) (offset : Nat) : Nat → Nat
  | 0 => 0
  | width + 1 => 2 * number bytes offset width + (bytes.bit (offset + width)).toNat

/-! ### Parts of a byte string -/

/-- Dropping bytes shifts the bits. -/
theorem bit_drop (bytes : Bytes) (k i : Nat) : bit (bytes.drop k) i = bit bytes (8 * k + i) := by
  have hdiv : (8 * k + i) / 8 = k + i / 8 := by omega
  have hmod : (8 * k + i) % 8 = i % 8 := by omega
  simp only [bit, hdiv, hmod, List.getD_eq_getElem?_getD, List.getElem?_drop]

/-- Taking bytes keeps their bits. -/
theorem bit_take (bytes : Bytes) {k i : Nat} (h : i < 8 * k) :
    bit (bytes.take k) i = bit bytes i := by
  have hlt : i / 8 < k := by omega
  simp only [bit, List.getD_eq_getElem?_getD, List.getElem?_take_of_lt hlt]

/-- The bits of the front part come first. -/
theorem bit_append_left {front : Bytes} (back : Bytes) {i : Nat} (h : i < 8 * front.length) :
    bit (front ++ back) i = bit front i := by
  have hlt : i / 8 < front.length := by omega
  simp only [bit, List.getD_eq_getElem?_getD, List.getElem?_append_left hlt]

/-- The bits of the back part follow. -/
theorem bit_append_right (front back : Bytes) (i : Nat) :
    bit (front ++ back) (8 * front.length + i) = bit back i := by
  have hdiv : (8 * front.length + i) / 8 = front.length + i / 8 := by omega
  have hmod : (8 * front.length + i) % 8 = i % 8 := by omega
  have hle : front.length ≤ front.length + i / 8 := by omega
  simp only [bit, hdiv, hmod, List.getD_eq_getElem?_getD, List.getElem?_append_right hle,
    Nat.add_sub_cancel_left]

/-- Behind the end there are zeros only. -/
theorem bit_of_length_le {bytes : Bytes} {i : Nat} (h : 8 * bytes.length ≤ i) :
    bit bytes i = false := by
  have hle : bytes.length ≤ i / 8 := by omega
  simp [bit, List.getD_eq_getElem?_getD, List.getElem?_eq_none hle]

/-- Zero bytes have zero bits. -/
@[simp]
theorem bit_zeros (len i : Nat) : bit (zeros len) i = false := by
  by_cases h : i / 8 < len
  · simp [bit, zeros, List.getD_eq_getElem?_getD, h]
  · exact bit_of_length_le (by rw [length_zeros]; omega)

/-- A single byte holds its own bits, the most significant one first. -/
theorem bit_singleton (byte : UInt8) {i : Nat} (h : i < 8) :
    bit [byte] i = byte.toNat.testBit (7 - i) := by
  have hdiv : i / 8 = 0 := by omega
  have hmod : i % 8 = i := by omega
  simp [bit, hdiv, hmod]

/-! ### Numbers and their bits -/

/-- The number a byte string spells has the bits of the string, counted
from the other end. Induction from the last byte on, which holds the
lowest eight bits. -/
theorem testBit_toNat (bytes : Bytes) (j : Nat) :
    (toNat bytes).testBit j =
      (decide (j < 8 * bytes.length) && bit bytes (8 * bytes.length - 1 - j)) := by
  induction bytes using List.reverseRecOn generalizing j with
  | nil => simp
  | append_singleton front byte ih =>
    have hbyte : byte.toNat < 2 ^ 8 := byte.toNat_lt
    have hlength : (front ++ [byte]).length = front.length + 1 := by simp
    rw [toNat_concat, Nat.mul_comm, show (256 : Nat) = 2 ^ 8 from rfl,
      Nat.testBit_two_pow_mul_add _ hbyte, hlength]
    -- The low eight bits are those of the last byte, all others those of the
    -- bytes before it.
    by_cases hj : j < 8
    · have hpos : 8 * (front.length + 1) - 1 - j = 8 * front.length + (7 - j) := by omega
      have hlt : j < 8 * (front.length + 1) := by omega
      have hback : 7 - (7 - j) = j := by omega
      rw [if_pos hj, hpos, bit_append_right, bit_singleton byte (by omega), hback]
      simp [hlt]
    · rw [if_neg hj, ih]
      by_cases hlt : j - 8 < 8 * front.length
      · have hpos : 8 * (front.length + 1) - 1 - j = 8 * front.length - 1 - (j - 8) := by omega
        have hlt' : j < 8 * (front.length + 1) := by omega
        rw [hpos, bit_append_left [byte] (by omega)]
        simp [hlt, hlt']
      · have hlt' : ¬ j < 8 * (front.length + 1) := by omega
        simp [hlt, hlt']

/-- The bytes spelled for a number hold the number's bits. -/
theorem bit_ofNat {len i : Nat} (n : Nat) (h : i < 8 * len) :
    bit (ofNat len n) i = n.testBit (8 * len - 1 - i) := by
  have hbit := testBit_toNat (ofNat len n) (8 * len - 1 - i)
  have hpow : (256 : Nat) ^ len = 2 ^ (8 * len) := by
    rw [show (256 : Nat) = 2 ^ 8 from rfl, ← Nat.pow_mul]
  have hlt : 8 * len - 1 - i < 8 * len := by omega
  have hback : 8 * len - 1 - (8 * len - 1 - i) = i := by omega
  rw [toNat_ofNat, hpow, Nat.testBit_mod_two_pow, length_ofNat, hback] at hbit
  simpa [hlt] using hbit.symm

/-! ### Stretches of bits -/

/-- A number of `width` bits is below `2 ^ width`. -/
theorem number_lt (bytes : Bytes) (offset width : Nat) :
    bytes.number offset width < 2 ^ width := by
  induction width with
  | zero => simp [number]
  | succ width ih =>
    have hbit := Bool.toNat_le (bytes.bit (offset + width))
    rw [number, Nat.pow_succ]
    omega

/-- The number that a stretch of bits spells has these bits, counted from
the other end. -/
theorem testBit_number (bytes : Bytes) (offset width j : Nat) :
    (bytes.number offset width).testBit j =
      (decide (j < width) && bytes.bit (offset + width - 1 - j)) := by
  induction width generalizing j with
  | zero => simp [number]
  | succ width ih =>
    have hbit : (bytes.bit (offset + width)).toNat < 2 ^ 1 := Bool.toNat_lt _
    rw [number, show 2 * bytes.number offset width = 2 ^ 1 * bytes.number offset width from rfl,
      Nat.testBit_two_pow_mul_add _ hbit]
    -- The last bit of the stretch is the lowest one of the number.
    cases j with
    | zero => cases h : bytes.bit (offset + width) <;> simp [h]
    | succ j =>
      have hpos : offset + (width + 1) - 1 - (j + 1) = offset + width - 1 - j := by omega
      rw [if_neg (by omega), Nat.add_sub_cancel, ih, hpos]
      simp

/-- The same bits spell the same number, wherever they stand. -/
theorem number_congr {a b : Bytes} {offset offset' width : Nat}
    (h : ∀ i < width, a.bit (offset + i) = b.bit (offset' + i)) :
    a.number offset width = b.number offset' width := by
  induction width with
  | zero => rfl
  | succ width ih =>
    rw [number, number, ih fun i hi => h i (by omega), h width (by omega)]

/-- Stretches that spell the same number have the same bits. -/
theorem bit_eq_of_number_eq {a b : Bytes} {offset width i : Nat}
    (h : a.number offset width = b.number offset width)
    (hi : offset ≤ i ∧ i < offset + width) : a.bit i = b.bit i := by
  have hbit := congrArg (fun n => n.testBit (offset + width - 1 - i)) h
  have hlt : offset + width - 1 - i < width := by omega
  have hback : offset + width - 1 - (offset + width - 1 - i) = i := by omega
  simpa only [testBit_number, hlt, decide_true, Bool.true_and, hback] using hbit

/-- Byte strings of one length are equal when their bits are. -/
theorem eq_of_bit_eq {a b : Bytes} (hlength : a.length = b.length)
    (h : ∀ i < 8 * a.length, a.bit i = b.bit i) : a = b := by
  have hnumber : toNat a = toNat b := by
    apply Nat.eq_of_testBit_eq
    intro j
    rw [testBit_toNat, testBit_toNat, ← hlength]
    by_cases hj : j < 8 * a.length
    · rw [h _ (by omega)]
    · simp [hj]
  rw [← ofNat_toNat a, ← ofNat_toNat b, hlength, hnumber]

/-- A stretch that holds the low bits of a number spells these bits. -/
theorem number_eq_mod {bytes : Bytes} {offset width n : Nat}
    (h : ∀ i < width, bytes.bit (offset + i) = n.testBit (width - 1 - i)) :
    bytes.number offset width = n % 2 ^ width := by
  apply Nat.eq_of_testBit_eq
  intro j
  rw [testBit_number, Nat.testBit_mod_two_pow]
  by_cases hj : j < width
  · have hpos : offset + width - 1 - j = offset + (width - 1 - j) := by omega
    have hback : width - 1 - (width - 1 - j) = j := by omega
    rw [hpos, h _ (by omega), hback]
  · simp [hj]

/-- A stretch of zeros spells zero. -/
theorem number_zeros (len offset width : Nat) : (zeros len).number offset width = 0 := by
  have hnumber : (zeros len).number offset width = 0 % 2 ^ width :=
    number_eq_mod fun i _ => by rw [bit_zeros, Nat.zero_testBit]
  rw [hnumber, Nat.zero_mod]

/-- A stretch of bits splits into two, the first one shifted past the
second. -/
theorem number_add (bytes : Bytes) (offset front back : Nat) :
    bytes.number offset (front + back) =
      bytes.number offset front * 2 ^ back + bytes.number (offset + front) back := by
  induction back with
  | zero => simp [number]
  | succ back ih =>
    rw [← Nat.add_assoc, number, ih, number, Nat.pow_succ, Nat.mul_add, ← Nat.mul_assoc,
      Nat.mul_comm 2, Nat.mul_assoc, Nat.mul_comm 2, ← Nat.add_assoc offset, Nat.add_assoc]

/-- A stretch of whole bytes spells the number of these bytes. -/
theorem number_eq_toNat {bytes : Bytes} {start count : Nat} (h : start + count ≤ bytes.length) :
    bytes.number (8 * start) (8 * count) = toNat ((bytes.drop start).take count) := by
  have hlength : ((bytes.drop start).take count).length = count := by
    rw [List.length_take, List.length_drop]
    omega
  apply Nat.eq_of_testBit_eq
  intro j
  rw [testBit_number, testBit_toNat, hlength]
  by_cases hj : j < 8 * count
  · have hpos : 8 * start + (8 * count - 1 - j) = 8 * start + 8 * count - 1 - j := by omega
    rw [bit_take _ (by omega), bit_drop, hpos]
  · simp [hj]

/-- Eight bits from the start of a byte on spell this byte. -/
theorem number_byte {bytes : Bytes} {i : Nat} {byte : UInt8} (h : bytes[i]? = some byte) :
    bytes.number (8 * i) 8 = byte.toNat := by
  obtain ⟨hlt, hget⟩ := List.getElem?_eq_some_iff.mp h
  have hdrop : (bytes.drop i).take 1 = [byte] := by
    rw [List.drop_eq_getElem_cons hlt, hget]
    rfl
  have hnumber := number_eq_toNat (show i + 1 ≤ bytes.length from hlt)
  rw [hdrop] at hnumber
  simpa [toNat] using hnumber

/-- Sixteen bits spell two bytes. -/
theorem number_two_bytes {bytes : Bytes} {i : Nat} {high low : UInt8}
    (hhigh : bytes[i]? = some high) (hlow : bytes[i + 1]? = some low) :
    bytes.number (8 * i) 16 = toNat [high, low] := by
  rw [show 16 = 8 + 8 from rfl, number_add, number_byte hhigh,
    show 8 * i + 8 = 8 * (i + 1) from rfl, number_byte hlow]
  simp [toNat]

/-- Whole bytes spelled for the number of a stretch of whole bytes are
these bytes. -/
theorem ofNat_number {bytes : Bytes} {start count : Nat} (h : start + count ≤ bytes.length) :
    ofNat count (bytes.number (8 * start) (8 * count)) = (bytes.drop start).take count := by
  have hlength : ((bytes.drop start).take count).length = count := by
    rw [List.length_take, List.length_drop]
    omega
  have hback := ofNat_toNat ((bytes.drop start).take count)
  rw [hlength] at hback
  rw [number_eq_toNat h, hback]

end SensorGateway.Bytes
