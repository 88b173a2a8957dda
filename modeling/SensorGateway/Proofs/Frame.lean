import SensorGateway.Frame
import SensorGateway.Proofs.Bits

/-!
# `SensorGateway.Proofs.Frame`: reading and writing bits

Frames compute with the bytes that a range of bits touches. Here both
accesses are taken back to single bits:

* `read_eq`: a range inside the window reads as the number that its bits
  spell, and `toOption_read` says when there is nothing to read.
* `bit_buffer_put`: a write gives the bits of its range to the value and
  leaves every other bit of the buffer, inside the window or not, as it
  was.
* `number_put` and `number_put_of_disjoint`: what the written range and
  every range apart from it read as afterwards.
-/

set_option autoImplicit false

namespace SensorGateway.Frame

/-! ### Touched bytes -/

/-- The touched bytes end with the range and its slack. -/
theorem slack_add (offset width : Nat) :
    slack offset width + (offset + width) = 8 * endByte offset width := by
  simp only [slack, endByte]
  omega

/-- They start with the byte of the first bit. -/
theorem firstByte_le (offset : Nat) : 8 * firstByte offset ≤ offset := by
  simp only [firstByte]
  omega

/-- Less than a byte of them lies behind the range. -/
theorem endByte_le (offset width : Nat) : 8 * endByte offset width ≤ offset + width + 7 := by
  simp only [endByte]
  omega

/-! ### The bits of the window -/

/-- A range is admissible when it has between 1 and 64 bits and ends
inside the window. -/
theorem check_eq_ok_iff (frame : Frame) (offset width : Nat) :
    frame.check offset width = .ok () ↔
      0 < width ∧ width ≤ 64 ∧ offset + width ≤ frame.bitLength := by
  unfold check
  split
  · simp only [reduceCtorEq, false_iff]
    omega
  · split <;> simp only [reduceCtorEq, false_iff, true_iff] <;> omega

/-- The bits of the window are bits of the buffer. -/
theorem bit_bytes (frame : Frame) {i : Nat} (h : i < frame.bitLength) :
    frame.bytes.bit i = frame.buffer.bit (8 * frame.base + i) := by
  rw [bytes, Bytes.bit_take _ h, Bytes.bit_drop]

/-- All touched bytes of a range inside the window are there. -/
theorem length_touched (frame : Frame) {offset width : Nat}
    (h : offset + width ≤ frame.bitLength) :
    (frame.touched offset width).length = endByte offset width - firstByte offset := by
  have hwindow := frame.base_add_length_le
  simp only [touched, List.length_take, List.length_drop, endByte, firstByte, bitLength] at h ⊢
  omega

/-- The touched bytes hold the bits of the buffer from the first touched
byte on. -/
theorem bit_touched (frame : Frame) {offset width i : Nat}
    (h : i < 8 * (endByte offset width - firstByte offset)) :
    (frame.touched offset width).bit i =
      frame.buffer.bit (8 * (frame.base + firstByte offset) + i) := by
  rw [touched, Bytes.bit_take _ h, Bytes.bit_drop]

/-! ### Reading -/

/-- The number cut out of the touched bytes has the bits of the range. -/
theorem cut_touched_eq_number (frame : Frame) {offset width : Nat}
    (h : offset + width ≤ frame.bitLength) :
    Bytes.toNat (frame.touched offset width) / 2 ^ slack offset width % 2 ^ width =
      frame.bytes.number offset width := by
  apply Nat.eq_of_testBit_eq
  intro j
  -- The quotient drops the slack, the remainder what stands in front of the
  -- range.
  rw [Nat.testBit_mod_two_pow, Nat.testBit_div_two_pow, Bytes.testBit_toNat,
    frame.length_touched h, Bytes.testBit_number]
  by_cases hj : j < width
  · have hslack : slack offset width + (offset + width) = 8 * endByte offset width := by
      simp only [slack, endByte]
      omega
    have hfirst : 8 * firstByte offset ≤ offset := by
      simp only [firstByte]
      omega
    have hlt : j + slack offset width < 8 * (endByte offset width - firstByte offset) := by
      omega
    have hpos : 8 * (frame.base + firstByte offset)
          + (8 * (endByte offset width - firstByte offset) - 1 - (j + slack offset width))
        = 8 * frame.base + (offset + width - 1 - j) := by
      omega
    rw [frame.bit_touched (by omega), hpos, frame.bit_bytes (by omega)]
    simp [hlt]
  · simp [hj]

/-- A range of between 1 and 64 bits inside the window reads as the number
that its bits spell. -/
theorem read_eq (frame : Frame) {offset width : Nat} (hpos : 0 < width) (hle : width ≤ 64)
    (h : offset + width ≤ frame.bitLength) :
    frame.read offset width = .ok (frame.bytes.number offset width) := by
  have hcheck := (frame.check_eq_ok_iff offset width).mpr ⟨hpos, hle, h⟩
  rw [read, hcheck]
  exact congrArg _ (frame.cut_touched_eq_number h)

/-- Reading a range of between 1 and 64 bits fails exactly when the range
ends past the window. -/
theorem toOption_read (frame : Frame) {offset width : Nat} (hpos : 0 < width) (hle : width ≤ 64) :
    (frame.read offset width).toOption =
      if offset + width ≤ frame.bitLength then some (frame.bytes.number offset width)
      else none := by
  split
  · next h =>
    rw [frame.read_eq hpos hle h]
    rfl
  · next h =>
    have hwidth : ¬ (width = 0 ∨ 64 < width) := by omega
    rw [read, check, if_neg hwidth, if_neg h]
    rfl

/-! ### Writing -/

/-- Replaced bits come from the value, all others from the number they are
put into. -/
theorem testBit_putBits (n slack width value j : Nat) :
    (putBits n slack width value).testBit j =
      if slack ≤ j ∧ j < slack + width then value.testBit (j - slack) else n.testBit j := by
  have hlow : n % 2 ^ slack < 2 ^ slack := Nat.mod_lt _ (Nat.two_pow_pos slack)
  have hmiddle : value % 2 ^ width < 2 ^ width := Nat.mod_lt _ (Nat.two_pow_pos width)
  have hshape : putBits n slack width value
      = 2 ^ slack * (2 ^ width * (n / 2 ^ (slack + width)) + value % 2 ^ width)
        + n % 2 ^ slack := by
    rw [putBits, Nat.pow_add, Nat.mul_add, Nat.mul_comm (n / _), Nat.mul_assoc,
      Nat.mul_comm (value % _)]
  rw [hshape, Nat.testBit_two_pow_mul_add _ hlow]
  by_cases hj : j < slack
  · have hnot : ¬ (slack ≤ j ∧ j < slack + width) := by omega
    rw [if_pos hj, if_neg hnot, Nat.testBit_mod_two_pow]
    simp [hj]
  · rw [if_neg hj, Nat.testBit_two_pow_mul_add _ hmiddle]
    by_cases hw : j - slack < width
    · have hin : slack ≤ j ∧ j < slack + width := by omega
      rw [if_pos hw, if_pos hin, Nat.testBit_mod_two_pow]
      simp [hw]
    · have hnot : ¬ (slack ≤ j ∧ j < slack + width) := by omega
      have hback : j - slack - width + (slack + width) = j := by omega
      rw [if_neg hw, if_neg hnot, Nat.testBit_div_two_pow, hback]

/-- An overlay that fits has its own bits where it lies and those of the
buffer everywhere else. -/
theorem bit_overlay {buffer bytes : Bytes} {start : Nat}
    (h : start + bytes.length ≤ buffer.length) (i : Nat) :
    (overlay buffer start bytes).bit i =
      if 8 * start ≤ i ∧ i < 8 * (start + bytes.length) then bytes.bit (i - 8 * start)
      else buffer.bit i := by
  have htake : (buffer.take start).length = start := by
    rw [List.length_take]
    omega
  have hall : bytes.take (buffer.length - start) = bytes := List.take_of_length_le (by omega)
  rw [overlay, hall, List.append_assoc]
  -- Left of the overlay, on it, and right of it.
  by_cases hfront : i < 8 * start
  · have hnot : ¬ (8 * start ≤ i ∧ i < 8 * (start + bytes.length)) := by omega
    rw [if_neg hnot, Bytes.bit_append_left _ (by omega), Bytes.bit_take _ hfront]
  · have hshift : i = 8 * (buffer.take start).length + (i - 8 * start) := by omega
    rw [hshift, Bytes.bit_append_right, ← hshift]
    by_cases hmiddle : i - 8 * start < 8 * bytes.length
    · have hin : 8 * start ≤ i ∧ i < 8 * (start + bytes.length) := by omega
      rw [if_pos hin, Bytes.bit_append_left _ hmiddle]
    · have hnot : ¬ (8 * start ≤ i ∧ i < 8 * (start + bytes.length)) := by omega
      have hshift' : i - 8 * start = 8 * bytes.length + (i - 8 * (start + bytes.length)) := by
        omega
      have hback : 8 * (start + bytes.length) + (i - 8 * (start + bytes.length)) = i := by omega
      rw [if_neg hnot, hshift', Bytes.bit_append_right, Bytes.bit_drop, hback]

/-- The touched bytes, spelled anew: the bits of the range come from the
value, the others are those of the buffer. -/
theorem bit_respelled (frame : Frame) {offset width : Nat} (h : offset + width ≤ frame.bitLength)
    (value : Nat) {i : Nat} (hfirst : 8 * firstByte offset ≤ i)
    (hend : i < 8 * endByte offset width) :
    (Bytes.ofNat (endByte offset width - firstByte offset)
        (putBits (Bytes.toNat (frame.touched offset width)) (slack offset width) width value)).bit
          (i - 8 * firstByte offset) =
      if offset ≤ i ∧ i < offset + width then value.testBit (offset + width - 1 - i)
      else frame.buffer.bit (8 * frame.base + i) := by
  have hslack := slack_add offset width
  have hstart := firstByte_le offset
  -- The numbers count bits from the other end, behind the slack.
  have hpos : 8 * (endByte offset width - firstByte offset) - 1 - (i - 8 * firstByte offset)
      = 8 * endByte offset width - 1 - i := by
    omega
  rw [Bytes.bit_ofNat _ (by omega), hpos, testBit_putBits]
  by_cases hin : offset ≤ i ∧ i < offset + width
  · have hrange : slack offset width ≤ 8 * endByte offset width - 1 - i ∧
        8 * endByte offset width - 1 - i < slack offset width + width := by
      omega
    have hback : 8 * endByte offset width - 1 - i - slack offset width
        = offset + width - 1 - i := by
      omega
    rw [if_pos hrange, if_pos hin, hback]
  · have hrange : ¬ (slack offset width ≤ 8 * endByte offset width - 1 - i ∧
        8 * endByte offset width - 1 - i < slack offset width + width) := by
      omega
    have hlt : 8 * endByte offset width - 1 - i
        < 8 * (endByte offset width - firstByte offset) := by
      omega
    have hback : 8 * (endByte offset width - firstByte offset) - 1
        - (8 * endByte offset width - 1 - i) = i - 8 * firstByte offset := by
      omega
    have hbit : 8 * (frame.base + firstByte offset) + (i - 8 * firstByte offset)
        = 8 * frame.base + i := by
      omega
    rw [if_neg hrange, if_neg hin, Bytes.testBit_toNat, frame.length_touched h, hback,
      frame.bit_touched (by omega), hbit]
    simp [hlt]

/-- A write inside the window gives the bits of its range to the value and
leaves every other bit of the buffer as it was. -/
theorem bit_buffer_put (frame : Frame) {offset width : Nat}
    (h : offset + width ≤ frame.bitLength) (value i : Nat) :
    (frame.put offset width value).buffer.bit (8 * frame.base + i) =
      if offset ≤ i ∧ i < offset + width then value.testBit (offset + width - 1 - i)
      else frame.buffer.bit (8 * frame.base + i) := by
  have hwindow := frame.base_add_length_le
  have hlength : frame.bitLength = 8 * frame.length := rfl
  have hslack := slack_add offset width
  have hfirst := firstByte_le offset
  have hend := endByte_le offset width
  have hfit : frame.base + firstByte offset
      + (endByte offset width - firstByte offset) ≤ frame.buffer.length := by
    omega
  simp only [put]
  rw [bit_overlay (by simpa using hfit), Bytes.length_ofNat]
  by_cases htouched : 8 * firstByte offset ≤ i ∧ i < 8 * endByte offset width
  · -- A touched byte is spelled again, with the bits around the range as they were.
    have hin : 8 * (frame.base + firstByte offset) ≤ 8 * frame.base + i ∧
        8 * frame.base + i
          < 8 * (frame.base + firstByte offset + (endByte offset width - firstByte offset)) := by
      omega
    have hpos : 8 * frame.base + i - 8 * (frame.base + firstByte offset)
        = i - 8 * firstByte offset := by
      omega
    rw [if_pos hin, hpos, frame.bit_respelled h value htouched.1 htouched.2]
  · -- The range lies within the touched bytes, so this bit is outside both.
    have hout : ¬ (8 * (frame.base + firstByte offset) ≤ 8 * frame.base + i ∧
        8 * frame.base + i
          < 8 * (frame.base + firstByte offset + (endByte offset width - firstByte offset))) := by
      omega
    have hrange : ¬ (offset ≤ i ∧ i < offset + width) := by omega
    rw [if_neg hout, if_neg hrange]

/-- The same, with bits counted from the start of the buffer, those in front of the
window included. -/
theorem bit_buffer_put_eq (frame : Frame) {offset width : Nat}
    (h : offset + width ≤ frame.bitLength) (value i : Nat) :
    (frame.put offset width value).buffer.bit i =
      if 8 * frame.base + offset ≤ i ∧ i < 8 * frame.base + offset + width then
        value.testBit (8 * frame.base + offset + width - 1 - i)
      else frame.buffer.bit i := by
  by_cases hfront : i < 8 * frame.base
  · -- In front of the window no byte is touched.
    have hwindow := frame.base_add_length_le
    have hlength : frame.bitLength = 8 * frame.length := rfl
    have hend := endByte_le offset width
    have hfirst := firstByte_le offset
    have hfit : frame.base + firstByte offset
        + (endByte offset width - firstByte offset) ≤ frame.buffer.length := by
      omega
    have hout : ¬ (8 * (frame.base + firstByte offset) ≤ i ∧
        i < 8 * (frame.base + firstByte offset + (endByte offset width - firstByte offset))) := by
      omega
    have hrange : ¬ (8 * frame.base + offset ≤ i ∧ i < 8 * frame.base + offset + width) := by
      omega
    simp only [put]
    rw [bit_overlay (by simpa using hfit), Bytes.length_ofNat, if_neg hout, if_neg hrange]
  · obtain ⟨k, rfl⟩ := Nat.exists_eq_add_of_le (Nat.not_lt.mp hfront)
    rw [frame.bit_buffer_put h]
    by_cases hrange : offset ≤ k ∧ k < offset + width
    · have hrange' : 8 * frame.base + offset ≤ 8 * frame.base + k ∧
          8 * frame.base + k < 8 * frame.base + offset + width := by omega
      rw [if_pos hrange, if_pos hrange']
      congr 1
      omega
    · have hrange' : ¬ (8 * frame.base + offset ≤ 8 * frame.base + k ∧
          8 * frame.base + k < 8 * frame.base + offset + width) := by omega
      rw [if_neg hrange, if_neg hrange']

/-- A write keeps the length of the buffer. -/
theorem length_buffer_put (frame : Frame) (offset width value : Nat) :
    (frame.put offset width value).buffer.length = frame.buffer.length :=
  length_overlay _ _ _

/-- A write inside the window, seen in the window. -/
theorem bit_put (frame : Frame) {offset width : Nat} (h : offset + width ≤ frame.bitLength)
    (value : Nat) {i : Nat} (hi : i < frame.bitLength) :
    (frame.put offset width value).bytes.bit i =
      if offset ≤ i ∧ i < offset + width then value.testBit (offset + width - 1 - i)
      else frame.bytes.bit i := by
  rw [bit_bytes frame hi, bit_bytes (frame.put offset width value) hi]
  exact frame.bit_buffer_put h value i

/-- The written range holds the low bits of the value. -/
theorem number_put (frame : Frame) {offset width : Nat} (h : offset + width ≤ frame.bitLength)
    (value : Nat) :
    (frame.put offset width value).bytes.number offset width = value % 2 ^ width := by
  apply Bytes.number_eq_mod
  intro i hi
  have hin : offset ≤ offset + i ∧ offset + i < offset + width := by omega
  have hpos : offset + width - 1 - (offset + i) = width - 1 - i := by omega
  rw [frame.bit_put h value (by omega), if_pos hin, hpos]

/-- A range apart from the written one holds what it held before. -/
theorem number_put_of_disjoint (frame : Frame) {offset width : Nat}
    (h : offset + width ≤ frame.bitLength) (value : Nat) {start count : Nat}
    (hstart : start + count ≤ frame.bitLength)
    (hapart : offset + width ≤ start ∨ start + count ≤ offset) :
    (frame.put offset width value).bytes.number start count = frame.bytes.number start count := by
  apply Bytes.number_congr
  intro i hi
  have hout : ¬ (offset ≤ start + i ∧ start + i < offset + width) := by omega
  rw [frame.bit_put h value (by omega), if_neg hout]

/-- A range of between 1 and 64 bits inside the window can be written. -/
theorem write_eq (frame : Frame) {offset width : Nat} (hpos : 0 < width) (hle : width ≤ 64)
    (h : offset + width ≤ frame.bitLength) (value : Nat) :
    frame.write offset width value = .ok (frame.put offset width value) := by
  have hcheck := (frame.check_eq_ok_iff offset width).mpr ⟨hpos, hle, h⟩
  rw [write, hcheck]
  rfl

/-! ### Several writes -/

/-- Frames with the same window and the same bits are the same. -/
theorem ext_bits {a b : Frame} (hbase : a.base = b.base) (hlength : a.length = b.length)
    (hbuffer : a.buffer.length = b.buffer.length) (h : ∀ i, a.buffer.bit i = b.buffer.bit i) :
    a = b := by
  have heq : a.buffer = b.buffer := Bytes.eq_of_bit_eq hbuffer fun i _ => h i
  cases a
  cases b
  cases heq
  cases hbase
  cases hlength
  rfl

/-- Two writes to neighbouring ranges are one write to both of them. -/
theorem put_put_append (frame : Frame) {offset front back : Nat}
    (h : offset + (front + back) ≤ frame.bitLength) (high : Nat) {low : Nat}
    (hlow : low < 2 ^ back) :
    (frame.put offset front high).put (offset + front) back low =
      frame.put offset (front + back) (2 ^ back * high + low) := by
  have hfront : offset + front ≤ frame.bitLength := by omega
  have hback : offset + front + back ≤ (frame.put offset front high).bitLength := by
    show offset + front + back ≤ frame.bitLength
    omega
  have hbase : (frame.put offset front high).base = frame.base := rfl
  refine ext_bits rfl rfl (by simp only [length_buffer_put]) ?_
  intro i
  rw [bit_buffer_put_eq _ hback, bit_buffer_put_eq _ hfront, bit_buffer_put_eq _ h, hbase,
    Nat.testBit_two_pow_mul_add _ hlow]
  -- The back range, the front range, and everything else.
  by_cases hin : 8 * frame.base + (offset + front) ≤ i ∧
      i < 8 * frame.base + (offset + front) + back
  · have hboth : 8 * frame.base + offset ≤ i ∧
        i < 8 * frame.base + offset + (front + back) := by omega
    have hpos : 8 * frame.base + offset + (front + back) - 1 - i =
        8 * frame.base + (offset + front) + back - 1 - i := by omega
    rw [if_pos hin, if_pos hboth, hpos, if_pos (by omega)]
  · rw [if_neg hin]
    by_cases hfirst : 8 * frame.base + offset ≤ i ∧ i < 8 * frame.base + offset + front
    · have hboth : 8 * frame.base + offset ≤ i ∧
          i < 8 * frame.base + offset + (front + back) := by omega
      have hpos : 8 * frame.base + offset + (front + back) - 1 - i - back =
          8 * frame.base + offset + front - 1 - i := by omega
      rw [if_pos hfirst, if_pos hboth, if_neg (by omega), hpos]
    · have hneither : ¬ (8 * frame.base + offset ≤ i ∧
          i < 8 * frame.base + offset + (front + back)) := by omega
      rw [if_neg hfirst, if_neg hneither]

/-- Writing zeros where there are zeros changes nothing. -/
theorem put_zero (frame : Frame) {offset width : Nat} (h : offset + width ≤ frame.bitLength)
    (hzero : frame.bytes.number offset width = 0) : frame.put offset width 0 = frame := by
  refine ext_bits rfl rfl (length_buffer_put _ _ _ _) ?_
  intro i
  rw [bit_buffer_put_eq _ h]
  by_cases hin : 8 * frame.base + offset ≤ i ∧ i < 8 * frame.base + offset + width
  · obtain ⟨k, rfl⟩ := Nat.exists_eq_add_of_le hin.1
    have hbit := frame.bytes.testBit_number offset width (width - 1 - k)
    have hlt : width - 1 - k < width := by omega
    have hpos : offset + width - 1 - (width - 1 - k) = offset + k := by omega
    rw [hzero, hpos, frame.bit_bytes (by omega), ← Nat.add_assoc] at hbit
    rw [if_pos hin]
    simpa [hlt] using hbit
  · rw [if_neg hin]

/-! ### Whole buffers and zeros -/

@[simp]
theorem bytes_ofBytes (buffer : Bytes) : (ofBytes buffer).bytes = buffer := List.take_length

@[simp]
theorem bitLength_zeros (length : Nat) : (zeros length).bitLength = 8 * length := by
  simp [zeros, ofBytes, bitLength]

end SensorGateway.Frame
