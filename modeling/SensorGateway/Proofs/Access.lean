import SensorGateway.Proofs.Outcome
import SensorGateway.Proofs.Pieces

/-!
# `SensorGateway.Proofs.Access`: what reads and writes do to a frame

`read_extracts` says what a range of bits of a window reads as: the window is one
big-endian number, and the range is a digit of it. `write_replaces` says what a
write changes: the bits of its range and nothing else, neither in the window nor
around it, so that ranges apart from each other do not notice each other's writes.

Both are about every frame and every range, refused ranges included.
-/

set_option autoImplicit false

namespace SensorGateway

/-! ### Numbers of a window -/

/-- A stretch of bits is a digit of the number that all bytes spell. -/
theorem Bytes.number_eq_div {bytes : Bytes} {offset width : Nat}
    (h : offset + width ≤ 8 * bytes.length) :
    bytes.number offset width =
      toNat bytes / 2 ^ (8 * bytes.length - offset - width) % 2 ^ width := by
  apply Nat.eq_of_testBit_eq
  intro j
  rw [testBit_number, Nat.testBit_mod_two_pow, Nat.testBit_div_two_pow, testBit_toNat]
  by_cases hj : j < width
  · have hlt : j + (8 * bytes.length - offset - width) < 8 * bytes.length := by omega
    have hpos : 8 * bytes.length - 1 - (j + (8 * bytes.length - offset - width)) =
        offset + width - 1 - j := by omega
    rw [hpos]
    simp [hlt]
  · simp [hj]

namespace Frame

/-! ### Two's complement -/

/-- The top bit counts negatively. -/
theorem signed_eq_toInt {width bits : Nat} (hpos : 0 < width) (hlt : bits < 2 ^ width) :
    signed width bits = (BitVec.ofNat width bits).toInt := by
  obtain ⟨rest, rfl⟩ := Nat.exists_eq_add_one_of_ne_zero (Nat.ne_of_gt hpos)
  have hpow : 2 ^ (rest + 1) = 2 ^ rest * 2 := Nat.pow_succ 2 rest
  have hcast : ((2 ^ (rest + 1) : Nat) : Int) = 2 ^ (rest + 1) := by push_cast; rfl
  rw [signed, Nat.add_sub_cancel, BitVec.toInt_eq_toNat_cond, BitVec.toNat_ofNat,
    Nat.mod_eq_of_lt hlt, ← hcast]
  by_cases h : bits < 2 ^ rest
  · rw [if_pos h, if_pos (by omega)]
  · rw [if_neg h, if_neg (by omega)]

/-- Bits moved to the top of a word and back, the way back with copies of the top
bit. -/
def signExtend (width : Nat) (word : UInt64) : Int64 :=
  (word <<< UInt64.ofNat (64 - width)).toInt64 >>> Int64.ofNat (64 - width)

/-- A machine reads two's complement with two shifts. -/
theorem toInt_signExtend {width : Nat} {word : UInt64} (hpos : 0 < width) (hle : width ≤ 64)
    (hlt : word.toNat < 2 ^ width) : (signExtend width word).toInt = signed width word.toNat := by
  obtain ⟨shift, hshift⟩ := Nat.exists_eq_add_of_le hle
  obtain ⟨rest, rfl⟩ := Nat.exists_eq_add_one_of_ne_zero (Nat.ne_of_gt hpos)
  have hcount : 64 - (rest + 1) = shift := by omega
  -- The range of words is that of the number, moved up.
  have hrange : 2 ^ 64 = 2 ^ (rest + 1) * 2 ^ shift := by rw [← Nat.pow_add, ← hshift]
  have hhalf : 2 ^ (rest + 1) * 2 ^ shift = 2 * (2 ^ rest * 2 ^ shift) := by
    rw [Nat.pow_succ, Nat.mul_comm (2 ^ rest), Nat.mul_assoc]
  have hmoved : (word <<< UInt64.ofNat shift).toNat = word.toNat * 2 ^ shift := by
    have hsmall : (UInt64.ofNat shift).toNat % 64 = shift := by
      rw [UInt64.toNat_ofNat']
      omega
    rw [UInt64.toNat_shiftLeft, hsmall, Nat.shiftLeft_eq]
    refine Nat.mod_eq_of_lt ?_
    rw [hrange]
    exact Nat.mul_lt_mul_of_pos_right hlt (Nat.two_pow_pos shift)
  have hback : ((Int64.ofNat shift).toBitVec.smod 64).toNat = shift := by
    have hall : ∀ k : Fin 64, ((Int64.ofNat k).toBitVec.smod 64).toNat = k.val := by decide
    exact hall ⟨shift, by omega⟩
  have hpos' : ((2 ^ shift : Nat) : Int) ≠ 0 := by
    have := Nat.two_pow_pos shift
    omega
  rw [signExtend, hcount]
  show ((word <<< UInt64.ofNat shift).toInt64 >>> Int64.ofNat shift).toBitVec.toInt = _
  rw [Int64.toBitVec_shiftRight, BitVec.sshiftRight_eq', hback, BitVec.toInt_sshiftRight,
    UInt64.toBitVec_toInt64, BitVec.toInt_eq_toNat_cond, UInt64.toNat_toBitVec, hmoved,
    Int.shiftRight_eq_div_pow, hrange, hhalf, signed, Nat.add_sub_cancel]
  by_cases h : word.toNat < 2 ^ rest
  · have hlow := Nat.mul_lt_mul_of_pos_right h (Nat.two_pow_pos shift)
    rw [if_pos h, if_pos (by omega), Int.natCast_mul, Int.mul_ediv_cancel _ hpos']
  · have hhigh := Nat.mul_le_mul_right (2 ^ shift) (Nat.not_lt.mp h)
    have hsplit :
        ((word.toNat * 2 ^ shift : Nat) : Int) - ((2 * (2 ^ rest * 2 ^ shift) : Nat) : Int) =
        ((word.toNat : Int) - 2 ^ (rest + 1)) * ((2 ^ shift : Nat) : Int) := by
      rw [← hhalf]
      push_cast
      rw [Int.sub_mul]
    rw [if_neg h, if_neg (by omega), hsplit, Int.mul_ediv_cancel _ hpos']

/-! ### Reading -/

/-- A machine reads a range and extends its sign. -/
def readSignedBytewise (frame : Frame) (offset width : Nat) : Option (Except FrameError Int64) :=
  (frame.readBytewise offset width).map (Except.map (signExtend width))

theorem read_eq_invalidWidth (frame : Frame) (offset : Nat) {width : Nat}
    (h : width = 0 ∨ 64 < width) : frame.read offset width = .error (.invalidWidth width) := by
  rw [read, check, if_pos h]
  rfl

theorem read_eq_tooShort (frame : Frame) {offset width : Nat} (hpos : 1 ≤ width) (hle : width ≤ 64)
    (h : 8 * frame.length < offset + width) :
    frame.read offset width =
      .error (.tooShort (min (offset + width) (2 ^ 64 - 1)) (8 * frame.length)) := by
  have hout : ¬ offset + width ≤ frame.bitLength := Nat.not_le.mpr h
  rw [read, check, if_neg (by omega), if_neg hout]
  rfl

/-- A range inside the window reads as its digit of the window's number. -/
theorem read_eq_div (frame : Frame) {offset width : Nat} (hpos : 1 ≤ width) (hle : width ≤ 64)
    (h : offset + width ≤ 8 * frame.length) :
    frame.read offset width =
      .ok (Bytes.toNat frame.bytes / 2 ^ (8 * frame.length - offset - width) % 2 ^ width) := by
  rw [frame.read_eq hpos hle h, Bytes.number_eq_div (by rwa [length_bytes]), length_bytes]

/-- A range is read or refused, and each in one way only. -/
theorem read_cases (frame : Frame) (offset width : Nat) :
    (1 ≤ width ∧ width ≤ 64 ∧ offset + width ≤ 8 * frame.length) ∨
    (width = 0 ∨ 64 < width) ∨
    (1 ≤ width ∧ width ≤ 64 ∧ 8 * frame.length < offset + width) := by
  omega

theorem exists_read_eq_ok_iff (frame : Frame) (offset width : Nat) :
    (∃ n, frame.read offset width = .ok n) ↔
      1 ≤ width ∧ width ≤ 64 ∧ offset + width ≤ 8 * frame.length := by
  constructor
  · rintro ⟨n, h⟩
    rcases frame.read_cases offset width with hin | hwidth | ⟨hpos, hle, hout⟩
    · exact hin
    · rw [frame.read_eq_invalidWidth offset hwidth] at h
      cases h
    · rw [frame.read_eq_tooShort hpos hle hout] at h
      cases h
  · rintro ⟨hpos, hle, hin⟩
    exact ⟨_, frame.read_eq_div hpos hle hin⟩

/-- Signed reading is reading. -/
theorem readSigned_eq (frame : Frame) (offset width : Nat) :
    frame.readSigned offset width = (frame.read offset width).map (signed width) := by
  rw [readSigned]
  cases frame.read offset width <;> rfl

/-- Two shifts on a word give what `Frame.readSigned` gives. -/
theorem readSignedBytewise_eq (frame : Frame) (offset width : Nat) :
    frame.readSignedBytewise offset width =
      some ((frame.readSigned offset width).map Int64.ofInt) := by
  rw [readSignedBytewise, readBytewise_eq, readSigned_eq]
  rcases frame.read_cases offset width with ⟨hpos, hle, hin⟩ | hwidth | ⟨hpos, hle, hout⟩
  · have hlt := frame.bytes.number_lt offset width
    have hword : (UInt64.ofNat (frame.bytes.number offset width)).toNat =
        frame.bytes.number offset width := by
      have hpow := Nat.pow_le_pow_right (show 0 < 2 by decide) hle
      rw [UInt64.toNat_ofNat']
      exact Nat.mod_eq_of_lt (Nat.lt_of_lt_of_le hlt hpow)
    have hsigned := toInt_signExtend hpos hle (hword.symm ▸ hlt)
    rw [hword] at hsigned
    rw [frame.read_eq hpos hle hin]
    show some (Except.ok (signExtend width _)) = some (.ok (Int64.ofInt (signed width _)))
    rw [← hsigned, Int64.ofInt_toInt]
  · rw [frame.read_eq_invalidWidth offset hwidth]
    rfl
  · rw [frame.read_eq_tooShort hpos hle hout]
    rfl

/-- Frames that show the same bytes read alike, whatever lies around the window. -/
theorem read_congr {frame other : Frame} (h : other.bytes = frame.bytes) (offset width : Nat) :
    other.read offset width = frame.read offset width := by
  have hlength : other.length = frame.length := by rw [← length_bytes, ← length_bytes, h]
  rcases frame.read_cases offset width with ⟨hpos, hle, hin⟩ | hwidth | ⟨hpos, hle, hout⟩
  · rw [frame.read_eq_div hpos hle hin, other.read_eq_div hpos hle (hlength ▸ hin), h, hlength]
  · rw [frame.read_eq_invalidWidth offset hwidth, other.read_eq_invalidWidth offset hwidth]
  · rw [frame.read_eq_tooShort hpos hle hout, other.read_eq_tooShort hpos hle (hlength ▸ hout),
      hlength]

/-- A range is what its two parts are, one behind the other. -/
theorem toOption_read_add (frame : Frame) {offset front back : Nat} (hfront : 1 ≤ front)
    (hback : 1 ≤ back) (hle : front + back ≤ 64) :
    (frame.read offset (front + back)).toOption =
      (frame.read offset front).toOption.bind fun high =>
        (frame.read (offset + front) back).toOption.map fun low => high * 2 ^ back + low := by
  rw [frame.toOption_read (by omega) hle, frame.toOption_read hfront (by omega),
    frame.toOption_read hback (by omega)]
  by_cases hin : offset + (front + back) ≤ frame.bitLength
  · rw [if_pos hin, if_pos (by omega), if_pos (by omega), Bytes.number_add]
    rfl
  · have hout : ¬ offset + front + back ≤ frame.bitLength := by omega
    rw [if_neg hin, if_neg hout]
    cases (if offset + front ≤ frame.bitLength then _ else none) <;> rfl

/-- Reading takes the bits of a range as a big-endian number. It goes through exactly
for 1 to 64 bits that end inside the window, and gives the digit of the window's number
that stands there, signed numbers in two's complement. Other widths are refused as
such, ranges that end behind the window as too long, with the bits they would need up
to the largest count there is. A machine that goes byte by byte, with a word of 64
bits, comes to the same results; it addresses bytes of the window only, and the bytes
around it have no say. Two ranges side by side read like the range they make up. -/
theorem read_extracts (frame : Frame) (offset width : Nat) :
    let readable := 1 ≤ width ∧ width ≤ 64 ∧ offset + width ≤ 8 * frame.length
    let value := Bytes.toNat frame.bytes / 2 ^ (8 * frame.length - offset - width) % 2 ^ width
    ((∃ n, frame.read offset width = .ok n) ↔ readable) ∧
    ((∃ n, frame.readSigned offset width = .ok n) ↔ readable) ∧
    (readable → frame.read offset width = .ok value ∧
      frame.readSigned offset width = .ok (BitVec.ofNat width value).toInt) ∧
    (width = 0 ∨ 64 < width →
      frame.read offset width = .error (.invalidWidth width) ∧
      frame.readSigned offset width = .error (.invalidWidth width)) ∧
    (1 ≤ width → width ≤ 64 → 8 * frame.length < offset + width →
      let short := FrameError.tooShort (min (offset + width) (2 ^ 64 - 1)) (8 * frame.length)
      frame.read offset width = .error short ∧ frame.readSigned offset width = .error short) ∧
    frame.readBytewise offset width = some ((frame.read offset width).map UInt64.ofNat) ∧
    frame.readSignedBytewise offset width =
      some ((frame.readSigned offset width).map Int64.ofInt) ∧
    (readable → ∀ piece ∈ pieces offset width, piece.index < frame.length) ∧
    (∀ other : Frame, other.bytes = frame.bytes →
      other.read offset width = frame.read offset width ∧
      other.readSigned offset width = frame.readSigned offset width) ∧
    (∀ back, 1 ≤ width → 1 ≤ back → width + back ≤ 64 →
      (frame.read offset (width + back)).toOption =
        (frame.read offset width).toOption.bind fun high =>
          (frame.read (offset + width) back).toOption.map fun low => high * 2 ^ back + low) := by
  intro readable value
  refine ⟨frame.exists_read_eq_ok_iff offset width, ?signed, ?digit, ?width, ?short,
    frame.readBytewise_eq offset width, frame.readSignedBytewise_eq offset width, ?window,
    ?around, fun back => frame.toOption_read_add⟩
  case signed =>
    refine Iff.trans ?_ (frame.exists_read_eq_ok_iff offset width)
    simp only [readSigned_eq, Except.map_eq_ok_iff]
    exact ⟨fun ⟨_, n, h, _⟩ => ⟨n, h⟩, fun ⟨n, h⟩ => ⟨_, n, h, rfl⟩⟩
  case digit =>
    -- The number has the width of the range, so it is the two's complement of one.
    rintro ⟨hpos, hle, hin⟩
    have hread := frame.read_eq_div hpos hle hin
    have hlt : value < 2 ^ width := Nat.mod_lt _ (Nat.two_pow_pos width)
    rw [readSigned_eq, hread]
    exact ⟨rfl, congrArg Except.ok (signed_eq_toInt hpos hlt)⟩
  case width =>
    intro hwidth
    rw [readSigned_eq, frame.read_eq_invalidWidth offset hwidth]
    exact ⟨rfl, rfl⟩
  case short =>
    intro hpos hle hout
    rw [readSigned_eq, frame.read_eq_tooShort hpos hle hout]
    exact ⟨rfl, rfl⟩
  case window =>
    rintro ⟨-, -, hin⟩
    exact index_lt_of_mem_pieces hin
  case around =>
    intro other hbytes
    rw [readSigned_eq, readSigned_eq, read_congr hbytes]
    exact ⟨rfl, rfl⟩

/-- A window of two bytes with bytes on both sides. -/
def enclosed : Frame where
  buffer := [0xFF, 0xAB, 0xCD, 0xFF]
  base := 1
  length := 2
  base_add_length_le := by decide

/-- The two middle digits of the window `ABCD`, read with and without a sign. -/
theorem read_extracts_enclosed :
    (1 ≤ 8 ∧ 8 ≤ 64 ∧ 4 + 8 ≤ 8 * enclosed.length) ∧
      enclosed.read 4 8 = .ok 0xBC ∧ enclosed.readSigned 4 8 = .ok (-68) := by
  have hin : 1 ≤ 8 ∧ 8 ≤ 64 ∧ 4 + 8 ≤ 8 * enclosed.length := by decide
  obtain ⟨-, -, hvalue, -⟩ := read_extracts enclosed 4 8
  obtain ⟨hread, hsigned⟩ := hvalue hin
  exact ⟨hin, hread, hsigned⟩

/-! ### Writing -/

/-- The frame behind a write in place: as it was if the range is refused. -/
def overwritten (frame : Frame) (offset width value : Nat) : Frame :=
  match frame.write offset width value with
  | .ok written => written
  | .error _ => frame

/-- Writing is refused when reading is, and for the same reason. -/
theorem write_eq_error_iff (frame : Frame) (offset width value : Nat) (e : FrameError) :
    frame.write offset width value = .error e ↔ frame.read offset width = .error e := by
  rw [write, read]
  cases frame.check offset width with
  | error reason =>
    show Except.error reason = Except.error e ↔ Except.error reason = Except.error e
    rw [Except.error.injEq, Except.error.injEq]
  | ok _ => constructor <;> intro h <;> cases h

/-- A write that is not refused puts the value into its range. -/
theorem write_eq_ok_iff (frame : Frame) (offset width value : Nat) (written : Frame) :
    frame.write offset width value = .ok written ↔
      (1 ≤ width ∧ width ≤ 64 ∧ offset + width ≤ 8 * frame.length) ∧
        written = frame.put offset width value := by
  constructor
  · intro h
    have hread : ∃ n, frame.read offset width = .ok n := by
      cases hread : frame.read offset width with
      | ok n => exact ⟨n, rfl⟩
      | error e =>
        rw [(frame.write_eq_error_iff offset width value e).mpr hread] at h
        cases h
    obtain ⟨hpos, hle, hin⟩ := (frame.exists_read_eq_ok_iff offset width).mp hread
    rw [frame.write_eq hpos hle hin] at h
    exact ⟨⟨hpos, hle, hin⟩, (Except.ok.inj h).symm⟩
  · rintro ⟨⟨hpos, hle, hin⟩, rfl⟩
    exact frame.write_eq hpos hle hin value

/-- A write in place writes if the range is readable, and else leaves the frame alone. -/
theorem overwritten_eq (frame : Frame) (offset width value : Nat) :
    frame.overwritten offset width value =
      if 1 ≤ width ∧ width ≤ 64 ∧ offset + width ≤ 8 * frame.length then
        frame.put offset width value
      else frame := by
  unfold overwritten
  cases hwrite : frame.write offset width value with
  | ok written =>
    obtain ⟨hin, rfl⟩ := (frame.write_eq_ok_iff offset width value written).mp hwrite
    rw [if_pos hin]
  | error e =>
    have hout : ¬ (1 ≤ width ∧ width ≤ 64 ∧ offset + width ≤ 8 * frame.length) := by
      intro hin
      rw [(frame.write_eq_ok_iff offset width value _).mpr ⟨hin, rfl⟩] at hwrite
      cases hwrite
    rw [if_neg hout]

/-- Writes to ranges apart from each other may change places. -/
theorem put_put_comm (frame : Frame) {offset width start count : Nat}
    (hin : offset + width ≤ 8 * frame.length) (hin' : start + count ≤ 8 * frame.length)
    (hapart : start + count ≤ offset ∨ offset + width ≤ start) (value other : Nat) :
    (frame.put offset width value).put start count other =
      (frame.put start count other).put offset width value := by
  refine ext_bits rfl rfl (by simp only [length_buffer_put]) ?_
  intro i
  rw [(frame.put offset width value).bit_buffer_put_eq hin', frame.bit_buffer_put_eq hin,
    (frame.put start count other).bit_buffer_put_eq hin, frame.bit_buffer_put_eq hin']
  show (if 8 * frame.base + start ≤ i ∧ i < 8 * frame.base + start + count then _ else
      if 8 * frame.base + offset ≤ i ∧ i < 8 * frame.base + offset + width then _ else _) =
    if 8 * frame.base + offset ≤ i ∧ i < 8 * frame.base + offset + width then _ else
      if 8 * frame.base + start ≤ i ∧ i < 8 * frame.base + start + count then _ else _
  -- No bit lies in both ranges.
  by_cases hfirst : 8 * frame.base + offset ≤ i ∧ i < 8 * frame.base + offset + width
  · have hsecond : ¬ (8 * frame.base + start ≤ i ∧ i < 8 * frame.base + start + count) := by omega
    rw [if_neg hsecond, if_pos hfirst, if_pos hfirst]
    rfl
  · rw [if_neg hfirst, if_neg hfirst]
    rfl

/-- A range apart from the written one reads as before, be it readable or not. -/
theorem read_put_of_disjoint (frame : Frame) {offset width start count : Nat}
    (hin : offset + width ≤ 8 * frame.length)
    (hapart : start + count ≤ offset ∨ offset + width ≤ start) (value : Nat) :
    (frame.put offset width value).read start count = frame.read start count := by
  have hlength : (frame.put offset width value).length = frame.length := rfl
  rcases frame.read_cases start count with ⟨hpos, hle, hin'⟩ | hwidth | ⟨hpos, hle, hout⟩
  · rw [frame.read_eq hpos hle hin', (frame.put offset width value).read_eq hpos hle hin',
      frame.number_put_of_disjoint hin value hin' hapart.symm]
  · rw [frame.read_eq_invalidWidth start hwidth, read_eq_invalidWidth _ start hwidth]
  · rw [frame.read_eq_tooShort hpos hle hout,
      (frame.put offset width value).read_eq_tooShort hpos hle hout, hlength]

/-- The same for writes of which either may be refused. What is refused depends on the
window alone, which no write changes. -/
theorem overwritten_comm (frame : Frame) {offset width start count : Nat}
    (hapart : start + count ≤ offset ∨ offset + width ≤ start) (value other : Nat) :
    (frame.overwritten offset width value).overwritten start count other =
      (frame.overwritten start count other).overwritten offset width value := by
  have hfirst : (frame.put start count other).length = frame.length := rfl
  have hsecond : (frame.put offset width value).length = frame.length := rfl
  rw [frame.overwritten_eq offset, frame.overwritten_eq start]
  by_cases hin : 1 ≤ width ∧ width ≤ 64 ∧ offset + width ≤ 8 * frame.length
  · by_cases hin' : 1 ≤ count ∧ count ≤ 64 ∧ start + count ≤ 8 * frame.length
    · rw [if_pos hin, if_pos hin', overwritten_eq, overwritten_eq, hfirst, hsecond, if_pos hin,
        if_pos hin', frame.put_put_comm hin.2.2 hin'.2.2 hapart]
    · rw [if_pos hin, if_neg hin', overwritten_eq, overwritten_eq, hsecond, if_neg hin',
        if_pos hin]
  · by_cases hin' : 1 ≤ count ∧ count ≤ 64 ∧ start + count ≤ 8 * frame.length
    · rw [if_neg hin, if_pos hin', overwritten_eq, overwritten_eq, hfirst, if_pos hin',
        if_neg hin]
    · rw [if_neg hin, if_neg hin', overwritten_eq, overwritten_eq, if_neg hin', if_neg hin]

/-- Writing changes the bits of its range and nothing else. It is refused exactly when
reading the range is, for the same reason, and then leaves the frame as it was.
Otherwise the range reads as the low bits of the value, every other bit of the buffer,
in the window and around it, is what it was, and so are the sizes and the base. Ranges
apart from the written one read as before, whether they can be read or not, and two
writes to ranges apart from each other may change places. A machine that goes byte by
byte in place leaves the same buffer behind. -/
theorem write_replaces (frame : Frame) (offset width value : Nat) :
    (∀ e, frame.write offset width value = .error e ↔ frame.read offset width = .error e) ∧
    (∀ e, frame.write offset width value = .error e →
      frame.overwritten offset width value = frame) ∧
    (∀ written, frame.write offset width value = .ok written →
      frame.overwritten offset width value = written ∧
      written.read offset width = .ok (value % 2 ^ width) ∧
      (∀ i, ¬ (8 * frame.base + offset ≤ i ∧ i < 8 * frame.base + offset + width) →
        written.buffer.bit i = frame.buffer.bit i) ∧
      written.length = frame.length ∧ written.base = frame.base ∧
      written.buffer.length = frame.buffer.length) ∧
    (∀ start count, start + count ≤ offset ∨ offset + width ≤ start →
      (frame.overwritten offset width value).read start count = frame.read start count ∧
      (frame.overwritten offset width value).readSigned start count =
        frame.readSigned start count ∧
      ∀ other,
        (frame.overwritten offset width value).overwritten start count other =
          (frame.overwritten start count other).overwritten offset width value ∧
        ∀ e, (frame.overwritten offset width value).write start count other = .error e ↔
          frame.write start count other = .error e) ∧
    (∀ word : UInt64, word.toNat = value →
      frame.writeBytewise offset width word = some
        ((frame.write offset width value).map fun _ => (),
          (frame.overwritten offset width value).buffer)) := by
  refine ⟨frame.write_eq_error_iff offset width value, ?refused, ?written, ?apart, ?bytewise⟩
  case refused =>
    intro e h
    rw [overwritten, h]
  case written =>
    -- A write that succeeds puts the value into its range and nowhere else.
    intro written h
    obtain ⟨⟨hpos, hle, hin⟩, heq⟩ := (frame.write_eq_ok_iff offset width value written).mp h
    have hsame : frame.overwritten offset width value = written := by rw [overwritten, h]
    subst heq
    refine ⟨hsame, ?_, ?_, rfl, rfl, frame.length_buffer_put offset width value⟩
    · rw [(frame.put offset width value).read_eq hpos hle hin, frame.number_put hin]
    · intro i hout
      rw [frame.bit_buffer_put_eq hin, if_neg hout]
  case apart =>
    intro start count hapart
    have hread : (frame.overwritten offset width value).read start count =
        frame.read start count := by
      rw [overwritten_eq]
      split
      · next hin => exact frame.read_put_of_disjoint hin.2.2 hapart value
      · rfl
    refine ⟨hread, by rw [readSigned_eq, readSigned_eq, hread], ?_⟩
    intro other
    exact ⟨frame.overwritten_comm hapart value other,
      fun e => by rw [write_eq_error_iff, write_eq_error_iff, hread]⟩
  case bytewise =>
    rintro word rfl
    rw [writeBytewise_eq, overwritten]
    cases frame.write offset width word.toNat <;> rfl

/-- A value that is too wide for its range loses its high bits, and the last digit of the
window stays. -/
theorem write_replaces_enclosed : ∃ written, enclosed.write 4 8 0x123 = .ok written ∧
    written.read 4 8 = .ok 0x23 ∧ written.read 12 4 = enclosed.read 12 4 := by
  obtain ⟨-, -, hwritten, hapart, -⟩ := write_replaces enclosed 4 8 0x123
  have hwrite : enclosed.write 4 8 0x123 = .ok (enclosed.put 4 8 0x123) :=
    enclosed.write_eq (by decide) (by decide) (by decide) 0x123
  obtain ⟨hsame, hread, -⟩ := hwritten _ hwrite
  refine ⟨enclosed.put 4 8 0x123, hwrite, hread, ?_⟩
  rw [← hsame]
  exact (hapart 12 4 (.inr (by decide))).1

end Frame

end SensorGateway
