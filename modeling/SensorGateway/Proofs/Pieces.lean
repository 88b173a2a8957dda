import SensorGateway.Proofs.Frame

/-!
# `SensorGateway.Proofs.Pieces`: ranges of bits, byte by byte

A machine goes through a range of bits byte by byte. It cuts the range into
`pieces`, one for each byte, and has words of 64 bits at hand: reading appends one
piece after the other to a word (`Piece.appendTo`), writing puts one piece after the
other into its byte (`Piece.putInto`). `Frame.readBytewise` and
`Frame.writeBytewise` do so, and have no result if a byte is addressed that the
buffer does not have.

* `index_lt_of_mem_pieces`: a range inside the window has all its pieces there.
* `readBytewise_eq` and `writeBytewise_eq`: both always have a result, and it is the
  one of `Frame.read` and `Frame.write`. No bit is lost on the way through the word.
-/

set_option autoImplicit false

namespace SensorGateway

/-- The part of a range of bits that lies in one byte. -/
structure Piece where
  /-- The byte, counted from the start of the window. -/
  index : Nat
  /-- How many of its bits belong to the range. -/
  width : Nat
  /-- How many of its bits stand behind these. -/
  shift : Nat
  /-- How many bits of the range stand in later bytes. -/
  later : Nat
  deriving Repr, DecidableEq

/-- The pieces of a range of `remaining` bits from bit `pos` on. -/
def pieces (pos remaining : Nat) : List Piece :=
  if remaining = 0 then []
  else
    let taken := min (8 - pos % 8) remaining
    ⟨pos / 8, taken, 8 - pos % 8 - taken, remaining - taken⟩ ::
      pieces (pos + taken) (remaining - taken)
termination_by remaining

/-- A byte whose lowest `bits` bits are set. -/
def lowMask (bits : Nat) : UInt8 := UInt8.ofNat (2 ^ bits - 1)

namespace Piece

/-- Takes the piece out of its byte and puts it behind the bits of a word. -/
def appendTo (piece : Piece) (word : UInt64) (byte : UInt8) : UInt64 :=
  (word <<< UInt64.ofNat piece.width) |||
    ((byte >>> UInt8.ofNat piece.shift) &&& lowMask piece.width).toUInt64

/-- Puts the bits of a word that belong to the piece into its byte. -/
def putInto (piece : Piece) (word : UInt64) (byte : UInt8) : UInt8 :=
  (byte &&& ~~~(lowMask piece.width <<< UInt8.ofNat piece.shift)) |||
    (((word >>> UInt64.ofNat piece.later).toUInt8 &&& lowMask piece.width) <<<
      UInt8.ofNat piece.shift)

end Piece

namespace Bytes

/-- Appends pieces of a buffer to a word. Nothing comes of it when a byte is not
there. -/
def gather (buffer : Bytes) (base : Nat) : List Piece → UInt64 → Option UInt64
  | [], word => some word
  | piece :: rest, word =>
    match buffer[base + piece.index]? with
    | some byte => gather buffer base rest (piece.appendTo word byte)
    | none => none

/-- Puts a word into pieces of a buffer. Nothing comes of it when a byte is not
there. -/
def scatter (base : Nat) (word : UInt64) : List Piece → Bytes → Option Bytes
  | [], buffer => some buffer
  | piece :: rest, buffer =>
    match buffer[base + piece.index]? with
    | some byte =>
      scatter base word rest (buffer.set (base + piece.index) (piece.putInto word byte))
    | none => none

end Bytes

namespace Frame

/-- Reads a range byte by byte. -/
def readBytewise (frame : Frame) (offset width : Nat) : Option (Except FrameError UInt64) :=
  match frame.check offset width with
  | .error e => some (.error e)
  | .ok () => (frame.buffer.gather frame.base (pieces offset width) 0).map .ok

/-- Writes a range byte by byte and in place: the outcome, and the buffer as it is
then. -/
def writeBytewise (frame : Frame) (offset width : Nat) (word : UInt64) :
    Option (Except FrameError Unit × Bytes) :=
  match frame.check offset width with
  | .error e => some (.error e, frame.buffer)
  | .ok () =>
    (Bytes.scatter frame.base word (pieces offset width) frame.buffer).map fun buffer =>
      (.ok (), buffer)

end Frame

/-! ### Pieces -/

theorem pieces_zero (pos : Nat) : pieces pos 0 = [] := by
  rw [pieces, if_pos rfl]

/-- The first piece lies in the byte of the first bit, and the other pieces are those
of what it leaves of the range. -/
theorem pieces_of_pos (pos : Nat) {remaining : Nat} (h : 0 < remaining) :
    ∃ piece : Piece, piece.index = pos / 8 ∧ 0 < piece.width ∧
      pos % 8 + piece.width + piece.shift = 8 ∧ remaining = piece.width + piece.later ∧
      pieces pos remaining = piece :: pieces (pos + piece.width) piece.later := by
  refine ⟨⟨pos / 8, min (8 - pos % 8) remaining, 8 - pos % 8 - min (8 - pos % 8) remaining,
    remaining - min (8 - pos % 8) remaining⟩, rfl, ?_, ?_, ?_, ?_⟩
  · show 0 < min (8 - pos % 8) remaining
    omega
  · show pos % 8 + min (8 - pos % 8) remaining + (8 - pos % 8 - min (8 - pos % 8) remaining) = 8
    omega
  · show remaining = min (8 - pos % 8) remaining + (remaining - min (8 - pos % 8) remaining)
    omega
  · rw [pieces, if_neg (by omega)]

/-- Every piece of a range lies in a byte that the range reaches. -/
theorem index_lt_of_mem_pieces {pos remaining bound : Nat} (h : pos + remaining ≤ 8 * bound) :
    ∀ piece ∈ pieces pos remaining, piece.index < bound := by
  fun_induction pieces pos remaining with
  | case1 => simp
  | case2 pos remaining hpos taken ih =>
    intro piece hmem
    rcases List.mem_cons.mp hmem with rfl | hmem
    · show pos / 8 < bound
      omega
    · exact ih (by omega) piece hmem

theorem toNat_lowMask {bits : Nat} (h : bits ≤ 8) : (lowMask bits).toNat = 2 ^ bits - 1 := by
  have hle : 2 ^ bits ≤ 2 ^ 8 := Nat.pow_le_pow_right (by decide) h
  have hpos := Nat.two_pow_pos bits
  rw [lowMask, UInt8.toNat_ofNat']
  exact Nat.mod_eq_of_lt (by omega)

/-! ### Reading -/

/-- Bits that lie in one byte. -/
theorem Bytes.number_within_byte {bytes : Bytes} {i start width shift : Nat} {byte : UInt8}
    (h : bytes[i]? = some byte) (hfit : start + width + shift = 8) :
    bytes.number (8 * i + start) width = byte.toNat / 2 ^ shift % 2 ^ width := by
  apply Bytes.number_eq_mod
  intro j hj
  have hdiv : (8 * i + start + j) / 8 = i := by omega
  have hmod : 7 - (8 * i + start + j) % 8 = width - 1 - j + shift := by omega
  have hget : bytes.getD i 0 = byte := by rw [List.getD_eq_getElem?_getD, h, Option.getD_some]
  rw [Nat.testBit_div_two_pow, Bytes.bit, hdiv, hget, hmod]

/-- A word with room takes the piece behind its bits. -/
theorem Piece.toNat_appendTo {piece : Piece} {word : UInt64} {byte : UInt8}
    (hwidth : piece.width ≤ 8) (hshift : piece.shift < 8)
    (hroom : word.toNat * 2 ^ piece.width < 2 ^ 64) :
    (piece.appendTo word byte).toNat =
      word.toNat * 2 ^ piece.width + byte.toNat / 2 ^ piece.shift % 2 ^ piece.width := by
  have hlow : byte.toNat / 2 ^ piece.shift % 2 ^ piece.width < 2 ^ piece.width :=
    Nat.mod_lt _ (Nat.two_pow_pos _)
  have hmoved : (word <<< UInt64.ofNat piece.width).toNat = word.toNat <<< piece.width := by
    have hcount : (UInt64.ofNat piece.width).toNat % 64 = piece.width := by
      rw [UInt64.toNat_ofNat']
      omega
    rw [UInt64.toNat_shiftLeft, hcount, Nat.shiftLeft_eq]
    exact Nat.mod_eq_of_lt hroom
  have htaken : ((byte >>> UInt8.ofNat piece.shift) &&& lowMask piece.width).toUInt64.toNat =
      byte.toNat / 2 ^ piece.shift % 2 ^ piece.width := by
    have hcount : (UInt8.ofNat piece.shift).toNat % 8 = piece.shift := by
      rw [UInt8.toNat_ofNat']
      omega
    rw [UInt8.toNat_toUInt64, UInt8.toNat_and, UInt8.toNat_shiftRight, hcount,
      toNat_lowMask hwidth, Nat.and_two_pow_sub_one_eq_mod, Nat.shiftRight_eq_div_pow]
  rw [appendTo, UInt64.toNat_or, hmoved, htaken, ← Nat.shiftLeft_add_eq_or_of_lt hlow,
    Nat.shiftLeft_eq]

/-- The pieces of a range spell the number of the range, behind what the word holds
already. The word never runs over: its bits and those to come are no more than it has
room for. -/
theorem Bytes.exists_gather_eq {buffer : Bytes} {base pos remaining : Nat} {word : UInt64}
    (hfit : 8 * base + pos + remaining ≤ 8 * buffer.length)
    (hroom : (word.toNat + 1) * 2 ^ remaining ≤ 2 ^ 64) :
    ∃ result, buffer.gather base (pieces pos remaining) word = some result ∧
      result.toNat = word.toNat * 2 ^ remaining + buffer.number (8 * base + pos) remaining := by
  induction hn : remaining using Nat.strongRecOn generalizing pos remaining word with
  | _ n ih =>
    subst hn
    rcases Nat.eq_zero_or_pos remaining with rfl | hpos
    · exact ⟨word, by rw [pieces_zero, gather], by simp [number]⟩
    · obtain ⟨piece, hindex, hwidth, hbyte, rfl, heq⟩ := pieces_of_pos pos hpos
      have hget := List.getElem?_eq_getElem (l := buffer)
        (show base + piece.index < buffer.length by omega)
      have hfirst : buffer.number (8 * base + pos) piece.width =
          buffer[base + piece.index].toNat / 2 ^ piece.shift % 2 ^ piece.width := by
        have hstart : 8 * base + pos = 8 * (base + piece.index) + pos % 8 := by omega
        rw [hstart, number_within_byte hget hbyte]
      have hlow := number_lt buffer (8 * base + pos) piece.width
      have hpow : 2 ^ (piece.width + piece.later) = 2 ^ piece.width * 2 ^ piece.later :=
        Nat.pow_add 2 piece.width piece.later
      rw [hpow, ← Nat.mul_assoc] at hroom
      have hall : (word.toNat + 1) * 2 ^ piece.width ≤ 2 ^ 64 :=
        Nat.le_trans (Nat.le_mul_of_pos_right _ (Nat.two_pow_pos piece.later)) hroom
      rw [Nat.add_mul, Nat.one_mul] at hall hroom
      have happend : (piece.appendTo word buffer[base + piece.index]).toNat =
          word.toNat * 2 ^ piece.width + buffer.number (8 * base + pos) piece.width := by
        rw [hfirst]
        exact Piece.toNat_appendTo (by omega) (by omega) (by omega)
      -- With the first piece in it the word still has room for the others.
      have hroom' : ((piece.appendTo word buffer[base + piece.index]).toNat + 1) *
          2 ^ piece.later ≤ 2 ^ 64 :=
        Nat.le_trans (Nat.mul_le_mul_right _ (by omega)) hroom
      have hfit' : 8 * base + (pos + piece.width) + piece.later ≤ 8 * buffer.length := by omega
      obtain ⟨result, hresult, hvalue⟩ := ih piece.later (by omega) hfit' hroom' rfl
      refine ⟨result, ?_, ?_⟩
      · rw [heq, gather, hget]
        exact hresult
      · rw [hvalue, happend, hpow, number_add, ← Nat.add_assoc, Nat.add_mul, Nat.mul_assoc,
          Nat.add_assoc]

/-! ### Writing -/

theorem testBit_lowMask {bits : Nat} (h : bits ≤ 8) (j : Nat) :
    (lowMask bits).toNat.testBit j = decide (j < bits) := by
  rw [toNat_lowMask h, Nat.testBit_two_pow_sub_one]

/-- The bits of the piece come from the word, the others stay. -/
theorem Piece.testBit_putInto {piece : Piece} {word : UInt64} {byte : UInt8} {j : Nat}
    (hbyte : piece.shift + piece.width ≤ 8) (hshift : piece.shift < 8) (hlater : piece.later < 64)
    (hj : j < 8) :
    (piece.putInto word byte).toNat.testBit j =
      if piece.shift ≤ j ∧ j < piece.shift + piece.width then
        word.toNat.testBit (piece.later + (j - piece.shift))
      else byte.toNat.testBit j := by
  have hcount : (UInt8.ofNat piece.shift).toNat % 8 = piece.shift := by
    rw [UInt8.toNat_ofNat']
    omega
  have hcount' : (UInt64.ofNat piece.later).toNat % 64 = piece.later := by
    rw [UInt64.toNat_ofNat']
    omega
  -- A byte moved up by the shift, bit by bit.
  have hmoved : ∀ bits : UInt8, (bits <<< UInt8.ofNat piece.shift).toNat.testBit j =
      (decide (piece.shift ≤ j) && bits.toNat.testBit (j - piece.shift)) := by
    intro bits
    rw [UInt8.toNat_shiftLeft, hcount, Nat.testBit_mod_two_pow, Nat.testBit_shiftLeft]
    simp [hj]
  have hnot : ∀ bits : UInt8, (~~~bits).toNat.testBit j = !bits.toNat.testBit j := by
    intro bits
    have hsize : UInt8.size - 1 - bits.toNat = 2 ^ 8 - (bits.toNat + 1) := by
      show 256 - 1 - bits.toNat = 2 ^ 8 - (bits.toNat + 1)
      omega
    rw [UInt8.toNat_not, hsize, Nat.testBit_two_pow_sub_succ bits.toNat_lt]
    simp [hj]
  have hword : (word >>> UInt64.ofNat piece.later).toUInt8.toNat.testBit (j - piece.shift) =
      word.toNat.testBit (piece.later + (j - piece.shift)) := by
    have hlt : j - piece.shift < 8 := by omega
    rw [UInt64.toNat_toUInt8, Nat.testBit_mod_two_pow, UInt64.toNat_shiftRight, hcount',
      Nat.testBit_shiftRight]
    simp [hlt]
  rw [putInto, UInt8.toNat_or, Nat.testBit_or, UInt8.toNat_and, Nat.testBit_and, hnot, hmoved,
    hmoved, UInt8.toNat_and, Nat.testBit_and, hword, testBit_lowMask (by omega)]
  by_cases hfrom : piece.shift ≤ j
  · by_cases hto : j < piece.shift + piece.width
    · have hin : j - piece.shift < piece.width := by omega
      simp [hfrom, hto, hin]
    · have hout : ¬ j - piece.shift < piece.width := by omega
      simp [hfrom, hto, hout]
  · simp [hfrom]

/-- Replacing a byte changes the bits of this byte. -/
theorem Bytes.bit_set {bytes : Bytes} {k : Nat} (h : k < bytes.length) (byte : UInt8) (i : Nat) :
    Bytes.bit (bytes.set k byte) i =
      if i / 8 = k then byte.toNat.testBit (7 - i % 8) else bytes.bit i := by
  simp only [Bytes.bit, List.getD_eq_getElem?_getD, List.getElem?_set]
  by_cases hk : i / 8 = k
  · subst hk
    simp [h]
  · simp [hk, Ne.symm hk]

/-- The pieces of a range take the low bits of a word, most significant bit first, and
every other bit of the buffer stays. -/
theorem Bytes.exists_scatter_eq {buffer : Bytes} {base pos remaining : Nat} (word : UInt64)
    (hfit : 8 * base + pos + remaining ≤ 8 * buffer.length) (hle : remaining ≤ 64) :
    ∃ result, scatter base word (pieces pos remaining) buffer = some result ∧
      result.length = buffer.length ∧
      ∀ i, result.bit i =
        if 8 * base + pos ≤ i ∧ i < 8 * base + pos + remaining then
          word.toNat.testBit (8 * base + pos + remaining - 1 - i)
        else buffer.bit i := by
  induction hn : remaining using Nat.strongRecOn generalizing pos remaining buffer with
  | _ n ih =>
    subst hn
    rcases Nat.eq_zero_or_pos remaining with rfl | hpos
    · refine ⟨buffer, by rw [pieces_zero, scatter], rfl, ?_⟩
      intro i
      rw [if_neg (by omega)]
    · obtain ⟨piece, hindex, hwidth, hbyte, rfl, heq⟩ := pieces_of_pos pos hpos
      have hlt : base + piece.index < buffer.length := by omega
      have hget := List.getElem?_eq_getElem hlt
      have hfit' : 8 * base + (pos + piece.width) + piece.later ≤
          8 * (buffer.set (base + piece.index)
            (piece.putInto word buffer[base + piece.index])).length := by
        rw [List.length_set]
        omega
      obtain ⟨result, hresult, hlength, hbits⟩ := ih piece.later (by omega) hfit' (by omega) rfl
      refine ⟨result, ?_, by rw [hlength, List.length_set], ?_⟩
      · rw [heq, scatter, hget]
        exact hresult
      · intro i
        have hold : buffer[base + piece.index].toNat.testBit (7 - i % 8) =
            bit buffer (8 * (base + piece.index) + i % 8) := by
          have hdiv : (8 * (base + piece.index) + i % 8) / 8 = base + piece.index := by omega
          have hmod : (8 * (base + piece.index) + i % 8) % 8 = i % 8 := by omega
          rw [bit, hdiv, hmod, List.getD_eq_getElem?_getD, hget, Option.getD_some]
        rw [hbits i, bit_set hlt]
        -- A bit lies in later pieces, in this one, beside it in its byte, or in another byte.
        by_cases hrest : 8 * base + (pos + piece.width) ≤ i ∧
            i < 8 * base + (pos + piece.width) + piece.later
        · have hin : 8 * base + pos ≤ i ∧ i < 8 * base + pos + (piece.width + piece.later) := by
            omega
          rw [if_pos hrest, if_pos hin]
          congr 1
          omega
        · rw [if_neg hrest]
          by_cases hsame : i / 8 = base + piece.index
          · rw [if_pos hsame, Piece.testBit_putInto (by omega) (by omega) (by omega) (by omega),
              hold]
            by_cases hpiece : piece.shift ≤ 7 - i % 8 ∧ 7 - i % 8 < piece.shift + piece.width
            · have hin : 8 * base + pos ≤ i ∧
                  i < 8 * base + pos + (piece.width + piece.later) := by omega
              rw [if_pos hpiece, if_pos hin]
              congr 1
              omega
            · have hout : ¬ (8 * base + pos ≤ i ∧
                  i < 8 * base + pos + (piece.width + piece.later)) := by omega
              rw [if_neg hpiece, if_neg hout]
              congr 1
              omega
          · have hout : ¬ (8 * base + pos ≤ i ∧
                i < 8 * base + pos + (piece.width + piece.later)) := by omega
            rw [if_neg hsame, if_neg hout]

namespace Frame

/-- Reading byte by byte gives what `Frame.read` gives. -/
theorem readBytewise_eq (frame : Frame) (offset width : Nat) :
    frame.readBytewise offset width = some ((frame.read offset width).map UInt64.ofNat) := by
  unfold readBytewise
  cases hcheck : frame.check offset width with
  | error e =>
    rw [read, hcheck]
    rfl
  | ok _ =>
    obtain ⟨hpos, hle, hfit⟩ := (frame.check_eq_ok_iff offset width).mp hcheck
    have hwindow := frame.base_add_length_le
    have hlength : frame.bitLength = 8 * frame.length := rfl
    have hroom : ((0 : UInt64).toNat + 1) * 2 ^ width ≤ 2 ^ 64 := by
      have hpow := Nat.pow_le_pow_right (show 0 < 2 by decide) hle
      simpa using hpow
    obtain ⟨word, hgather, hword⟩ := Bytes.exists_gather_eq
      (show 8 * frame.base + offset + width ≤ 8 * frame.buffer.length by omega) hroom
    -- The window shows the buffer from the base on.
    have hnumber : word.toNat = frame.bytes.number offset width := by
      have hzero : (0 : UInt64).toNat = 0 := rfl
      rw [hword, hzero, Nat.zero_mul, Nat.zero_add]
      refine Bytes.number_congr ?_
      intro i hi
      rw [frame.bit_bytes (by omega), Nat.add_assoc]
    show (frame.buffer.gather frame.base (pieces offset width) 0).map Except.ok = _
    rw [hgather, frame.read_eq hpos hle hfit, ← hnumber]
    show some (Except.ok word) = some (.ok (UInt64.ofNat word.toNat))
    rw [UInt64.ofNat_toNat]

/-- Writing byte by byte in place leaves the buffer that `Frame.write` gives, and the
one that was there if the range is refused. -/
theorem writeBytewise_eq (frame : Frame) (offset width : Nat) (word : UInt64) :
    frame.writeBytewise offset width word = some
      (match frame.write offset width word.toNat with
        | .ok written => (.ok (), written.buffer)
        | .error e => (.error e, frame.buffer)) := by
  unfold writeBytewise
  cases hcheck : frame.check offset width with
  | error e =>
    rw [write, hcheck]
    rfl
  | ok _ =>
    obtain ⟨hpos, hle, hfit⟩ := (frame.check_eq_ok_iff offset width).mp hcheck
    have hwindow := frame.base_add_length_le
    have hlength : frame.bitLength = 8 * frame.length := rfl
    obtain ⟨buffer, hscatter, hsame, hbits⟩ := Bytes.exists_scatter_eq word
      (show 8 * frame.base + offset + width ≤ 8 * frame.buffer.length by omega) hle
    have hbuffer : buffer = (frame.put offset width word.toNat).buffer := by
      refine Bytes.eq_of_bit_eq (by rw [hsame, length_buffer_put]) ?_
      intro i _
      rw [hbits i, frame.bit_buffer_put_eq hfit]
    show (Bytes.scatter frame.base word (pieces offset width) frame.buffer).map _ = _
    rw [hscatter, frame.write_eq hpos hle hfit, hbuffer]
    rfl

end Frame

end SensorGateway
