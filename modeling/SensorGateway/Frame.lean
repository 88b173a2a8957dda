import SensorGateway.Bytes

/-!
# `SensorGateway.Frame`: a byte buffer addressed by bits

A frame is a buffer with a window on it: the logical bytes of one
message, which may lie inside a longer packet. Bits of the window are
numbered from the most significant bit of its first byte, and a value
that spans several bytes is big-endian.

A range of bits is readable when its width is between 1 and 64 and it
ends inside the window (`Frame.check`). `Frame.read` then takes the
bytes the range touches as one number and cuts the range out of it;
`Frame.write` puts a number's low bits back into the same place and
leaves every other bit of the buffer alone.
-/

set_option autoImplicit false

namespace SensorGateway

/-- Why a frame refuses a window or a range of bits. -/
inductive FrameError where
  /-- The range ends past the last bit of the window. -/
  | tooShort (needed available : Nat)
  /-- A range holds between 1 and 64 bits. -/
  | invalidWidth (width : Nat)
  /-- The window does not lie inside the buffer. -/
  | invalidWindow (base length bufferLength : Nat)
  deriving Repr, DecidableEq

/-- The text an operator sees. -/
def FrameError.message : FrameError → String
  | .tooShort needed available =>
    s!"frame too short: need {needed} bits, frame holds {available}"
  | .invalidWidth width =>
    s!"invalid bit width {width}: must be between 1 and 64"
  | .invalidWindow base length bufferLength =>
    s!"window [{base}, {base}+{length}) exceeds buffer of {bufferLength} bytes"

/-- A buffer and the window on it that holds the logical data. -/
structure Frame where
  /-- All bytes, those before and after the window included. -/
  buffer : Bytes
  /-- Where the window starts. -/
  base : Nat
  /-- How many bytes the window spans. -/
  length : Nat
  /-- The window lies inside the buffer. -/
  base_add_length_le : base + length ≤ buffer.length
  deriving Repr, DecidableEq

namespace Frame

/-- The largest bit count an address can hold. A range whose end lies
beyond it is reported as needing this many bits. -/
def maxBitCount : Nat := 2 ^ 64 - 1

/-- The whole buffer is the window. -/
def ofBytes (buffer : Bytes) : Frame where
  buffer := buffer
  base := 0
  length := buffer.length
  base_add_length_le := by simp

/-- A frame of `length` zero bytes. -/
def zeros (length : Nat) : Frame := ofBytes (Bytes.zeros length)

/-- The window of `length` bytes from `base` on, if the buffer holds
it. -/
def window (buffer : Bytes) (base length : Nat) : Except FrameError Frame :=
  if h : base + length ≤ buffer.length then
    .ok ⟨buffer, base, length, h⟩
  else
    .error (.invalidWindow base length buffer.length)

/-- The logical bytes: those the window shows. -/
def bytes (frame : Frame) : Bytes := (frame.buffer.drop frame.base).take frame.length

/-- How many bits the window holds. Nothing is lost of this count, since no
buffer has as many as `2 ^ 61` bytes. -/
def bitLength (frame : Frame) : Nat := 8 * frame.length

@[simp]
theorem length_bytes (frame : Frame) : frame.bytes.length = frame.length := by
  have h := frame.base_add_length_le
  simp [bytes]
  omega

/-! ### Ranges of bits -/

/-- A range of bits is admissible when its width is between 1 and 64 and
it ends inside the window. -/
def check (frame : Frame) (offset width : Nat) : Except FrameError Unit :=
  if width = 0 ∨ 64 < width then
    .error (.invalidWidth width)
  else if offset + width ≤ frame.bitLength then
    .ok ()
  else
    .error (.tooShort (min (offset + width) maxBitCount) frame.bitLength)

/-- The first byte of the window that a range touches. -/
def firstByte (offset : Nat) : Nat := offset / 8

/-- The byte after the last one that a range touches. -/
def endByte (offset width : Nat) : Nat := (offset + width + 7) / 8

/-- How many bits of the last touched byte lie behind the range. -/
def slack (offset width : Nat) : Nat := 8 * endByte offset width - (offset + width)

/-- The bytes of the window that a range touches. -/
def touched (frame : Frame) (offset width : Nat) : Bytes :=
  (frame.buffer.drop (frame.base + firstByte offset)).take
    (endByte offset width - firstByte offset)

/-- The unsigned value of `width` bits from bit `offset` on. -/
def read (frame : Frame) (offset width : Nat) : Except FrameError Nat := do
  frame.check offset width
  return Bytes.toNat (frame.touched offset width) / 2 ^ slack offset width % 2 ^ width

/-- A number of `width` bits read as two's complement: the top bit
counts negatively. -/
def signed (width bits : Nat) : Int :=
  if bits < 2 ^ (width - 1) then bits else (bits : Int) - 2 ^ width

/-- The two's complement value of `width` bits from bit `offset` on. -/
def readSigned (frame : Frame) (offset width : Nat) : Except FrameError Int := do
  return signed width (← frame.read offset width)

/-- A number with the `width` bits above the low `slack` ones replaced
by the low bits of `value`. -/
def putBits (n slack width value : Nat) : Nat :=
  n / 2 ^ (slack + width) * 2 ^ (slack + width) + value % 2 ^ width * 2 ^ slack + n % 2 ^ slack

/-- Puts `bytes` over the buffer from position `start` on. What would
lie behind the end of the buffer is dropped. -/
def overlay (buffer : Bytes) (start : Nat) (bytes : Bytes) : Bytes :=
  buffer.take start ++ bytes.take (buffer.length - start) ++ buffer.drop (start + bytes.length)

/-- An overlay leaves the length of the buffer as it was. -/
@[simp]
theorem length_overlay (buffer : Bytes) (start : Nat) (bytes : Bytes) :
    (overlay buffer start bytes).length = buffer.length := by
  simp only [overlay, List.length_append, List.length_take, List.length_drop]
  omega

/-- The frame with the low `width` bits of `value` at bit `offset`. -/
def put (frame : Frame) (offset width value : Nat) : Frame where
  buffer := overlay frame.buffer (frame.base + firstByte offset)
    (Bytes.ofNat (endByte offset width - firstByte offset)
      (putBits (Bytes.toNat (frame.touched offset width)) (slack offset width) width value))
  base := frame.base
  length := frame.length
  base_add_length_le := by simpa using frame.base_add_length_le

/-- Puts the low `width` bits of `value` at bit `offset`. Higher bits of
`value` are ignored: whether a value fits is for the caller to say. -/
def write (frame : Frame) (offset width value : Nat) : Except FrameError Frame := do
  frame.check offset width
  return frame.put offset width value

end Frame

end SensorGateway
