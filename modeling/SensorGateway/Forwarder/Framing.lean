import SensorGateway.Bytes
import SensorGateway.Text.Hex

/-!
# `SensorGateway.Forwarder.Framing`: packets on a byte stream

A serial forwarder is a byte stream between two partners. Each side
first sends the two bytes `U` and space, and accepts any partner whose
first byte is `U`. Packets then follow, each behind one byte that says
how long it is.
-/

set_option autoImplicit false

namespace SensorGateway.Forwarder

/-- Why bytes are no packet, a packet has no frame, or a partner is
refused. -/
inductive FramingError where
  /-- The packet at the front of the buffer is not complete yet. -/
  | insufficientData (needed available : Nat)
  /-- The length byte cannot say how long the packet is. -/
  | packetTooLong (length : Nat)
  /-- The partner's greeting does not start with `U`. -/
  | badHandshake (first second : UInt8)
  deriving Repr, DecidableEq

/-- The text an operator sees. -/
def FramingError.message : FramingError → String
  | .insufficientData needed available =>
    s!"insufficient data: need at least {needed} bytes, got {available}"
  | .packetTooLong length => s!"packet of {length} bytes exceeds the 255-byte limit"
  | .badHandshake first second =>
    s!"handshake rejected: partner sent {Text.hexBytes [first, second]}"

/-- What each side sends on connecting. -/
def greeting : Bytes := [0x55, 0x20]

/-- The longest packet the length byte can announce. -/
def maxPacket : Nat := 255

/-- A partner is welcome when its greeting starts with `U`. -/
def checkGreeting (first second : UInt8) : Except FramingError Unit :=
  if first = 0x55 then .ok () else .error (.badHandshake first second)

/-- A packet behind its length byte. -/
def encodePacket (packet : Bytes) : Except FramingError Bytes :=
  if packet.length ≤ maxPacket then
    .ok (UInt8.ofNat packet.length :: packet)
  else
    .error (.packetTooLong packet.length)

/-- The packet at the front of a buffer, and the bytes behind it. -/
def decodePacket : Bytes → Except FramingError (Bytes × Bytes)
  | [] => .error (.insufficientData 1 0)
  | length :: rest =>
    if length.toNat ≤ rest.length then
      .ok (rest.take length.toNat, rest.drop length.toNat)
    else
      .error (.insufficientData (1 + length.toNat) (1 + rest.length))

/-- A packet at the front takes at least its length byte. -/
theorem length_lt_of_decodePacket {bytes packet rest : Bytes}
    (h : decodePacket bytes = .ok (packet, rest)) : rest.length < bytes.length := by
  match bytes with
  | [] => simp [decodePacket] at h
  | length :: more =>
    simp only [decodePacket] at h
    split at h
    · obtain ⟨-, rfl⟩ := by simpa using h
      simp only [List.length_drop, List.length_cons]
      omega
    · simp at h

/-- All complete packets at the front of a buffer, and the bytes behind
them. -/
def decodeAll (bytes : Bytes) : List Bytes × Bytes :=
  match _h : decodePacket bytes with
  | .ok (packet, rest) =>
    let (packets, tail) := decodeAll rest
    (packet :: packets, tail)
  | .error _ => ([], bytes)
termination_by bytes.length
decreasing_by exact length_lt_of_decodePacket _h

end SensorGateway.Forwarder
