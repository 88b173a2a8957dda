import SensorGateway.Frame
import SensorGateway.Text.Hex

/-!
# `SensorGateway.Packet`: addressed packets and their two headers

A payload travels behind a five-byte header. Two layouts exist:

* `legacy`: destination (two bytes), group, message type, length;
* `current`: the marker byte zero, destination (two bytes), message
  type, length.

Both end in the message type and the payload length, so they differ in
where the destination sits and in what the extra byte means.
`WireFormat.wrap` builds a packet, `WireFormat.unwrap` takes one apart
and copies the payload out, and `WireFormat.payloadFrame` shows the
payload as a window on the packet. Bytes behind the declared payload
are ignored.
-/

set_option autoImplicit false

namespace SensorGateway

/-- The number that says which message a packet carries. -/
abbrev MessageType := UInt8

/-- The two header layouts. -/
inductive WireFormat where
  | legacy
  | current
  deriving Repr, DecidableEq, Inhabited

/-- The name of a layout in configuration files and messages. -/
def WireFormat.label : WireFormat → String
  | .legacy => "legacy"
  | .current => "current"

/-- The layout with a given name. -/
def WireFormat.ofLabel? : String → Option WireFormat
  | "legacy" => some .legacy
  | "current" => some .current
  | _ => none

/-- Why a packet cannot be built or taken apart. -/
inductive PacketError where
  /-- The length byte cannot say how long the payload is. -/
  | payloadTooLong (length : Nat)
  /-- The header is incomplete. -/
  | tooShort (length : Nat)
  /-- A `current` packet starts with something other than the marker. -/
  | badMarker (marker : UInt8)
  /-- Fewer payload bytes follow than the header declares. -/
  | truncated (declared available : Nat)
  deriving Repr, DecidableEq

/-- The text an operator sees. -/
def PacketError.message : PacketError → String
  | .payloadTooLong length => s!"payload of {length} bytes exceeds the 255-byte limit"
  | .tooShort length => s!"packet of {length} bytes is shorter than the 5-byte header"
  | .badMarker marker => s!"unexpected packet marker 0x{Text.hexByte marker}"
  | .truncated declared available =>
    s!"header declares {declared} payload bytes but only {available} follow"

/-- What a header says. -/
structure Header where
  destination : UInt16
  /-- Legacy packets carry a group, current ones do not. -/
  group : Option UInt8
  messageType : MessageType
  /-- The declared payload length in bytes. -/
  length : UInt8
  deriving Repr, DecidableEq

/-- A packet taken apart. -/
structure Packet where
  destination : UInt16
  group : Option UInt8
  messageType : MessageType
  payload : Bytes
  deriving Repr, DecidableEq

namespace WireFormat

/-- The destination that addresses every device. -/
def broadcast : UInt16 := 0xFFFF

/-- The group written into every legacy header. -/
def legacyGroup : UInt8 := 0xFF

/-- The first byte of every current packet. -/
def marker : UInt8 := 0x00

/-- Both headers take five bytes. -/
def headerLength : Nat := 5

/-- The longest payload the length byte can declare. -/
def maxPayload : Nat := 255

/-- The five header bytes. -/
def header (format : WireFormat) (destination : UInt16) (messageType : MessageType)
    (length : Nat) : Bytes :=
  let address := Bytes.ofNat 2 destination.toNat
  match format with
  | .legacy => address ++ [legacyGroup, messageType, UInt8.ofNat length]
  | .current => marker :: address ++ [messageType, UInt8.ofNat length]

/-- A packet that carries `payload` to `destination`. -/
def wrap (format : WireFormat) (destination : UInt16) (messageType : MessageType)
    (payload : Bytes) : Except PacketError Bytes :=
  if payload.length ≤ maxPayload then
    .ok (format.header destination messageType payload.length ++ payload)
  else
    .error (.payloadTooLong payload.length)

/-- Two bytes as an address. -/
def address (high low : UInt8) : UInt16 := UInt16.ofNat (Bytes.toNat [high, low])

/-- Reads the header. The checks come in this order: five bytes are
there, a current packet starts with the marker, and the declared
payload follows. -/
def readHeader (format : WireFormat) : Bytes → Except PacketError Header
  | first :: second :: third :: messageType :: length :: rest => do
    let head : Header ← match format with
      | .legacy => pure ⟨address first second, some third, messageType, length⟩
      | .current =>
        if first = marker then
          pure ⟨address second third, none, messageType, length⟩
        else
          throw (.badMarker first)
    if rest.length < length.toNat then
      throw (.truncated length.toNat rest.length)
    return head
  | short => .error (.tooShort short.length)

/-- Takes a packet apart and copies its payload out. -/
def unwrap (format : WireFormat) (packet : Bytes) : Except PacketError Packet := do
  let head ← format.readHeader packet
  return {
    destination := head.destination
    group := head.group
    messageType := head.messageType
    payload := (packet.drop headerLength).take head.length.toNat }

/-- Reads the header and shows the payload as a window on the packet. -/
def payloadFrame (format : WireFormat) (packet : Bytes) :
    Except PacketError (MessageType × Frame) := do
  let head ← format.readHeader packet
  if h : headerLength + head.length.toNat ≤ packet.length then
    return (head.messageType, ⟨packet, headerLength, head.length.toNat, h⟩)
  else
    throw (.truncated head.length.toNat (packet.length - headerLength))

end WireFormat

end SensorGateway
