import SensorGateway.Packet

/-!
# `SensorGateway.Proofs.Packet`: how long packets are

Both headers are equally long, so a packet is as long as its payload and a
header, whatever it is addressed to.
-/

set_option autoImplicit false

namespace SensorGateway.WireFormat

@[simp]
theorem length_header (format : WireFormat) (destination : UInt16) (type : MessageType)
    (length : Nat) : (format.header destination type length).length = headerLength := by
  cases format <;> simp [header, headerLength]

/-- A payload is wrapped exactly when the length byte can declare it. -/
theorem wrap_eq_ok_iff (format : WireFormat) (destination : UInt16) (type : MessageType)
    (payload packet : Bytes) :
    format.wrap destination type payload = .ok packet ↔
      payload.length ≤ maxPayload ∧
        format.header destination type payload.length ++ payload = packet := by
  unfold wrap
  split
  · next hle => simp [hle]
  · next hle => simp [hle]

/-- A packet is as long as its payload and a header. -/
theorem length_of_wrap_eq_ok {format : WireFormat} {destination : UInt16} {type : MessageType}
    {payload packet : Bytes} (h : format.wrap destination type payload = .ok packet) :
    packet.length = headerLength + payload.length := by
  obtain ⟨-, rfl⟩ := (format.wrap_eq_ok_iff destination type payload packet).mp h
  rw [List.length_append, length_header]

end SensorGateway.WireFormat
