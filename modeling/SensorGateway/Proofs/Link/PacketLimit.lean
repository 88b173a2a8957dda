import SensorGateway.Bus.Plugin
import SensorGateway.Forwarder.Stream
import SensorGateway.Link.Connections
import SensorGateway.Proofs.Command.Packet

/-!
# `SensorGateway.Proofs.Link.PacketLimit`: which commands reach the device

Two lengths are limited. A header declares up to 255 bytes of payload, and
the stream to the base station takes packets of up to 255 bytes, the
header among them. A payload of between 251 and 255 bytes therefore makes
a packet that the stream does not take.

* `exists_packet_refused`: such a packet is built.
* `drain_issued`: payloads of up to 250 bytes are written, longer ones are
  lost and end the connection.
-/

set_option autoImplicit false

namespace SensorGateway

/-! ### Commands of a plugin -/

theorem Parameters.ofLists_eq_ok_iff (names values : List String) (params : Parameters) :
    Parameters.ofLists names values = .ok params ↔
      names.length = values.length ∧ params = ⟨names.zip values⟩ := by
  unfold Parameters.ofLists
  split
  · next h => simp [h, eq_comm]
  · next h => simp [h]

namespace Bus.MessagePlugin

theorem required_eq_ok_iff (params : Parameters) (name text : String) :
    required params name = .ok text ↔ params.get? name = some text := by
  unfold required
  cases params.get? name <;> simp

/-- The bytes of the parameter `data`. -/
def data (names values : List String) : Bytes :=
  Text.utf8 (((Parameters.mk (names.zip values)).get? "data").getD "")

/-- The action `payload` makes packets of its data and a header. -/
theorem length_of_payload_eq_ok {plugin : MessagePlugin} {names values : List String}
    {packet : Bytes} (h : plugin.payload names values = .ok (.packet packet)) :
    packet.length = WireFormat.headerLength + (data names values).length := by
  unfold payload at h
  split at h
  · cases h
  · obtain ⟨params, hparams, h⟩ := (Except.bind_eq_ok_iff _ _ _).mp h
    obtain ⟨_, -, h⟩ := (Except.bind_eq_ok_iff _ _ _).mp h
    obtain ⟨destination, -, h⟩ := (Except.bind_eq_ok_iff _ _ _).mp h
    obtain ⟨_, -, h⟩ := (Except.bind_eq_ok_iff _ _ _).mp h
    obtain ⟨type, -, h⟩ := (Except.bind_eq_ok_iff _ _ _).mp h
    obtain ⟨text, htext, h⟩ := (Except.bind_eq_ok_iff _ _ _).mp h
    obtain ⟨built, hbuilt, h⟩ := (Except.bind_eq_ok_iff _ _ _).mp h
    cases h
    -- Only the last step makes bytes; the first one says what `data` is.
    have hlists := (Except.mapError_eq_ok_iff _ _ _).mp hparams
    obtain ⟨-, rfl⟩ := (Parameters.ofLists_eq_ok_iff names values params).mp hlists
    have hdata : data names values = Text.utf8 text := by
      rw [data, (required_eq_ok_iff _ _ _).mp htext, Option.getD_some]
    have hwrap := (Except.mapError_eq_ok_iff _ _ _).mp hbuilt
    rw [WireFormat.length_of_wrap_eq_ok hwrap, hdata]

/-- An action that is called `payload` in any case of letters makes a
packet only as the action `payload`. -/
theorem payload_of_command_eq_ok {plugin : MessagePlugin} {action : String}
    {names values : List String} {packet : Bytes}
    (haction : Text.sameIgnoringAsciiCase action "payload" = true)
    (h : plugin.command action names values = .ok (.packet packet)) :
    plugin.payload names values = .ok (.packet packet) := by
  unfold command at h
  split at h
  · cases h
  · split at h
    · obtain ⟨params, -, hcommand⟩ := (Except.map_eq_ok_iff _ _ _).mp h
      cases hcommand
    · exact h

end Bus.MessagePlugin

/-! ### Commands of the bus -/

/-- A packet that the bus makes of a command: a schema encodes parameters,
or a plugin carries out the action `payload`. The number is the length of
the payload. -/
inductive Bus.Issued : Nat → Bytes → Prop where
  | encoded {schema : Schema} {params : Parameters} {destination : UInt16} {format : WireFormat}
    {packet : Bytes} (h : schema.encodePacket params destination format = .ok packet) :
    Issued schema.size packet
  | payload {plugin : MessagePlugin} {action : String} {names values : List String}
    {packet : Bytes} (haction : Text.sameIgnoringAsciiCase action "payload" = true)
    (h : plugin.command action names values = .ok (.packet packet)) :
    Issued (MessagePlugin.data names values).length packet

/-- A packet is longer than its payload by a header. -/
theorem Bus.Issued.length_eq {length : Nat} {packet : Bytes} (h : Bus.Issued length packet) :
    packet.length = WireFormat.headerLength + length := by
  cases h with
  | encoded h => exact Schema.length_of_encodePacket_eq_ok h
  | payload haction h =>
    exact MessagePlugin.length_of_payload_eq_ok (MessagePlugin.payload_of_command_eq_ok haction h)

/-! ### Writing them -/

namespace Link.Line

/-- One step of the writer of a connection: it takes the next packet from
the queue and writes it to the stream. -/
def drain (line : Line) (stream : Forwarder.Stream) : Line × Forwarder.Stream :=
  match line.queue.entries with
  | [] => (line, stream)
  | entry :: _ =>
    let (outcome, stream) := stream.writePacket entry.packet
    (line.handle (.write outcome.isOk), stream)

/-- The line after its next packet was taken. -/
def take (line : Line) (entry : Queued) (rest : List Queued) (isWritten : Bool) : Line where
  queue := { line.queue with entries := rest }
  isUp := isWritten
  connections := recordTaken ⟨entry, isWritten⟩ line.connections

/-- A writer on a connection that is up takes the next packet, whatever
becomes of it. -/
theorem handle_write {line : Line} {entry : Queued} {rest : List Queued}
    (hup : line.isUp = true) (hnext : line.queue.entries = entry :: rest) (isWritten : Bool) :
    line.handle (.write isWritten) = line.take entry rest isWritten := by
  rw [handle, if_pos hup, Queue.pop, hnext]
  rfl

/-- A packet that fits the stream is written behind its length, and the
connection stays up. -/
theorem drain_of_length_le {line : Line} {entry : Queued} {rest : List Queued}
    (hup : line.isUp = true) (hnext : line.queue.entries = entry :: rest)
    {stream : Forwarder.Stream} (hwritable : stream.writable = true)
    (hlength : entry.packet.length ≤ Forwarder.maxPacket) :
    line.drain stream = (line.take entry rest true,
      { stream with
        written := stream.written ++ UInt8.ofNat entry.packet.length :: entry.packet }) := by
  have hwrite : stream.writePacket entry.packet = (.ok (),
      { stream with
        written := stream.written ++ UInt8.ofNat entry.packet.length :: entry.packet }) := by
    rw [Forwarder.Stream.writePacket, Forwarder.encodePacket, if_pos hlength]
    simp only [Forwarder.Stream.write, if_pos hwritable]
  rw [drain, hnext]
  simp only [hwrite]
  rw [← handle_write hup hnext]
  rfl

/-- A packet that does not fit the stream is lost with the connection, and
nothing of it is written. -/
theorem drain_of_length_gt {line : Line} {entry : Queued} {rest : List Queued}
    (hup : line.isUp = true) (hnext : line.queue.entries = entry :: rest)
    (stream : Forwarder.Stream) (hlength : Forwarder.maxPacket < entry.packet.length) :
    line.drain stream = (line.take entry rest false, stream) := by
  have hwrite : stream.writePacket entry.packet =
      (.error (.framing (.packetTooLong entry.packet.length)), stream) := by
    rw [Forwarder.Stream.writePacket, Forwarder.encodePacket, if_neg (Nat.not_le.mpr hlength)]
  rw [drain, hnext]
  simp only [hwrite]
  rw [← handle_write hup hnext]
  rfl

/-- What becomes of a command once a connection is up: with a payload of up
to 250 bytes it is written behind its length and the connection stays, and
with a longer one the stream refuses it, nothing is written, and command
and connection are lost. -/
theorem drain_issued {length : Nat} {packet : Bytes} (h : Bus.Issued length packet) (line : Line)
    {entry : Queued} {rest : List Queued} (hup : line.isUp = true)
    (hnext : line.queue.entries = entry :: rest) (hpacket : entry.packet = packet)
    (stream : Forwarder.Stream) (hwritable : stream.writable = true) :
    (length ≤ 250 →
      Forwarder.encodePacket packet = .ok (UInt8.ofNat packet.length :: packet) ∧
        line.drain stream = (line.take entry rest true,
          { stream with
            written := stream.written ++ UInt8.ofNat packet.length :: packet })) ∧
    (250 < length →
      Forwarder.encodePacket packet = .error (.packetTooLong (5 + length)) ∧
        line.drain stream = (line.take entry rest false, stream)) := by
  have hlength : packet.length = 5 + length := h.length_eq
  subst hpacket
  constructor
  · intro hle
    have hfits : entry.packet.length ≤ Forwarder.maxPacket := by
      rw [hlength, Forwarder.maxPacket]
      omega
    refine ⟨?_, drain_of_length_le hup hnext hwritable hfits⟩
    rw [Forwarder.encodePacket, if_pos hfits]
  · intro hgt
    have hlong : Forwarder.maxPacket < entry.packet.length := by
      rw [hlength, Forwarder.maxPacket]
      omega
    refine ⟨?_, drain_of_length_gt hup hnext stream hlong⟩
    rw [Forwarder.encodePacket, if_neg (Nat.not_le.mpr hlong), hlength]

/-- A payload of a given size that starts with one settable byte. -/
def wide (size : Nat) (h : 0 < size ∧ size ≤ 255) : Schema where
  type := 0x31
  name := "Wide"
  fields := [{ name := "value", offset := 0, width := 8 }]
  size := size
  format := .current
  accepted := by
    refine layoutFault?_eq_none [{ name := "value", offset := 0, width := 8 }]
      (by decide) (by decide) (by decide) (by decide) ?_
    simp [payloadFault?, Field.endBit, Field.span, Field.count, wrapUInt64]
    omega

/-- A text for the settable byte. -/
def wideTexts : Parameters := ⟨[("value", "7")]⟩

/-- Every such payload that a header can declare is built. -/
theorem exists_wide_packet {size : Nat} (h : 0 < size ∧ size ≤ 255) :
    ∃ packet, (wide size h).encodePacket wideTexts WireFormat.broadcast .current = .ok packet := by
  have hplaceable : (wide size h).Placeable := by
    show ∀ field ∈ [({ name := "value", offset := 0, width := 8 } : Field)],
      field.settable = true → field.Addressable
    decide
  have hencode := (Schema.encode_eq_ok_iff hplaceable wideTexts _).mpr
    ⟨rfl, [[⟨⟨"value", 0, 8, .unsigned⟩, 7⟩]], rfl, rfl⟩
  exact Schema.exists_encodePacket_eq_ok hencode h.2 WireFormat.broadcast

/-- The longest payload that is written. -/
theorem drain_wide :
    ∃ packet, (wide 250 (by decide)).encodePacket wideTexts WireFormat.broadcast .current =
        .ok packet ∧
      Forwarder.encodePacket packet = .ok (0xFF :: packet) ∧
      (drain { queue := { capacity := 8, entries := [⟨10, 0, packet⟩] }, isUp := true } {}).2 =
        { written := 0xFF :: packet } := by
  obtain ⟨packet, hpacket⟩ := exists_wide_packet (show 0 < 250 ∧ 250 ≤ 255 by decide)
  have hissued := Bus.Issued.encoded hpacket
  obtain ⟨hframed, hdrain⟩ := (drain_issued hissued
    { queue := { capacity := 8, entries := [⟨10, 0, packet⟩] }, isUp := true }
    rfl rfl rfl {} rfl).1 (by decide)
  have hlength : packet.length = 255 := hissued.length_eq
  rw [hlength] at hframed hdrain
  exact ⟨packet, hpacket, hframed, by rw [hdrain]; rfl⟩

/-- One byte more and the packet is still built, but not taken. -/
theorem exists_packet_refused :
    ∃ packet, (wide 251 (by decide)).encodePacket wideTexts WireFormat.broadcast .current =
        .ok packet ∧
      Forwarder.encodePacket packet = .error (.packetTooLong 256) := by
  obtain ⟨packet, hpacket⟩ := exists_wide_packet (show 0 < 251 ∧ 251 ≤ 255 by decide)
  have hlength : packet.length = 256 := Schema.length_of_encodePacket_eq_ok hpacket
  have hlong : ¬ packet.length ≤ Forwarder.maxPacket := by
    rw [hlength]
    decide
  exact ⟨packet, hpacket, by rw [Forwarder.encodePacket, if_neg hlong, hlength]⟩

end Link.Line

end SensorGateway
