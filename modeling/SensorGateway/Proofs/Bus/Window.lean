import SensorGateway.Proofs.Bus.Delivery
import SensorGateway.Proofs.Record.Readings
import SensorGateway.Proofs.Wrapping

/-!
# `SensorGateway.Proofs.Bus.Window`: payloads that are not copied

A bus reads the payload of a packet through a window, with the header
before it and whatever was received behind it. Nothing of that may show: the
packet comes to what a copy of its payload would come to.

* `Windowed`: what a window and a copy have in common. `windowed` says that
  they have it, for every packet.
* `dispatch_showing`: frames that show the same bytes are dispatched alike,
  but for the bytes that are handed on as they were received.
* `dispatch_received`: who receives what, whatever listeners do.
* `dispatchPacket_eq_dispatchCopy`: a packet that is read through a window
  against one whose payload is copied.
-/

set_option autoImplicit false

namespace SensorGateway

/-! ### Windows and copies -/

namespace WireFormat

/-- A header that is read leaves room for the payload it declares. -/
theorem length_le_of_readHeader_eq_ok {format : WireFormat} {packet : Bytes} {head : Header}
    (h : format.readHeader packet = .ok head) :
    headerLength + head.length.toNat ≤ packet.length := by
  by_cases hlength : headerLength ≤ packet.length
  · obtain ⟨first, second, third, type, length, rest, rfl⟩ := exists_header_of_length_le hlength
    obtain ⟨-, hrest, rfl⟩ := (format.readHeader_eq_ok_iff ..).mp h
    have hdeclared : (format.fields first second third type length).length = length := by
      cases format <;> rfl
    rw [hdeclared]
    simp only [List.length_cons, headerLength]
    omega
  · rw [format.readHeader_of_length_lt (Nat.not_le.mp hlength)] at h
    cases h

/-- The window on a packet whose header is read. -/
theorem exists_payloadFrame_eq {format : WireFormat} {packet : Bytes} {head : Header}
    (h : format.readHeader packet = .ok head) :
    ∃ frame : Frame, format.payloadFrame packet = .ok (head.messageType, frame) ∧
      frame.buffer = packet ∧
      frame.bytes = (packet.drop headerLength).take head.length.toNat := by
  have hlength := length_le_of_readHeader_eq_ok h
  refine ⟨⟨packet, headerLength, head.length.toNat, hlength⟩, ?_, rfl, rfl⟩
  unfold payloadFrame
  rw [h]
  exact dif_pos hlength

/-- The copy of its payload. -/
theorem exists_unwrap_eq {format : WireFormat} {packet : Bytes} {head : Header}
    (h : format.readHeader packet = .ok head) :
    ∃ message : Packet, format.unwrap packet = .ok message ∧
      message.messageType = head.messageType ∧
      message.payload = (packet.drop headerLength).take head.length.toNat := by
  unfold unwrap
  rw [h]
  exact ⟨_, rfl, rfl, rfl⟩

end WireFormat

/-- What a window on a packet and a copy of its payload have in common. Both
are refused for the same reason, or both have the same type and no schema
reads them differently. The window keeps all of the packet. -/
inductive Windowed (packet : Bytes) :
    Except PacketError (MessageType × Frame) → Except PacketError Packet → Prop where
  | refused (error : PacketError) : Windowed packet (.error error) (.error error)
  | found {frame : Frame} {message : Packet} (hbuffer : frame.buffer = packet)
    (hbytes : frame.bytes = message.payload)
    (hdecode : ∀ (schema : Schema) (receipt : Int) (device : Option Int),
      schema.decode frame receipt device =
        schema.decode (.ofBytes message.payload) receipt device) :
    Windowed packet (.ok (message.messageType, frame)) (.ok message)

/-- A window on a packet stands for a copy of its payload. -/
theorem WireFormat.windowed (format : WireFormat) (packet : Bytes) :
    Windowed packet (format.payloadFrame packet) (format.unwrap packet) := by
  cases hread : format.readHeader packet with
  | error error =>
    have hwindow : format.payloadFrame packet = .error error := by
      rw [payloadFrame, hread]
      rfl
    have hcopy : format.unwrap packet = .error error := by
      rw [unwrap, hread]
      rfl
    rw [hwindow, hcopy]
    exact .refused error
  | ok head =>
    obtain ⟨frame, hwindow, hbuffer, hbytes⟩ := exists_payloadFrame_eq hread
    obtain ⟨message, hcopy, htype, hpayload⟩ := exists_unwrap_eq hread
    rw [← hpayload] at hbytes
    rw [hwindow, hcopy, ← htype]
    refine .found hbuffer hbytes ?_
    intro schema receipt device
    exact schema.decode_congr (hbytes.trans (Frame.bytes_ofBytes _).symm) receipt device

namespace Bus

variable {ι σ : Type}

/-! ### Bytes as they were received -/

/-- The environment in which listeners are shown other bytes as received. -/
def Environment.showing (environment : Environment ι σ) (raw : Bytes) : Environment ι σ :=
  { environment with
    react := fun listener delivery world => environment.react listener { delivery with raw } world }

theorem deliver_showing (environment : Environment ι σ) (raw : Bytes) (delivery : Delivery)
    (listeners : List ι) (world : World ι σ) :
    deliver (environment.showing raw) delivery listeners world =
      deliver environment { delivery with raw } listeners world := by
  induction listeners generalizing world with
  | nil => rfl
  | cons first rest ih =>
    rw [deliver, deliver]
    simp only [ih]
    rfl

theorem distribute_showing (bus : Bus) (environment : Environment ι σ) (raw : Bytes)
    (delivery : Delivery) (priority : Priority) (world : World ι σ) :
    bus.distribute (environment.showing raw) delivery priority world =
      bus.distribute environment { delivery with raw } priority world := by
  unfold distribute
  cases world.listeners.list delivery.type with
  | nil => rfl
  | cons first rest =>
    simp only [deliver_showing]
    rfl

/-- Frames that show the same bytes are dispatched alike, if listeners are
handed the same bytes as received. -/
theorem dispatch_showing (bus : Bus) (environment : Environment ι σ) (type : MessageType)
    (device : Option Int) (timestamp : Int) {a b : Frame} (h : a.bytes = b.bytes)
    (priority : Priority) (world : World ι σ) :
    bus.dispatch (environment.showing a.buffer) type device timestamp b priority world =
      bus.dispatch environment type device timestamp a priority world := by
  unfold dispatch
  cases bus.registry.lookup type with
  | error error => rfl
  | ok schema =>
    simp only [schema.decode_congr h]
    cases schema.decode b timestamp device with
    | error error => rfl
    | ok record => exact bus.distribute_showing environment _ _ _ _

/-! ### What listeners receive -/

/-- Who received what in a call. -/
def Call.received? : Call ι → Option (ι × Delivery)
  | .deliver listener delivery _ => some (listener, delivery)
  | .send .. => none
  | .acknowledge .. => none

/-- Who received what, call by call. -/
def received (calls : List (Call ι)) : List (ι × Delivery) := calls.filterMap Call.received?

theorem received_deliveries (delivery : Delivery) {listeners : List ι} {verdicts : List Verdict}
    (hlength : verdicts.length = listeners.length) :
    received (deliveries delivery listeners verdicts) =
      listeners.map fun listener => (listener, delivery) := by
  have hzip : (listeners.zip verdicts).map Prod.fst = listeners :=
    List.map_fst_zip (Nat.le_of_eq hlength.symm)
  conv_rhs => rw [← hzip]
  rw [received, deliveries, List.filterMap_map, List.map_map, ← List.filterMap_eq_map]
  rfl

/-- A message that is distributed is received by every listener, whatever
they do with it. -/
theorem Distributed.received_eq {bus : Bus} {listeners : List ι} {delivery : Delivery}
    {priority : Priority} {result : Except BusError Bool} {calls : List (Call ι)}
    (h : Distributed bus listeners delivery priority result calls) :
    received calls = listeners.map fun listener => (listener, delivery) := by
  cases h with
  | delivered hlength _ => exact received_deliveries delivery hlength
  | acknowledged hlength _ _ reply =>
    rw [received, List.filterMap_append]
    show received _ ++ [] = _
    rw [received_deliveries delivery hlength, List.append_nil]

/-- What listeners are handed of a frame, if it can be read. -/
def delivery? (bus : Bus) (type : MessageType) (device : Option Int) (timestamp : Int)
    (frame : Frame) : Option Delivery :=
  match bus.registry.lookup type with
  | .error _ => none
  | .ok schema =>
    (schema.decode frame timestamp device).toOption.map fun record =>
      ⟨type, device, timestamp, frame.buffer, record⟩

/-- Frames that show the same bytes are handed to listeners alike, but for
the bytes that were received. -/
theorem delivery?_congr (bus : Bus) (type : MessageType) (device : Option Int) (timestamp : Int)
    {a b : Frame} (h : a.bytes = b.bytes) :
    bus.delivery? type device timestamp a =
      (bus.delivery? type device timestamp b).map fun delivery =>
        { delivery with raw := a.buffer } := by
  unfold delivery?
  cases bus.registry.lookup type with
  | error error => rfl
  | ok schema =>
    simp only [schema.decode_congr h, Option.map_map]
    rfl

/-- What is handed on as received is the buffer of the frame. -/
theorem raw_of_delivery? {bus : Bus} {type : MessageType} {device : Option Int} {timestamp : Int}
    {frame : Frame} {delivery : Delivery}
    (h : delivery ∈ bus.delivery? type device timestamp frame) : delivery.raw = frame.buffer := by
  unfold delivery? at h
  split at h
  · cases h
  · obtain ⟨record, -, rfl⟩ := Option.map_eq_some_iff.mp h
    rfl

/-- Every listener of the type receives a frame that can be read, in their
order, and nobody receives another one. -/
theorem dispatch_received (bus : Bus) (environment : Environment ι σ) (type : MessageType)
    (device : Option Int) (timestamp : Int) (frame : Frame) (priority : Priority)
    (world : World ι σ) :
    ∃ made : List (Call ι),
      bus.dispatch environment.recording type device timestamp frame priority (world.recorded []) =
        ((bus.dispatch environment type device timestamp frame priority world).1,
          (bus.dispatch environment type device timestamp frame priority world).2.recorded made) ∧
      received made = (bus.delivery? type device timestamp frame).toList.flatMap fun delivery =>
        (world.listeners.list type).map fun listener => (listener, delivery) := by
  unfold dispatch delivery?
  cases bus.registry.lookup type with
  | error error => exact ⟨[], rfl, rfl⟩
  | ok schema =>
    simp only
    cases schema.decode frame timestamp device with
    | error error => exact ⟨[], rfl, rfl⟩
    | ok record =>
      -- The verdicts decide on the acknowledgement, not on who is called.
      obtain ⟨made, hcalls, hmade⟩ := bus.distribute_recording environment
        ⟨type, device, timestamp, frame.buffer, record⟩ priority world []
      refine ⟨made, hcalls, hmade.received_eq.trans ?_⟩
      exact (List.flatMap_singleton _ _).symm

/-! ### Packets -/

/-- Takes a packet apart and dispatches a copy of its payload. -/
def dispatchCopy (bus : Bus) (environment : Environment ι σ) (device : Option Int)
    (timestamp : Int) (packet : Bytes) (priority : Priority) (world : World ι σ) :
    Except BusError Bool × World ι σ :=
  match bus.format.unwrap packet with
  | .error error => (.error (.packet error), world)
  | .ok message =>
    bus.dispatch environment message.messageType device timestamp (.ofBytes message.payload)
      priority world

/-- Reading a payload through a window comes to the same as copying it. For
every format, a window and a copy are refused for the same reasons, have the
same types and are read alike by every schema. A packet is reported alike
and leaves the same world behind, if listeners are shown the whole packet in
both cases. Where they are shown the copy, still the same listeners receive
the same record in the same order, whatever they do with it, and only the
bytes as received differ. -/
theorem dispatchPacket_eq_dispatchCopy (bus : Bus) (packet : Bytes) :
    (∀ format : WireFormat,
      Windowed packet (format.payloadFrame packet) (format.unwrap packet)) ∧
    ∀ (environment : Environment ι σ) (device : Option Int) (timestamp : Int)
      (priority : Priority) (world : World ι σ),
      bus.dispatchPacket environment device timestamp packet priority world =
        bus.dispatchCopy (environment.showing packet) device timestamp packet priority world ∧
      ∃ made copied : List (Call ι),
        bus.dispatchPacket environment.recording device timestamp packet priority
            (world.recorded []) =
          ((bus.dispatchPacket environment device timestamp packet priority world).1,
            (bus.dispatchPacket environment device timestamp packet priority
              world).2.recorded made) ∧
        bus.dispatchCopy environment.recording device timestamp packet priority
            (world.recorded []) =
          ((bus.dispatchCopy environment device timestamp packet priority world).1,
            (bus.dispatchCopy environment device timestamp packet priority
              world).2.recorded copied) ∧
        received made = (received copied).map (fun (listener, delivery) =>
          (listener, { delivery with raw := packet })) ∧
        ∀ message, bus.format.unwrap packet = .ok message →
          ∀ entry ∈ received copied, entry.2.raw = message.payload := by
  refine ⟨fun format => format.windowed packet, ?_⟩
  intro environment device timestamp priority world
  -- From here on only what window and copy have in common is used.
  have hwindowed := bus.format.windowed packet
  unfold dispatchPacket dispatchCopy
  generalize bus.format.payloadFrame packet = window at hwindowed ⊢
  generalize bus.format.unwrap packet = copy at hwindowed ⊢
  cases hwindowed with
  | refused error => exact ⟨rfl, [], [], rfl, rfl, rfl, fun _ _ _ h => absurd h List.not_mem_nil⟩
  | @found frame message hbuffer hbytes _ =>
    have hsame : frame.bytes = (Frame.ofBytes message.payload).bytes :=
      hbytes.trans (Frame.bytes_ofBytes _).symm
    refine ⟨?_, ?_⟩
    · rw [← hbuffer]
      exact (bus.dispatch_showing environment message.messageType device timestamp hsame priority
        world).symm
    · obtain ⟨made, hmade, hreceived⟩ := bus.dispatch_received environment message.messageType
        device timestamp frame priority world
      obtain ⟨copied, hcopied, hother⟩ := bus.dispatch_received environment message.messageType
        device timestamp (.ofBytes message.payload) priority world
      refine ⟨made, copied, hmade, hcopied, ?_, ?_⟩
      · rw [hreceived, hother, bus.delivery?_congr _ _ _ hsame, hbuffer]
        cases bus.delivery? message.messageType device timestamp (.ofBytes message.payload) <;>
          simp
      · -- A copy is a frame of its own, so its buffer is the payload.
        rintro other hmessage ⟨listener, delivery⟩ hentry
        obtain rfl := Except.ok.inj hmessage
        rw [hother] at hentry
        obtain ⟨known, hknown, hmem⟩ := List.mem_flatMap.mp hentry
        obtain ⟨_, _, heq⟩ := List.mem_map.mp hmem
        obtain ⟨-, rfl⟩ := Prod.mk.inj heq
        exact raw_of_delivery? (Option.mem_toList.mp hknown)

end Bus

end SensorGateway
