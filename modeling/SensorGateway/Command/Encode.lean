import SensorGateway.Command.Element
import SensorGateway.Command.Parameters
import SensorGateway.Schema.Layout

/-!
# `SensorGateway.Command.Encode`: parameters as frames and packets

`Schema.encode` builds a frame of the schema's payload size. It starts
with zeros and goes through the settable fields, each of which takes what
its parameter denotes; parameters that name no settable field are ignored.
The first settable field without a parameter, or with a text that denotes
nothing or cannot be written, is the reason reported.
`Schema.encodePacket` puts the frame behind a header.
-/

set_option autoImplicit false

namespace SensorGateway

/-- Why a command cannot be built. -/
inductive EncodeError where
  | missingField (schema field : String)
  | unparsable (field text : String) (fault : ValueFault)
  /-- The schema is for reading frames only. -/
  | notEncodable (schema : String)
  /-- The schema's packets have the other header. -/
  | protocolMismatch (schema : String) (expected requested : WireFormat)
  | payloadTooLong (length : Nat)
  | parameterCount (names values : Nat)
  | frame (error : FrameError)
  | packet (error : PacketError)
  deriving Repr, DecidableEq

/-- The text an operator sees. -/
def EncodeError.message : EncodeError → String
  | .missingField schema field => s!"schema '{schema}': missing field '{field}'"
  | .unparsable field text fault =>
    s!"unparsable value '{text}' for field '{field}': {fault.message}"
  | .notEncodable schema => s!"schema '{schema}' cannot be encoded"
  | .protocolMismatch schema expected requested =>
    s!"schema '{schema}' uses the {expected.label} wire format, " ++
      s!"{requested.label} was requested"
  | .payloadTooLong length => s!"payload of {length} bytes exceeds the 255-byte limit"
  | .parameterCount names values => s!"{names} parameter names but {values} values"
  | .frame error => error.message
  | .packet error => error.message

/-- Pairs names with values; both lists have to be equally long. -/
def Parameters.ofLists (names values : List String) : Except EncodeError Parameters :=
  if names.length = values.length then .ok ⟨names.zip values⟩
  else .error (.parameterCount names.length values.length)

/-! ### Writing -/

/-- Puts bytes into a frame one by one, from a bit on. -/
def Frame.writeBytes (frame : Frame) (offset : Nat) : Bytes → Except FrameError Frame
  | [] => .ok frame
  | byte :: rest => do
    (← frame.write offset 8 byte.toNat).writeBytes (wrapUInt64 (offset + 8)) rest

/-- Puts the bits that a text denotes into a frame. The bytes of a text are
put one by one, and what they leave of their element stays as it is. -/
def Frame.writeElement (frame : Frame) (element : Element) (text : String) (bits : Nat) :
    Except FrameError Frame :=
  match element.type with
  | .bytes => frame.writeBytes element.offset (Text.utf8 text)
  | .unsigned | .signed | .float => frame.write element.offset element.width bits

namespace Field

/-- Puts an item into a frame. -/
def encodeItem (field : Field) (frame : Frame) (element : Element) (item : String) :
    Except EncodeError Frame :=
  match element.bits item with
  | .ok bits => (frame.writeElement element item bits).mapError .frame
  | .error fault => .error (.unparsable field.name item fault)

/-- Puts the items of a text into a frame, each where its element lies. An
item is read when those before it are written. -/
def encodeText (field : Field) (frame : Frame) (text : String) : Except EncodeError Frame :=
  let items := field.items text
  if items.length = field.count then
    (field.elements.zip items).foldlM
      (fun frame (element, item) => field.encodeItem frame element item) frame
  else
    .error (.unparsable field.name text (.itemCount field.count))

end Field

namespace Schema

/-- The fields an operator gives values to. -/
def settableFields (schema : Schema) : List Field := schema.fields.filter Field.settable

/-- Puts the text of one field into a frame. -/
def encodeField (schema : Schema) (params : Parameters) (frame : Frame) (field : Field) :
    Except EncodeError Frame :=
  match params.get? field.name with
  | none => .error (.missingField schema.name field.name)
  | some text => field.encodeText frame text

/-- Builds the payload. -/
def encode (schema : Schema) (params : Parameters) : Except EncodeError Frame :=
  if ¬ schema.construction.canEncode then
    .error (.notEncodable schema.name)
  else
    schema.settableFields.foldlM (schema.encodeField params) (Frame.zeros schema.size)

/-- Builds the payload and puts it behind a header. That the header is the
schema's own is checked first, the length of the payload last. -/
def encodePacket (schema : Schema) (params : Parameters) (destination : UInt16)
    (format : WireFormat) : Except EncodeError Bytes := do
  if format ≠ schema.format then
    throw (.protocolMismatch schema.name schema.format format)
  let payload := (← schema.encode params).bytes
  if WireFormat.maxPayload < payload.length then
    throw (.payloadTooLong payload.length)
  (format.wrap destination schema.type payload).mapError .packet

end Schema

end SensorGateway
