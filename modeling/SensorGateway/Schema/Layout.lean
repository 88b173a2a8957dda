import SensorGateway.Schema.Basic

/-!
# `SensorGateway.Schema.Layout`: which layouts are accepted

A layout is accepted when every field is sound on its own, no two fields
share a bit, and every settable field ends inside the payload. The
checks come in this order, and within each the fields in the order of
their declaration; that two fields share a bit is found between
neighbours after sorting by first bit.

A `Schema` carries the proof that its layout was accepted, so whatever
is proved of accepted layouts holds of every schema.
-/

set_option autoImplicit false

namespace SensorGateway

/-- What is wrong with a single field. -/
inductive FieldFault where
  | emptyName
  | reservedName
  | widthOutside (width : Nat)
  | emptyArray
  | floatWidth (width : Nat)
  | unalignedBytes
  | lowPartName
  | highPartName
  | roleOfNonInteger
  | pastPayload (size : Nat)
  deriving Repr, DecidableEq

/-- The text an operator sees. -/
def FieldFault.message : FieldFault → String
  | .emptyName => "field name must not be empty"
  | .reservedName => "name is reserved for derived record keys"
  | .widthOutside width => s!"bit width {width} outside 1..=64"
  | .emptyArray => "array length must be at least 1"
  | .floatWidth width => s!"float fields are 32 or 64 bits wide, got {width}"
  | .unalignedBytes => "bytes fields must be byte aligned"
  | .lowPartName => "low-part fields must be named <base>_low"
  | .highPartName => "high-part fields must be named <base>_high"
  | .roleOfNonInteger => "derivation roles require a scalar integer field"
  | .pastPayload size => s!"settable field ends past the {size}-byte payload"

/-- Why a schema cannot be built, registered, loaded or found. -/
inductive SchemaError where
  | unknownType (type : MessageType)
  | duplicate (type : MessageType)
  /-- The schema's own type is not the one it was registered under. -/
  | typeMismatch (name : String) (declared registered : MessageType)
  | overlap (schema first second : String)
  | invalidField (schema field : String) (fault : FieldFault)
  /-- The description could not be read. -/
  | unreadable
  /-- The description is no well-formed document of the right shape. -/
  | malformed
  deriving Repr, DecidableEq

/-- The text an operator sees. -/
def SchemaError.message : SchemaError → String
  | .unknownType type => s!"no schema registered for message type 0x{Text.hexByte type}"
  | .duplicate type => s!"schema for message type 0x{Text.hexByte type} registered twice"
  | .typeMismatch name declared registered =>
    s!"schema '{name}' declares type 0x{Text.hexByte declared} but was registered as " ++
      s!"0x{Text.hexByte registered}"
  | .overlap schema first second =>
    s!"schema '{schema}': fields '{first}' and '{second}' overlap"
  | .invalidField schema field fault => s!"schema '{schema}': field '{field}': {fault.message}"
  | .unreadable => "cannot read schema description"
  | .malformed => "failed to parse schema description"

/-! ### Single fields -/

/-- The keys that open every record; no field may take one of them. -/
def reservedNames : List String := ["timestamp", "generation_time", "device_id"]

namespace Field

/-- A field whose value is one integer. -/
def isScalarInteger (field : Field) : Bool :=
  (field.type == .unsigned || field.type == .signed) && field.array.isNone

/-- The name of a split part has the right ending and something in front
of it. -/
def hasBase (field : Field) : Bool :=
  match field.mergedName? with
  | some base => base != ""
  | none => false

/-- What is wrong with the role of a field. -/
def roleFault? (field : Field) : Option FieldFault :=
  if field.role = .lowPart ∧ ¬ field.hasBase then some .lowPartName
  else if field.role = .highPart ∧ ¬ field.hasBase then some .highPartName
  else if field.role ≠ .normal ∧ ¬ field.isScalarInteger then some .roleOfNonInteger
  else none

/-- What is wrong with a field, first fault first. -/
def fault? (field : Field) : Option FieldFault :=
  if field.name = "" then some .emptyName
  else if field.name ∈ reservedNames then some .reservedName
  else if field.width = 0 ∨ 64 < field.width then some (.widthOutside field.width)
  else if field.array = some 0 then some .emptyArray
  else if field.type = .float ∧ field.width ≠ 32 ∧ field.width ≠ 64 then
    some (.floatWidth field.width)
  else if field.type = .bytes ∧ (field.offset % 8 ≠ 0 ∨ field.width % 8 ≠ 0) then
    some .unalignedBytes
  else field.roleFault?

end Field

/-! ### Whole layouts -/

/-- The first fault of a single field. -/
def fieldFault? (schema : String) (fields : List Field) : Option SchemaError :=
  fields.findSome? fun field => field.fault?.map (.invalidField schema field.name)

/-- The first two neighbours of which the second starts before the first
ends. -/
def overlapping? : List Field → Option (Field × Field)
  | first :: second :: rest =>
    if second.offset < first.endBit then some (first, second) else overlapping? (second :: rest)
  | _ => none

/-- Fields sorted by first bit; fields that start together keep their
order. -/
def byOffset (fields : List Field) : List Field :=
  fields.mergeSort fun a b => a.offset ≤ b.offset

/-- Two fields that share a bit. -/
def overlapFault? (schema : String) (fields : List Field) : Option SchemaError :=
  (overlapping? (byOffset fields)).map fun (first, second) =>
    .overlap schema first.name second.name

/-- The first settable field that does not fit into the payload. -/
def payloadFault? (schema : String) (size : Nat) (fields : List Field) : Option SchemaError :=
  (fields.find? fun field => field.settable && wrapUInt64 (8 * size) < field.endBit).map
    fun field => .invalidField schema field.name (.pastPayload size)

/-- Why a layout is refused. -/
def layoutFault? (schema : String) (size : Nat) (fields : List Field) : Option SchemaError :=
  (fieldFault? schema fields).or
    ((overlapFault? schema fields).or (payloadFault? schema size fields))

/-! ### Schemas -/

/-- The accepted layout of one message type. -/
structure Schema where
  type : MessageType
  name : String
  /-- The fields in the order of their declaration. -/
  fields : List Field
  /-- The payload size in bytes of frames that are built. -/
  size : Nat
  format : WireFormat
  /-- Only frames of exactly `size` bytes are read. -/
  strictSize : Bool := false
  construction : Construction := .both
  /-- The layout was accepted. -/
  accepted : layoutFault? name size fields = none

namespace Schema

/-- A schema with the given layout, if that is accepted. It may be used in
both directions and with frames of any size. -/
def ofFields (type : MessageType) (name : String) (fields : List Field) (size : Nat)
    (format : WireFormat) : Except SchemaError Schema :=
  match h : layoutFault? name size fields with
  | none => .ok { type, name, fields, size, format, accepted := h }
  | some fault => .error fault

/-- The elements of all fields in the order of their declaration. -/
def elements (schema : Schema) : List Element := schema.fields.flatMap Field.elements

/-- The first field with a role. -/
def fieldWithRole? (schema : Schema) (role : Role) : Option Field :=
  schema.fields.find? fun field => field.role == role

/-- The names of split values, each once, in the order in which a part of
them is first declared. -/
def mergedNames (schema : Schema) : List String :=
  (schema.fields.filterMap Field.mergedName?).eraseDups

end Schema

end SensorGateway
