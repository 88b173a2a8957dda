import SensorGateway.Packet
import SensorGateway.Text.Lowercase

/-!
# `SensorGateway.Schema.Basic`: the fields of a message

A message layout is a list of fields. A field names a range of bits of
the payload, says how to read it, and may play a role when a record is
derived: the low or high word of a split value, the device's clock, or
the device the message comes from. A field is one element or an array of
equally wide ones; `Field.elements` lists them with the keys under which
a record keeps them.

Positions and sizes are counted in bits, and a count is a number of 64
bits: where a sum or a product is larger, only its low 64 bits are kept
(`wrapUInt64`). So a field may seem to end before it starts, and the
elements of an array that is long enough start again at the first bit.
-/

set_option autoImplicit false

namespace SensorGateway

/-- How the bits of a field are read. -/
inductive FieldType where
  /-- An unsigned integer of up to 64 bits. -/
  | unsigned
  /-- A two's complement integer of up to 64 bits. -/
  | signed
  /-- A floating-point number of 32 or 64 bits. -/
  | float
  /-- Whole bytes, byte aligned. -/
  | bytes
  deriving Repr, DecidableEq

/-- What a field contributes to the derived part of a record. -/
inductive Role where
  | normal
  /-- The low 16 bits of a split value named `<base>_low`. -/
  | lowPart
  /-- The high word of a split value named `<base>_high`. -/
  | highPart
  /-- The device's clock in seconds. -/
  | headerTimestamp
  /-- The device the message comes from. -/
  | headerOrigin
  deriving Repr, DecidableEq

/-- In which directions a layout may be used. -/
inductive Construction where
  | both
  | decode
  | encode
  deriving Repr, DecidableEq

/-! ### Names in descriptions -/

def FieldType.label : FieldType → String
  | .unsigned => "unsigned"
  | .signed => "signed"
  | .float => "float"
  | .bytes => "bytes"

/-- The four ways of reading a field. -/
def FieldType.all : List FieldType := [.unsigned, .signed, .float, .bytes]

def Role.label : Role → String
  | .normal => "normal"
  | .lowPart => "low-part"
  | .highPart => "high-part"
  | .headerTimestamp => "header-timestamp"
  | .headerOrigin => "header-origin"

/-- The five roles. -/
def Role.all : List Role := [.normal, .lowPart, .highPart, .headerTimestamp, .headerOrigin]

def Construction.label : Construction → String
  | .both => "both"
  | .decode => "decode"
  | .encode => "encode"

/-- The three directions. -/
def Construction.all : List Construction := [.both, .decode, .encode]

/-- The layout may be used to read frames. -/
def Construction.canDecode : Construction → Bool
  | .both | .decode => true
  | .encode => false

/-- The layout may be used to build frames. -/
def Construction.canEncode : Construction → Bool
  | .both | .encode => true
  | .decode => false

/-! ### Fields -/

/-- The unsigned 64-bit integer that is congruent to a number modulo
`2 ^ 64`. -/
def wrapUInt64 (n : Nat) : Nat := n % 2 ^ 64

/-- One field of a layout. -/
structure Field where
  /-- The name in lower case, as records use it. -/
  name : String
  /-- The first bit. -/
  offset : Nat
  /-- How many bits one element takes. -/
  width : Nat
  type : FieldType := .unsigned
  /-- The number of elements of an array; `none` for a single element. -/
  array : Option Nat := none
  role : Role := .normal
  /-- Operators give the field a value when a frame is built. -/
  settable : Bool := true
  deriving Repr, DecidableEq

/-- The ending of the name of a low word. -/
def lowSuffix : String := "_low"

/-- The ending of the name of a high word. -/
def highSuffix : String := "_high"

/-- A name without its ending, if it has that ending. -/
def stripSuffix? (suffix name : String) : Option String :=
  if suffix.toList.isSuffixOf name.toList then
    some (String.ofList (name.toList.take (name.length - suffix.length)))
  else none

namespace Field

/-- A settable field of one element whose name is put in lower case. -/
def named (name : String) (offset width : Nat) (type : FieldType) : Field :=
  { name := Text.lowercase name, offset, width, type }

/-- How many elements the field has. -/
def count (field : Field) : Nat := field.array.getD 1

/-- How many bits all elements take together. -/
def span (field : Field) : Nat := wrapUInt64 (field.width * field.count)

/-- The first bit behind the field. -/
def endBit (field : Field) : Nat := wrapUInt64 (field.offset + field.span)

/-- The name of the value that a low or high word is part of. -/
def mergedName? (field : Field) : Option String :=
  match field.role with
  | .lowPart => stripSuffix? lowSuffix field.name
  | .highPart => stripSuffix? highSuffix field.name
  | _ => none

end Field

/-! ### Elements -/

/-- One value of a layout: where it lies, how it is read, and under which
key a record keeps it. -/
structure Element where
  key : String
  offset : Nat
  width : Nat
  type : FieldType
  deriving Repr, DecidableEq

/-- The first bit behind the element. -/
def Element.endBit (element : Element) : Nat := element.offset + element.width

/-- The element of an array at an index. -/
def Field.elementAt (field : Field) (index : Nat) : Element where
  key := s!"{field.name}[{index}]"
  offset := wrapUInt64 (field.offset + index * field.width)
  width := field.width
  type := field.type

/-- The elements of a field in the order of their bits. -/
def Field.elements (field : Field) : List Element :=
  match field.array with
  | none => [⟨field.name, field.offset, field.width, field.type⟩]
  | some count => (List.range count).map field.elementAt

end SensorGateway
