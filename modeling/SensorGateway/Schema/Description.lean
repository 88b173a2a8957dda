import SensorGateway.Schema.Registry
import SensorGateway.Toml.Reader

/-!
# `SensorGateway.Schema.Description`: schemas written as a document

A description lists messages under the key `message`, and the fields of
each under `field`. What is left out takes a default; the role of a field
is then found in the ending of its name. Keys that mean nothing are
ignored.

`Registry.ofText` reads a description and registers its messages one
after the other. The first message that has no accepted layout, or whose
type is taken, is the reason reported.
-/

set_option autoImplicit false

namespace SensorGateway

/-- A field as written. -/
structure FieldDescription where
  name : String
  offset : Nat
  width : Nat
  type : FieldType := .unsigned
  array : Option Nat := none
  /-- `none` leaves the role to the name. -/
  role : Option Role := none
  settable : Bool := true
  deriving Repr, DecidableEq

/-- A message as written. -/
structure MessageDescription where
  name : String
  type : MessageType
  size : Nat
  format : WireFormat := .current
  strictSize : Bool := false
  construction : Construction := .both
  fields : List FieldDescription := []
  deriving Repr, DecidableEq

/-! ### Reading -/

/-- A wire format by its name. -/
def Toml.asFormat? : Toml → Option WireFormat :=
  asChoice? [.legacy, .current] WireFormat.label

/-- A number that may index bits or bytes. -/
def Toml.asCount? : Toml → Option Nat := asNat? 64

namespace FieldDescription

/-- The members in the order in which a list gives them. -/
def memberNames : List String :=
  ["name", "offset", "width", "type", "array", "role", "settable"]

/-- Reads a field. -/
def ofToml? (value : Toml) : Option FieldDescription := do
  guard value.isRecord
  let member := value.member? memberNames
  return {
    name := ← Toml.required Toml.asString? (member "name")
    offset := ← Toml.required Toml.asCount? (member "offset")
    width := ← Toml.required Toml.asCount? (member "width")
    type := ← Toml.optional (Toml.asChoice? FieldType.all FieldType.label) .unsigned
      (member "type")
    array := ← Toml.optional (fun v => v.asCount?.map some) none (member "array")
    role := ← Toml.optional (fun v => (v.asChoice? Role.all Role.label).map some) none
      (member "role")
    settable := ← Toml.optional Toml.asBool? true (member "settable") }

end FieldDescription

namespace MessageDescription

/-- The members in the order in which a list gives them. -/
def memberNames : List String :=
  ["name", "type", "size", "wire_format", "strict_size", "construction", "field"]

/-- Reads a message. -/
def ofToml? (value : Toml) : Option MessageDescription := do
  guard value.isRecord
  let member := value.member? memberNames
  return {
    name := ← Toml.required Toml.asString? (member "name")
    type := ← Toml.required Toml.asUInt8? (member "type")
    size := ← Toml.required Toml.asCount? (member "size")
    format := ← Toml.optional Toml.asFormat? .current (member "wire_format")
    strictSize := ← Toml.optional Toml.asBool? false (member "strict_size")
    construction := ← Toml.optional (Toml.asChoice? Construction.all Construction.label) .both
      (member "construction")
    fields := ← Toml.optional (Toml.asList? FieldDescription.ofToml?) [] (member "field") }

/-- Reads the messages of a description. -/
def listOfToml? (value : Toml) : Option (List MessageDescription) :=
  Toml.optional (Toml.asList? ofToml?) [] (value.member? ["message"] "message")

/-- Reads the text of a description. -/
def listOfText (text : String) : Except SchemaError (List MessageDescription) :=
  match (Toml.parse? text).bind listOfToml? with
  | some messages => .ok messages
  | none => .error .malformed

end MessageDescription

/-! ### Building -/

/-- The role that the ending of a name in lower case stands for. -/
def Role.ofName (name : String) : Role :=
  if (stripSuffix? lowSuffix name).isSome then .lowPart
  else if (stripSuffix? highSuffix name).isSome then .highPart
  else .normal

/-- The field described. -/
def FieldDescription.field (description : FieldDescription) : Field :=
  let name := Text.lowercase description.name
  { name
    offset := description.offset
    width := description.width
    type := description.type
    array := description.array
    role := description.role.getD (Role.ofName name)
    settable := description.settable }

/-- The schema described, if its layout is accepted. -/
def MessageDescription.schema (description : MessageDescription) : Except SchemaError Schema := do
  let schema ← Schema.ofFields description.type description.name
    (description.fields.map FieldDescription.field) description.size description.format
  return { schema with
    strictSize := description.strictSize
    construction := description.construction }

namespace Registry

/-- Registers the message described. -/
def registerDescribed (registry : Registry) (description : MessageDescription) :
    Except SchemaError Registry := do
  registry.register description.type (← description.schema)

/-- Registers messages one after the other. -/
def ofDescriptions (messages : List MessageDescription) : Except SchemaError Registry :=
  messages.foldlM registerDescribed empty

/-- The registry that the text of a description stands for. -/
def ofText (text : String) : Except SchemaError Registry := do
  ofDescriptions (← MessageDescription.listOfText text)

end Registry

end SensorGateway
