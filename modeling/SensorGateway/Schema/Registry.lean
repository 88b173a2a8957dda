import SensorGateway.Schema.Layout

/-!
# `SensorGateway.Schema.Registry`: schemas by message type

A registry holds at most one schema for each message type, and holds it
under the type that the schema itself declares. A failing registration
changes nothing.
-/

set_option autoImplicit false

namespace SensorGateway

/-- Schemas by message type. -/
structure Registry where
  /-- The schema of a message type. -/
  schema? : MessageType → Option Schema
  /-- A schema is kept under its own type. -/
  type_eq : ∀ type schema, schema? type = some schema → schema.type = type

namespace Registry

/-- No schema at all. -/
def empty : Registry where
  schema? _ := none
  type_eq _ _ h := by simp at h

/-- The registry with a schema under its own type, whatever stood there
before. -/
def insert (registry : Registry) (schema : Schema) : Registry where
  schema? type := if type = schema.type then some schema else registry.schema? type
  type_eq type found h := by
    by_cases htype : type = schema.type
    · simp only [htype, if_true, Option.some.injEq] at h
      rw [← h, htype]
    · simp only [htype, if_false] at h
      exact registry.type_eq type found h

/-- A message type has a schema. -/
def contains (registry : Registry) (type : MessageType) : Bool := (registry.schema? type).isSome

/-- Registers a schema under a type. A schema of another type is refused
before the type is looked up. -/
def register (registry : Registry) (type : MessageType) (schema : Schema) :
    Except SchemaError Registry :=
  if schema.type ≠ type then
    .error (.typeMismatch schema.name schema.type type)
  else if registry.contains type then
    .error (.duplicate type)
  else
    .ok (registry.insert schema)

/-- The schema of a message type. -/
def lookup (registry : Registry) (type : MessageType) : Except SchemaError Schema :=
  match registry.schema? type with
  | some schema => .ok schema
  | none => .error (.unknownType type)

/-- The message types that have a schema, in ascending order. -/
def messageTypes (registry : Registry) : List MessageType :=
  ((List.range 256).map UInt8.ofNat).filter registry.contains

/-- How many schemas there are. -/
def size (registry : Registry) : Nat := registry.messageTypes.length

/-- Registers schemas one after the other, each under its own type. -/
def ofSchemas (schemas : List Schema) : Except SchemaError Registry :=
  schemas.foldlM (fun registry schema => registry.register schema.type schema) empty

end Registry

end SensorGateway
