import SensorGateway.Record.Basic
import SensorGateway.Schema.Layout

/-!
# `SensorGateway.Record.Decode`: frames as records

`Schema.decode` reads a frame. The record opens with the receipt time,
the generation time and the device; the elements follow in the order of
their declaration. An element that ends past the frame is left out, and
nothing else changes because of it. Then every split value of which a
part was read is put under its base name, the time and the device are
derived, and NaN becomes null.
-/

set_option autoImplicit false

namespace SensorGateway

/-- Why a frame is not read at all. -/
inductive DecodeError where
  /-- A schema of fixed size saw a frame of another size. -/
  | sizeMismatch (schema : String) (expected actual : Nat)
  /-- The schema is for building frames only. -/
  | notDecodable (schema : String)
  deriving Repr, DecidableEq

/-- The text an operator sees. -/
def DecodeError.message : DecodeError → String
  | .sizeMismatch schema expected actual =>
    s!"schema '{schema}' expects {expected} bytes, frame has {actual}"
  | .notDecodable schema => s!"schema '{schema}' cannot be decoded"

/-! ### Keys -/

/-- When the message arrived, in milliseconds. -/
def timestampKey : String := "timestamp"

/-- When the device produced the message, in milliseconds. -/
def generationTimeKey : String := "generation_time"

/-- The device the message comes from. -/
def deviceIdKey : String := "device_id"

/-- Where the device's clock is found if no field has that role. -/
def clockKey : String := "header_atime"

/-- Where the device is found if no field has that role. -/
def originKey : String := "header_originatorid"

/-! ### Elements -/

namespace Element

/-- What the bits of an element mean. -/
def value (element : Element) (bits : Nat) : Value :=
  match element.type with
  | .unsigned => .uint bits
  | .signed => .int (Frame.signed element.width bits)
  | .float =>
    if element.width = 32 then .float (UInt32.ofNat bits) else .double (UInt64.ofNat bits)
  | .bytes => .bytes (Bytes.ofNat (element.width / 8) bits)

/-- The value of an element, if the frame holds all of its bits. -/
def read? (element : Element) (frame : Frame) : Option Value :=
  (frame.read element.offset element.width).toOption.map element.value

end Element

/-- Puts an element's value into a record, if there is one. -/
def Record.insertElement (frame : Frame) (record : Record) (element : Element) : Record :=
  match element.read? frame with
  | some value => record.insert element.key value
  | none => record

/-! ### Derived values -/

/-- The signed 64-bit integer nearest to an integer. -/
def clampInt64 (n : Int) : Int := max minInt64 (min n maxInt64)

/-- The signed 64-bit integer that is congruent to an integer modulo
`2 ^ 64`. -/
def wrapInt64 (n : Int) : Int := Int.bmod n (2 ^ 64)

/-- The value that two words make up. A word that was not read counts as
zero, and there is no value if neither was. -/
def mergeWords? (low high : Option Int) : Option Int :=
  match low, high with
  | none, none => none
  | _, _ => some (wrapInt64 (low.getD 0 + high.getD 0 * 2 ^ 16))

/-- Puts a split value under its base name. -/
def Record.insertMerged (record : Record) (base : String) : Record :=
  match mergeWords? (record.int64? (base ++ lowSuffix)) (record.int64? (base ++ highSuffix)) with
  | some n => record.insert base (.int n)
  | none => record

/-- When a message was produced: the receipt time less the device's clock
in seconds, both steps kept inside 64 bits, or the receipt time itself if
there is no clock. -/
def generationTime (receipt : Int) : Option Int → Int
  | some seconds => clampInt64 (receipt - clampInt64 (seconds * 1000))
  | none => receipt

namespace Schema

/-- The integer under the name of the first field with a role, or under
`fallback` if no field has it. -/
def headerValue? (schema : Schema) (record : Record) (role : Role) (fallback : String) :
    Option Int :=
  record.int64? (((schema.fieldWithRole? role).map Field.name).getD fallback)

/-! ### Decoding -/

/-- The three entries that open every record. -/
def seed (receipt : Int) : Record :=
  ((Record.empty.insert timestampKey (.int receipt)).insert generationTimeKey .null).insert
    deviceIdKey .null

/-- The record with all elements and split values of a frame. -/
def readings (schema : Schema) (frame : Frame) (receipt : Int) : Record :=
  schema.mergedNames.foldl Record.insertMerged
    (schema.elements.foldl (Record.insertElement frame) (seed receipt))

/-- The record with its time and its device derived. -/
def derive (schema : Schema) (receipt : Int) (device : Option Int) (record : Record) : Record :=
  let time := generationTime receipt (schema.headerValue? record .headerTimestamp clockKey)
  let timed := record.insert generationTimeKey (.int time)
  let origin := (schema.headerValue? timed .headerOrigin originKey).or device
  timed.insert deviceIdKey ((origin.map Value.int).getD .null)

/-- Reads a frame that arrived at `receipt`. `device` is used where the
frame does not say which device it comes from. -/
def decode (schema : Schema) (frame : Frame) (receipt : Int) (device : Option Int) :
    Except DecodeError Record :=
  if ¬ schema.construction.canDecode then
    .error (.notDecodable schema.name)
  else if schema.strictSize ∧ frame.length ≠ schema.size then
    .error (.sizeMismatch schema.name schema.size frame.length)
  else
    .ok (schema.derive receipt device (schema.readings frame receipt)).nullNaNs

end Schema

end SensorGateway
