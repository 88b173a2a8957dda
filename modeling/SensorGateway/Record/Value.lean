import SensorGateway.Bytes
import SensorGateway.Floating.Text
import SensorGateway.Text.Hex

/-!
# `SensorGateway.Record.Value`: the values of a record

A value is an integer, a floating-point number kept as its bits, a byte
string, or null for a reading that is absent. Signed and unsigned
integers are told apart even where they are the same number.
-/

set_option autoImplicit false

namespace SensorGateway

/-- The value of one element of a message. -/
inductive Value where
  /-- A signed 64-bit integer. -/
  | int (n : Int)
  /-- An unsigned 64-bit integer. -/
  | uint (n : Nat)
  /-- The bits of a 32-bit floating-point number. -/
  | float (bits : UInt32)
  /-- The bits of a 64-bit floating-point number. -/
  | double (bits : UInt64)
  | bytes (data : Bytes)
  /-- An absent reading. -/
  | null
  deriving Repr, DecidableEq

/-- The smallest signed 64-bit integer. -/
def minInt64 : Int := -2 ^ 63

/-- The largest signed 64-bit integer. -/
def maxInt64 : Int := 2 ^ 63 - 1

namespace Value

/-- The value as a signed 64-bit integer, if it is an integer of that
range. -/
def asInt64? : Value → Option Int
  | .int n => some n
  | .uint n => if (n : Int) ≤ maxInt64 then some n else none
  | _ => none

/-- The value as an unsigned 64-bit integer, if it is an integer of that
range. -/
def asUInt64? : Value → Option Nat
  | .int n => if 0 ≤ n then some n.toNat else none
  | .uint n => some n
  | _ => none

/-- The value as the bits of the nearest 64-bit floating-point number, if
it is a number. -/
def asDouble? : Value → Option Nat
  | .int n => some (Floating.double.ofInt n)
  | .uint n => some (Floating.double.ofInt n)
  | .float bits => some (Floating.single.convert Floating.double bits.toNat)
  | .double bits => some bits.toNat
  | _ => none

/-- The value is a floating-point number that is NaN. -/
def isNaN : Value → Bool
  | .float bits => Floating.single.isNaN bits.toNat
  | .double bits => Floating.double.isNaN bits.toNat
  | _ => false

/-- Null in place of NaN. -/
def nullNaN (value : Value) : Value := if value.isNaN then .null else value

/-- The value as diagnostics show it. -/
def text : Value → String
  | .int n => toString n
  | .uint n => toString n
  | .float bits => Floating.single.plainText bits.toNat
  | .double bits => Floating.double.plainText bits.toNat
  | .bytes data => Text.hexBytes data
  | .null => "null"

end Value

end SensorGateway
