/-!
# `SensorGateway.Text.Hex`: bytes as two hexadecimal digits

Diagnostics show a byte as exactly two upper-case hexadecimal digits.
-/

set_option autoImplicit false

namespace SensorGateway.Text

/-- The upper-case hexadecimal digit of a number below sixteen. -/
def hexDigit (n : Nat) : Char :=
  if n < 10 then Char.ofNat (48 + n) else Char.ofNat (55 + n)

/-- A byte as two upper-case hexadecimal digits. -/
def hexByte (byte : UInt8) : String :=
  String.ofList [hexDigit (byte.toNat / 16), hexDigit (byte.toNat % 16)]

/-- Bytes as a bracketed list of two-digit hexadecimal numbers. -/
def hexBytes (bytes : List UInt8) : String :=
  "[" ++ ", ".intercalate (bytes.map hexByte) ++ "]"

end SensorGateway.Text
