import SensorGateway.Power

/-!
# `SensorGateway.Text.Numeral`: integers as text

A numeral is an optional sign and one or more digits. An unsigned
numeral may carry a plus sign, a signed one also a minus sign. Reading
stops at the first character that is no digit, and at the first digit
with which the number leaves its range; whichever comes first is the
reason reported.
-/

set_option autoImplicit false

namespace SensorGateway.Text

/-- Why a text is no integer of the range asked for. -/
inductive NumeralError where
  | empty
  | invalidDigit
  | tooLarge
  | tooSmall
  deriving Repr, DecidableEq

/-- The text an operator sees. -/
def NumeralError.message : NumeralError → String
  | .empty => "cannot parse integer from empty string"
  | .invalidDigit => "invalid digit found in string"
  | .tooLarge => "number too large to fit in target type"
  | .tooSmall => "number too small to fit in target type"

/-- The value of an ASCII digit or letter, if it is below the radix. -/
def digitValue? (radix : Nat) (c : Char) : Option Nat :=
  let value :=
    if '0' ≤ c ∧ c ≤ '9' then some (c.toNat - '0'.toNat)
    else if 'a' ≤ c ∧ c ≤ 'z' then some (c.toNat - 'a'.toNat + 10)
    else if 'A' ≤ c ∧ c ≤ 'Z' then some (c.toNat - 'A'.toNat + 10)
    else none
  value.filter (· < radix)

/-- Reads digits on top of `acc`. Once the number exceeds `limit`, the
reason is `overflow`. -/
def scanDigits (radix limit : Nat) (overflow : NumeralError) (acc : Nat) :
    List Char → Except NumeralError Nat
  | [] => .ok acc
  | c :: rest =>
    match digitValue? radix c with
    | none => .error .invalidDigit
    | some digit =>
      if acc * radix + digit ≤ limit then
        scanDigits radix limit overflow (acc * radix + digit) rest
      else
        .error overflow

/-- An unsigned numeral with values up to `limit`. -/
def unsignedNumeral (radix limit : Nat) : List Char → Except NumeralError Nat
  | [] => .error .empty
  | ['+'] => .error .invalidDigit
  | '+' :: digits => scanDigits radix limit .tooLarge 0 digits
  | digits => scanDigits radix limit .tooLarge 0 digits

/-- A signed numeral of `width` bits in two's complement. -/
def signedNumeral (radix width : Nat) : List Char → Except NumeralError Int
  | [] => .error .empty
  | ['+'] => .error .invalidDigit
  | ['-'] => .error .invalidDigit
  | '+' :: digits => do
    let n ← scanDigits radix (2 ^ (width - 1) - 1) .tooLarge 0 digits
    return n
  | '-' :: digits => do
    let n ← scanDigits radix (2 ^ (width - 1)) .tooSmall 0 digits
    return -n
  | digits => do
    let n ← scanDigits radix (2 ^ (width - 1) - 1) .tooLarge 0 digits
    return n

/-- A decimal numeral of an unsigned word of `width` bits. -/
def parseUnsigned (width : Nat) (text : String) : Except NumeralError Nat :=
  unsignedNumeral 10 (2 ^ width - 1) text.toList

/-- A decimal numeral of a signed word of `width` bits. -/
def parseSigned (width : Nat) (text : String) : Except NumeralError Int :=
  signedNumeral 10 width text.toList

/-- An unsigned word of `width` bits, in decimal or, behind `0x` or `0X`,
in hexadecimal digits. The sign stands behind the `0x`. -/
def parseUnsignedOrHex (width : Nat) (text : String) : Except NumeralError Nat :=
  match text.toList with
  | '0' :: 'x' :: digits => unsignedNumeral 16 (2 ^ width - 1) digits
  | '0' :: 'X' :: digits => unsignedNumeral 16 (2 ^ width - 1) digits
  | digits => unsignedNumeral 10 (2 ^ width - 1) digits

end SensorGateway.Text
