import SensorGateway.Floating.Shortest
import SensorGateway.Text.Numeral

/-!
# `SensorGateway.Floating.Text`: floating-point numbers as text

`Format.print` writes a number in the fewest digits that read back.
Where a number is written without an exponent, and whether it always
shows a fraction, is for a `Style` to say. `Format.parse` reads a text
and rounds it correctly.
-/

set_option autoImplicit false

namespace SensorGateway.Floating

/-- How numbers are written. -/
structure Style where
  /-- Which of two equally short and equally near decimals is taken. -/
  tie : Tie
  /-- Numbers whose first digit has a weight of `10 ^ e` with `e` in this
  range have no exponent; `none` means all of them. -/
  positional : Option (Int × Int)
  /-- Whole numbers show a zero fraction. -/
  wholeFraction : Bool
  deriving Repr

/-- Diagnostics: never an exponent, no needless fraction. -/
def plainStyle : Style := ⟨.up, none, false⟩

/-- Record lines, 32-bit numbers. -/
def singleJsonStyle : Style := ⟨.toEven, some (-6, 12), true⟩

/-- Record lines, 64-bit numbers. -/
def doubleJsonStyle : Style := ⟨.toEven, some (-5, 15), true⟩

/-! ### Printing -/

/-- Digits with the decimal point `10 ^ exponent` behind the last one, and
no exponent. -/
def positionalText (wholeFraction : Bool) (digits : List Char) (exponent : Int) : List Char :=
  if 0 ≤ exponent then
    digits ++ List.replicate exponent.toNat '0' ++ (if wholeFraction then ['.', '0'] else [])
  else
    let places := (-exponent).toNat
    if places < digits.length then
      digits.take (digits.length - places) ++ '.' :: digits.drop (digits.length - places)
    else
      '0' :: '.' :: List.replicate (places - digits.length) '0' ++ digits

/-- Digits with one of them in front of the point, and a signed
exponent. -/
def scientificText (digits : List Char) (leading : Int) : List Char :=
  let fraction := match digits.drop 1 with
    | [] => []
    | rest => '.' :: rest
  let sign := if leading < 0 then '-' else '+'
  digits.take 1 ++ fraction ++ 'e' :: sign :: Nat.toDigits 10 leading.natAbs

/-- A decimal in a style. -/
def Style.text (style : Style) (decimal : Decimal) : List Char :=
  let digits := Nat.toDigits 10 decimal.digits
  let leading : Int := decimal.exponent + digits.length - 1
  let isPositional := match style.positional with
    | none => true
    | some (low, high) => decide (low ≤ leading ∧ leading ≤ high)
  if isPositional then positionalText style.wholeFraction digits decimal.exponent
  else scientificText digits leading

/-- A number in a style; `none` if it is not finite. -/
def Format.print? (format : Format) (style : Style) (bits : Nat) : Option String :=
  match format.datum bits with
  | .finite negative significand exponent =>
    let decimal :=
      if significand = 0 then ⟨0, 0⟩ else format.shortest style.tie significand exponent
    let sign := if negative then ['-'] else []
    some (String.ofList (sign ++ style.text decimal))
  | _ => none

/-- A number as diagnostics show it. -/
def Format.plainText (format : Format) (bits : Nat) : String :=
  match format.datum bits with
  | .nan => "NaN"
  | .infinite false => "inf"
  | .infinite true => "-inf"
  | .finite _ _ _ => (format.print? plainStyle bits).getD ""

/-! ### Reading -/

/-- Why a text is no floating-point number. -/
inductive LiteralError where
  | empty
  | invalid
  deriving Repr, DecidableEq

/-- The text an operator sees. -/
def LiteralError.message : LiteralError → String
  | .empty => "cannot parse float from empty string"
  | .invalid => "invalid float literal"

/-- The digits in front of a text as a number on top of `acc`, how many
they are, and the rest of the text. -/
def takeDigits (acc count : Nat) : List Char → Nat × Nat × List Char
  | [] => (acc, count, [])
  | c :: rest =>
    if '0' ≤ c ∧ c ≤ '9' then takeDigits (acc * 10 + (c.toNat - '0'.toNat)) (count + 1) rest
    else (acc, count, c :: rest)

/-- An exponent mark, an optional sign and digits up to the end; the empty
text is the exponent zero. -/
def exponentPart : List Char → Option Int
  | [] => some 0
  | mark :: rest =>
    if mark = 'e' ∨ mark = 'E' then
      let (negative, digits) : Bool × List Char := match rest with
        | '+' :: digits => (false, digits)
        | '-' :: digits => (true, digits)
        | digits => (false, digits)
      match takeDigits 0 0 digits with
      | (_, 0, _) => none
      | (n, _ + 1, []) => some (if negative then -(n : Int) else n)
      | _ => none
    else none

/-- Digits, optionally a point and more digits, optionally an exponent. At
least one digit stands beside the point. -/
def decimalLiteral (text : List Char) : Option Decimal :=
  let (whole, wholeCount, rest) := takeDigits 0 0 text
  let (digits, places, tail) : Nat × Nat × List Char := match rest with
    | '.' :: fraction =>
      let (n, count, tail) := takeDigits whole 0 fraction
      (n, count, tail)
    | tail => (whole, 0, tail)
  if wholeCount + places = 0 then none
  else (exponentPart tail).map fun exponent => ⟨digits, exponent - places⟩

/-- The pattern of an unsigned literal: a decimal, or a name of an infinity
or of NaN in any case. -/
def Format.magnitude? (format : Format) (text : List Char) : Option Nat :=
  let name := String.ofList (text.map Char.toLower)
  if name = "inf" ∨ name = "infinity" then some format.infinity
  else if name = "nan" then some format.quietNaN
  else (decimalLiteral text).map fun decimal =>
    format.nearestDecimal decimal.digits decimal.exponent

/-- Reads a literal with an optional sign, correctly rounded. -/
def Format.parse (format : Format) (text : String) : Except LiteralError Nat :=
  let (negative, unsigned) : Bool × List Char := match text.toList with
    | '+' :: rest => (false, rest)
    | '-' :: rest => (true, rest)
    | rest => (false, rest)
  if text.isEmpty then .error .empty
  else match format.magnitude? unsigned with
    | some magnitude => .ok (format.withSign negative magnitude)
    | none => .error .invalid

end SensorGateway.Floating
