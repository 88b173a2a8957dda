import SensorGateway.Floating.Text
import SensorGateway.Schema.Basic
import SensorGateway.Text.Blank
import SensorGateway.Text.Numeral
import SensorGateway.Text.Utf8

/-!
# `SensorGateway.Command.Element`: texts as the bits of an element

An operator gives each element as a text without blanks at its ends.
`Element.bits` says which bits the text denotes, or why it denotes none.
The field of an array takes one text with a comma between the elements.
-/

set_option autoImplicit false

namespace SensorGateway

/-- Why a text denotes no value of a field. -/
inductive ValueFault where
  | numeral (error : Text.NumeralError)
  | literal (error : Floating.LiteralError)
  | unsignedRange (width : Nat)
  | signedRange (width : Nat)
  | tooManyBytes (limit : Nat)
  | itemCount (expected : Nat)
  deriving Repr, DecidableEq

/-- The text an operator sees. -/
def ValueFault.message : ValueFault → String
  | .numeral error => error.message
  | .literal error => error.message
  | .unsignedRange width => s!"does not fit in {width} unsigned bits"
  | .signedRange width => s!"does not fit in {width} signed bits"
  | .tooManyBytes limit => s!"longer than {limit} bytes"
  | .itemCount expected => s!"expected {expected} comma-separated values"

namespace Text

/-- The parts of a text between commas. -/
def commaSeparated : List Char → List (List Char)
  | [] => [[]]
  | c :: rest =>
    if c = ',' then [] :: commaSeparated rest
    else match commaSeparated rest with
      | part :: parts => (c :: part) :: parts
      | [] => [[c]]

end Text

/-- The bits of an integer in two's complement. -/
def twosComplement (width : Nat) (n : Int) : Nat := (n % 2 ^ width).toNat

namespace Element

/-- The bits of an unsigned element. -/
def unsignedBits (width : Nat) (text : String) : Except ValueFault Nat := do
  let n ← (Text.parseUnsignedOrHex 64 text).mapError .numeral
  if n < 2 ^ width then return n else throw (.unsignedRange width)

/-- The bits of a signed element. -/
def signedBits (width : Nat) (text : String) : Except ValueFault Nat := do
  let n ← (Text.parseSigned 64 text).mapError .numeral
  if -2 ^ (width - 1) ≤ n ∧ n < 2 ^ (width - 1) then return twosComplement width n
  else throw (.signedRange width)

/-- The bits of a floating-point element. -/
def floatBits (width : Nat) (text : String) : Except ValueFault Nat :=
  ((if width = 32 then Floating.single else Floating.double).parse text).mapError .literal

/-- The bits of a byte string: those of the text, then zeros. -/
def byteBits (width : Nat) (text : String) : Except ValueFault Nat :=
  let bytes := Text.utf8 text
  if bytes.length ≤ width / 8 then
    .ok (Bytes.toNat (bytes ++ Bytes.zeros (width / 8 - bytes.length)))
  else
    .error (.tooManyBytes (width / 8))

/-- The bits that a text denotes. -/
def bits (element : Element) (text : String) : Except ValueFault Nat :=
  match element.type with
  | .unsigned => unsignedBits element.width text
  | .signed => signedBits element.width text
  | .float => floatBits element.width text
  | .bytes => byteBits element.width text

end Element

/-- The texts of a field's elements. A single element takes the whole
text. -/
def Field.items (field : Field) (text : String) : List String :=
  match field.array with
  | none => [Text.trim text]
  | some _ =>
    (Text.commaSeparated text.toList).map fun part => Text.trim (String.ofList part)

end SensorGateway
