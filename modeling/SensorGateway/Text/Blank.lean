/-!
# `SensorGateway.Text.Blank`: blank characters and trimming

A character is blank when Unicode gives it the property `White_Space`.
Twenty-five characters have it, in ten ranges. The zero-width space and
the byte order mark do not.
-/

set_option autoImplicit false

namespace SensorGateway.Text

/-- The ranges of code points with the property `White_Space`, first and
last. -/
def blankRanges : List (Nat × Nat) :=
  [(0x9, 0xD), (0x20, 0x20), (0x85, 0x85), (0xA0, 0xA0), (0x1680, 0x1680),
    (0x2000, 0x200A), (0x2028, 0x2029), (0x202F, 0x202F), (0x205F, 0x205F), (0x3000, 0x3000)]

/-- A blank character. -/
def isBlank (c : Char) : Bool :=
  blankRanges.any fun range => range.1 ≤ c.toNat && c.toNat ≤ range.2

/-- Characters without the blank ones at both ends. -/
def trimBlank (chars : List Char) : List Char :=
  ((chars.dropWhile isBlank).reverse.dropWhile isBlank).reverse

/-- A text without the blank characters at both ends. -/
def trim (text : String) : String := String.ofList (trimBlank text.toList)

end SensorGateway.Text
