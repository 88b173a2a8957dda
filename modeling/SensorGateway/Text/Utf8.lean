import SensorGateway.Bytes

/-!
# `SensorGateway.Text.Utf8`: texts as bytes

What is stored or sent of a text are its bytes in UTF-8: one to four for each
character, one after the other.
-/

set_option autoImplicit false

namespace SensorGateway.Text

/-- The bytes of a text in UTF-8. -/
def utf8 (text : String) : Bytes := text.toUTF8.data.toList

/-- The bytes of characters, one character after the other. -/
def encoded (chars : List Char) : Bytes := chars.flatMap String.utf8EncodeChar

/-- The text that has these bytes, if one has. -/
def ofUtf8? (bytes : Bytes) : Option String := String.fromUTF8? bytes.toByteArray

end SensorGateway.Text
