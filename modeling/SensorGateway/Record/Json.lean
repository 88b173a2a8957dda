import SensorGateway.Record.Basic

/-!
# `SensorGateway.Record.Json`: records as JSON text

Records are written on one line without blanks. In strings a quote, a
backslash and the control characters below the blank are escaped, and
nothing else is. Numbers that are not finite are written as null, byte
strings as arrays of numbers.
-/

set_option autoImplicit false

namespace SensorGateway.Json

/-- The short escapes: the character and the letter that stands for it. -/
def shortEscapes : List (Char × Char) :=
  [('"', '"'), ('\\', '\\'), (Char.ofNat 8, 'b'), ('\t', 't'), ('\n', 'n'), (Char.ofNat 12, 'f'),
    ('\r', 'r')]

/-- A character as it stands inside quotes. -/
def escape (c : Char) : List Char :=
  match shortEscapes.lookup c with
  | some letter => ['\\', letter]
  | none =>
    if c.toNat < 0x20 then
      ['\\', 'u', '0', '0', Nat.digitChar (c.toNat / 16), Nat.digitChar (c.toNat % 16)]
    else [c]

/-- A text in quotes. -/
def quoted (text : String) : List Char := '"' :: text.toList.flatMap escape ++ ['"']

/-- Texts with a comma between neighbours. -/
def separated : List (List Char) → List Char
  | [] => []
  | [last] => last
  | first :: rest => first ++ ',' :: separated rest

/-- A value. -/
def value : Value → List Char
  | .int n => (toString n).toList
  | .uint n => (toString n).toList
  | .float bits => number (Floating.single.print? Floating.singleJsonStyle bits.toNat)
  | .double bits => number (Floating.double.print? Floating.doubleJsonStyle bits.toNat)
  | .bytes data => '[' :: separated (data.map fun byte => (toString byte.toNat).toList) ++ [']']
  | .null => null
where
  /-- The absent value. -/
  null : List Char := ['n', 'u', 'l', 'l']
  /-- A number, or null if it has no text. -/
  number : Option String → List Char
    | some text => text.toList
    | none => null

/-- A key and its value. -/
def entry (key : String) (text : List Char) : List Char := quoted key ++ ':' :: text

/-- An object with the given members in order. -/
def object (members : List (List Char)) : List Char := '\x7b' :: separated members ++ ['\x7d']

/-- A record: its keys in order. -/
def record (record : Record) : List Char :=
  object (record.entries.map fun (key, v) => entry key (value v))

end SensorGateway.Json
