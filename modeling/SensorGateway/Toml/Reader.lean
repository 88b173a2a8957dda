import SensorGateway.Toml.Document
import SensorGateway.Toml.Token

/-!
# `SensorGateway.Toml.Reader`: TOML text as values

`Toml.parse?` reads a whole document. Arrays and tables between braces
may be nested, and keys may have parts, up to a fixed depth.
-/

set_option autoImplicit false

namespace SensorGateway.Toml

/-- Nesting from this depth on is refused. -/
def depthLimit : Nat := 80

/-- A key as its path and its last part. -/
def key? (chars : List Char) : Option ((List String × String) × List Char) := do
  let (parts, rest) ← dottedKey? depthLimit chars
  if parts.length < depthLimit then
    let last ← parts.getLast?
    some ((parts.dropLast, last), rest)
  else none

/-- A value that is no array and no table. -/
def scalarValue? : List Char → Option (Toml × List Char)
  | 't' :: 'r' :: 'u' :: 'e' :: rest => some (.boolean true, rest)
  | 'f' :: 'a' :: 'l' :: 's' :: 'e' :: rest => some (.boolean false, rest)
  | chars =>
    ((text? chars).map fun (text, rest) => (.string text, rest)).or <|
    ((datetime? chars).map fun (text, rest) => (.datetime text, rest)).or <|
    ((float? chars).map fun (bits, rest) => (.float bits, rest)).or <|
    ((namedFloat? chars).map fun (bits, rest) => (.float bits, rest)).or <|
    (integer? chars).map fun (n, rest) => (.integer n, rest)

mutual

/-- A value. The fuel bounds the length of the text, the depth the number
of brackets around it. -/
def value? : Nat → Nat → List Char → Option (Toml × List Char)
  | 0, _, _ => none
  | fuel + 1, depth, '[' :: rest =>
    if depth + 1 < depthLimit then do
      let (items, rest) ← items? fuel (depth + 1) rest
      some (.array items, rest)
    else none
  | fuel + 1, depth, '\x7b' :: rest =>
    if depth + 1 < depthLimit then
      match skipSpaces rest with
      | '\x7d' :: rest => some (.table [], rest)
      | rest => do
        let (assignments, rest) ← assignments? fuel (depth + 1) rest
        let table ← ofAssignments? assignments
        some (table, rest)
    else none
  | _ + 1, _, chars => scalarValue? chars

/-- The items of an array up to its closing bracket. A comma may follow the
last one. -/
def items? : Nat → Nat → List Char → Option (List Toml × List Char)
  | 0, _, _ => none
  | fuel + 1, depth, chars =>
    match skipFiller false chars with
    | ']' :: rest => some ([], rest)
    | start => do
      let (item, rest) ← value? fuel depth start
      match skipFiller false rest with
      | ',' :: rest => do
        let (items, rest) ← items? fuel depth rest
        some (item :: items, rest)
      | ']' :: rest => some ([item], rest)
      | _ => none

/-- The assignments of a table up to its closing brace. -/
def assignments? : Nat → Nat → List Char →
    Option (List (List String × String × Toml) × List Char)
  | 0, _, _ => none
  | fuel + 1, depth, chars => do
    let ((path, key), rest) ← key? chars
    let (value, rest) ← value? fuel depth (skipSpaces (← mark? '=' rest))
    match skipSpaces rest with
    | ',' :: rest => do
      let (assignments, rest) ← assignments? fuel depth rest
      some ((path, key, value) :: assignments, rest)
    | '\x7d' :: rest => some ([(path, key, value)], rest)
    | _ => none

end

/-- A header or an assignment, without the end of its line. -/
def statement? : List Char → Option (Statement × List Char)
  | '[' :: '[' :: rest => do
    let ((path, key), rest) ← key? rest
    some (.element path key, ← mark? ']' (← mark? ']' rest))
  | '[' :: rest => do
    let ((path, key), rest) ← key? rest
    some (.table path key, ← mark? ']' rest)
  | chars => do
    let ((path, key), rest) ← key? chars
    let start := skipSpaces (← mark? '=' rest)
    let (value, rest) ← value? (start.length + 1) 0 start
    some (.assign path key value, rest)

/-- The statements of a document. The fuel bounds the number of lines. -/
def statements? : Nat → List Char → Option (List Statement)
  | 0, _ => none
  | fuel + 1, chars =>
    match skipSpaces chars with
    | [] => some []
    | start =>
      match endOfLine? start with
      | some rest => statements? fuel rest
      | none => do
        let (statement, rest) ← statement? start
        let statements ← statements? fuel (← endOfLine? rest)
        some (statement :: statements)

/-- Reads a document. A byte order mark in front of it is ignored. -/
def parse? (text : String) : Option Toml := do
  let chars := match text.toList with
    | c :: rest => if c.toNat = 0xFEFF then rest else c :: rest
    | [] => []
  ofStatements? (← statements? (chars.length + 1) chars)

end SensorGateway.Toml
