import SensorGateway.Floating.Text
import SensorGateway.Text.Numeral

/-!
# `SensorGateway.Toml.Token`: the smallest parts of a TOML document

Every function takes a token off the front of a text and returns it with
the rest, or nothing if the text does not start with one. Blanks are the
space and the tab; a line ends with a line feed, alone or behind a
carriage return.
-/

set_option autoImplicit false

namespace SensorGateway.Toml

/-! ### Blanks, comments and line ends -/

def isSpace (c : Char) : Bool := c == ' ' || c == '\t'

/-- A character that may stand in a comment: no control character but the
tab. -/
def isPrintable (c : Char) : Bool := c == '\t' || (0x20 ≤ c.toNat && c.toNat != 0x7F)

def skipSpaces (text : List Char) : List Char := text.dropWhile isSpace

/-- The rest of a text that starts with the end of a line. -/
def newline? : List Char → Option (List Char)
  | '\n' :: rest => some rest
  | '\r' :: '\n' :: rest => some rest
  | _ => none

/-- Skips what may stand behind a statement: blanks, a comment, and the
end of the line or of the text. -/
def endOfLine? (text : List Char) : Option (List Char) :=
  let rest := match skipSpaces text with
    | '#' :: comment => comment.dropWhile isPrintable
    | rest => rest
  if rest.isEmpty then some [] else newline? rest

/-- Skips blanks, line ends and comments between the items of an array;
`comment` says that the text starts inside a comment. -/
def skipFiller (comment : Bool) : List Char → List Char
  | [] => []
  | '\r' :: '\n' :: rest => skipFiller false rest
  | c :: rest =>
    if c = '\n' then skipFiller false rest
    else if comment then if isPrintable c then skipFiller true rest else c :: rest
    else if isSpace c then skipFiller false rest
    else if c = '#' then skipFiller true rest
    else c :: rest

/-! ### Texts -/

/-- The character with a code given in hexadecimal digits. -/
def scalar? (digits : List Char) : Option Char := do
  let code ← digits.foldlM (fun acc c => (Text.digitValue? 16 c).map (acc * 16 + ·)) 0
  if code.isValidChar then some (Char.ofNat code) else none

/-- The characters that a letter behind a backslash stands for. -/
def escapes : List (Char × Char) :=
  [('b', Char.ofNat 8), ('t', '\t'), ('n', '\n'), ('f', Char.ofNat 12), ('r', '\r'), ('"', '"'),
    ('\\', '\\')]

/-- A character behind a backslash. -/
def escape? : List Char → Option (Char × List Char)
  | 'u' :: a :: b :: c :: d :: rest => (scalar? [a, b, c, d]).map (·, rest)
  | 'U' :: a :: b :: c :: d :: e :: f :: g :: h :: rest =>
    (scalar? [a, b, c, d, e, f, g, h]).map (·, rest)
  | c :: rest => (escapes.lookup c).map (·, rest)
  | [] => none

/-- Puts a character in front of a text that was read. -/
def prepend (c : Char) (read : Option (List Char × List Char)) : Option (List Char × List Char) :=
  read.map fun (text, rest) => (c :: text, rest)

/-- The rest of a quoted text on one line. The fuel bounds the number of
characters. -/
def quotedBody : Nat → List Char → Option (List Char × List Char)
  | 0, _ => none
  | _ + 1, [] => none
  | fuel + 1, c :: rest =>
    if c = '"' then some ([], rest)
    else if c = '\\' then do
      let (escaped, rest) ← escape? rest
      prepend escaped (quotedBody fuel rest)
    else if isPrintable c then prepend c (quotedBody fuel rest)
    else none

/-- The rest of a literal text on one line. -/
def literalBody : List Char → Option (List Char × List Char)
  | [] => none
  | c :: rest =>
    if c = '\'' then some ([], rest)
    else if isPrintable c then prepend c (literalBody rest)
    else none

/-- How many times a character stands at the front of a text. -/
def runLength (c : Char) (text : List Char) : Nat := (text.takeWhile (· == c)).length

/-- The end of a text over several lines: three marks, and up to two more
in front of them that belong to the text. -/
def closing? (mark : Char) (text : List Char) : Option (List Char × List Char) :=
  let marks := runLength mark text
  if 3 ≤ marks ∧ marks ≤ 5 then some (List.replicate (marks - 3) mark, text.drop marks) else none

/-- Skips blanks and line ends. -/
def skipBlankLines : List Char → List Char
  | '\r' :: '\n' :: rest => skipBlankLines rest
  | c :: rest => if isSpace c || c == '\n' then skipBlankLines rest else c :: rest
  | [] => []

/-- Skips a folded line: a backslash that only blanks separate from the end
of its line takes that end and all blanks and line ends behind it. -/
def folded? (text : List Char) : Option (List Char) :=
  (newline? (skipSpaces text)).map skipBlankLines

/-- The rest of a quoted text over several lines. Line ends are read as
line feeds. -/
def quotedLines : Nat → List Char → Option (List Char × List Char)
  | 0, _ => none
  | _ + 1, [] => none
  | fuel + 1, c :: rest =>
    if c = '"' ∧ 3 ≤ runLength '"' (c :: rest) then closing? '"' (c :: rest)
    else if c = '\\' then
      match folded? rest with
      | some rest => quotedLines fuel rest
      | none => do
        let (escaped, rest) ← escape? rest
        prepend escaped (quotedLines fuel rest)
    else match newline? (c :: rest) with
      | some rest => prepend '\n' (quotedLines fuel rest)
      | none => if isPrintable c then prepend c (quotedLines fuel rest) else none

/-- The rest of a literal text over several lines. -/
def literalLines : Nat → List Char → Option (List Char × List Char)
  | 0, _ => none
  | _ + 1, [] => none
  | fuel + 1, c :: rest =>
    if c = '\'' ∧ 3 ≤ runLength '\'' (c :: rest) then closing? '\'' (c :: rest)
    else match newline? (c :: rest) with
      | some rest => prepend '\n' (literalLines fuel rest)
      | none => if isPrintable c then prepend c (literalLines fuel rest) else none

/-- Drops the line end that may follow the opening marks of a text over
several lines. -/
def dropNewline (text : List Char) : List Char := (newline? text).getD text

/-- A text of one of the four forms. -/
def text? : List Char → Option (String × List Char)
  | '"' :: '"' :: '"' :: rest => finish (quotedLines (rest.length + 1) (dropNewline rest))
  | '"' :: rest => finish (quotedBody (rest.length + 1) rest)
  | '\'' :: '\'' :: '\'' :: rest => finish (literalLines (rest.length + 1) (dropNewline rest))
  | '\'' :: rest => finish (literalBody rest)
  | _ => none
where
  /-- The characters as a text. -/
  finish (read : Option (List Char × List Char)) : Option (String × List Char) :=
    read.map fun (chars, rest) => (String.ofList chars, rest)

/-! ### Keys -/

/-- A character of a key without quotes. -/
def isBareKeyChar (c : Char) : Bool :=
  (c.isAlphanum || c == '_' || c == '-')

/-- One part of a key. -/
def simpleKey? : List Char → Option (String × List Char)
  | '"' :: rest => text?.finish (quotedBody (rest.length + 1) rest)
  | '\'' :: rest => text?.finish (literalBody rest)
  | chars =>
    match chars.takeWhile isBareKeyChar with
    | [] => none
    | key => some (String.ofList key, chars.dropWhile isBareKeyChar)

/-- The parts of a key between dots, with blanks around each. -/
def dottedKey? : Nat → List Char → Option (List String × List Char)
  | 0, _ => none
  | fuel + 1, chars => do
    let (part, rest) ← simpleKey? (skipSpaces chars)
    match skipSpaces rest with
    | '.' :: rest => do
      let (parts, rest) ← dottedKey? fuel rest
      some (part :: parts, rest)
    | rest => some ([part], rest)

/-! ### Numbers -/

/-- Digits with single underscores between them. -/
def digitRun (isDigit : Char → Bool) : List Char → Option (List Char × List Char)
  | [] => some ([], [])
  | '_' :: c :: rest => if isDigit c then prepend c (digitRun isDigit rest) else none
  | c :: rest =>
    if isDigit c then prepend c (digitRun isDigit rest)
    else if c = '_' then none
    else some ([], c :: rest)

/-- At least one digit, with single underscores between digits. -/
def digits? (isDigit : Char → Bool) : List Char → Option (List Char × List Char)
  | c :: rest => if isDigit c then prepend c (digitRun isDigit rest) else none
  | [] => none

/-- An optional sign. -/
def sign : List Char → List Char × List Char
  | '+' :: rest => (['+'], rest)
  | '-' :: rest => (['-'], rest)
  | rest => ([], rest)

/-- A decimal integer: an optional sign, and either a single zero or digits
that do not start with one. -/
def decimal? (chars : List Char) : Option (List Char × List Char) :=
  let (signed, rest) := sign chars
  match rest with
  | '0' :: rest => some (signed ++ ['0'], rest)
  | rest => (digits? Char.isDigit rest).map fun (digits, rest) => (signed ++ digits, rest)

/-- An exponent with its mark. -/
def exponent? : List Char → Option (List Char × List Char)
  | c :: rest =>
    if c = 'e' ∨ c = 'E' then
      let (signed, rest) := sign rest
      (digits? Char.isDigit rest).map fun (digits, rest) => ('e' :: signed ++ digits, rest)
    else none
  | [] => none

/-- What makes a decimal integer a floating-point number: a fraction, an
exponent, or both. -/
def fractionAndExponent? : List Char → Option (List Char × List Char)
  | '.' :: rest => do
    let (fraction, rest) ← digits? Char.isDigit rest
    match rest with
    | 'e' :: _ | 'E' :: _ => do
      let (exponent, rest) ← exponent? rest
      some ('.' :: fraction ++ exponent, rest)
    | rest => some ('.' :: fraction, rest)
  | rest => exponent? rest

/-- A floating-point number. One that is too large for its format is
refused, unless it is negative. -/
def float? (chars : List Char) : Option (Nat × List Char) := do
  let (whole, rest) ← decimal? chars
  let (tail, rest) ← fractionAndExponent? rest
  let bits ← (Floating.double.parse (String.ofList (whole ++ tail))).toOption
  if bits = Floating.double.infinity then none else some (bits, rest)

/-- An infinity or NaN, by name. -/
def namedFloat? (chars : List Char) : Option (Nat × List Char) :=
  let (signed, rest) := sign chars
  let negative := signed == ['-']
  match rest with
  | 'i' :: 'n' :: 'f' :: rest =>
    some (Floating.double.withSign negative Floating.double.infinity, rest)
  | 'n' :: 'a' :: 'n' :: rest =>
    some (Floating.double.withSign negative Floating.double.quietNaN, rest)
  | _ => none

/-- Digits of a radix behind its mark. -/
def radixInteger? (radix : Nat) (chars : List Char) : Option (Int × List Char) := do
  let (digits, rest) ← digits? (fun c => (Text.digitValue? radix c).isSome) chars
  let n ← (Text.signedNumeral radix 64 digits).toOption
  some (n, rest)

/-- A 64-bit integer: decimal with an optional sign, or hexadecimal, octal
or binary without one. -/
def integer? : List Char → Option (Int × List Char)
  | '0' :: 'x' :: rest => radixInteger? 16 rest
  | '0' :: 'o' :: rest => radixInteger? 8 rest
  | '0' :: 'b' :: rest => radixInteger? 2 rest
  | chars => do
    let (digits, rest) ← decimal? chars
    let n ← (Text.signedNumeral 10 64 digits).toOption
    some (n, rest)

/-! ### Dates and times -/

/-- A number of exactly `count` digits between two bounds. -/
def fixedNumber? (count low high : Nat) (chars : List Char) : Option (Nat × List Char) :=
  let digits := chars.take count
  let n := digits.foldl (fun acc c => acc * 10 + (c.toNat - '0'.toNat)) 0
  if digits.length = count ∧ digits.all Char.isDigit ∧ low ≤ n ∧ n ≤ high then
    some (n, chars.drop count)
  else none

/-- The rest of a text that starts with a character. -/
def mark? (mark : Char) : List Char → Option (List Char)
  | c :: rest => if c = mark then some rest else none
  | [] => none

/-- How many days a month has. -/
def daysInMonth (year month : Nat) : Nat :=
  if month = 2 then
    if year % 4 = 0 ∧ (year % 100 ≠ 0 ∨ year % 400 = 0) then 29 else 28
  else if month ∈ [4, 6, 9, 11] then 30 else 31

/-- The rest behind a date. -/
def date? (chars : List Char) : Option (List Char) := do
  let (year, rest) ← fixedNumber? 4 0 9999 chars
  let (month, rest) ← fixedNumber? 2 1 12 (← mark? '-' rest)
  let (_, rest) ← fixedNumber? 2 1 (daysInMonth year month) (← mark? '-' rest)
  some rest

/-- The rest behind hours and minutes. -/
def hoursMinutes? (chars : List Char) : Option (List Char) := do
  let (_, rest) ← fixedNumber? 2 0 23 chars
  let (_, rest) ← fixedNumber? 2 0 59 (← mark? ':' rest)
  some rest

/-- The rest behind a time of day. -/
def time? (chars : List Char) : Option (List Char) := do
  let (_, rest) ← fixedNumber? 2 0 60 (← mark? ':' (← hoursMinutes? chars))
  match rest with
  | '.' :: c :: fraction => if c.isDigit then some (fraction.dropWhile Char.isDigit) else some rest
  | rest => some rest

/-- The rest behind an offset from universal time, if there is one. -/
def skipOffset (chars : List Char) : List Char :=
  match chars with
  | c :: rest =>
    if c = 'Z' ∨ c = 'z' then rest
    else if c = '+' ∨ c = '-' then (hoursMinutes? rest).getD chars
    else chars
  | [] => []

/-- The rest behind a date with or without a time, or behind a time. -/
def skipDatetime? (chars : List Char) : Option (List Char) :=
  match date? chars with
  | some rest =>
    match rest with
    | c :: tail =>
      if c = 'T' ∨ c = 't' ∨ c = ' ' then
        match time? tail with
        | some tail => some (skipOffset tail)
        | none => some rest
      else some rest
    | [] => some []
  | none => time? chars

/-- A date, a time or both. -/
def datetime? (chars : List Char) : Option (String × List Char) :=
  (skipDatetime? chars).map fun rest =>
    (String.ofList (chars.take (chars.length - rest.length)), rest)

end SensorGateway.Toml
