import SensorGateway.Toml.Basic

/-!
# `SensorGateway.Toml.Writer`: values as TOML text

A text takes the plainest of the forms that show it without escapes:
quoted, literal, quoted over several lines, literal over several lines.
If none does, it is quoted with escapes. Arrays of more than one item
stand on several lines. A document lists its plain values first and then
its tables, each under its header.
-/

set_option autoImplicit false

namespace SensorGateway.Toml

/-! ### Texts -/

/-- A control character that texts show as an escape. -/
def needsEscape (c : Char) : Bool :=
  (c.toNat < 0x20 && c != '\t' && c != '\n') || c.toNat == 0x7F

/-- The longest run of a character. -/
def longestRun (mark : Char) (chars : List Char) : Nat :=
  (chars.foldl (fun (best, run) c =>
    if c = mark then (max best (run + 1), run + 1) else (best, 0)) (0, 0)).1

/-- The letters behind a backslash that stand for control characters. -/
def escapeLetters : List (Char × Char) :=
  [(Char.ofNat 8, 'b'), ('\t', 't'), ('\n', 'n'), (Char.ofNat 12, 'f'), ('\r', 'r'), ('\\', '\\')]

/-- A character behind a backslash. -/
def escaped (c : Char) : List Char :=
  match escapeLetters.lookup c with
  | some letter => ['\\', letter]
  | none =>
    ['\\', 'u', '0', '0', hexDigit (c.toNat / 16), hexDigit (c.toNat % 16)]
where
  /-- An upper-case hexadecimal digit. -/
  hexDigit (n : Nat) : Char := (Nat.digitChar n).toUpper

/-- The inside of a quoted text. Up to `quotes` quotes may stand in a row
without an escape, and line feeds stay as they are in a text over several
lines; `run` counts the quotes just passed. -/
def quotedChars (lines : Bool) (quotes : Nat) : Nat → List Char → List Char
  | _, [] => []
  | run, c :: rest =>
    if c = '"' then
      if run < quotes then c :: quotedChars lines quotes (run + 1) rest
      else '\\' :: c :: quotedChars lines quotes 0 rest
    else if c = '\n' ∧ lines then c :: quotedChars lines quotes 0 rest
    else if c = '\\' ∨ c = '\t' ∨ c = '\n' ∨ needsEscape c then
      escaped c ++ quotedChars lines quotes 0 rest
    else c :: quotedChars lines quotes 0 rest

def quotedForm (chars : List Char) : List Char := '"' :: quotedChars false 0 0 chars ++ ['"']

def literalForm (chars : List Char) : List Char := '\'' :: chars ++ ['\'']

/-- The line end behind the opening marks of a text that has line ends
itself. It is not part of the text. -/
def firstLineEnd (chars : List Char) : List Char := if chars.contains '\n' then ['\n'] else []

def quotedLinesForm (chars : List Char) : List Char :=
  ['"', '"', '"'] ++ firstLineEnd chars ++ quotedChars true 2 0 chars ++ ['"', '"', '"']

def literalLinesForm (chars : List Char) : List Char :=
  ['\'', '\'', '\''] ++ firstLineEnd chars ++ chars ++ ['\'', '\'', '\'']

/-- A text in the plainest form. -/
def writeText (text : String) : List Char :=
  let chars := text.toList
  let control := chars.any needsEscape
  let backslash := chars.contains '\\'
  let lines := chars.contains '\n'
  let quotes := longestRun '"' chars
  let apostrophes := longestRun '\'' chars
  if ¬ control ∧ ¬ backslash ∧ quotes = 0 ∧ ¬ lines then quotedForm chars
  else if ¬ control ∧ apostrophes = 0 ∧ ¬ lines then literalForm chars
  else if ¬ control ∧ ¬ backslash ∧ quotes ≤ 2 then quotedLinesForm chars
  else if ¬ control ∧ apostrophes ≤ 2 then literalLinesForm chars
  else if lines then quotedLinesForm chars
  else quotedForm chars

/-! ### Values and documents -/

/-- A value of a setting: a text, an integer or an array of integers. -/
inductive Setting where
  | text (content : String)
  | integer (n : Int)
  | integers (items : List Int)
  deriving Repr, DecidableEq

/-- An array of more than one item on a line for each. -/
def writeIntegers : List Int → List Char
  | [] => ['[', ']']
  | [n] => '[' :: (toString n).toList ++ [']']
  | items =>
    ['[', '\n'] ++ items.flatMap (fun n => "    ".toList ++ (toString n).toList ++ [',', '\n'])
      ++ [']']

def Setting.write : Setting → List Char
  | .text content => writeText content
  | .integer n => (toString n).toList
  | .integers items => writeIntegers items

/-- A line that assigns a value to a key. -/
def writeAssignment (key : String) (setting : Setting) : List Char :=
  key.toList ++ " = ".toList ++ setting.write ++ ['\n']

/-- Settings under their keys. -/
abbrev Section := List (String × Setting)

def writeSection (entries : Section) : List Char :=
  entries.flatMap fun (key, setting) => writeAssignment key setting

/-- A table under its header, behind an empty line. -/
def writeTable (name : String) (entries : Section) : List Char :=
  ['\n', '['] ++ name.toList ++ [']', '\n'] ++ writeSection entries

/-- A document: its own settings, then its tables. -/
def writeDocument (entries : Section) (tables : List (String × Section)) : String :=
  String.ofList (writeSection entries ++ tables.flatMap fun (name, inner) =>
    writeTable name inner)

end SensorGateway.Toml
