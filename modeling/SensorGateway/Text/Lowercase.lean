import SensorGateway.Text.CaseTable

/-!
# `SensorGateway.Text.Lowercase`: full lower-casing

Lower-casing follows the full Unicode rules. Every character has its
simple mapping, with two exceptions:

* capital I with a dot above becomes a small i and a combining dot;
* capital sigma becomes a final sigma where it ends a word: where a
  cased letter precedes it and none follows it, characters that case
  ignores left aside.
-/

set_option autoImplicit false

namespace SensorGateway.Text

/-- A code point lies in one of the ranges. -/
def inRanges (ranges : List (Nat × Nat)) (code : Nat) : Bool :=
  ranges.any fun range => range.1 ≤ code && code ≤ range.2

/-- The property `Cased`. -/
def isCased (c : Char) : Bool := inRanges casedRanges c.toNat

/-- The property `Case_Ignorable`. -/
def isCaseIgnorable (c : Char) : Bool := inRanges caseIgnorableRanges c.toNat

/-- The simple lower-case mapping. -/
def simpleLowercase (c : Char) : Char :=
  let code := c.toNat
  match lowercaseRanges.find? (fun range =>
      range.1 ≤ code && code ≤ range.2.1 && (code - range.1) % range.2.2.1 == 0) with
  | some range => Char.ofNat ((code : Int) + range.2.2.2).toNat
  | none => c

/-- The first character that case does not ignore is cased. -/
def cased (chars : List Char) : Bool :=
  match (chars.dropWhile isCaseIgnorable).head? with
  | some c => isCased c
  | none => false

/-- Lower-cases the characters `rest`, where `before` are the characters
in front of them, nearest first. -/
def lowercaseFrom : List Char → List Char → List Char
  | _, [] => []
  | before, c :: rest =>
    let mapped :=
      if c = 'Σ' then
        if cased before && !cased rest then ['ς'] else ['σ']
      else if c = 'İ' then ['i', Char.ofNat 0x307]
      else [simpleLowercase c]
    mapped ++ lowercaseFrom (c :: before) rest

/-- A text in lower case. -/
def lowercase (text : String) : String := String.ofList (lowercaseFrom [] text.toList)

/-- The lower-case form of an ASCII letter; every other character is its
own. -/
def asciiLowercase (c : Char) : Char :=
  if 'A' ≤ c ∧ c ≤ 'Z' then Char.ofNat (c.toNat + 32) else c

/-- Two texts are the same but for the case of ASCII letters. -/
def sameIgnoringAsciiCase (a b : String) : Bool :=
  a.toList.map asciiLowercase == b.toList.map asciiLowercase

end SensorGateway.Text
