import SensorGateway.Text.Numeral

/-!
# `SensorGateway.Address`: socket addresses as text

A socket address is a host and a port. Hosts are four decimal numbers
with points between them, or eight groups of hexadecimal digits with
colons between them, in brackets. In the second form one run of zero
groups may be left out, the last two groups may be spelled as four
decimal numbers, and a percent sign may name a scope.

Printing leaves out the longest run of at least two zero groups, the
first of several that are equally long.
-/

set_option autoImplicit false

namespace SensorGateway

/-- A host on the network. -/
inductive Host where
  | v4 (first second third fourth : UInt8)
  /-- Eight groups of 16 bits, and the scope of a local host. -/
  | v6 (groups : List UInt16) (scope : UInt32)
  deriving Repr, DecidableEq

/-- A host and a port on it. -/
structure SocketAddress where
  host : Host
  port : UInt16
  deriving Repr, DecidableEq

namespace SocketAddress

/-! ### Scanning

A scanner takes characters off the front of a text and gives what it read
and the rest. -/

/-- The longest run of digits, if it has at least one digit and spells a
number up to `limit`. -/
def numeral? (radix limit : Nat) (chars : List Char) : Option (List Char × Nat × List Char) :=
  let digits := chars.takeWhile fun c => (Text.digitValue? radix c).isSome
  match Text.scanDigits radix limit .tooLarge 0 digits with
  | .ok n => if digits = [] then none else some (digits, n, chars.drop digits.length)
  | .error _ => none

/-- A decimal number of up to three digits below 256, without leading
zeros. -/
def octet? (chars : List Char) : Option (UInt8 × List Char) := do
  let (digits, n, rest) ← numeral? 10 255 chars
  if digits.length ≤ 3 ∧ (digits.head? ≠ some '0' ∨ digits.length = 1) then
    some (UInt8.ofNat n, rest)
  else none

/-- Up to four hexadecimal digits. -/
def group? (chars : List Char) : Option (UInt16 × List Char) := do
  let (digits, n, rest) ← numeral? 16 0xFFFF chars
  if digits.length ≤ 4 then some (UInt16.ofNat n, rest) else none

/-- One given character. -/
def mark? (mark : Char) : List Char → Option (List Char)
  | c :: rest => if c = mark then some rest else none
  | [] => none

/-- Four decimal numbers with points between them. -/
def octets? (chars : List Char) : Option ((UInt8 × UInt8 × UInt8 × UInt8) × List Char) := do
  let (first, rest) ← octet? chars
  let (second, rest) ← octet? (← mark? '.' rest)
  let (third, rest) ← octet? (← mark? '.' rest)
  let (fourth, rest) ← octet? (← mark? '.' rest)
  some ((first, second, third, fourth), rest)

/-- Two octets as a group. -/
def pairGroup (high low : UInt8) : UInt16 := UInt16.ofNat (high.toNat * 256 + low.toNat)

/-- What was read of a list of groups. -/
structure GroupRun where
  groups : List UInt16
  /-- The last two groups were spelled as four decimal numbers. -/
  decimal : Bool
  rest : List Char

/-- Up to `slots` groups with colons between them. Four decimal numbers
take two of the slots and end the list. -/
def groupRun (slots : Nat) (leading : Bool) (chars : List Char) : GroupRun :=
  match slots with
  | 0 => ⟨[], false, chars⟩
  | slots + 1 =>
    match if leading then some chars else mark? ':' chars with
    | none => ⟨[], false, chars⟩
    | some start =>
      match if 0 < slots then octets? start else none with
      | some ((a, b, c, d), rest) => ⟨[pairGroup a b, pairGroup c d], true, rest⟩
      | none =>
        match group? start with
        | none => ⟨[], false, chars⟩
        | some (group, rest) =>
          let tail := groupRun slots false rest
          ⟨group :: tail.groups, tail.decimal, tail.rest⟩

/-- Eight groups, or fewer with two colons in place of the zero groups
left out. -/
def groups? (chars : List Char) : Option (List UInt16 × List Char) :=
  let front := groupRun 8 true chars
  if front.groups.length = 8 then some (front.groups, front.rest)
  else if front.decimal then none
  else do
    let rest ← mark? ':' front.rest
    let rest ← mark? ':' rest
    let back := groupRun (7 - front.groups.length) true rest
    let missing := 8 - front.groups.length - back.groups.length
    some (front.groups ++ List.replicate missing 0 ++ back.groups, back.rest)

/-- A scope behind a percent sign; zero if there is none. -/
def scope (chars : List Char) : UInt32 × List Char :=
  match mark? '%' chars with
  | none => (0, chars)
  | some digits =>
    match numeral? 10 (2 ^ 32 - 1) digits with
    | some (_, n, rest) => (UInt32.ofNat n, rest)
    | none => (0, chars)

/-- A host as it stands in a socket address. -/
def host? (chars : List Char) : Option (Host × List Char) :=
  match octets? chars with
  | some ((a, b, c, d), rest) => some (.v4 a b c d, rest)
  | none => do
    let (groups, rest) ← groups? (← mark? '[' chars)
    let (scope, rest) := scope rest
    some (.v6 groups scope, ← mark? ']' rest)

/-- A socket address that fills the whole text. -/
def parse? (text : String) : Option SocketAddress := do
  let (host, rest) ← host? text.toList
  let (_, port, rest) ← numeral? 10 0xFFFF (← mark? ':' rest)
  if rest = [] then some ⟨host, UInt16.ofNat port⟩ else none

/-! ### Printing -/

/-- Four octets as text. -/
def octetsText (first second third fourth : UInt8) : String :=
  s!"{first.toNat}.{second.toNat}.{third.toNat}.{fourth.toNat}"

/-- A group in lower-case hexadecimal digits. -/
def groupText (group : UInt16) : String := String.ofList (Nat.toDigits 16 group.toNat)

def groupsText (groups : List UInt16) : String := ":".intercalate (groups.map groupText)

/-- How many zeros a list starts with. -/
def zeroRun (groups : List UInt16) : Nat := (groups.takeWhile (· == 0)).length

/-- Start and length of the longest run of zeros; the first of several
that are equally long. -/
def longestZeros (groups : List UInt16) : Nat × Nat :=
  (List.range groups.length).foldl (fun (start, length) index =>
    let run := zeroRun (groups.drop index)
    if length < run then (index, run) else (start, length)) (0, 0)

/-- Groups with the longest run of zeros left out. -/
def shortGroupsText (groups : List UInt16) : String :=
  let (start, length) := longestZeros groups
  if 1 < length then
    groupsText (groups.take start) ++ "::" ++ groupsText (groups.drop (start + length))
  else groupsText groups

/-- The eight groups of a host; one that stands for four octets shows
them. -/
def v6Text (groups : List UInt16) : String :=
  match groups with
  | [0, 0, 0, 0, 0, 0xFFFF, high, low] =>
    "::ffff:" ++ octetsText (high >>> 8).toUInt8 high.toUInt8 (low >>> 8).toUInt8 low.toUInt8
  | groups => shortGroupsText groups

end SocketAddress

/-- A host as it stands in a socket address. -/
def Host.text : Host → String
  | .v4 first second third fourth => SocketAddress.octetsText first second third fourth
  | .v6 groups scope =>
    let zone := if scope = 0 then "" else s!"%{scope.toNat}"
    "[" ++ SocketAddress.v6Text groups ++ zone ++ "]"

/-- The address as operators see it. -/
def SocketAddress.text (address : SocketAddress) : String :=
  address.host.text ++ s!":{address.port.toNat}"

end SensorGateway
