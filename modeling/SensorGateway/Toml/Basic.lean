import SensorGateway.Power

/-!
# `SensorGateway.Toml.Basic`: the values of a TOML document

A document is a table. Its values are texts, integers, floating-point
numbers, truth values, dates and times, arrays and tables. A table lists
its keys in the order in which they were written.

Configuration reads a value as a record of named members
(`Toml.member?`): a table gives members by name, an array gives them by
position. Members a record does not know are of no interest.
-/

set_option autoImplicit false

namespace SensorGateway

/-- A value of a TOML document. -/
inductive Toml where
  | string (text : String)
  | integer (n : Int)
  /-- The bits of a 64-bit floating-point number. -/
  | float (bits : Nat)
  | boolean (b : Bool)
  /-- A date, a time or both, as written. -/
  | datetime (text : String)
  | array (items : List Toml)
  | table (entries : List (String × Toml))
  deriving Repr, BEq, Inhabited

namespace Toml

/-! ### Reading values

A value of the wrong kind or out of range has no reading. -/

def asString? : Toml → Option String
  | .string text => some text
  | _ => none

def asBool? : Toml → Option Bool
  | .boolean b => some b
  | _ => none

/-- An integer between two bounds. -/
def asInt? (low high : Int) : Toml → Option Int
  | .integer n => if low ≤ n ∧ n ≤ high then some n else none
  | _ => none

/-- A natural number below `2 ^ width`. Documents hold none above
`2 ^ 63 - 1`. -/
def asNat? (width : Nat) (value : Toml) : Option Nat :=
  (value.asInt? 0 (2 ^ width - 1)).map Int.toNat

def asUInt8? (value : Toml) : Option UInt8 := (value.asNat? 8).map UInt8.ofNat

def asList? {α : Type} (read : Toml → Option α) : Toml → Option (List α)
  | .array items => items.mapM read
  | _ => none

/-- One of several names: a text, or a table whose only key is the name
and whose value is empty. -/
def asLabel? : Toml → Option String
  | .string text => some text
  | .table [(label, .table [])] => some label
  | .table [(label, .array [])] => some label
  | _ => none

/-- The choice with a label. -/
def asChoice? {α : Type} (choices : List α) (label : α → String) (value : Toml) : Option α :=
  value.asLabel?.bind fun name => choices.find? fun choice => label choice == name

/-! ### Reading records -/

/-- A value that can be read as a record: a table, an array, or a date,
which has no members. -/
def isRecord : Toml → Bool
  | .table _ | .array _ | .datetime _ => true
  | _ => false

/-- The member of a record whose members are declared in the order
`names`. -/
def member? (names : List String) (value : Toml) (name : String) : Option Toml :=
  match value with
  | .table entries => entries.lookup name
  | .array items => items[names.idxOf name]?
  | _ => none

/-- A member that has to be there. -/
def required {α : Type} (read : Toml → Option α) (member : Option Toml) : Option α :=
  member.bind read

/-- A member that may be left out. -/
def optional {α : Type} (read : Toml → Option α) (fallback : α) : Option Toml → Option α
  | some value => read value
  | none => some fallback

end Toml

end SensorGateway
