import SensorGateway.Floating.Format

/-!
# `SensorGateway.Floating.Shortest`: the fewest digits that read back

A finite number owns an interval of reals that round to it, with its
ends when the significand is even. The shortest decimal of the number is
the point of that interval on the coarsest decimal grid that has one; if
both of the number's neighbours on that grid lie in the interval, the
nearer one is taken, and `Tie` says which when they are equally near.
-/

set_option autoImplicit false

namespace SensorGateway.Floating

/-- What happens to a number that lies halfway between two decimals. -/
inductive Tie where
  | up
  | toEven
  deriving Repr, DecidableEq

/-- A decimal `digits · 10 ^ exponent`. -/
structure Decimal where
  digits : Nat
  exponent : Int
  deriving Repr, DecidableEq

/-- A positive number and the interval of reals that round to it, as
numerators over one denominator. -/
structure Interval where
  low : Nat
  value : Nat
  high : Nat
  denominator : Nat
  closed : Bool
  deriving Repr, DecidableEq

/-- The interval of `significand · 2 ^ exponent`. Below a power of two the
next number is only half as far away, unless that power is the smallest
normal number. -/
def Format.interval (format : Format) (significand : Nat) (exponent : Int) : Interval :=
  let below :=
    if significand = 2 ^ format.fractionBits ∧ format.minExponent < exponent then 1 else 2
  let (unit, denominator) := Format.scaled 1 4 (-exponent)
  { low := (4 * significand - below) * unit
    value := 4 * significand * unit
    high := (4 * significand + 2) * unit
    denominator := denominator
    closed := significand % 2 == 0 }

/-- The point `digits · num / den` lies in the interval. -/
def Interval.holds (interval : Interval) (digits num den : Nat) : Bool :=
  let point := digits * num * interval.denominator
  let low := interval.low * den
  let high := interval.high * den
  if interval.closed then low ≤ point && point ≤ high else low < point && point < high

/-- The nearer of a number's two neighbours on a grid of step `num / den`
that lie in its interval. -/
def Interval.onGrid? (interval : Interval) (tie : Tie) (num den : Nat) : Option Nat :=
  let scale := num * interval.denominator
  let below := interval.value * den / scale
  let rest := interval.value * den % scale
  match interval.holds below num den, interval.holds (below + 1) num den with
  | false, false => none
  | true, false => some below
  | false, true => some (below + 1)
  | true, true =>
    if scale < 2 * rest then some (below + 1)
    else if 2 * rest < scale then some below
    else match tie with
      | .up => some (below + 1)
      | .toEven => some (if below % 2 = 0 then below else below + 1)

/-- Tries the grids of step `10 ^ exponent`, `10 ^ (exponent - 1)`, … -/
def Interval.search (interval : Interval) (tie : Tie) : Nat → Int → Decimal
  | 0, exponent => ⟨0, exponent⟩
  | tries + 1, exponent =>
    let (num, den) :=
      if 0 ≤ exponent then (10 ^ exponent.toNat, 1) else (1, 10 ^ (-exponent).toNat)
    match interval.onGrid? tie num den with
    | some digits => ⟨digits, exponent⟩
    | none => interval.search tie tries (exponent - 1)

/-- The shortest decimal of a positive number. The search starts at a
grid that is coarser than the number; a grid no coarser than half the
interval always has a point in it, so it ends within one try for every
bit of the significand. -/
def Format.shortest (format : Format) (tie : Tie) (significand : Nat) (exponent : Int) : Decimal :=
  let interval := format.interval significand exponent
  let start : Int :=
    (Nat.toDigits 10 interval.value).length - (Nat.toDigits 10 interval.denominator).length + 1
  interval.search tie (format.fractionBits + 8) start

end SensorGateway.Floating
