import SensorGateway.Power

/-!
# `SensorGateway.Floating.Format`: binary floating-point numbers as bits

A binary format has a sign bit, an exponent field and a fraction field,
most significant first. `Datum` is what a bit pattern means: a number
`± significand · 2 ^ exponent`, an infinity, or no number.
`Format.nearest` goes the other way and rounds a quotient of naturals to
the pattern nearest to it, a tie to the even one.
-/

set_option autoImplicit false

namespace SensorGateway.Floating

/-- A binary interchange format. -/
structure Format where
  fractionBits : Nat
  exponentBits : Nat
  deriving Repr, DecidableEq

/-- The 32-bit format. -/
def single : Format := ⟨23, 8⟩

/-- The 64-bit format. -/
def double : Format := ⟨52, 11⟩

/-- What a bit pattern means. -/
inductive Datum where
  | nan
  | infinite (negative : Bool)
  | finite (negative : Bool) (significand : Nat) (exponent : Int)
  deriving Repr, DecidableEq

namespace Format

/-- The exponent of the smallest positive number. -/
def minExponent (format : Format) : Int :=
  2 - 2 ^ (format.exponentBits - 1) - format.fractionBits

/-- The pattern of positive infinity: all exponent bits set, no fraction
bit. -/
def infinity (format : Format) : Nat :=
  (2 ^ format.exponentBits - 1) * 2 ^ format.fractionBits

/-- The pattern of the quiet NaN that a text denotes. -/
def quietNaN (format : Format) : Nat :=
  format.infinity + 2 ^ (format.fractionBits - 1)

/-- The weight of the sign bit. -/
def signWeight (format : Format) : Nat := 2 ^ (format.exponentBits + format.fractionBits)

/-- A magnitude with its sign. -/
def withSign (format : Format) (negative : Bool) (magnitude : Nat) : Nat :=
  if negative then format.signWeight + magnitude else magnitude

/-- What a bit pattern means. -/
def datum (format : Format) (bits : Nat) : Datum :=
  let negative := bits / format.signWeight % 2 == 1
  let field := bits / 2 ^ format.fractionBits % 2 ^ format.exponentBits
  let fraction := bits % 2 ^ format.fractionBits
  if field = 2 ^ format.exponentBits - 1 then
    if fraction = 0 then .infinite negative else .nan
  else if field = 0 then
    .finite negative fraction format.minExponent
  else
    .finite negative (fraction + 2 ^ format.fractionBits) (format.minExponent + (field - 1 : Nat))

/-- The pattern is no number. -/
def isNaN (format : Format) (bits : Nat) : Bool := format.datum bits == .nan

/-! ### Rounding -/

/-- The quotient `num / den` rounded to a natural, a tie to the even
one. -/
def roundHalfEven (num den : Nat) : Nat :=
  let quotient := num / den
  let rest := num % den
  if den < 2 * rest ∨ (2 * rest = den ∧ quotient % 2 = 1) then quotient + 1 else quotient

/-- `num / den` divided by `2 ^ exponent`, as numerator and denominator. -/
def scaled (num den : Nat) (exponent : Int) : Nat × Nat :=
  if 0 ≤ exponent then (num, den * 2 ^ exponent.toNat) else (num * 2 ^ (-exponent).toNat, den)

/-- The exponent at which `num / den` has a significand of full width, or
the smallest exponent if there is none. -/
def exponentFor (format : Format) (num den : Nat) : Int :=
  let guess := max format.minExponent
    ((Nat.log2 num : Int) - Nat.log2 den - 1 - format.fractionBits)
  let (n, d) := scaled num den guess
  if 2 ^ (format.fractionBits + 1) ≤ n / d then guess + 1 else guess

/-- The pattern of the positive number nearest to `num / den`. A
significand that rounds up to the next power of two carries into the
exponent field, and what exceeds the largest finite number is
infinite. -/
def nearest (format : Format) (num den : Nat) : Nat :=
  if num = 0 then 0
  else
    let exponent := format.exponentFor num den
    let (n, d) := scaled num den exponent
    min format.infinity
      ((exponent - format.minExponent).toNat * 2 ^ format.fractionBits + roundHalfEven n d)

/-- The pattern of the positive number nearest to `digits · 10 ^ exponent`.
Magnitudes far outside the format are settled without computing the
power. -/
def nearestDecimal (format : Format) (digits : Nat) (exponent : Int) : Nat :=
  let bound : Int := 2 ^ format.exponentBits + format.fractionBits
  let magnitude : Int := (Nat.toDigits 10 digits).length + exponent
  if digits = 0 ∨ magnitude < -bound then 0
  else if bound < magnitude then format.infinity
  else if 0 ≤ exponent then format.nearest (digits * 10 ^ exponent.toNat) 1
  else format.nearest digits (10 ^ (-exponent).toNat)

/-- The pattern nearest to an integer. -/
def ofInt (format : Format) (n : Int) : Nat :=
  format.withSign (n < 0) (format.nearest n.natAbs 1)

/-- The pattern in another format of the number nearest to that of
`bits`; NaN becomes the quiet NaN. -/
def convert (source target : Format) (bits : Nat) : Nat :=
  match source.datum bits with
  | .nan => target.quietNaN
  | .infinite negative => target.withSign negative target.infinity
  | .finite negative significand exponent =>
    let (n, d) := scaled significand 1 (-exponent)
    target.withSign negative (target.nearest n d)

end Format

end SensorGateway.Floating
