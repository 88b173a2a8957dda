/-!
# `SensorGateway.Text.Duration`: spans of time as text

Time spans are whole milliseconds. Below one second they print in
milliseconds, from there on in seconds with the fraction's trailing
zeros dropped. The empty span prints in the smallest unit.
-/

set_option autoImplicit false

namespace SensorGateway.Text

/-- The three digits of a number below a thousand, without trailing
zeros. -/
def thousandths (n : Nat) : String :=
  let digits := [n / 100, n / 10 % 10, n % 10].map Nat.digitChar
  String.ofList (digits.reverse.dropWhile (· == '0')).reverse

/-- A span of time in its largest fitting unit. -/
def duration (milliseconds : Nat) : String :=
  if milliseconds = 0 then "0ns"
  else if milliseconds < 1000 then s!"{milliseconds}ms"
  else
    let seconds := milliseconds / 1000
    match milliseconds % 1000 with
    | 0 => s!"{seconds}s"
    | rest => s!"{seconds}.{thousandths rest}s"

end SensorGateway.Text
