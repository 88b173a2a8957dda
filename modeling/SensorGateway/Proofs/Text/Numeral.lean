import Mathlib.Data.Nat.Digits.Defs
import SensorGateway.Proofs.Outcome
import SensorGateway.Text.Numeral

/-!
# `SensorGateway.Proofs.Text.Numeral`: which number a numeral spells

The reader of numerals goes digit by digit and stops as soon as the number
leaves its range. What it accepts is said here without a range and without
an order of reading: `spelled?` is the number that a row of digits spells,
`natural?` and `integer?` are the numbers that whole texts spell.

* `unsignedNumeral_eq_ok_iff` and `signedNumeral_eq_ok_iff`: a numeral is
  accepted exactly when it spells a number in the range, and the number is
  the one it spells.
* `parseUnsignedOrHex_eq_ok_iff` and `parseSigned_eq_ok_iff`: the same for
  texts.
-/

set_option autoImplicit false

namespace SensorGateway.Text

/-! ### Numbers that texts spell -/

/-- The number that a row of digits spells in a radix, most significant
digit first. There is at least one digit, and nothing but digits. -/
def spelled? (radix : Nat) (chars : List Char) : Option Nat :=
  if chars = [] then none
  else (chars.mapM (digitValue? radix)).map fun digits => Nat.ofDigits radix digits.reverse

/-- A numeral without its plus sign. -/
def dropPlus : List Char → List Char
  | '+' :: digits => digits
  | digits => digits

/-- The natural number that a text spells in decimal or, behind `0x` or
`0X`, in hexadecimal digits, with or without a plus sign. -/
def natural? (text : String) : Option Nat :=
  match text.toList with
  | '0' :: 'x' :: numeral => spelled? 16 (dropPlus numeral)
  | '0' :: 'X' :: numeral => spelled? 16 (dropPlus numeral)
  | numeral => spelled? 10 (dropPlus numeral)

/-- The integer that a numeral spells, with or without a sign. -/
def signed? (radix : Nat) : List Char → Option Int
  | '-' :: digits => (spelled? radix digits).map fun n : Nat => -(n : Int)
  | numeral => (spelled? radix (dropPlus numeral)).map fun n : Nat => (n : Int)

/-- The integer that a text spells in decimal. -/
def integer? (text : String) : Option Int := signed? 10 text.toList

/-! ### Rows of digits -/

/-- A further digit in front weighs more than all that follow. -/
theorem ofDigits_reverse_cons (radix digit : Nat) (digits : List Nat) :
    Nat.ofDigits radix (digit :: digits).reverse =
      digit * radix ^ digits.length + Nat.ofDigits radix digits.reverse := by
  rw [List.reverse_cons, Nat.ofDigits_append, Nat.ofDigits_singleton, List.length_reverse,
    Nat.add_comm, Nat.mul_comm]

/-- Scanning goes through exactly when all characters are digits and the
number they make up on top of `acc` stays within the limit. A number that
exceeds the limit after some digits exceeds it at the end, because further
digits make it no smaller. -/
theorem scanDigits_eq_ok_iff {radix limit acc : Nat} (hradix : 0 < radix) (hacc : acc ≤ limit)
    (overflow : NumeralError) (chars : List Char) (n : Nat) :
    scanDigits radix limit overflow acc chars = .ok n ↔
      ∃ digits, chars.mapM (digitValue? radix) = some digits ∧
        n = acc * radix ^ digits.length + Nat.ofDigits radix digits.reverse ∧ n ≤ limit := by
  induction chars generalizing acc with
  | nil =>
    simp only [scanDigits, List.mapM_nil, Except.ok.injEq]
    constructor
    · rintro rfl
      exact ⟨[], rfl, by simp, hacc⟩
    · rintro ⟨digits, hdigits, hn, -⟩
      cases hdigits
      simpa using hn.symm
  | cons c rest ih =>
    rw [scanDigits, List.mapM_cons]
    cases hdigit : digitValue? radix c with
    | none => simp
    | some digit =>
      have hpeel : ∀ digits : List Nat,
          acc * radix ^ (digit :: digits).length + Nat.ofDigits radix (digit :: digits).reverse =
            (acc * radix + digit) * radix ^ digits.length + Nat.ofDigits radix digits.reverse := by
        intro digits
        rw [ofDigits_reverse_cons, List.length_cons, Nat.pow_succ, Nat.add_mul, Nat.mul_assoc,
          Nat.mul_comm radix, Nat.add_assoc]
      -- A number past the limit stays past it, whatever digits follow.
      by_cases hlimit : acc * radix + digit ≤ limit
      · simp only [if_pos hlimit]
        rw [ih hlimit]
        constructor
        · rintro ⟨digits, hdigits, hn, hle⟩
          exact ⟨digit :: digits, by simp [hdigits], by rw [hn, hpeel], hle⟩
        · rintro ⟨digits, hdigits, hn, hle⟩
          cases hmap : rest.mapM (digitValue? radix) with
          | none => simp [hmap] at hdigits
          | some tail =>
            have hcons : digit :: tail = digits := by simpa [hmap] using hdigits
            exact ⟨tail, rfl, by rw [hn, ← hcons, hpeel], hle⟩
      · simp only [if_neg hlimit, reduceCtorEq, false_iff]
        rintro ⟨digits, hdigits, hn, hle⟩
        cases hmap : rest.mapM (digitValue? radix) with
        | none => simp [hmap] at hdigits
        | some tail =>
          have hcons : digit :: tail = digits := by simpa [hmap] using hdigits
          have hgrow : acc * radix + digit ≤ (acc * radix + digit) * radix ^ tail.length :=
            Nat.le_mul_of_pos_right _ (Nat.pow_pos hradix)
          rw [← hcons, hpeel] at hn
          omega

/-- Scanning at least one character from zero on reads the number that the
characters spell. -/
theorem scanDigits_zero_eq_ok_iff {radix : Nat} (hradix : 0 < radix) (limit : Nat)
    (overflow : NumeralError) {chars : List Char} (hne : chars ≠ []) (n : Nat) :
    scanDigits radix limit overflow 0 chars = .ok n ↔ spelled? radix chars = some n ∧ n ≤ limit := by
  rw [scanDigits_eq_ok_iff hradix (Nat.zero_le limit), spelled?, if_neg hne,
    Option.map_eq_some_iff]
  constructor
  · rintro ⟨digits, hdigits, hn, hle⟩
    rw [Nat.zero_mul, Nat.zero_add] at hn
    exact ⟨⟨digits, hdigits, hn.symm⟩, hle⟩
  · rintro ⟨⟨digits, hdigits, hn⟩, hle⟩
    exact ⟨digits, hdigits, by rw [Nat.zero_mul, Nat.zero_add, hn], hle⟩

/-! ### Numerals -/

/-- An unsigned numeral is accepted exactly when it spells a number up to
the limit. -/
theorem unsignedNumeral_eq_ok_iff {radix : Nat} (hradix : 0 < radix) (limit : Nat)
    (chars : List Char) (n : Nat) :
    unsignedNumeral radix limit chars = .ok n ↔
      spelled? radix (dropPlus chars) = some n ∧ n ≤ limit := by
  unfold unsignedNumeral
  split
  · simp [dropPlus, spelled?]
  · simp [dropPlus, spelled?]
  · next digits hdigits =>
    have hne : digits ≠ [] := fun hnil => hdigits (by rw [hnil])
    exact scanDigits_zero_eq_ok_iff hradix limit _ hne n
  · next hne hplus hsign =>
    have hdrop : dropPlus chars = chars := by
      unfold dropPlus
      split
      · next digits => exact absurd rfl (hsign digits)
      · rfl
    rw [hdrop]
    exact scanDigits_zero_eq_ok_iff hradix limit _ hne n

/-- Scanning with a sign put on the result. -/
theorem scanDigits_signed_eq_ok_iff {radix : Nat} (hradix : 0 < radix) (limit : Nat)
    (overflow : NumeralError) {chars : List Char} (hne : chars ≠ []) (sign : Nat → Int) (n : Int) :
    (do let m ← scanDigits radix limit overflow 0 chars; return sign m) = Except.ok n ↔
      ∃ m, spelled? radix chars = some m ∧ sign m = n ∧ m ≤ limit := by
  rw [Except.bind_eq_ok_iff]
  constructor
  · rintro ⟨m, hm, hn⟩
    obtain ⟨hspelled, hle⟩ := (scanDigits_zero_eq_ok_iff hradix _ _ hne m).mp hm
    exact ⟨m, hspelled, Except.ok.inj hn, hle⟩
  · rintro ⟨m, hspelled, rfl, hle⟩
    exact ⟨m, (scanDigits_zero_eq_ok_iff hradix _ _ hne m).mpr ⟨hspelled, hle⟩, rfl⟩

/-- A signed numeral is accepted exactly when it spells an integer of the
range. -/
theorem signedNumeral_eq_ok_iff {radix : Nat} (hradix : 0 < radix) (width : Nat)
    (chars : List Char) (n : Int) :
    signedNumeral radix width chars = .ok n ↔
      signed? radix chars = some n ∧ -2 ^ (width - 1) ≤ n ∧ n < 2 ^ (width - 1) := by
  have hpos : 0 < 2 ^ (width - 1) := Nat.two_pow_pos (width - 1)
  have hcast : ((2 ^ (width - 1) : Nat) : Int) = 2 ^ (width - 1) := by push_cast; rfl
  -- The limits differ by one: there is one more number below zero than above.
  have hplain : ∀ digits : List Char, digits ≠ [] →
      ((do let m ← scanDigits radix (2 ^ (width - 1) - 1) .tooLarge 0 digits; return (m : Int)) =
          Except.ok n ↔
        (spelled? radix digits).map (fun m : Nat => (m : Int)) = some n ∧
          -2 ^ (width - 1) ≤ n ∧ n < 2 ^ (width - 1)) := by
    intro digits hne
    rw [scanDigits_signed_eq_ok_iff hradix _ _ hne, Option.map_eq_some_iff]
    constructor
    · rintro ⟨m, hspelled, hn, hle⟩
      exact ⟨⟨m, hspelled, hn⟩, by omega, by omega⟩
    · rintro ⟨⟨m, hspelled, hn⟩, -, hlt⟩
      exact ⟨m, hspelled, hn, by omega⟩
  have hminus : ∀ digits : List Char, digits ≠ [] →
      ((do let m ← scanDigits radix (2 ^ (width - 1)) .tooSmall 0 digits; return -(m : Int)) =
          Except.ok n ↔
        (spelled? radix digits).map (fun m : Nat => -(m : Int)) = some n ∧
          -2 ^ (width - 1) ≤ n ∧ n < 2 ^ (width - 1)) := by
    intro digits hne
    rw [scanDigits_signed_eq_ok_iff hradix _ _ hne, Option.map_eq_some_iff]
    constructor
    · rintro ⟨m, hspelled, hn, hle⟩
      exact ⟨⟨m, hspelled, hn⟩, by omega, by omega⟩
    · rintro ⟨⟨m, hspelled, hn⟩, hge, -⟩
      exact ⟨m, hspelled, hn, by omega⟩
  unfold signedNumeral
  split
  · simp [signed?, dropPlus, spelled?]
  · simp [signed?, dropPlus, spelled?]
  · simp [signed?, spelled?]
  · next digits hdigits =>
    exact hplain digits fun hnil => hdigits (by rw [hnil])
  · next digits hdigits =>
    exact hminus digits fun hnil => hdigits (by rw [hnil])
  · next hne hplus hminus' hsign hsign' =>
    -- Neither sign stands in front, so nothing is dropped.
    have hshape : signed? radix chars = (spelled? radix chars).map fun m : Nat => (m : Int) := by
      unfold signed?
      split
      · next digits => exact absurd rfl (hsign' digits)
      · rw [dropPlus]
        intro digits h
        exact hsign digits h
    rw [hshape]
    exact hplain chars hne

/-! ### Texts -/

/-- An unsigned text is accepted exactly when it spells, in decimal or
hexadecimal, a number of the width. -/
theorem parseUnsignedOrHex_eq_ok_iff (width : Nat) (text : String) (n : Nat) :
    parseUnsignedOrHex width text = .ok n ↔ natural? text = some n ∧ n < 2 ^ width := by
  have hpos := Nat.two_pow_pos width
  have hlt : n ≤ 2 ^ width - 1 ↔ n < 2 ^ width := by omega
  unfold parseUnsignedOrHex natural?
  split <;> simp only [*, unsignedNumeral_eq_ok_iff (show 0 < 16 by decide),
    unsignedNumeral_eq_ok_iff (show 0 < 10 by decide)]

/-- A signed text is accepted exactly when it spells an integer of the
width. -/
theorem parseSigned_eq_ok_iff (width : Nat) (text : String) (n : Int) :
    parseSigned width text = .ok n ↔
      integer? text = some n ∧ -2 ^ (width - 1) ≤ n ∧ n < 2 ^ (width - 1) :=
  signedNumeral_eq_ok_iff (by decide) width text.toList n

end SensorGateway.Text
