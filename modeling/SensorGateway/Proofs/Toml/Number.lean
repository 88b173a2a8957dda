import SensorGateway.Proofs.Text.Decimal
import SensorGateway.Proofs.Toml.Text
import SensorGateway.Toml.Reader

/-!
# `SensorGateway.Proofs.Toml.Number`: integers written and read back

A written integer starts like many things: a date starts with four digits, a
floating-point number with an integer, a radix with a zero. The reader tries all of
them before it reads an integer, and `scalarValue?_toString` says that none of them
gets past the end of the digits.

What stands behind a written integer decides this (`Ends`): it is no digit, and no mark
that goes on with a number, a date or a time.
-/

set_option autoImplicit false

namespace SensorGateway.Toml

variable {rest : List Char}

theorem Ends.not_isDigit (h : Ends rest) : ∀ c ∈ rest.head?, c.isDigit = false := by
  obtain ⟨c, tail, rfl, hc⟩ := h
  rintro d ⟨⟩
  rcases hc with rfl | rfl | rfl <;> decide

theorem ne_of_isDigit {c mark : Char} (h : c.isDigit = true) (hmark : mark.isDigit = false) :
    c ≠ mark := by
  rintro rfl
  rw [h] at hmark
  cases hmark

/-! ### Digits -/

theorem digitRun_cons {c : Char} (h : c ≠ '_') (isDigit : Char → Bool) (rest : List Char) :
    digitRun isDigit (c :: rest) =
      if isDigit c then prepend c (digitRun isDigit rest) else some ([], c :: rest) := by
  rw [digitRun, if_neg h]
  intro _ _ heq
  exact absurd heq h

/-- Digits are read up to what follows them. -/
theorem digitRun_append {digits : List Char} (h : ∀ c ∈ digits, c.isDigit = true)
    (hrest : Ends rest) : digitRun Char.isDigit (digits ++ rest) = some (digits, rest) := by
  induction digits with
  | nil =>
    have hhead : ∀ c ∈ rest.head?, c ≠ '_' := hrest.head_ne (by decide)
    have hdigit := hrest.not_isDigit
    obtain ⟨c, tail, rfl, -⟩ := hrest
    show digitRun Char.isDigit (c :: tail) = _
    rw [digitRun_cons (hhead c rfl), hdigit c rfl]
    rfl
  | cons c digits ih =>
    have hc := h c List.mem_cons_self
    rw [List.cons_append, digitRun_cons (ne_of_isDigit hc (by decide)), if_pos hc,
      ih fun d hd => h d (List.mem_cons_of_mem c hd)]
    rfl

/-- No number but zero is written with a zero in front. -/
theorem exists_toDigits_eq_cons {n : Nat} (h : 0 < n) :
    ∃ c tail, Nat.toDigits 10 n = c :: tail ∧ c ≠ '0' := by
  -- The digits of a number are those of its tenth and one more.
  induction n using Nat.strongRecOn with
  | ind n ih =>
    by_cases hlt : n < 10
    · have hzero : ∀ m < 10, 0 < m → Nat.digitChar m ≠ '0' := by decide
      exact ⟨Nat.digitChar n, [], Nat.toDigits_of_lt_base hlt, hzero n hlt h⟩
    · obtain ⟨c, tail, heq, hc⟩ := ih (n / 10) (by omega) (by omega)
      refine ⟨c, tail ++ [Nat.digitChar (n % 10)], ?_, hc⟩
      rw [Nat.toDigits_of_base_le (by decide) (by omega), heq]
      rfl

/-! ### Decimal integers -/

/-- Behind its sign an amount is read to the end of its digits. -/
theorem decimal?_of_sign {chars signed : List Char} (n : Nat)
    (h : sign chars = (signed, Nat.toDigits 10 n ++ rest)) (hrest : Ends rest) :
    decimal? chars = some (signed ++ Nat.toDigits 10 n, rest) := by
  unfold decimal?
  rw [h]
  -- A zero in front ends the number at once, and only zero has one.
  rcases Nat.eq_zero_or_pos n with rfl | hpos
  · rfl
  · have hdigits : ∀ c ∈ Nat.toDigits 10 n, c.isDigit = true :=
      fun _ => Text.isDigit_of_mem_toDigits
    obtain ⟨c, tail, heq, hc⟩ := exists_toDigits_eq_cons hpos
    rw [heq] at hdigits ⊢
    dsimp only [List.cons_append]
    split
    · next hzero => exact absurd (List.cons.inj hzero).1 hc
    · rw [digits?, if_pos (hdigits c List.mem_cons_self),
        digitRun_append (fun d hd => hdigits d (List.mem_cons_of_mem c hd)) hrest]
      rfl

/-- An amount starts with a digit, and only that of zero with a zero. -/
theorem toDigits_cases (n : Nat) :
    ∃ c tail, Nat.toDigits 10 n = c :: tail ∧ c.isDigit = true ∧ (c = '0' → tail = []) := by
  rcases Nat.eq_zero_or_pos n with rfl | hpos
  · exact ⟨'0', [], rfl, rfl, fun _ => rfl⟩
  · obtain ⟨c, tail, heq, hc⟩ := exists_toDigits_eq_cons hpos
    have hdigit : c.isDigit = true :=
      Text.isDigit_of_mem_toDigits (n := n) (by rw [heq]; exact List.mem_cons_self)
    exact ⟨c, tail, heq, hdigit, fun h => absurd h hc⟩

theorem sign_toDigits (n : Nat) (rest : List Char) :
    sign (Nat.toDigits 10 n ++ rest) = ([], Nat.toDigits 10 n ++ rest) := by
  obtain ⟨c, tail, heq, hc, -⟩ := toDigits_cases n
  rw [heq, List.cons_append, sign]
  · intro _ h
    exact absurd (List.cons.inj h).1 (ne_of_isDigit hc (by decide))
  · intro _ h
    exact absurd (List.cons.inj h).1 (ne_of_isDigit hc (by decide))

/-- A written integer is a sign and the digits of its amount. -/
theorem exists_sign_toString (n : Int) (rest : List Char) :
    ∃ signed, (toString n).toList = signed ++ Nat.toDigits 10 n.natAbs ∧
      sign ((toString n).toList ++ rest) = (signed, Nat.toDigits 10 n.natAbs ++ rest) := by
  rw [Text.toList_toString_int]
  split
  · exact ⟨['-'], rfl, rfl⟩
  · exact ⟨[], rfl, sign_toDigits n.natAbs rest⟩

/-! ### What an integer is not -/

/-- A row of digits ends in front of every mark of a date or a time. -/
theorem mark?_of_fixedNumber? {digits : List Char} (h : ∀ c ∈ digits, c.isDigit = true)
    (hrest : Ends rest) {count low high : Nat} {read : Nat × List Char}
    (hread : fixedNumber? count low high (digits ++ rest) = some read) {mark : Char}
    (hmark : mark = '-' ∨ mark = ':') : mark? mark read.2 = none := by
  have hdigit : mark.isDigit = false := by
    rcases hmark with rfl | rfl <;> decide
  have hhead : ∀ c ∈ rest.head?, c ≠ mark := by
    refine hrest.head_ne ?_
    rcases hmark with rfl | rfl <;> decide
  unfold fixedNumber? at hread
  dsimp only at hread
  split at hread
  · next htaken =>
    obtain ⟨hcount, hall, -⟩ := htaken
    obtain rfl := Option.some.inj hread
    -- What follows the digits is none, so it is not among those taken.
    have hle : count ≤ digits.length := by
      rw [← Nat.not_lt]
      intro hlt
      have hnot := hrest.not_isDigit
      obtain ⟨c, tail, rfl, -⟩ := hrest
      have hmem : c ∈ (digits ++ c :: tail).take count := by
        obtain ⟨more, rfl⟩ := Nat.exists_eq_add_of_lt hlt
        rw [List.take_append, Nat.add_assoc, Nat.add_sub_cancel_left]
        simp
      have hc := hnot c rfl
      rw [List.all_eq_true.mp hall c hmem] at hc
      cases hc
    show mark? mark ((digits ++ rest).drop count) = none
    rw [List.drop_append_of_le_length hle]
    cases hleft : digits.drop count with
    | nil =>
      obtain ⟨c, tail, rfl, -⟩ := hrest
      exact if_neg (hhead c rfl)
    | cons c left =>
      have hc : c.isDigit = true := h c (List.mem_of_mem_drop (hleft ▸ List.mem_cons_self))
      exact if_neg (ne_of_isDigit hc hdigit)
  · cases hread

/-- Dates and times start with a number of a fixed length and a mark. -/
theorem datetime?_eq_none {chars : List Char}
    (h : ∀ count low high read, fixedNumber? (count + 1) low high chars = some read →
      mark? '-' read.2 = none ∧ mark? ':' read.2 = none) : datetime? chars = none := by
  have hdate : date? chars = none := by
    unfold date?
    cases hyear : fixedNumber? 4 0 9999 chars with
    | none => rfl
    | some read =>
      show (mark? '-' read.2).bind _ = none
      rw [(h 3 0 9999 read hyear).1]
      rfl
  have hhours : hoursMinutes? chars = none := by
    unfold hoursMinutes?
    cases hhour : fixedNumber? 2 0 23 chars with
    | none => rfl
    | some read =>
      show (mark? ':' read.2).bind _ = none
      rw [(h 1 0 23 read hhour).2]
      rfl
  have htime : time? chars = none := by
    rw [time?, hhours]
    rfl
  rw [datetime?, skipDatetime?, hdate]
  show (time? chars).map _ = none
  rw [htime]
  rfl

theorem fixedNumber?_cons {c : Char} (h : c.isDigit = false) (count low high : Nat)
    (rest : List Char) : fixedNumber? (count + 1) low high (c :: rest) = none := by
  refine if_neg ?_
  rw [List.take_succ_cons, List.all_cons, h]
  simp

theorem datetime?_toString (n : Int) (hrest : Ends rest) :
    datetime? ((toString n).toList ++ rest) = none := by
  rw [Text.toList_toString_int]
  refine datetime?_eq_none fun count low high read hread => ?_
  split at hread
  · -- No date and no time starts with a sign.
    rw [List.cons_append, fixedNumber?_cons (by decide)] at hread
    cases hread
  · have hdigits : ∀ c ∈ Nat.toDigits 10 n.natAbs, c.isDigit = true :=
      fun _ => Text.isDigit_of_mem_toDigits
    exact ⟨mark?_of_fixedNumber? hdigits hrest hread (.inl rfl),
      mark?_of_fixedNumber? hdigits hrest hread (.inr rfl)⟩

/-- Without a fraction or an exponent an integer stays one. -/
theorem fractionAndExponent?_eq_none (hrest : Ends rest) : fractionAndExponent? rest = none := by
  obtain ⟨c, tail, rfl, rfl | rfl | rfl⟩ := hrest <;> rfl

/-! ### Integers -/

/-- A written integer starts with a minus sign or a digit, and only zero with a zero. -/
theorem toString_cases (n : Int) :
    ∃ c tail, (toString n).toList = c :: tail ∧ (c.isDigit = true ∨ c = '-') ∧
      (c = '0' → tail = []) := by
  rw [Text.toList_toString_int]
  split
  · exact ⟨'-', _, rfl, .inr rfl, fun h => absurd h (by decide)⟩
  · obtain ⟨c, tail, heq, hdigit, hzero⟩ := toDigits_cases n.natAbs
    exact ⟨c, tail, heq, .inl hdigit, hzero⟩

/-- Texts start with a mark of their own. -/
theorem text?_toString (n : Int) (rest : List Char) :
    text? ((toString n).toList ++ rest) = none := by
  obtain ⟨c, tail, heq, hc, -⟩ := toString_cases n
  have hmark : c ≠ '"' ∧ c ≠ '\'' := by
    rcases hc with hdigit | rfl
    · exact ⟨ne_of_isDigit hdigit (by decide), ne_of_isDigit hdigit (by decide)⟩
    · decide
  rw [heq, List.cons_append]
  unfold text?
  split
  · next h => exact absurd (List.cons.inj h).1 hmark.1
  · next h => exact absurd (List.cons.inj h).1 hmark.1
  · next h => exact absurd (List.cons.inj h).1 hmark.2
  · next h => exact absurd (List.cons.inj h).1 hmark.2
  · rfl

/-- Infinities and NaNs start with letters. -/
theorem namedFloat?_toString (n : Int) (rest : List Char) :
    namedFloat? ((toString n).toList ++ rest) = none := by
  obtain ⟨signed, -, hsign⟩ := exists_sign_toString n rest
  obtain ⟨c, tail, heq, hdigit, -⟩ := toDigits_cases n.natAbs
  rw [namedFloat?, hsign, heq]
  dsimp only [List.cons_append]
  split
  · next h => exact absurd (List.cons.inj h).1 (ne_of_isDigit hdigit (by decide))
  · next h => exact absurd (List.cons.inj h).1 (ne_of_isDigit hdigit (by decide))
  · rfl

theorem decimal?_toString (n : Int) (hrest : Ends rest) :
    decimal? ((toString n).toList ++ rest) = some ((toString n).toList, rest) := by
  obtain ⟨signed, hchars, hsign⟩ := exists_sign_toString n rest
  rw [decimal?_of_sign n.natAbs hsign hrest, hchars]

theorem float?_toString (n : Int) (hrest : Ends rest) :
    float? ((toString n).toList ++ rest) = none := by
  rw [float?, decimal?_toString n hrest]
  show (fractionAndExponent? rest).bind _ = none
  rw [fractionAndExponent?_eq_none hrest]
  rfl

/-- An integer of a document. -/
def IsLong (n : Int) : Prop := -2 ^ 63 ≤ n ∧ n < 2 ^ 63

/-- No mark of a radix follows a zero that is a number of its own. -/
theorem integer?_toString {n : Int} (hn : IsLong n) (hrest : Ends rest) :
    integer? ((toString n).toList ++ rest) = some (n, rest) := by
  have hread : Text.signedNumeral 10 64 (toString n).toList = .ok n :=
    (Text.parseSigned_eq_ok_iff 64 (toString n) n).mpr ⟨Text.integer?_toString n, hn⟩
  have hradix : ∀ mark tail, mark ≠ '\n' ∧ mark ≠ ',' ∧ mark ≠ ']' →
      (toString n).toList ++ rest ≠ '0' :: mark :: tail := by
    intro mark tail hmark heq
    obtain ⟨c, digits, hchars, -, hzero⟩ := toString_cases n
    rw [hchars, List.cons_append] at heq
    rw [hzero (List.cons.inj heq).1] at heq
    have hhead : rest.head? = some mark := by
      rw [show rest = mark :: tail from (List.cons.inj heq).2]
      rfl
    exact hrest.head_ne hmark mark hhead rfl
  unfold integer?
  split
  · next h => exact absurd h (hradix 'x' _ (by decide))
  · next h => exact absurd h (hradix 'o' _ (by decide))
  · next h => exact absurd h (hradix 'b' _ (by decide))
  · rw [decimal?_toString n hrest]
    show (Text.signedNumeral 10 64 (toString n).toList).toOption.bind _ = _
    rw [hread]
    rfl

/-- An integer that is written down is read as this integer, and as nothing else. -/
theorem scalarValue?_toString {n : Int} (hn : IsLong n) (hrest : Ends rest) :
    scalarValue? ((toString n).toList ++ rest) = some (.integer n, rest) := by
  have hletter : ∀ letter tail, letter.isDigit = false → letter ≠ '-' →
      (toString n).toList ++ rest ≠ letter :: tail := by
    intro letter tail hdigit hminus heq
    obtain ⟨c, digits, hchars, hc, -⟩ := toString_cases n
    rw [hchars, List.cons_append] at heq
    obtain rfl := (List.cons.inj heq).1
    rcases hc with hc | hc
    · exact ne_of_isDigit hc hdigit rfl
    · exact hminus hc
  unfold scalarValue?
  split
  · next h => exact absurd h (hletter 't' _ (by decide) (by decide))
  · next h => exact absurd h (hletter 'f' _ (by decide) (by decide))
  · rw [text?_toString, datetime?_toString n hrest, float?_toString n hrest, namedFloat?_toString,
      integer?_toString hn hrest]
    rfl

end SensorGateway.Toml
