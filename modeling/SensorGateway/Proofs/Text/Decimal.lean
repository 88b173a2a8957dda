import SensorGateway.Command.Element
import SensorGateway.Proofs.Text.Numeral

/-!
# `SensorGateway.Proofs.Text.Decimal`: integers written and read back

Integers are written in decimal without blanks, and several of them with
commas between them. Whoever reads such a text takes it apart at the commas,
cuts blanks off and reads digits.

* `natural?_toString` and `integer?_toString`: an integer that is written
  down spells itself.
* `items_intercalate`: the items of a text that was put together of plain
  ones are these. Written integers are plain.
-/

set_option autoImplicit false

namespace SensorGateway.Text

/-! ### Digits -/

theorem isDigit_iff (c : Char) : c.isDigit = true ↔ '0' ≤ c ∧ c ≤ '9' := by
  simp only [Char.isDigit, Bool.and_eq_true, decide_eq_true_eq]
  rfl

/-- The value of a decimal digit. -/
theorem digitValue?_of_isDigit {c : Char} (h : c.isDigit = true) :
    digitValue? 10 c = some (c.toNat - '0'.toNat) := by
  have hrange := (isDigit_iff c).mp h
  have hnine : c.toNat ≤ 57 := hrange.2
  have hlt : c.toNat - '0'.toNat < 10 := by
    have hzero : '0'.toNat = 48 := rfl
    omega
  simp only [digitValue?, if_pos hrange, Option.filter_some, hlt, decide_true, if_true]

theorem mapM_digitValue? {chars : List Char} (h : ∀ c ∈ chars, c.isDigit = true) :
    chars.mapM (digitValue? 10) = some (chars.map fun c => c.toNat - '0'.toNat) :=
  List.mapM_eq_pure fun c hmem => digitValue?_of_isDigit (h c hmem)

/-- Digits spell the number that they are the digits of. -/
theorem spelled?_of_isDigit {chars : List Char} (hne : chars ≠ [])
    (h : ∀ c ∈ chars, c.isDigit = true) :
    spelled? 10 chars = some (Nat.ofDigitChars 10 chars 0) := by
  rw [spelled?, if_neg hne, mapM_digitValue? h, Option.map_some, Nat.ofDigits_eq_foldr,
    List.foldr_reverse, List.foldl_map, Nat.ofDigitChars_eq_foldl]
  congr 1
  refine List.foldl_ext _ _ _ ?_
  intro n c _
  exact Nat.add_comm _ _

/-! ### Written integers -/

theorem isDigit_of_mem_toDigits {n : Nat} {c : Char} (h : c ∈ Nat.toDigits 10 n) :
    c.isDigit = true :=
  Nat.isDigit_of_mem_toDigits (by decide) (by decide) h

theorem spelled?_toDigits (n : Nat) : spelled? 10 (Nat.toDigits 10 n) = some n := by
  have hdigits : ∀ c ∈ Nat.toDigits 10 n, c.isDigit = true := fun _ => isDigit_of_mem_toDigits
  rw [spelled?_of_isDigit Nat.toDigits_ne_nil hdigits, Nat.ofDigitChars_ten_toDigits]

/-- No digit is a sign, so nothing is dropped in front of a number. -/
theorem dropPlus_toDigits (n : Nat) : dropPlus (Nat.toDigits 10 n) = Nat.toDigits 10 n := by
  unfold dropPlus
  split
  · next h =>
    have hplus : '+' ∈ Nat.toDigits 10 n := by simp [h]
    exact absurd (isDigit_of_mem_toDigits hplus) (by decide)
  · rfl

theorem toList_toString (n : Nat) : (toString n).toList = Nat.toDigits 10 n := Nat.toList_repr

/-- A natural number that is written down spells itself. Without an `x` it is
not read in hexadecimal. -/
theorem natural?_toString (n : Nat) : natural? (toString n) = some n := by
  unfold natural?
  rw [toList_toString]
  split
  · next h =>
    have hmark : 'x' ∈ Nat.toDigits 10 n := by simp [h]
    exact absurd (isDigit_of_mem_toDigits hmark) (by decide)
  · next h =>
    have hmark : 'X' ∈ Nat.toDigits 10 n := by simp [h]
    exact absurd (isDigit_of_mem_toDigits hmark) (by decide)
  · rw [dropPlus_toDigits, spelled?_toDigits]

/-- The characters of an integer: those of its amount, behind a minus sign if
it is negative. -/
theorem toList_toString_int (n : Int) :
    (toString n).toList =
      if n < 0 then '-' :: Nat.toDigits 10 n.natAbs else Nat.toDigits 10 n.natAbs := by
  cases n with
  | ofNat n =>
    rw [if_neg (by simp)]
    exact toList_toString n
  | negSucc n =>
    rw [if_pos (Int.negSucc_lt_zero n)]
    show ("-" ++ (n + 1).repr).toList = _
    rw [String.toList_append, Nat.toList_repr]
    rfl

/-- An integer that is written down spells itself. -/
theorem integer?_toString (n : Int) : integer? (toString n) = some n := by
  unfold integer?
  rw [toList_toString_int]
  split
  · next hneg =>
    show (spelled? 10 (Nat.toDigits 10 n.natAbs)).map (fun m : Nat => -(m : Int)) = some n
    rw [spelled?_toDigits, Option.map_some]
    congr 1
    omega
  · next hpos =>
    unfold signed?
    split
    · next h =>
      have hminus : '-' ∈ Nat.toDigits 10 n.natAbs := by simp [h]
      exact absurd (isDigit_of_mem_toDigits hminus) (by decide)
    · rw [dropPlus_toDigits, spelled?_toDigits, Option.map_some]
      congr 1
      omega

/-! ### Items -/

/-- A text without commas and blanks. -/
def Plain (text : String) : Prop := ∀ c ∈ text.toList, c ≠ ',' ∧ isBlank c = false

theorem plain_of_isDigit_or_minus {text : String}
    (h : ∀ c ∈ text.toList, c.isDigit = true ∨ c = '-') : Plain text := by
  intro c hmem
  rcases h c hmem with hdigit | rfl
  · obtain ⟨hzero, hnine⟩ := (isDigit_iff c).mp hdigit
    replace hzero : 48 ≤ c.toNat := hzero
    replace hnine : c.toNat ≤ 57 := hnine
    refine ⟨?_, ?_⟩
    · rintro rfl
      exact absurd hdigit (by decide)
    · -- All ranges of blanks lie below or above the digits.
      simp only [isBlank, blankRanges, List.any_cons, List.any_nil, Bool.or_eq_false_iff,
        Bool.and_eq_false_iff, decide_eq_false_iff_not, and_true]
      omega
  · decide

theorem plain_toString (n : Nat) : Plain (toString n) := by
  refine plain_of_isDigit_or_minus ?_
  intro c hmem
  rw [toList_toString] at hmem
  exact Or.inl (isDigit_of_mem_toDigits hmem)

theorem plain_toString_int (n : Int) : Plain (toString n) := by
  refine plain_of_isDigit_or_minus ?_
  intro c hmem
  rw [toList_toString_int] at hmem
  split at hmem
  · rcases List.mem_cons.mp hmem with hminus | hin
    · exact Or.inr hminus
    · exact Or.inl (isDigit_of_mem_toDigits hin)
  · exact Or.inl (isDigit_of_mem_toDigits hmem)

theorem dropWhile_isBlank {chars : List Char} (h : ∀ c ∈ chars, isBlank c = false) :
    chars.dropWhile isBlank = chars := by
  cases chars with
  | nil => rfl
  | cons first rest =>
    have hfirst := h first List.mem_cons_self
    exact List.dropWhile_cons_of_neg (by simp [hfirst])

/-- Nothing is cut off a plain text. -/
theorem Plain.trim_eq {text : String} (h : Plain text) : trim text = text := by
  have hfront := dropWhile_isBlank fun c hmem => (h c hmem).2
  have hback : text.toList.reverse.dropWhile isBlank = text.toList.reverse :=
    dropWhile_isBlank fun c hmem => (h c (List.mem_reverse.mp hmem)).2
  rw [trim, trimBlank, hfront, hback, List.reverse_reverse, String.ofList_toList]

theorem commaSeparated_eq_splitOn (chars : List Char) :
    commaSeparated chars = chars.splitOn ',' := by
  induction chars with
  | nil => rfl
  | cons first rest ih =>
    rw [commaSeparated, ih, List.splitOn_cons_eq_if_modifyHead]
    by_cases hcomma : first = ','
    · simp [hcomma]
    · rw [if_neg hcomma, if_neg (by simpa using hcomma)]
      cases hrest : rest.splitOn ',' with
      | nil => exact absurd hrest (List.splitOn_ne_nil _ _)
      | cons part parts => rfl

end SensorGateway.Text

namespace SensorGateway

/-- The items of a text that was put together of plain ones, as many as the
field has elements. -/
theorem Field.items_intercalate {field : Field} {texts : List String} (hne : texts ≠ [])
    (hcount : texts.length = field.count) (hplain : ∀ text ∈ texts, Text.Plain text) :
    field.items (",".intercalate texts) = texts := by
  unfold Field.items
  cases harray : field.array with
  | none =>
    have hone : texts.length = 1 := by rw [hcount, Field.count, harray, Option.getD_none]
    obtain ⟨text, rfl⟩ := List.length_eq_one_iff.mp hone
    show [Text.trim (",".intercalate [text])] = [text]
    rw [String.intercalate_singleton, (hplain text List.mem_cons_self).trim_eq]
  | some count =>
    show (Text.commaSeparated (",".intercalate texts).toList).map _ = texts
    rw [Text.commaSeparated_eq_splitOn, String.toList_intercalate]
    show (List.splitOn ',' ([','].intercalate (texts.map String.toList))).map _ = texts
    rw [List.splitOn_intercalate ',' _ (by simpa using hne), List.map_map]
    · refine (List.map_congr_left ?_).trans (List.map_id texts)
      intro text hmem
      show Text.trim (String.ofList text.toList) = text
      rw [String.ofList_toList, (hplain text hmem).trim_eq]
    · intro part hpart hcomma
      obtain ⟨text, hmem, rfl⟩ := List.mem_map.mp hpart
      exact (hplain text hmem _ hcomma).1 rfl

end SensorGateway
