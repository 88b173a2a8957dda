import SensorGateway.Text.Lowercase

/-!
# `SensorGateway.Proofs.Text.Lowercase`: names in lower case

Names of fields are put in lower case by the rules of Unicode, and names of
parameters are compared without the case of ASCII letters. In lower case no
ASCII capital is left (`noCapitals_lowercase`), so names in lower case are
the same for the comparison only if they are equal
(`sameIgnoringAsciiCase_iff`).

The comparison does not know the capitals of other alphabets. A name and its
lower case are the same for it exactly when the name has none of them
(`sameIgnoringAsciiCase_lowercase_iff`).
-/

set_option autoImplicit false

namespace SensorGateway.Text

/-- A text without ASCII capitals. -/
def NoCapitals (text : String) : Prop := ∀ c ∈ text.toList, ¬ ('A' ≤ c ∧ c ≤ 'Z')

/-- No range of the table is mapped onto an ASCII capital. -/
theorem lowercaseRanges_notCapital : ∀ range ∈ lowercaseRanges,
    (range.2.1 : Int) + range.2.2.2 < 0x41 ∨ 0x5A < (range.1 : Int) + range.2.2.2 := by
  decide +kernel

/-- The first range of the table holds all ASCII capitals. -/
theorem capitals_mem_lowercaseRanges : (0x41, 0x5A, 1, 32) ∈ lowercaseRanges :=
  List.mem_cons_self

/-- A number that is no code point makes the zero character. -/
theorem toNat_ofNat_eq_or (n : Nat) : (Char.ofNat n).toNat = n ∨ (Char.ofNat n).toNat = 0 := by
  unfold Char.ofNat
  by_cases hvalid : n.isValidChar
  · rw [dif_pos hvalid]
    exact Or.inl rfl
  · rw [dif_neg hvalid]
    exact Or.inr rfl

theorem notCapital_simpleLowercase (c : Char) :
    ¬ ('A' ≤ simpleLowercase c ∧ simpleLowercase c ≤ 'Z') := by
  rintro ⟨hA, hZ⟩
  replace hA : 0x41 ≤ (simpleLowercase c).toNat := hA
  replace hZ : (simpleLowercase c).toNat ≤ 0x5A := hZ
  unfold simpleLowercase at hA hZ
  simp only at hA hZ
  split at hA
  · -- The character is mapped by a range, and no range reaches the capitals.
    next range hfound =>
    rw [hfound] at hZ
    have hmem := List.mem_of_find?_eq_some hfound
    have hin := List.find?_some hfound
    simp only [Bool.and_eq_true, decide_eq_true_eq] at hin
    have hrange := lowercaseRanges_notCapital range hmem
    have hvalue := toNat_ofNat_eq_or ((c.toNat : Int) + range.2.2.2).toNat
    simp only at hZ
    omega
  · -- It is not mapped, which a capital would have been.
    next hnone =>
    rw [hnone] at hZ
    have hout := List.find?_eq_none.mp hnone _ capitals_mem_lowercaseRanges
    simp only [Bool.and_eq_true, decide_eq_true_eq, beq_iff_eq, Nat.mod_one, and_true] at hout
    exact hout ⟨hA, hZ⟩

/-- No ASCII capital is left in lower case. -/
theorem notCapital_lowercaseFrom (before chars : List Char) :
    ∀ c ∈ lowercaseFrom before chars, ¬ ('A' ≤ c ∧ c ≤ 'Z') := by
  induction chars generalizing before with
  | nil => simp [lowercaseFrom]
  | cons first rest ih =>
    intro c hmem
    rw [lowercaseFrom] at hmem
    cases List.mem_append.mp hmem with
    | inr hrest => exact ih _ c hrest
    | inl hfirst =>
      split at hfirst
      · -- Both small sigmas are Greek letters.
        split at hfirst <;>
        · rw [List.mem_singleton.mp hfirst]
          decide
      · split at hfirst
        · cases List.mem_cons.mp hfirst with
          | inl hi =>
            rw [hi]
            decide
          | inr hdot =>
            rw [List.mem_singleton.mp hdot]
            decide
        · rw [List.mem_singleton.mp hfirst]
          exact notCapital_simpleLowercase first

theorem noCapitals_lowercase (text : String) : NoCapitals (lowercase text) := by
  unfold NoCapitals lowercase
  rw [String.toList_ofList]
  exact notCapital_lowercaseFrom [] _

/-- Without ASCII capitals, texts are the same but for the case of ASCII
letters only if they are equal. -/
theorem sameIgnoringAsciiCase_iff {a b : String} (ha : NoCapitals a) (hb : NoCapitals b) :
    sameIgnoringAsciiCase a b = true ↔ a = b := by
  have hmap : ∀ text : String, NoCapitals text → text.toList.map asciiLowercase = text.toList := by
    intro text htext
    refine (List.map_congr_left fun c hmem => ?_).trans (List.map_id _)
    exact if_neg (htext c hmem)
  rw [sameIgnoringAsciiCase, hmap a ha, hmap b hb, beq_iff_eq, String.toList_inj]

/-! ### Capitals of other alphabets -/

/-- A capital that is no ASCII letter: lower-casing changes it, and the
comparison of names leaves it as it is. -/
def IsForeignCapital (c : Char) : Prop :=
  ¬ ('A' ≤ c ∧ c ≤ 'Z') ∧ (c = 'İ' ∨ simpleLowercase c ≠ c)

instance (c : Char) : Decidable (IsForeignCapital c) := inferInstanceAs (Decidable (_ ∧ _))

/-- A text whose capitals are all ASCII letters. -/
def AsciiCased (text : String) : Prop := ∀ c ∈ text.toList, ¬ IsForeignCapital c

instance (text : String) : Decidable (AsciiCased text) :=
  List.decidableBAll (fun c => ¬ IsForeignCapital c) text.toList

/-- Both rules agree on ASCII capitals, which the first range of the table
maps. -/
theorem simpleLowercase_of_capital {c : Char} (h : 'A' ≤ c ∧ c ≤ 'Z') :
    simpleLowercase c = asciiLowercase c := by
  have hA : 0x41 ≤ c.toNat := h.1
  have hZ : c.toNat ≤ 0x5A := h.2
  have hcons : lowercaseRanges = (0x41, 0x5A, 1, 32) :: lowercaseRanges.tail := rfl
  unfold simpleLowercase asciiLowercase
  simp only
  rw [hcons, List.find?_cons_of_pos (by simp [hA, hZ, Nat.mod_one]), if_pos h]
  rfl

/-- The comparison of names changes a character as lower-casing does exactly
when it is no capital of another alphabet. -/
theorem not_isForeignCapital_iff (c : Char) :
    ¬ IsForeignCapital c ↔ c ≠ 'İ' ∧ simpleLowercase c = asciiLowercase c := by
  unfold IsForeignCapital
  by_cases hcapital : 'A' ≤ c ∧ c ≤ 'Z'
  · have hne : c ≠ 'İ' := by
      rintro rfl
      exact absurd hcapital (by decide)
    simp only [hcapital, simpleLowercase_of_capital hcapital, hne, not_true_eq_false, false_and,
      not_false_eq_true, ne_eq, and_self]
  · have hsame : asciiLowercase c = c := if_neg hcapital
    simp only [hcapital, hsame, not_false_eq_true, true_and, not_or, ne_eq,
      Decidable.not_not]

theorem isForeignCapital_sigma : IsForeignCapital 'Σ' := by decide

/-- Lower-casing changes nothing but ASCII letters exactly when no other
alphabet has a capital in the text. Induction on the text: the first
character of the two results tells whether its own rule was that for ASCII. -/
theorem lowercaseFrom_eq_map_iff (before chars : List Char) :
    lowercaseFrom before chars = chars.map asciiLowercase ↔
      ∀ c ∈ chars, ¬ IsForeignCapital c := by
  induction chars generalizing before with
  | nil => simp [lowercaseFrom]
  | cons first rest ih =>
    rw [lowercaseFrom, List.map_cons, List.forall_mem_cons, ← ih (first :: before)]
    by_cases hsigma : first = 'Σ'
    · -- Neither small sigma is the capital that the comparison leaves.
      subst hsigma
      have hkept : asciiLowercase 'Σ' = 'Σ' := by decide
      rw [if_pos rfl, hkept]
      constructor
      · intro h
        split at h
        · exact absurd (List.cons.inj h).1 (by decide)
        · exact absurd (List.cons.inj h).1 (by decide)
      · rintro ⟨hnot, -⟩
        exact absurd isForeignCapital_sigma hnot
    · rw [if_neg hsigma, not_isForeignCapital_iff]
      by_cases hdotted : first = 'İ'
      · subst hdotted
        have hkept : asciiLowercase 'İ' = 'İ' := by decide
        rw [if_pos rfl, hkept]
        constructor
        · intro h
          exact absurd (List.cons.inj h).1 (by decide)
        · rintro ⟨⟨hne, -⟩, -⟩
          exact absurd rfl hne
      · rw [if_neg hdotted, List.singleton_append, List.cons.injEq]
        simp only [hdotted, ne_eq, not_false_eq_true, true_and]

/-- A text and its lower case are the same for the comparison of names exactly
when its capitals are ASCII letters. -/
theorem sameIgnoringAsciiCase_lowercase_iff (text : String) :
    sameIgnoringAsciiCase text (lowercase text) = true ↔ AsciiCased text := by
  have hlower : (lowercase text).toList.map asciiLowercase = lowercaseFrom [] text.toList := by
    refine (List.map_congr_left fun c hmem => ?_).trans ((List.map_id _).trans ?_)
    · exact if_neg (noCapitals_lowercase text c hmem)
    · rw [lowercase, String.toList_ofList]
  rw [sameIgnoringAsciiCase, hlower, beq_iff_eq, eq_comm]
  exact lowercaseFrom_eq_map_iff [] text.toList

/-- Texts with one lower case whose capitals are ASCII letters compare alike
with every name. -/
theorem sameIgnoringAsciiCase_congr {a b : String} (h : lowercase a = lowercase b)
    (ha : AsciiCased a) (hb : AsciiCased b) (name : String) :
    sameIgnoringAsciiCase a name = sameIgnoringAsciiCase b name := by
  have hfold : ∀ text, AsciiCased text →
      text.toList.map asciiLowercase = (lowercase text).toList := by
    intro text htext
    rw [lowercase, String.toList_ofList]
    exact ((lowercaseFrom_eq_map_iff [] text.toList).mpr htext).symm
  rw [sameIgnoringAsciiCase, sameIgnoringAsciiCase, hfold a ha, hfold b hb, h]

end SensorGateway.Text
