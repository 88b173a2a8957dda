import SensorGateway.Proofs.Record.Opening
import SensorGateway.Proofs.Record.Words

/-!
# `SensorGateway.Proofs.Record.SplitValues`: two words as one number

A device may send a number in two fields, the low word of 16 bits and the high
word. A record then has both words and the number that they make up, under the
name that the two names have in common. What is said of this number here refers
to the finished record, in which anyone can look up the words.

* `get?_base_decode`: the value under the name of a split value is made of the
  integers under the names of its words, and these are what the elements left
  there.
* `int64?_part_decode`: words that are signed or have at most 63 bits are found
  wherever they are integers at all.
* `get?_base_eq_joined`: so a split value is what the integers under these names
  make up.
* `decode_splitValues`: when a record has a split value, which one, and that its
  words can be told from it.
-/

set_option autoImplicit false

namespace SensorGateway

/-! ### Integers of any sign -/

/-- The integer that a value is. -/
def Value.integer? : Value → Option Int
  | .int n => some n
  | .uint n => some n
  | _ => none

/-- The integer under a key. -/
def Record.integer? (record : Record) (key : String) : Option Int :=
  (record.get? key).bind Value.integer?

/-- The number that the words of a split value make up, where a word that is not
there counts as zero. -/
def Record.joined (record : Record) (base : String) : Int :=
  (record.integer? (base ++ "_low")).getD 0 + (record.integer? (base ++ "_high")).getD 0 * 65536

/-- Words make up a value when one of them is there. -/
theorem mergeWords?_eq (low high : Option Int) :
    mergeWords? low high =
      if low.isSome || high.isSome then some (wrapInt64 (low.getD 0 + high.getD 0 * 65536))
      else none := by
  cases low <;> cases high <;> rfl

/-! ### Names of words -/

/-- A key that does not end in a bracket is the name of a single field. -/
theorem Field.name_eq_of_mem_elements {field : Field} {element : Element}
    (h : element ∈ field.elements) (hlast : element.key.toList.getLast? ≠ some ']') :
    field.name = element.key := by
  rcases (field.mem_elements_iff element).mp h with ⟨-, rfl⟩ | ⟨count, index, -, -, rfl⟩
  · rfl
  · refine absurd ?_ hlast
    rw [Field.toList_key_elementAt, List.getLast?_concat]

/-- No word ends in a bracket. -/
theorem getLast?_part (base : String) :
    (base ++ lowSuffix).toList.getLast? ≠ some ']' ∧
      (base ++ highSuffix).toList.getLast? ≠ some ']' := by
  have hlow : lowSuffix.toList.getLast? = some 'w' := by decide
  have hhigh : highSuffix.toList.getLast? = some 'h' := by decide
  rw [String.toList_append, String.toList_append, List.getLast?_append, List.getLast?_append, hlow,
    hhigh, Option.some_or, Option.some_or]
  exact ⟨by decide, by decide⟩

namespace Schema

/-- Every integer field with the name of a word is signed or has at most 63
bits. -/
def NarrowWords (schema : Schema) : Prop :=
  ∀ base ∈ schema.mergedNames, ∀ field ∈ schema.fields,
    field.name = base ++ "_low" ∨ field.name = base ++ "_high" → field.type = .unsigned →
      field.width ≤ 63

variable {schema : Schema} {frame : Frame} {receipt : Int} {device : Option Int}
  {record : Record}

/-- So has every element with the name of a word, because it is a field of its
own. -/
theorem NarrowWords.width_le (h : schema.NarrowWords) {base : String}
    (hbase : base ∈ schema.mergedNames) {element : Element} (hmem : element ∈ schema.elements)
    (hkey : element.key = base ++ "_low" ∨ element.key = base ++ "_high")
    (htype : element.type = .unsigned) : element.width ≤ 63 := by
  obtain ⟨field, hfield, helement⟩ := List.mem_flatMap.mp hmem
  obtain ⟨hwidth, hsame⟩ := Field.like_of_mem_elements helement
  have hlast : element.key.toList.getLast? ≠ some ']' := by
    obtain ⟨hlow, hhigh⟩ := getLast?_part base
    rcases hkey with hkey | hkey
    · rw [hkey]
      exact hlow
    · rw [hkey]
      exact hhigh
  have hname : field.name = element.key := Field.name_eq_of_mem_elements helement hlast
  rw [hwidth]
  exact h base hbase field hfield (by rwa [hname]) (hsame ▸ htype)

/-! ### What stands under a key -/

/-- Under a key that is neither reserved nor the name of a split value stands
what the bits of an element denote, or nothing. -/
theorem get?_decode_cases (h : schema.decode frame receipt device = .ok record)
    (hkeys : (schema.elements.map Element.key).Nodup) {key : String}
    (hreserved : key ∉ reservedNames) (hbase : key ∉ schema.mergedNames) :
    record.get? key = none ∨
      ∃ element ∈ schema.elements, element.key = key ∧ element.endBit ≤ frame.bitLength ∧
        record.get? key = some (element.denotation frame.bytes) := by
  by_cases hdeclared : ∃ element ∈ schema.elements, element.key = key
  · obtain ⟨element, hmem, rfl⟩ := hdeclared
    have hget := get?_decode_of_nodup h hkeys hmem hbase
    by_cases hfits : element.endBit ≤ frame.bitLength
    · rw [if_pos hfits] at hget
      exact Or.inr ⟨element, hmem, rfl, hfits, hget⟩
    · rw [if_neg hfits] at hget
      exact Or.inl hget
  · left
    have hother : ∀ element ∈ schema.elements, element.key ≠ key :=
      fun element hmem heq => hdeclared ⟨element, hmem, heq⟩
    have hseed : (seed receipt).get? key = none := by
      rw [Record.get?_eq_none_iff, keys_seed]
      exact hreserved
    rw [get?_decode_of_notMem h hreserved hbase,
      Record.get?_foldl_insertElement_of_notMem frame hother, hseed]
    rfl

/-- A split value is made of the integers that the finished record has under the
names of its words. -/
theorem get?_base_decode (h : schema.decode frame receipt device = .ok record)
    (hsplit : schema.SplitNamesApart) {base : String} (hbase : base ∈ schema.mergedNames) :
    record.get? base =
      (mergeWords? (record.int64? (base ++ lowSuffix))
        (record.int64? (base ++ highSuffix))).map Value.int := by
  obtain ⟨hlow, hhigh⟩ := hsplit.part_notMem base
  obtain ⟨hlow', hhigh'⟩ := part_notMem_reservedNames base
  have hreserved : base ∉ reservedNames := hsplit.notReserved base hbase
  -- Neither the opening keys nor an element left a value under this name.
  have hnew : (schema.elements.foldl (Record.insertElement frame) (seed receipt)).get? base =
      none := by
    rw [Record.get?_foldl_insertElement_of_notMem frame (hsplit.notElement base hbase),
      Record.get?_eq_none_iff, keys_seed]
    exact hreserved
  rw [eq_of_decode_eq_ok h, Record.get?_nullNaNs, schema.get?_derive_of_notMem _ _ _ hreserved,
    ← eq_of_decode_eq_ok h, readings,
    Record.get?_foldl_insertMerged_of_mem schema.nodup_mergedNames hbase hlow hhigh, hnew,
    Option.or_none, int64?_decode_of_notMem h hlow' hlow, int64?_decode_of_notMem h hhigh' hhigh]
  cases mergeWords? _ _ <;> rfl

/-- A word that is signed or has at most 63 bits is a signed 64-bit integer, if
it is an integer at all. -/
theorem int64?_part_decode (h : schema.decode frame receipt device = .ok record)
    (hkeys : (schema.elements.map Element.key).Nodup) {key : String}
    (hreserved : key ∉ reservedNames) (hbase : key ∉ schema.mergedNames)
    (hnarrow : ∀ element ∈ schema.elements, element.key = key → element.type = .unsigned →
      element.width ≤ 63) : record.int64? key = record.integer? key := by
  unfold Record.int64? Record.integer?
  rcases get?_decode_cases h hkeys hreserved hbase with hnone | ⟨element, hmem, hkey, -, hget⟩
  · rw [hnone]
    rfl
  · rw [hget, Option.bind_some, Option.bind_some]
    unfold Element.denotation
    cases htype : element.type with
    | unsigned =>
      have hlt := frame.bytes.number_lt element.offset element.width
      have hpow : (2 : Nat) ^ element.width ≤ 2 ^ 63 :=
        Nat.pow_le_pow_right (by decide) (hnarrow element hmem hkey htype)
      refine if_pos ?_
      unfold maxInt64
      omega
    | signed => rfl
    | float =>
      simp only
      split
      · rw [Record.asInt64?_nullNaN]
        unfold Value.nullNaN
        split <;> rfl
      · rw [Record.asInt64?_nullNaN]
        unfold Value.nullNaN
        split <;> rfl
    | bytes => rfl

/-- A word that is unsigned, where it is declared, is a natural number of its
width, and zero where it is not there. -/
theorem integer?_part_bounds (h : schema.decode frame receipt device = .ok record)
    (hkeys : (schema.elements.map Element.key).Nodup) {key : String}
    (hreserved : key ∉ reservedNames) (hbase : key ∉ schema.mergedNames) {width : Nat}
    (hunsigned : ∀ element ∈ schema.elements, element.key = key →
      element.type = .unsigned ∧ element.width ≤ width) :
    0 ≤ (record.integer? key).getD 0 ∧ (record.integer? key).getD 0 < ((2 ^ width : Nat) : Int) := by
  have hpos := Nat.two_pow_pos width
  unfold Record.integer?
  rcases get?_decode_cases h hkeys hreserved hbase with hnone | ⟨element, hmem, hkey, -, hget⟩
  · rw [hnone]
    simp only [Option.bind_none, Option.getD_none]
    omega
  · obtain ⟨htype, hwidth⟩ := hunsigned element hmem hkey
    have hlt := frame.bytes.number_lt element.offset element.width
    have hpow : (2 : Nat) ^ element.width ≤ 2 ^ width := Nat.pow_le_pow_right (by decide) hwidth
    rw [hget, Option.bind_some, Element.denotation, htype]
    simp only [Value.integer?, Option.getD_some]
    omega

/-- A split value is what its words make up, wherever they are integers at all. -/
theorem get?_base_eq_joined (h : schema.decode frame receipt device = .ok record)
    (hkeys : (schema.elements.map Element.key).Nodup) (hsplit : schema.SplitNamesApart)
    (hnarrow : schema.NarrowWords) {base : String} (hbase : base ∈ schema.mergedNames) :
    record.get? base =
      if (record.integer? (base ++ "_low")).isSome || (record.integer? (base ++ "_high")).isSome
      then some (.int (wrapInt64 (record.joined base)))
      else none := by
  obtain ⟨hlow, hhigh⟩ := hsplit.part_notMem base
  obtain ⟨hlow', hhigh'⟩ := part_notMem_reservedNames base
  rw [get?_base_decode h hsplit hbase,
    int64?_part_decode h hkeys hlow' hlow fun element hmem hkey =>
      hnarrow.width_le hbase hmem (Or.inl hkey),
    int64?_part_decode h hkeys hhigh' hhigh fun element hmem hkey =>
      hnarrow.width_le hbase hmem (Or.inr hkey),
    mergeWords?_eq, apply_ite (Option.map Value.int)]
  rfl

/-- Split values, for every layout in which no two elements have the same key and
the names of split values are apart, and in which every integer field with the
name of a word is signed or has at most 63 bits.

A decoded record has a split value exactly when it has an integer under the name
of one of its words. The value is the signed 64-bit integer that is congruent
modulo `2 ^ 64` to the low word plus 65536 times the high one, a word that is not
there counting as zero. The words keep their own entries: what the bits of the
element denote if it lies inside the window, and nothing if it ends past it or
is not declared. If the words are unsigned, of at most 16 and 47 bits, the split
value is that very number, and both words can be told from it. -/
theorem decode_splitValues (h : schema.decode frame receipt device = .ok record)
    (hkeys : (schema.elements.map Element.key).Nodup) (hsplit : schema.SplitNamesApart)
    (hnarrow : schema.NarrowWords) :
    ∀ base ∈ schema.mergedNames,
      (base ∈ record.keys ↔ (record.integer? (base ++ "_low")).isSome = true ∨
        (record.integer? (base ++ "_high")).isSome = true) ∧
      (base ∈ record.keys → ∃ n, record.get? base = some (.int n) ∧ InInt64 n ∧
        n % 2 ^ 64 = record.joined base % 2 ^ 64) ∧
      (∀ part, part = base ++ "_low" ∨ part = base ++ "_high" →
        (∀ element ∈ schema.elements, element.key = part →
          record.get? part =
            if element.endBit ≤ frame.bitLength then some (element.denotation frame.bytes)
            else none) ∧
        ((∀ element ∈ schema.elements, element.key ≠ part) → record.get? part = none)) ∧
      ((∀ element ∈ schema.elements, element.key = base ++ "_low" →
          element.type = .unsigned ∧ element.width ≤ 16) →
        (∀ element ∈ schema.elements, element.key = base ++ "_high" →
          element.type = .unsigned ∧ element.width ≤ 47) →
        base ∈ record.keys →
        0 ≤ record.joined base ∧ record.get? base = some (.int (record.joined base)) ∧
        (record.integer? (base ++ "_low")).getD 0 = record.joined base % 65536 ∧
        (record.integer? (base ++ "_high")).getD 0 = record.joined base / 65536) := by
  intro base hbase
  obtain ⟨hlow, hhigh⟩ := hsplit.part_notMem base
  obtain ⟨hlow', hhigh'⟩ := part_notMem_reservedNames base
  have hget := get?_base_eq_joined h hkeys hsplit hnarrow hbase
  have hmem : base ∈ record.keys ↔ ((record.integer? (base ++ "_low")).isSome ||
      (record.integer? (base ++ "_high")).isSome) = true := by
    rw [← not_iff_not, ← Record.get?_eq_none_iff, hget]
    simp
  have hvalue : base ∈ record.keys →
      record.get? base = some (.int (wrapInt64 (record.joined base))) := by
    intro hin
    rw [hget, if_pos (hmem.mp hin)]
  refine ⟨by rw [hmem, Bool.or_eq_true], ?_, ?_, ?_⟩
  · intro hin
    exact ⟨_, hvalue hin, inInt64_wrapInt64 _, Int.bmod_emod⟩
  · intro part hpart
    have hout : part ∉ reservedNames ∧ part ∉ schema.mergedNames := by
      rcases hpart with rfl | rfl
      · exact ⟨hlow', hlow⟩
      · exact ⟨hhigh', hhigh⟩
    constructor
    · rintro element hin rfl
      exact get?_decode_of_nodup h hkeys hin hout.2
    · intro hother
      rcases get?_decode_cases h hkeys hout.1 hout.2 with hnone | ⟨element, hin, hkey, -⟩
      · exact hnone
      · exact absurd hkey (hother element hin)
  · intro hunsigned hunsigned' hin
    obtain ⟨hlow0, hlow16⟩ := integer?_part_bounds h hkeys hlow' hlow hunsigned
    obtain ⟨hhigh0, hhigh47⟩ := integer?_part_bounds h hkeys hhigh' hhigh hunsigned'
    have hjoined : record.joined base = (record.integer? (base ++ lowSuffix)).getD 0 +
        (record.integer? (base ++ highSuffix)).getD 0 * 65536 := rfl
    -- The high word leaves room for the low one below the sign.
    have hexact : wrapInt64 (record.joined base) = record.joined base := by
      apply wrapInt64_of_inInt64
      unfold InInt64 minInt64 maxInt64
      omega
    refine ⟨by omega, ?_, ?_, ?_⟩
    · rw [hvalue hin, hexact]
    · show (record.integer? (base ++ lowSuffix)).getD 0 = _
      omega
    · show (record.integer? (base ++ highSuffix)).getD 0 = _
      omega

/-- A total in two words, the high one declared first, and a drift that has a low
word only. -/
def meter : Schema where
  type := 0x27
  name := "Meter"
  fields := [
    { name := "total_high", offset := 16, width := 32, role := .highPart },
    { name := "total_low", offset := 0, width := 16, role := .lowPart },
    { name := "drift_low", offset := 48, width := 16, type := .signed, role := .lowPart }]
  size := 8
  format := .current
  accepted := layoutFault?_eq_none
    [{ name := "total_low", offset := 0, width := 16, role := .lowPart },
      { name := "total_high", offset := 16, width := 32, role := .highPart },
      { name := "drift_low", offset := 48, width := 16, type := .signed, role := .lowPart }]
    (by decide) (by decide) (by decide) (by decide) (by decide)

/-- A total of more than 32 bits, and a drift below zero. -/
theorem decode_splitValues_meter :
    ∃ record, meter.decode (Frame.ofBytes [0x00, 0x05, 0x00, 0x01, 0x00, 0x00, 0xFF, 0xFE]) 5000
        none = .ok record ∧
      record.get? "total" = some (.int 4294967301) ∧ record.get? "drift" = some (.int (-2)) ∧
      "drift_high" ∉ record.keys := by
  have hok := meter.decode_eq_ok
    (Frame.ofBytes [0x00, 0x05, 0x00, 0x01, 0x00, 0x00, 0xFF, 0xFE]) 5000 none rfl (by decide)
  have hnarrow : meter.NarrowWords := by
    unfold NarrowWords
    decide
  have hvalues := decode_splitValues hok (by decide) ⟨by decide, by decide, by decide, by decide⟩
    hnarrow
  obtain ⟨htotal, -, -, hexact⟩ := hvalues "total" (by decide)
  obtain ⟨hdrift, hvalue, hparts, -⟩ := hvalues "drift" (by decide)
  obtain ⟨-, hjoined, -⟩ := hexact (by decide) (by decide) (htotal.mpr (by decide))
  obtain ⟨n, hn, ⟨hlow, hhigh⟩, hmod⟩ := hvalue (hdrift.mpr (by decide))
  refine ⟨_, hok, ?_, ?_, ?_⟩
  · rw [hjoined]
    decide
  · have hminus : n % 2 ^ 64 = -2 % 2 ^ 64 := hmod.trans (by decide)
    unfold minInt64 at hlow
    unfold maxInt64 at hhigh
    obtain rfl : n = -2 := by omega
    exact hn
  · rw [← Record.get?_eq_none_iff]
    exact (hparts "drift_high" (Or.inr rfl)).2 (by decide)

end Schema

end SensorGateway
