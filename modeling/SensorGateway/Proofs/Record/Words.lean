import SensorGateway.Proofs.Record.Readings

/-!
# `SensorGateway.Proofs.Record.Words`: the integers of a record have 64 bits

A record keeps integers without a bound, and the decoder keeps them inside 64
bits: an element has no more bits, a split value is reduced modulo `2 ^ 64`,
and the time of production is clamped.

* `clampInt64_of_inInt64`, `clampInt64_mono` and `inInt64_wrapInt64`: the two
  ways of getting into the range.
* `Record.OfWords` and its step lemmas: every integer of a record is a signed
  or unsigned one of 64 bits, and every pass of the decoder keeps it so.
* `ofWords_decode`: so is every integer of every record that is decoded.
-/

set_option autoImplicit false

namespace SensorGateway

/-! ### Signed 64-bit integers -/

/-- An integer is a signed 64-bit integer. -/
def InInt64 (n : Int) : Prop := minInt64 ≤ n ∧ n ≤ maxInt64

instance (n : Int) : Decidable (InInt64 n) := inferInstanceAs (Decidable (_ ∧ _))

/-- Clamping ends inside the range. -/
theorem inInt64_clampInt64 (n : Int) : InInt64 (clampInt64 n) := by
  unfold InInt64 clampInt64 minInt64 maxInt64
  omega

/-- Clamping leaves alone what is inside the range. -/
theorem clampInt64_of_inInt64 {n : Int} (h : InInt64 n) : clampInt64 n = n := by
  obtain ⟨hlow, hhigh⟩ := h
  rw [clampInt64, Int.min_eq_left hhigh, Int.max_eq_right hlow]

/-- Clamping keeps the order. -/
theorem clampInt64_mono {m n : Int} (h : m ≤ n) : clampInt64 m ≤ clampInt64 n := by
  unfold clampInt64
  omega

/-- Reducing modulo `2 ^ 64` ends inside the range. -/
theorem inInt64_wrapInt64 (n : Int) : InInt64 (wrapInt64 n) := by
  have hlow := Int.le_bmod (x := n) (m := 2 ^ 64) (by decide)
  have hhigh := Int.bmod_lt (x := n) (m := 2 ^ 64) (by decide)
  unfold InInt64 wrapInt64 minInt64 maxInt64
  omega

/-- Reducing modulo `2 ^ 64` leaves alone what is inside the range. -/
theorem wrapInt64_of_inInt64 {n : Int} (h : InInt64 n) : wrapInt64 n = n := by
  unfold InInt64 minInt64 maxInt64 at h
  unfold wrapInt64
  rw [Int.bmod_eq_of_le]
  · omega
  · omega

/-! ### Values -/

/-- An integer is a 64-bit one, with or without a sign. -/
def Value.IsWord : Value → Prop
  | .int n => InInt64 n
  | .uint n => n < 2 ^ 64
  | _ => True

/-- The integer that a word is, if it is a signed 64-bit one. -/
theorem Value.IsWord.inInt64_of_asInt64? {value : Value} (h : value.IsWord) {n : Int}
    (hn : value.asInt64? = some n) : InInt64 n := by
  cases value with
  | int m =>
    obtain rfl : m = n := Option.some.inj hn
    exact h
  | uint m =>
    unfold asInt64? at hn
    simp only at hn
    split at hn
    · next hle =>
      obtain rfl : (m : Int) = n := Option.some.inj hn
      refine ⟨?_, hle⟩
      unfold minInt64
      omega
    · cases hn
  | _ => cases hn

/-- Null is a word, and so is what NaN leaves behind. -/
theorem Value.IsWord.nullNaN {value : Value} (h : value.IsWord) : value.nullNaN.IsWord := by
  unfold Value.nullNaN
  split
  · trivial
  · exact h

/-- An element has at most 64 bits, so its value is a word. -/
theorem Element.Sound.isWord_of_read? {element : Element} (hsound : element.Sound) {frame : Frame}
    {value : Value} (h : element.read? frame = some value) : value.IsWord := by
  rw [hsound.read?_eq frame] at h
  split at h
  · obtain rfl := Option.some.inj h
    have hlt := frame.bytes.number_lt element.offset element.width
    have hpow : (2 : Nat) ^ element.width ≤ 2 ^ 64 :=
      Nat.pow_le_pow_right (by decide) hsound.width_le
    unfold Element.value
    cases htype : element.type with
    | unsigned =>
      show frame.bytes.number element.offset element.width < 2 ^ 64
      omega
    | signed =>
      -- A width of at least one splits the numbers into two halves.
      obtain ⟨rest, hrest⟩ : ∃ rest, element.width = rest + 1 :=
        ⟨element.width - 1, by have := hsound.width_pos; omega⟩
      have hhalf : (2 : Nat) ^ element.width = 2 * 2 ^ rest := by
        rw [hrest, Nat.pow_succ, Nat.mul_comm]
      have hhalf' : (2 : Int) ^ element.width = ((2 ^ element.width : Nat) : Int) := by
        rw [Int.natCast_pow]
        rfl
      show InInt64 (Frame.signed element.width _)
      unfold InInt64 Frame.signed minInt64 maxInt64
      rw [hhalf', hrest, Nat.add_sub_cancel]
      rw [hrest] at hlt hhalf hpow
      split <;> omega
    | float =>
      simp only
      split <;> trivial
    | bytes => trivial
  · cases h

/-! ### Records -/

namespace Record

/-- Every integer of a record is a word. -/
def OfWords (record : Record) : Prop :=
  ∀ key value, record.get? key = some value → value.IsWord

/-- The integer under a key of such a record. -/
theorem OfWords.inInt64 {record : Record} (h : record.OfWords) {key : String} {n : Int}
    (hn : record.int64? key = some n) : InInt64 n := by
  obtain ⟨value, hvalue, hint⟩ := Option.bind_eq_some_iff.mp hn
  exact (h key value hvalue).inInt64_of_asInt64? hint

/-- Inserting a word keeps it so. -/
theorem OfWords.insert {record : Record} (h : record.OfWords) (key : String) (value : Value)
    (hvalue : value.IsWord) : (record.insert key value).OfWords := by
  intro k v hget
  rw [get?_insert] at hget
  split at hget
  · obtain rfl := Option.some.inj hget
    exact hvalue
  · exact h k v hget

theorem OfWords.insertElement {record : Record} (h : record.OfWords) (frame : Frame)
    {element : Element} (hsound : element.Sound) : (record.insertElement frame element).OfWords := by
  unfold Record.insertElement
  split
  · next value hread => exact h.insert element.key value (hsound.isWord_of_read? hread)
  · exact h

theorem OfWords.insertMerged {record : Record} (h : record.OfWords) (base : String) :
    (record.insertMerged base).OfWords := by
  unfold Record.insertMerged
  split
  · next n hmerged =>
    refine h.insert base _ ?_
    unfold mergeWords? at hmerged
    split at hmerged
    · cases hmerged
    · obtain rfl := Option.some.inj hmerged
      exact inInt64_wrapInt64 _
  · exact h

theorem OfWords.nullNaNs {record : Record} (h : record.OfWords) : record.nullNaNs.OfWords := by
  intro key value hget
  rw [get?_nullNaNs] at hget
  obtain ⟨found, hfound, rfl⟩ := Option.map_eq_some_iff.mp hget
  exact (h key found hfound).nullNaN

end Record

namespace Schema

/-- What a record opens with are words if the time of receipt is one. -/
theorem ofWords_seed {receipt : Int} (h : InInt64 receipt) : (seed receipt).OfWords := by
  have hempty : Record.empty.OfWords := by
    intro key value hget
    cases hget
  have hreceipt := hempty.insert timestampKey (.int receipt) h
  exact (hreceipt.insert generationTimeKey .null trivial).insert deviceIdKey .null trivial

/-- The elements and the split values of a frame are words. -/
theorem ofWords_readings (schema : Schema) (frame : Frame) {receipt : Int} (h : InInt64 receipt) :
    (schema.readings frame receipt).OfWords := by
  have helements := List.foldlRecOn (motive := Record.OfWords) schema.elements
    (Record.insertElement frame) (ofWords_seed h) fun record hrecord element hmem =>
      hrecord.insertElement frame (schema.sound_of_mem_elements hmem)
  exact List.foldlRecOn (motive := Record.OfWords) schema.mergedNames Record.insertMerged helements
    fun record hrecord base _ => hrecord.insertMerged base

/-- The time of production is inside the range whatever the device's clock
says. -/
theorem inInt64_generationTime {receipt : Int} (h : InInt64 receipt) (clock : Option Int) :
    InInt64 (generationTime receipt clock) := by
  cases clock with
  | none => exact h
  | some seconds => exact inInt64_clampInt64 _

/-- Every integer of a decoded record is a 64-bit one. -/
theorem ofWords_decode {schema : Schema} {frame : Frame} {receipt : Int} {device : Option Int}
    {record : Record} (h : schema.decode frame receipt device = .ok record)
    (hreceipt : InInt64 receipt) (hdevice : ∀ id, device = some id → InInt64 id) :
    record.OfWords := by
  have htimed := (schema.ofWords_readings frame hreceipt).insert generationTimeKey
    (.int (generationTime receipt
      (schema.headerValue? (schema.readings frame receipt) .headerTimestamp clockKey)))
    (inInt64_generationTime hreceipt _)
  rw [eq_of_decode_eq_ok h]
  refine (htimed.insert deviceIdKey _ ?_).nullNaNs
  generalize hheader : schema.headerValue? _ .headerOrigin originKey = header
  cases header with
  | none =>
    rw [Option.none_or]
    cases device with
    | none => trivial
    | some id => exact hdevice id rfl
  | some id => exact htimed.inInt64 hheader

end Schema

end SensorGateway
