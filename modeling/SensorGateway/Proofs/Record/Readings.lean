import Mathlib.Data.List.Basic
import SensorGateway.Record.Decode
import SensorGateway.Proofs.Frame
import SensorGateway.Proofs.Keys
import SensorGateway.Proofs.Record.Lookup

/-!
# `SensorGateway.Proofs.Record.Readings`: from elements to records

A record is built in passes: the elements are inserted one after the
other, then the split values, then the time and the device, and last NaN
is removed. For each pass there is one lemma on values and one on keys.

* `get?_foldl_insertElement` and `keys_foldl_insertElement`: the elements.
* `get?_foldl_insertMerged_of_notMem` and `keys_foldl_insertMerged`: the
  split values.
* `get?_derive_of_notMem` and `keys_derive`: the time and the device.
* `decode_congr`: bytes outside the window have no say.
* `get?_decode_of_notMem` and `get?_decode_element`: what the elements left
  under a key of their own stays there through all passes, so an element
  whose key nothing else uses keeps its reading.
-/

set_option autoImplicit false

namespace SensorGateway

/-! ### Single elements -/

/-- An element that lies wholly inside the window of a frame. -/
def Element.fits (frame : Frame) (element : Element) : Bool :=
  element.endBit ≤ frame.bitLength

/-- A sound element is read exactly when it lies wholly inside the
window. -/
theorem Element.Sound.read?_eq {element : Element} (h : element.Sound) (frame : Frame) :
    element.read? frame =
      if element.fits frame then
        some (element.value (frame.bytes.number element.offset element.width))
      else none := by
  rw [read?, frame.toOption_read h.width_pos h.width_le]
  by_cases hfits : element.offset + element.width ≤ frame.bitLength
  · simp [fits, endBit, hfits]
  · simp [fits, endBit, hfits]

namespace Record

/-! ### Elements -/

/-- Inserting an element changes the value under its key, if there is a
reading. -/
theorem get?_insertElement (frame : Frame) (record : Record) (element : Element) (key : String) :
    (record.insertElement frame element).get? key =
      if key = element.key then (element.read? frame).or (record.get? key)
      else record.get? key := by
  unfold insertElement
  cases element.read? frame with
  | none => simp
  | some value =>
    rw [get?_insert]
    simp

/-- Elements with other keys leave a value alone. -/
theorem get?_foldl_insertElement_of_notMem (frame : Frame) {elements : List Element}
    {key : String} (h : ∀ element ∈ elements, element.key ≠ key) (record : Record) :
    (elements.foldl (insertElement frame) record).get? key = record.get? key := by
  induction elements generalizing record with
  | nil => rfl
  | cons first rest ih =>
    have hfirst : key ≠ first.key := fun heq => h first (by simp) heq.symm
    rw [List.foldl_cons, ih (fun element hmem => h element (List.mem_cons_of_mem _ hmem)),
      get?_insertElement, if_neg hfirst]

/-- An element that is read, and whose key no later one has, is found with
its reading, whatever stood under the key before. -/
theorem get?_foldl_insertElement_of_last (frame : Frame) {before after : List Element}
    {element : Element} {value : Value} (hread : element.read? frame = some value)
    (hlast : ∀ later ∈ after, later.key ≠ element.key) (record : Record) :
    ((before ++ element :: after).foldl (insertElement frame) record).get? element.key =
      some value := by
  rw [List.foldl_append, List.foldl_cons, get?_foldl_insertElement_of_notMem frame hlast,
    get?_insertElement, if_pos rfl, hread, Option.some_or]

/-- An element whose key no other one has is found with its reading. -/
theorem get?_foldl_insertElement (frame : Frame) {elements : List Element} {element : Element}
    (hmem : element ∈ elements)
    (hunique : ∀ other ∈ elements, other.key = element.key → other = element) (record : Record) :
    (elements.foldl (insertElement frame) record).get? element.key =
      (element.read? frame).or (record.get? element.key) := by
  induction elements generalizing record with
  | nil => cases hmem
  | cons first rest ih =>
    have hrest : ∀ other ∈ rest, other.key = element.key → other = element :=
      fun other hother => hunique other (List.mem_cons_of_mem _ hother)
    rw [List.foldl_cons]
    by_cases hlater : element ∈ rest
    · rw [ih hlater hrest, get?_insertElement]
      by_cases hkey : element.key = first.key
      · -- The first element is this very one: its reading is inserted twice.
        have hsame := hunique first (by simp) hkey.symm
        rw [if_pos hkey, hsame]
        cases element.read? frame <;> rfl
      · rw [if_neg hkey]
    · have hfirst : element = first := by
        cases List.mem_cons.mp hmem with
        | inl heq => exact heq
        | inr hin => exact absurd hin hlater
      have hothers : ∀ other ∈ rest, other.key ≠ element.key := fun other hother heq =>
        hlater (hrest other hother heq ▸ hother)
      rw [get?_foldl_insertElement_of_notMem frame hothers, get?_insertElement, hfirst,
        if_pos rfl]

/-- Inserting a split value changes no other value. -/
theorem get?_insertMerged_of_ne (record : Record) {base key : String} (h : key ≠ base) :
    (record.insertMerged base).get? key = record.get? key := by
  unfold insertMerged
  split
  · exact record.get?_insert_of_ne _ h
  · rfl

/-- Split values leave a value under any other key alone. -/
theorem get?_foldl_insertMerged_of_notMem {bases : List String} {key : String}
    (h : key ∉ bases) (record : Record) :
    (bases.foldl insertMerged record).get? key = record.get? key := by
  induction bases generalizing record with
  | nil => rfl
  | cons first rest ih =>
    have hfirst : key ≠ first := fun heq => h (heq ▸ List.mem_cons_self)
    have hrest : key ∉ rest := fun hin => h (List.mem_cons_of_mem _ hin)
    rw [List.foldl_cons, ih hrest, record.get?_insertMerged_of_ne hfirst]

end Record

/-! ### Whole records -/

namespace Schema

/-- A record opens with the reserved keys. -/
theorem keys_seed (receipt : Int) : (seed receipt).keys = reservedNames := by
  rfl

/-- Deriving the time and the device changes only their values. -/
theorem get?_derive_of_notMem (schema : Schema) (receipt : Int) (device : Option Int)
    (record : Record) {key : String} (h : key ∉ reservedNames) :
    (schema.derive receipt device record).get? key = record.get? key := by
  have htime : key ≠ generationTimeKey := fun heq => h (heq ▸ by decide)
  have hdevice : key ≠ deviceIdKey := fun heq => h (heq ▸ by decide)
  rw [derive, Record.get?_insert_of_ne _ _ hdevice, Record.get?_insert_of_ne _ _ htime]

/-- Deriving the time and the device keeps the keys. -/
theorem keys_derive (schema : Schema) (receipt : Int) (device : Option Int) {record : Record}
    (h : ∀ name ∈ reservedNames, name ∈ record.keys) :
    (schema.derive receipt device record).keys = record.keys := by
  have htime : generationTimeKey ∈ record.keys := h _ (by decide)
  have hdevice : deviceIdKey ∈ record.keys := h _ (by decide)
  rw [derive, Record.keys_insert_of_mem _ (by rw [Record.keys_insert_of_mem _ htime]; exact hdevice),
    Record.keys_insert_of_mem _ htime]

/-- A frame that may be read is read. -/
theorem decode_eq_ok (schema : Schema) (frame : Frame) (receipt : Int) (device : Option Int)
    (hdecode : schema.construction.canDecode = true)
    (hsize : schema.strictSize = true → frame.length = schema.size) :
    schema.decode frame receipt device =
      .ok (schema.derive receipt device (schema.readings frame receipt)).nullNaNs := by
  have hstrict : ¬ (schema.strictSize = true ∧ frame.length ≠ schema.size) := fun h =>
    h.2 (hsize h.1)
  rw [decode, if_neg (by simp [hdecode]), if_neg hstrict]

/-- A frame that was read gave the record of its readings. -/
theorem eq_of_decode_eq_ok {schema : Schema} {frame : Frame} {receipt : Int}
    {device : Option Int} {record : Record}
    (h : schema.decode frame receipt device = .ok record) :
    record = (schema.derive receipt device (schema.readings frame receipt)).nullNaNs := by
  unfold decode at h
  split at h
  · cases h
  · split at h
    · cases h
    · exact (Except.ok.inj h).symm

/-- Frames that show the same bytes are read alike, whatever lies outside
their windows. -/
theorem decode_congr (schema : Schema) {a b : Frame} (h : a.bytes = b.bytes) (receipt : Int)
    (device : Option Int) : schema.decode a receipt device = schema.decode b receipt device := by
  have hlength : a.length = b.length := by
    rw [← a.length_bytes, ← b.length_bytes, h]
  -- What is read is a function of the bits in the window and of its length.
  have hread : ∀ element ∈ schema.elements, element.read? a = element.read? b := by
    intro element hmem
    have hsound := schema.sound_of_mem_elements hmem
    rw [hsound.read?_eq a, hsound.read?_eq b, h, Element.fits, Element.fits, Frame.bitLength,
      Frame.bitLength, hlength]
  have hreadings : schema.readings a receipt = schema.readings b receipt := by
    rw [readings, readings]
    congr 1
    refine List.foldl_ext _ _ _ ?_
    intro record element hmem
    rw [Record.insertElement, Record.insertElement, hread element hmem]
  rw [decode, decode, hlength, hreadings]

/-- Under a key that is neither reserved nor the name of a split value
stands what the elements left there, NaN removed. -/
theorem get?_decode_of_notMem {schema : Schema} {frame : Frame} {receipt : Int}
    {device : Option Int} {record : Record}
    (h : schema.decode frame receipt device = .ok record) {key : String}
    (hreserved : key ∉ reservedNames) (hbase : key ∉ schema.mergedNames) :
    record.get? key =
      ((schema.elements.foldl (Record.insertElement frame) (seed receipt)).get? key).map
        Value.nullNaN := by
  rw [eq_of_decode_eq_ok h, Record.get?_nullNaNs, schema.get?_derive_of_notMem _ _ _ hreserved,
    readings, Record.get?_foldl_insertMerged_of_notMem hbase]

/-- So does the integer. -/
theorem int64?_decode_of_notMem {schema : Schema} {frame : Frame} {receipt : Int}
    {device : Option Int} {record : Record}
    (h : schema.decode frame receipt device = .ok record) {key : String}
    (hreserved : key ∉ reservedNames) (hbase : key ∉ schema.mergedNames) :
    record.int64? key =
      (schema.elements.foldl (Record.insertElement frame) (seed receipt)).int64? key := by
  rw [← Record.int64?_nullNaNs (schema.elements.foldl _ _)]
  refine Record.int64?_congr ?_
  rw [get?_decode_of_notMem h hreserved hbase, Record.get?_nullNaNs]

/-- An element whose key nothing else uses is found with its reading, NaN
removed. -/
theorem get?_decode_element {schema : Schema} {frame : Frame} {receipt : Int}
    {device : Option Int} {record : Record}
    (h : schema.decode frame receipt device = .ok record) {element : Element}
    (hmem : element ∈ schema.elements)
    (hunique : ∀ other ∈ schema.elements, other.key = element.key → other = element)
    (hbase : element.key ∉ schema.mergedNames) :
    record.get? element.key = (element.read? frame).map Value.nullNaN := by
  have hreserved := schema.key_notMem_reservedNames hmem
  have hseed : (seed receipt).get? element.key = none := by
    rw [Record.get?_eq_none_iff, keys_seed]
    exact hreserved
  rw [get?_decode_of_notMem h hreserved hbase,
    Record.get?_foldl_insertElement frame hmem hunique, hseed, Option.or_none]

end Schema

end SensorGateway
