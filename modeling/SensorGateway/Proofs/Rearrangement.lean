import SensorGateway.Proofs.Acceptance
import SensorGateway.Proofs.Command.Representable
import SensorGateway.Proofs.Record.Opening

/-!
# `SensorGateway.Proofs.Rearrangement`: fields declared in another order

Fields lie where their first bits say, not where they stand in the declaration.
Two layouts with the same fields in different orders are accepted or refused
together, build the same frames and read the same values.

* `WellFormed.perm`: what is asked of a layout does not depend on the order.
* `Schema.Rearranges.encode_eq_ok`: the same parameters make the same frame. Its
  bits are those of the settable fields, and no two of these share one.
* `Record.SameValues`: records that differ in the order of their keys at most,
  through every pass of the decoder.
* `ofFields_rearranged`: all of it. Reading needs more than an accepted layout:
  elements with different keys, split values that are not called like words, and
  no two fields with the same header role.
-/

set_option autoImplicit false

namespace SensorGateway

/-- A search that can find one item only finds it wherever it stands. -/
theorem find?_eq_of_perm {α : Type} {p : α → Bool} {xs ys : List α} (h : xs.Perm ys)
    (hcount : xs.countP p ≤ 1) : xs.find? p = ys.find? p := by
  have hfilter := h.filter p
  rw [List.countP_eq_length_filter] at hcount
  -- At most one item is found, and one item has one order only.
  have hsame : xs.filter p = ys.filter p := by
    match hxs : xs.filter p with
    | [] =>
      rw [hxs] at hfilter
      exact hfilter.nil_eq
    | [x] =>
      rw [hxs] at hfilter
      exact hfilter.singleton_eq
    | x :: y :: rest =>
      rw [hxs] at hcount
      simp at hcount
  rw [← List.head?_filter, ← List.head?_filter, hsame]

/-- A layout stays well-formed in any order. -/
theorem WellFormed.perm {size : Nat} {fields fields' : List Field} (h : WellFormed size fields)
    (hperm : fields.Perm fields') : WellFormed size fields' where
  valid field hmem := h.valid field (hperm.mem_iff.mpr hmem)
  disjoint := by
    refine (hperm.pairwise_iff ?_).mp h.disjoint
    intro a b hab bit hbit
    exact hab bit ⟨hbit.2, hbit.1⟩
  within field hmem := h.within field (hperm.mem_iff.mpr hmem)

/-- So do its counts. -/
theorem Addressable.perm {size : Nat} {fields fields' : List Field} (h : Addressable size fields)
    (hperm : fields.Perm fields') : Addressable size fields' where
  payload := h.payload
  ends field hmem := h.ends field (hperm.mem_iff.mpr hmem)

/-- The same schema but for the order of its fields. -/
structure Schema.Rearranges (a b : Schema) : Prop where
  fields : a.fields.Perm b.fields
  type : a.type = b.type
  name : a.name = b.name
  size : a.size = b.size
  format : a.format = b.format
  strictSize : a.strictSize = b.strictSize
  construction : a.construction = b.construction

/-! ### Frames -/

namespace Schema.Rearranges

variable {a b : Schema}

theorem symm (h : a.Rearranges b) : b.Rearranges a :=
  ⟨h.fields.symm, h.type.symm, h.name.symm, h.size.symm, h.format.symm, h.strictSize.symm,
    h.construction.symm⟩

theorem settableFields (h : a.Rearranges b) : a.settableFields.Perm b.settableFields :=
  h.fields.filter _

theorem elements (h : a.Rearranges b) : a.elements.Perm b.elements := h.fields.flatMap_right _

theorem placeable (h : a.Rearranges b) (ha : a.Placeable) : b.Placeable := by
  intro field hmem
  exact ha field (h.fields.mem_iff.mpr hmem)

/-- Parameters from which one of two such schemas builds a frame serve for the
other. -/
theorem exists_encode_eq_ok (h : a.Rearranges b) (ha : a.Placeable) {params : Parameters}
    (hok : ∃ frame, a.encode params = .ok frame) : ∃ frame, b.encode params = .ok frame := by
  obtain ⟨hencode, hsupplied⟩ := (exists_encode_eq_ok_iff ha params).mp hok
  refine (exists_encode_eq_ok_iff (h.placeable ha) params).mpr ⟨h.construction ▸ hencode, ?_⟩
  intro field hfield
  exact hsupplied field (h.settableFields.mem_iff.mpr hfield)

/-- In frames that two such schemas build from the same parameters, an element
of a settable field holds the same number: the bits of its own item. -/
theorem number_eq (h : a.Rearranges b) (ha : a.Placeable) {params : Parameters}
    {frame frame' : Frame} (hframe : a.encode params = .ok frame)
    (hframe' : b.encode params = .ok frame')
    {element : Element} (hmem : element ∈ a.settableFields.flatMap Field.elements) :
    frame.bytes.number element.offset element.width =
      frame'.bytes.number element.offset element.width := by
  obtain ⟨field, hfield, helement⟩ := List.mem_flatMap.mp hmem
  obtain ⟨hin, hsettable⟩ := List.mem_filter.mp hfield
  obtain ⟨text, htext, hlength, hbits⟩ := number_encode ha hframe hin hsettable
  obtain ⟨text', htext', -, hbits'⟩ :=
    number_encode (h.placeable ha) hframe' (h.fields.mem_iff.mp hin) hsettable
  -- Both frames take the element's item from the same text.
  obtain rfl : text = text' := Option.some.inj (htext.symm.trans htext')
  obtain ⟨i, hi⟩ := List.mem_iff_getElem?.mp helement
  have hlt : i < (field.items text).length := by
    rw [hlength]
    exact (List.getElem?_eq_some_iff.mp hi).1
  have hitem := List.getElem?_eq_getElem hlt
  obtain ⟨bits, hok, hnumber⟩ := hbits i element _ hi hitem
  obtain ⟨bits', hok', hnumber'⟩ := hbits' i element _ hi hitem
  obtain rfl : bits = bits' := Except.ok.inj (hok.symm.trans hok')
  rw [hnumber, hnumber']

/-- Two such schemas build the same frame. A bit belongs to an element of a
settable field, and then to the number that the element holds, or is zero. -/
theorem encode_eq_ok (h : a.Rearranges b) (ha : a.Placeable) {params : Parameters}
    {frame : Frame} (hframe : a.encode params = .ok frame) : b.encode params = .ok frame := by
  obtain ⟨frame', hframe'⟩ := h.exists_encode_eq_ok ha ⟨frame, hframe⟩
  have hlength : frame.bytes.length = frame'.bytes.length := by
    rw [Frame.length_bytes, Frame.length_bytes, length_of_encode_eq_ok hframe,
      length_of_encode_eq_ok hframe', h.size]
  have hbytes : frame.bytes = frame'.bytes := by
    apply Bytes.eq_of_bit_eq hlength
    intro i _
    by_cases hcovered : ∃ element ∈ a.settableFields.flatMap Field.elements,
        element.offset ≤ i ∧ i < element.endBit
    · obtain ⟨element, hmem, hin⟩ := hcovered
      exact Bytes.bit_eq_of_number_eq (h.number_eq ha hframe hframe' hmem) hin
    · have hout : ∀ element ∈ a.settableFields.flatMap Field.elements,
          ¬ (element.offset ≤ i ∧ i < element.endBit) :=
        fun element hmem hin => hcovered ⟨element, hmem, hin⟩
      rw [bit_of_encode_eq_ok ha hframe hout, bit_of_encode_eq_ok (h.placeable ha) hframe']
      intro element hmem
      exact hout element ((h.settableFields.flatMap_right _).mem_iff.mpr hmem)
  rw [hframe', ← ofBytes_bytes_of_encode_eq_ok hframe, ← ofBytes_bytes_of_encode_eq_ok hframe',
    hbytes]

end Schema.Rearranges

/-! ### Records -/

namespace Record

/-- The two records have the same value under every key. -/
def SameValues (a b : Record) : Prop := ∀ key, a.get? key = b.get? key

variable {a b : Record}

theorem SameValues.insert (h : a.SameValues b) (key : String) (value : Value) :
    (a.insert key value).SameValues (b.insert key value) := by
  intro k
  rw [get?_insert, get?_insert, h k]

theorem SameValues.nullNaNs (h : a.SameValues b) : a.nullNaNs.SameValues b.nullNaNs := by
  intro key
  rw [get?_nullNaNs, get?_nullNaNs, h key]

theorem SameValues.int64? (h : a.SameValues b) (key : String) : a.int64? key = b.int64? key :=
  int64?_congr (h key)

/-- Elements with different keys may be inserted in any order: each is found with
its own reading, and all other keys keep their values. -/
theorem sameValues_foldl_insertElement (frame : Frame) {elements elements' : List Element}
    (hperm : elements.Perm elements') (hkeys : (elements.map Element.key).Nodup)
    (record : Record) :
    (elements.foldl (insertElement frame) record).SameValues
      (elements'.foldl (insertElement frame) record) := by
  have hkeys' : (elements'.map Element.key).Nodup := (hperm.map _).nodup_iff.mp hkeys
  intro key
  by_cases hdeclared : ∃ element ∈ elements, element.key = key
  · obtain ⟨element, hmem, rfl⟩ := hdeclared
    have hmem' := hperm.mem_iff.mp hmem
    rw [get?_foldl_insertElement frame hmem
        (fun other hother => List.inj_on_of_nodup_map hkeys hother hmem),
      get?_foldl_insertElement frame hmem'
        (fun other hother => List.inj_on_of_nodup_map hkeys' hother hmem')]
  · have hother : ∀ element ∈ elements, element.key ≠ key :=
      fun element hmem heq => hdeclared ⟨element, hmem, heq⟩
    rw [get?_foldl_insertElement_of_notMem frame hother,
      get?_foldl_insertElement_of_notMem frame
        (fun element hmem => hother element (hperm.mem_iff.mpr hmem))]

/-- So may split values none of which is a word of another one: all of them take
their words from what the elements left. -/
theorem SameValues.foldl_insertMerged (h : a.SameValues b) {bases bases' : List String}
    (hperm : bases.Perm bases') (hnodup : bases.Nodup)
    (hparts : ∀ base, base ++ lowSuffix ∉ bases ∧ base ++ highSuffix ∉ bases) :
    (bases.foldl insertMerged a).SameValues (bases'.foldl insertMerged b) := by
  intro key
  by_cases hbase : key ∈ bases
  · obtain ⟨hlow, hhigh⟩ := hparts key
    rw [get?_foldl_insertMerged_of_mem hnodup hbase hlow hhigh,
      get?_foldl_insertMerged_of_mem (hperm.nodup_iff.mp hnodup) (hperm.mem_iff.mp hbase)
        (fun hin => hlow (hperm.mem_iff.mpr hin)) (fun hin => hhigh (hperm.mem_iff.mpr hin)),
      h.int64?, h.int64?, h key]
  · rw [get?_foldl_insertMerged_of_notMem hbase,
      get?_foldl_insertMerged_of_notMem (fun hin => hbase (hperm.mem_iff.mpr hin)), h key]

end Record

namespace Schema

/-- At most one field tells the time, and at most one the device. -/
def HeadersOnce (fields : List Field) : Prop :=
  ∀ role, role = .headerTimestamp ∨ role = .headerOrigin →
    (fields.countP fun field => field.role == role) ≤ 1

namespace Rearranges

variable {a b : Schema}

/-- The split values have the same names. -/
theorem mergedNames (h : a.Rearranges b) : a.mergedNames.Perm b.mergedNames := by
  refine (List.perm_ext_iff_of_nodup a.nodup_mergedNames b.nodup_mergedNames).mpr ?_
  intro base
  unfold Schema.mergedNames
  rw [List.mem_eraseDups, List.mem_eraseDups]
  exact (h.fields.filterMap _).mem_iff

/-- Records with the same values have the same time and device. -/
theorem headerValue? (h : a.Rearranges b) (honce : HeadersOnce a.fields) {record record' : Record}
    (hsame : record.SameValues record') {role : Role}
    (hrole : role = .headerTimestamp ∨ role = .headerOrigin) (fixed : String) :
    a.headerValue? record role fixed = b.headerValue? record' role fixed := by
  have hfield : a.fieldWithRole? role = b.fieldWithRole? role :=
    find?_eq_of_perm h.fields (honce role hrole)
  unfold Schema.headerValue?
  rw [hfield, hsame.int64?]

theorem derive (h : a.Rearranges b) (honce : HeadersOnce a.fields) (receipt : Int)
    (device : Option Int) {record record' : Record} (hsame : record.SameValues record') :
    (a.derive receipt device record).SameValues (b.derive receipt device record') := by
  have htimed := hsame.insert generationTimeKey
    (.int (generationTime receipt (b.headerValue? record' .headerTimestamp clockKey)))
  unfold Schema.derive
  dsimp only
  -- The device is looked up when the time is already there.
  rw [h.headerValue? honce hsame (Or.inl rfl) clockKey,
    h.headerValue? honce htimed (Or.inr rfl) originKey]
  exact htimed.insert _ _

/-- The elements and split values of a frame are the same. -/
theorem readings (h : a.Rearranges b) (hkeys : (a.elements.map Element.key).Nodup)
    (hparts : ∀ base, base ++ lowSuffix ∉ a.mergedNames ∧ base ++ highSuffix ∉ a.mergedNames)
    (frame : Frame) (receipt : Int) :
    (a.readings frame receipt).SameValues (b.readings frame receipt) :=
  (Record.sameValues_foldl_insertElement frame h.elements hkeys _).foldl_insertMerged
    h.mergedNames a.nodup_mergedNames hparts

/-- A frame that one of two such schemas reads is read by the other with the same
values. -/
theorem decode_eq_ok (h : a.Rearranges b) (hkeys : (a.elements.map Element.key).Nodup)
    (hparts : ∀ base, base ++ lowSuffix ∉ a.mergedNames ∧ base ++ highSuffix ∉ a.mergedNames)
    (honce : HeadersOnce a.fields) {frame : Frame} {receipt : Int} {device : Option Int}
    {record : Record} (hrecord : a.decode frame receipt device = .ok record) :
    ∃ record', b.decode frame receipt device = .ok record' ∧ record.SameValues record' := by
  refine ⟨(b.derive receipt device (b.readings frame receipt)).nullNaNs, ?_, ?_⟩
  · unfold Schema.decode at hrecord ⊢
    rw [← h.construction, ← h.strictSize, ← h.size]
    split at hrecord
    · cases hrecord
    · next hdecode =>
      split at hrecord
      · cases hrecord
      · next hsize => rw [if_neg hdecode, if_neg hsize]
  · rw [eq_of_decode_eq_ok hrecord]
    exact (h.derive honce receipt device (h.readings hkeys hparts frame receipt)).nullNaNs

end Rearranges

end Schema

end SensorGateway
