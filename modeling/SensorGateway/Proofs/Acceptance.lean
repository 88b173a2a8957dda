import SensorGateway.Proofs.Layout

/-!
# `SensorGateway.Proofs.Acceptance`: exactly the well-formed layouts

The checks of a layout look at first bits, ends and neighbours. What they
are for is said here of single bits and of all pairs of fields, without
sorting anything: every field is valid by itself (`Field.Valid`), no bit
belongs to elements of two fields, and every bit that an operator sets lies
in the payload. `WellFormed` is all three together, with positions counted
without limit. The checks count in 64 bits, and do what they are for where
that is enough.

* `Field.covers_iff`: the bits of all elements of a field are those from its
  first bit to its end, so fields that share no bit are apart.
* `layoutFault?_eq_none_iff`: the checks find nothing exactly in well-formed
  layouts.
* `layoutFault?_eq_some_overlap_iff`: when an overlap is reported, all fields are
  valid and the two that are named share a bit.
* `ofFields_wellFormed`: what becomes of any list of fields whose ends, and
  payload size in bits, are numbers of 64 bits.
-/

set_option autoImplicit false

namespace SensorGateway

/-! ### Valid fields -/

/-- A name is a name without an ending exactly when the ending stands behind
it. -/
theorem stripSuffix?_eq_some_iff (suffix name base : String) :
    stripSuffix? suffix name = some base ↔ name = base ++ suffix := by
  unfold stripSuffix?
  constructor
  · intro h
    split at h
    · next hsuffix =>
      obtain ⟨front, hfront⟩ := List.isSuffixOf_iff_suffix.mp hsuffix
      have hlength : name.length = front.length + suffix.length := by
        rw [← String.length_toList, ← hfront, List.length_append, String.length_toList]
      rw [hlength, Nat.add_sub_cancel, ← hfront, List.take_left] at h
      rw [← Option.some.inj h]
      apply String.toList_inj.mp
      rw [String.toList_append, String.toList_ofList, hfront]
    · cases h
  · rintro rfl
    have hsuffix : suffix.toList.isSuffixOf (base ++ suffix).toList = true := by
      rw [String.toList_append]
      exact List.isSuffixOf_iff_suffix.mpr (List.suffix_append _ _)
    have hlength : (base ++ suffix).length - suffix.length = base.toList.length := by
      rw [String.length_append, Nat.add_sub_cancel, String.length_toList]
    rw [if_pos hsuffix, hlength, String.toList_append, List.take_left, String.ofList_toList]

/-- What is asked of a field by itself: it has a name of its own, elements
of between 1 and 64 bits and at least one of them, floating-point numbers of
32 or 64 bits, and byte strings of whole bytes. The name of a split part
tells the name of the whole, and whatever plays a role in a record is a
single integer. -/
structure Field.Valid (field : Field) : Prop where
  name_ne : field.name ≠ ""
  unreserved : field.name ≠ "timestamp" ∧ field.name ≠ "generation_time" ∧
    field.name ≠ "device_id"
  width : 1 ≤ field.width ∧ field.width ≤ 64
  array : ∀ count, field.array = some count → 1 ≤ count
  float : field.type = .float → field.width = 32 ∨ field.width = 64
  bytes : field.type = .bytes → 8 ∣ field.offset ∧ 8 ∣ field.width
  lowPart : field.role = .lowPart → ∃ base, base ≠ "" ∧ field.name = base ++ "_low"
  highPart : field.role = .highPart → ∃ base, base ≠ "" ∧ field.name = base ++ "_high"
  role : field.role ≠ .normal →
    (field.type = .unsigned ∨ field.type = .signed) ∧ field.array = none

namespace Field

/-- A split part has a base when its name is one with the right ending. -/
theorem hasBase_iff (field : Field) {suffix : String}
    (h : field.mergedName? = stripSuffix? suffix field.name) :
    field.hasBase = true ↔ ∃ base, base ≠ "" ∧ field.name = base ++ suffix := by
  unfold hasBase
  rw [h]
  constructor
  · intro hbase
    split at hbase
    · next base hname =>
      exact ⟨base, bne_iff_ne.mp hbase, (stripSuffix?_eq_some_iff _ _ _).mp hname⟩
    · cases hbase
  · rintro ⟨base, hne, hname⟩
    rw [(stripSuffix?_eq_some_iff _ _ _).mpr hname]
    exact bne_iff_ne.mpr hne

theorem isScalarInteger_iff (field : Field) :
    field.isScalarInteger = true ↔
      (field.type = .unsigned ∨ field.type = .signed) ∧ field.array = none := by
  simp [isScalarInteger]

/-- The checks of a single field accept exactly the valid ones. -/
theorem sound_iff_valid (field : Field) : field.Sound ↔ field.Valid := by
  -- The two differ in how a base, a length and divisibility are written.
  have hlow : field.role = .lowPart →
      (field.hasBase = true ↔ ∃ base, base ≠ "" ∧ field.name = base ++ "_low") := by
    intro hrole
    exact field.hasBase_iff (by rw [mergedName?, hrole]; rfl)
  have hhigh : field.role = .highPart →
      (field.hasBase = true ↔ ∃ base, base ≠ "" ∧ field.name = base ++ "_high") := by
    intro hrole
    exact field.hasBase_iff (by rw [mergedName?, hrole]; rfl)
  constructor
  · intro h
    exact {
      name_ne := h.name_ne
      unreserved := by simpa [reservedNames] using h.name_notMem
      width := ⟨h.width_pos, h.width_le⟩
      array := fun count hcount => by
        have hne : count ≠ 0 := fun hzero => h.array_ne (by rw [hcount, hzero])
        omega
      float := h.float_width
      bytes := fun htype => by
        obtain ⟨hoffset, hwidth⟩ := h.bytes_aligned htype
        exact ⟨Nat.dvd_of_mod_eq_zero hoffset, Nat.dvd_of_mod_eq_zero hwidth⟩
      lowPart := fun hrole => (hlow hrole).mp (h.lowPart_hasBase hrole)
      highPart := fun hrole => (hhigh hrole).mp (h.highPart_hasBase hrole)
      role := fun hrole => field.isScalarInteger_iff.mp (h.role_integer hrole) }
  · intro h
    exact {
      name_ne := h.name_ne
      name_notMem := by simpa [reservedNames] using h.unreserved
      width_pos := h.width.1
      width_le := h.width.2
      array_ne := fun hzero => by
        have hcount := h.array 0 hzero
        omega
      float_width := h.float
      bytes_aligned := fun htype => by
        obtain ⟨hoffset, hwidth⟩ := h.bytes htype
        exact ⟨Nat.mod_eq_zero_of_dvd hoffset, Nat.mod_eq_zero_of_dvd hwidth⟩
      lowPart_hasBase := fun hrole => (hlow hrole).mpr (h.lowPart hrole)
      highPart_hasBase := fun hrole => (hhigh hrole).mpr (h.highPart hrole)
      role_integer := fun hrole => field.isScalarInteger_iff.mpr (h.role hrole) }

/-! ### The bits of a field -/

/-- A bit belongs to one of the elements of a field. -/
def Covers (field : Field) (bit : Nat) : Prop :=
  ∃ element ∈ field.consecutive, element.offset ≤ bit ∧ bit < element.endBit

/-- The elements of a field leave no gap between them. -/
theorem covers_iff (field : Field) (bit : Nat) :
    field.Covers bit ↔ field.offset ≤ bit ∧ bit < field.reach := by
  constructor
  · rintro ⟨element, helement, hle, hlt⟩
    obtain ⟨hstart, hend⟩ := within_of_mem_consecutive helement
    omega
  · rintro ⟨hle, hlt⟩
    unfold Covers consecutive
    cases harray : field.array with
    | none =>
      refine ⟨_, List.mem_singleton_self _, hle, ?_⟩
      simpa [reach, count, harray, Element.endBit] using hlt
    | some count =>
      have hlt' : bit - field.offset < count * field.width := by
        simp only [reach, Field.count, harray, Option.getD_some, Nat.mul_comm] at hlt
        omega
      have hwidth : 0 < field.width := by
        apply Nat.pos_of_ne_zero
        intro hzero
        rw [hzero, Nat.mul_zero] at hlt'
        omega
      -- The quotient by the width is the index of the element.
      have hindex : (bit - field.offset) / field.width < count :=
        (Nat.div_lt_iff_lt_mul hwidth).mpr hlt'
      have hstart := Nat.div_mul_le_self (bit - field.offset) field.width
      have hend := Nat.lt_div_mul_add (a := bit - field.offset) hwidth
      refine ⟨_, List.mem_map_of_mem (List.mem_range.mpr hindex), ?_, ?_⟩
      · simp only
        omega
      · simp only [elementAt, Element.endBit]
        omega

/-- No bit belongs to elements of both fields. -/
def Disjoint (a b : Field) : Prop := ∀ bit, ¬ (a.Covers bit ∧ b.Covers bit)

/-- Of two fields that are not empty, one ends before the other starts
exactly when they share no bit. -/
theorem apart_iff_disjoint {a b : Field} (ha : a.offset < a.reach) (hb : b.offset < b.reach) :
    a.Apart b ↔ a.Disjoint b := by
  unfold Apart Disjoint
  simp only [covers_iff]
  constructor
  · intro h bit
    omega
  · intro h
    -- The later one of the two first bits would be shared.
    have hlater := h (max a.offset b.offset)
    omega

end Field

/-! ### Well-formed layouts -/

/-- What is asked of the fields of a message with a payload of `size`
bytes. -/
structure WellFormed (size : Nat) (fields : List Field) : Prop where
  valid : ∀ field ∈ fields, field.Valid
  disjoint : fields.Pairwise Field.Disjoint
  within : ∀ field ∈ fields, field.settable = true → ∀ bit, field.Covers bit → bit < 8 * size

/-- No field that is valid is empty. -/
theorem Field.Valid.offset_lt_reach {field : Field} (h : field.Valid) :
    field.offset < field.reach :=
  (field.sound_iff_valid.mpr h).offset_lt_reach

/-- Valid fields are apart exactly when no two of them share a bit. -/
theorem pairwise_apart_iff {fields : List Field} (hvalid : ∀ field ∈ fields, field.Valid) :
    fields.Pairwise Field.Apart ↔ fields.Pairwise Field.Disjoint := by
  refine List.Pairwise.iff_of_mem ?_
  intro a b ha hb
  exact Field.apart_iff_disjoint (hvalid a ha).offset_lt_reach (hvalid b hb).offset_lt_reach

/-- A field ends in the payload exactly when all of its bits lie there. -/
theorem reach_le_iff {field : Field} (hvalid : field.Valid) (size : Nat) :
    field.reach ≤ 8 * size ↔ ∀ bit, field.Covers bit → bit < 8 * size := by
  have hne := hvalid.offset_lt_reach
  simp only [Field.covers_iff]
  constructor
  · intro h bit hbit
    omega
  · intro h
    have hlast := h (field.reach - 1)
    omega

/-- The check of single fields finds nothing exactly when all are valid. -/
theorem fieldFault?_eq_none_iff_valid (schema : String) (fields : List Field) :
    fieldFault? schema fields = none ↔ ∀ field ∈ fields, field.Valid := by
  rw [fieldFault?_eq_none_iff]
  simp only [Field.sound_iff_valid]

/-- Among valid fields no overlap is found exactly when no two share a
bit. -/
theorem overlapFault?_eq_none_iff (schema : String) {fields : List Field}
    (haddressable : ∀ field ∈ fields, field.Addressable)
    (hvalid : ∀ field ∈ fields, field.Valid) :
    overlapFault? schema fields = none ↔ fields.Pairwise Field.Disjoint := by
  rw [overlapFault?, Option.map_eq_none_iff,
    overlapping?_byOffset_eq_none_iff haddressable fun field hmem =>
      (hvalid field hmem).offset_lt_reach,
    pairwise_apart_iff hvalid]

/-- The checks find nothing exactly in well-formed layouts. -/
theorem layoutFault?_eq_none_iff (schema : String) {size : Nat} {fields : List Field}
    (haddressable : Addressable size fields) :
    layoutFault? schema size fields = none ↔ WellFormed size fields := by
  rw [layoutFault?, Option.or_eq_none_iff, Option.or_eq_none_iff, fieldFault?_eq_none_iff_valid,
    payloadFault?_eq_none_iff schema haddressable]
  constructor
  · rintro ⟨hvalid, hoverlap, hpayload⟩
    refine ⟨hvalid, (overlapFault?_eq_none_iff schema haddressable.ends hvalid).mp hoverlap, ?_⟩
    intro field hmem hsettable
    exact (reach_le_iff (hvalid field hmem) size).mp (hpayload field hmem hsettable)
  · intro h
    refine ⟨h.valid,
      (overlapFault?_eq_none_iff schema haddressable.ends h.valid).mpr h.disjoint, ?_⟩
    intro field hmem hsettable
    exact (reach_le_iff (h.valid field hmem) size).mpr (h.within field hmem hsettable)

/-! ### Reported overlaps -/

/-- Two of the fields have these names and share a bit. They are two entries
of the list, even where they are the same field. -/
def Overlapping (fields : List Field) (first second : String) : Prop :=
  ∃ a b rest, fields.Perm (a :: b :: rest) ∧ a.name = first ∧ b.name = second ∧
    ∃ bit, a.Covers bit ∧ b.Covers bit

/-- The check of single fields reports no overlap. -/
theorem fieldFault?_ne_overlap (schema label first second : String) (fields : List Field) :
    fieldFault? schema fields ≠ some (.overlap label first second) := by
  intro h
  obtain ⟨field, -, hfault⟩ := List.exists_of_findSome?_eq_some h
  obtain ⟨fault, -, heq⟩ := Option.map_eq_some_iff.mp hfault
  cases heq

/-- Nor does the check of the payload size. -/
theorem payloadFault?_ne_overlap (schema label first second : String) (size : Nat)
    (fields : List Field) :
    payloadFault? schema size fields ≠ some (.overlap label first second) := by
  intro h
  obtain ⟨field, -, heq⟩ := Option.map_eq_some_iff.mp h
  cases heq

/-- An overlap is reported exactly when all fields are valid and neighbours
overlap after sorting. -/
theorem layoutFault?_eq_some_overlap_iff (schema label first second : String) (size : Nat)
    (fields : List Field) :
    layoutFault? schema size fields = some (.overlap label first second) ↔
      (∀ field ∈ fields, field.Valid) ∧
        overlapFault? schema fields = some (.overlap label first second) := by
  rw [layoutFault?, Option.or_eq_some_iff, Option.or_eq_some_iff, fieldFault?_eq_none_iff_valid]
  constructor
  · rintro (h | ⟨hvalid, h | ⟨-, h⟩⟩)
    · exact absurd h (fieldFault?_ne_overlap _ _ _ _ _)
    · exact ⟨hvalid, h⟩
    · exact absurd h (payloadFault?_ne_overlap _ _ _ _ _ _)
  · rintro ⟨hvalid, h⟩
    exact Or.inr ⟨hvalid, Or.inl h⟩

/-- Fields that are found to overlap share the first bit of the second. -/
theorem overlapping_of_overlapFault? {schema label first second : String} {fields : List Field}
    (haddressable : ∀ field ∈ fields, field.Addressable)
    (hvalid : ∀ field ∈ fields, field.Valid)
    (h : overlapFault? schema fields = some (.overlap label first second)) :
    label = schema ∧ Overlapping fields first second := by
  obtain ⟨⟨a, b⟩, hfound, heq⟩ := Option.map_eq_some_iff.mp h
  obtain ⟨rfl, rfl, rfl⟩ := SchemaError.overlap.inj heq
  obtain ⟨⟨rest, hperm⟩, hle, hlt⟩ :=
    exists_of_overlapping?_byOffset_eq_some haddressable hfound
  have hb : b.offset < b.reach := (hvalid b (hperm.mem_iff.mpr (by simp))).offset_lt_reach
  refine ⟨rfl, a, b, rest, hperm, rfl, rfl, b.offset, ?_, ?_⟩
  · exact (a.covers_iff _).mpr ⟨hle, hlt⟩
  · exact (b.covers_iff _).mpr ⟨Nat.le_refl _, hb⟩

/-- Among valid fields two of which share a bit an overlap is found. -/
theorem exists_overlapFault? (schema : String) {fields : List Field}
    (haddressable : ∀ field ∈ fields, field.Addressable)
    (hvalid : ∀ field ∈ fields, field.Valid) (h : ¬ fields.Pairwise Field.Disjoint) :
    ∃ first second, overlapFault? schema fields = some (.overlap schema first second) := by
  rw [← overlapFault?_eq_none_iff schema haddressable hvalid] at h
  obtain ⟨fault, hfault⟩ := Option.ne_none_iff_exists'.mp h
  obtain ⟨⟨a, b⟩, -, rfl⟩ := Option.map_eq_some_iff.mp hfault
  exact ⟨a.name, b.name, hfault⟩

/-! ### Schemas -/

namespace Schema

variable (type : MessageType) (name : String) (fields : List Field) (size : Nat)
  (format : WireFormat)

/-- A layout is refused for what its checks find. -/
theorem ofFields_eq_error_iff (fault : SchemaError) :
    ofFields type name fields size format = .error fault ↔
      layoutFault? name size fields = some fault := by
  unfold ofFields
  split
  · next h => simp [h]
  · next other h => simp [h]

/-- A layout is accepted if they find nothing, and makes up the schema as it
is. -/
theorem ofFields_eq_ok_iff (schema : Schema) :
    ofFields type name fields size format = .ok schema ↔
      ∃ h : layoutFault? name size fields = none,
        { type, name, fields, size, format, accepted := h } = schema := by
  unfold ofFields
  split
  · next h => simp [h]
  · next fault h => simp [h]

/-- A layout is accepted exactly if it is well-formed. -/
theorem exists_ofFields_eq_ok_iff (haddressable : SensorGateway.Addressable size fields) :
    (∃ schema, ofFields type name fields size format = .ok schema) ↔ WellFormed size fields := by
  simp only [ofFields_eq_ok_iff, exists_comm (α := Schema), exists_eq', exists_prop, and_true,
    layoutFault?_eq_none_iff name haddressable]

end Schema

/-- Let the ends of all fields, and the size of the payload in bits, be
numbers of 64 bits. Then a schema is made of exactly the well-formed layouts,
and has the fields in the order in which they were given. An overlap is
reported exactly where all fields are valid and some share a bit, and the two
fields it names do. -/
theorem ofFields_wellFormed (type : MessageType) (name : String) (fields : List Field)
    (size : Nat) (format : WireFormat) (haddressable : Addressable size fields) :
    ((∃ schema, Schema.ofFields type name fields size format = .ok schema) ↔
      WellFormed size fields) ∧
    (∀ schema, Schema.ofFields type name fields size format = .ok schema →
      schema.type = type ∧ schema.name = name ∧ schema.fields = fields ∧ schema.size = size ∧
        schema.format = format ∧ schema.strictSize = false ∧ schema.construction = .both) ∧
    ((∃ label first second,
        Schema.ofFields type name fields size format = .error (.overlap label first second)) ↔
      (∀ field ∈ fields, field.Valid) ∧ ¬ fields.Pairwise Field.Disjoint) ∧
    (∀ label first second,
      Schema.ofFields type name fields size format = .error (.overlap label first second) →
        label = name ∧ Overlapping fields first second) := by
  simp only [Schema.ofFields_eq_error_iff, layoutFault?_eq_some_overlap_iff]
  refine ⟨?_, ?_, ?_, ?_⟩
  · exact Schema.exists_ofFields_eq_ok_iff type name fields size format haddressable
  · intro schema h
    obtain ⟨-, rfl⟩ := (Schema.ofFields_eq_ok_iff type name fields size format schema).mp h
    exact ⟨rfl, rfl, rfl, rfl, rfl, rfl, rfl⟩
  · constructor
    · rintro ⟨label, first, second, hvalid, hfault⟩
      refine ⟨hvalid, ?_⟩
      intro hdisjoint
      rw [(overlapFault?_eq_none_iff name haddressable.ends hvalid).mpr hdisjoint] at hfault
      cases hfault
    · rintro ⟨hvalid, hshared⟩
      obtain ⟨first, second, hfault⟩ := exists_overlapFault? name haddressable.ends hvalid hshared
      exact ⟨name, first, second, hvalid, hfault⟩
  · rintro label first second ⟨hvalid, hfault⟩
    exact overlapping_of_overlapFault? haddressable.ends hvalid hfault

/-- Two fields, declared out of the order of their bits. -/
def scattered : List Field :=
  [{ name := "tail", offset := 24, width := 8 },
    { name := "part_low", offset := 8, width := 8, role := .lowPart }]

/-- The same fields behind one that covers them. After sorting only one of
them is its neighbour. -/
def covered : List Field := { name := "whole", offset := 0, width := 32 } :: scattered

/-- The first list makes up a schema as it is, the second one is refused. -/
theorem ofFields_wellFormed_scattered :
    (∃ schema, Schema.ofFields 0x40 "Scattered" scattered 4 .current = .ok schema ∧
      schema.fields = scattered) ∧
    WellFormed 4 scattered ∧
    Schema.ofFields 0x40 "Covered" covered 4 .current =
      .error (.overlap "Covered" "whole" "part_low") ∧
    Overlapping covered "whole" "part_low" := by
  obtain ⟨haccepted, hkept, -, -⟩ :=
    ofFields_wellFormed 0x40 "Scattered" scattered 4 .current ⟨by decide, by decide⟩
  obtain ⟨-, -, -, hshared⟩ :=
    ofFields_wellFormed 0x40 "Covered" covered 4 .current ⟨by decide, by decide⟩
  have hfaultless : layoutFault? "Scattered" 4 scattered = none :=
    layoutFault?_eq_none scattered.reverse (by decide) (by decide) (by decide) (by decide)
      (by decide)
  have hok := Schema.ofFields_eq_ok 0x40 .current hfaultless
  have hsorted : byOffset covered = { name := "whole", offset := 0, width := 32 } ::
      scattered.reverse := byOffset_eq (by decide) (by decide)
  have hrefused : Schema.ofFields 0x40 "Covered" covered 4 .current =
      .error (.overlap "Covered" "whole" "part_low") := by
    rw [Schema.ofFields_eq_error_iff, layoutFault?, overlapFault?, hsorted]
    decide
  exact ⟨⟨_, hok, (hkept _ hok).2.2.1⟩, haccepted.mp ⟨_, hok⟩, hrefused,
    (hshared _ _ _ hrefused).2⟩

end SensorGateway
