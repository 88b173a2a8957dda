import SensorGateway.Proofs.Record.Partial

/-!
# `SensorGateway.Proofs.Record.Retrieval`: readings that share a key

The checks of a layout compare bits, not names. Two fields may have one
name, and a field of one element may be called like an element of an
array. Their readings then share a key, and a record keeps one of them.

* `Field.SharesKey` says of which fields this is so, and
  `nodup_keys_iff` that there are no other ways to share a key.
* `decode_covering`: of a frame that covers all fields, a record has under
  every key the reading that was declared last, so a reading is lost
  exactly to a later one with the same key.
* `exists_reading_lost`: a layout of two fields that differ only in the
  case of their names.
-/

set_option autoImplicit false

namespace SensorGateway

/-! ### Fields with a common key -/

/-- Elements of the two fields have a common key: the fields are two single
elements or two arrays of one name, or one of them is a single element that
is named like an element of the other. -/
def Field.SharesKey (a b : Field) : Prop :=
  match a.array, b.array with
  | none, some count => ∃ index < count, a.name = (b.elementAt index).key
  | some count, none => ∃ index < count, (a.elementAt index).key = b.name
  | _, _ => a.name = b.name

/-- The keys of a single field are different. -/
theorem Field.nodup_keys (field : Field) : (field.elements.map Element.key).Nodup := by
  unfold elements
  cases field.array with
  | none => exact List.nodup_singleton _
  | some count =>
    rw [List.map_map]
    exact List.nodup_range.map fun i j h => (elementAt_key_inj h).2

/-- Sound fields share a key exactly when two of their elements do. -/
theorem Field.Sound.sharesKey_iff {a b : Field} (ha : a.Sound) (hb : b.Sound) :
    a.SharesKey b ↔ ∃ x ∈ a.elements, ∃ y ∈ b.elements, x.key = y.key := by
  have hane := ha.array_ne
  have hbne := hb.array_ne
  unfold SharesKey elements
  cases harray : a.array with
  | none =>
    cases hbarray : b.array with
    | none => simp
    | some count => simp
  | some count =>
    cases hbarray : b.array with
    | none => simp
    | some count' =>
      simp only [List.mem_map, List.mem_range]
      constructor
      · -- Arrays of one name share the keys of their first elements.
        intro hname
        have hcount : 0 < count := Nat.pos_of_ne_zero fun h => hane (by rw [harray, h])
        have hcount' : 0 < count' := Nat.pos_of_ne_zero fun h => hbne (by rw [hbarray, h])
        exact ⟨_, ⟨0, hcount, rfl⟩, _, ⟨0, hcount', rfl⟩, by simp [elementAt, hname]⟩
      · rintro ⟨_, ⟨i, -, rfl⟩, _, ⟨j, -, rfl⟩, hkey⟩
        exact (elementAt_key_inj hkey).1

namespace Schema

/-- The elements of a schema have different keys exactly when no two of its
fields share one. -/
theorem nodup_keys_iff (schema : Schema) :
    (schema.elements.map Element.key).Nodup ↔
      schema.fields.Pairwise fun a b => ¬ a.SharesKey b := by
  rw [elements, List.map_flatMap, List.nodup_flatMap]
  constructor
  · rintro ⟨-, hdisjoint⟩
    refine hdisjoint.imp_of_mem ?_
    intro a b ha hb h hshares
    obtain ⟨x, hx, y, hy, hkey⟩ :=
      ((schema.sound_of_mem_fields ha).sharesKey_iff (schema.sound_of_mem_fields hb)).mp hshares
    exact h (List.mem_map_of_mem hx) (hkey ▸ List.mem_map_of_mem hy)
  · intro hshares
    refine ⟨fun field _ => field.nodup_keys, hshares.imp_of_mem ?_⟩
    intro a b ha hb h key hka hkb
    obtain ⟨x, hx, rfl⟩ := List.mem_map.mp hka
    obtain ⟨y, hy, hkey⟩ := List.mem_map.mp hkb
    exact h (((schema.sound_of_mem_fields ha).sharesKey_iff (schema.sound_of_mem_fields hb)).mpr
      ⟨x, hx, y, hy, hkey.symm⟩)

/-! ### Frames that cover all fields -/

/-- A frame that covers all fields covers all elements. -/
theorem element_endBit_le_of_forall (schema : Schema) {frame : Frame}
    (hcovers : ∀ field ∈ schema.fields, field.reach ≤ frame.bitLength) {element : Element}
    (h : element ∈ schema.elements) : element.endBit ≤ frame.bitLength := by
  obtain ⟨field, hfield, helement⟩ := List.mem_flatMap.mp h
  exact Nat.le_trans (Field.endBit_le_of_mem_elements helement) (hcovers field hfield)

/-- A frame that covers all fields is read, unless the schema is for
building frames only or insists on another size. Under every key of an
element that is not the name of a split value, the record has what the bits
of the last element with that key denote. Nothing is lost in this way
exactly when no two fields share a key. -/
theorem decode_covering (schema : Schema) (frame : Frame) (receipt : Int) (device : Option Int)
    (hdecode : schema.construction.canDecode = true)
    (hsize : schema.strictSize = true → frame.length = schema.size)
    (hcovers : ∀ field ∈ schema.fields, field.reach ≤ frame.bitLength) :
    (∃ record, schema.decode frame receipt device = .ok record ∧
      ∀ before element after, schema.elements = before ++ element :: after →
        (∀ later ∈ after, later.key ≠ element.key) → element.key ∉ schema.mergedNames →
        record.get? element.key = some (element.denotation frame.bytes)) ∧
    ((schema.elements.map Element.key).Nodup ↔
      schema.fields.Pairwise fun a b => ¬ a.SharesKey b) := by
  have hok := schema.decode_eq_ok frame receipt device hdecode hsize
  refine ⟨⟨_, hok, ?_⟩, schema.nodup_keys_iff⟩
  intro before element after helements hlast hbase
  have hmem : element ∈ schema.elements := by
    rw [helements]
    simp
  have hsound := schema.sound_of_mem_elements hmem
  have hend := schema.element_endBit_le_of_forall hcovers hmem
  have hread : element.read? frame =
      some (element.value (frame.bytes.number element.offset element.width)) := by
    have hfits : element.fits frame = true := decide_eq_true hend
    rw [hsound.read?_eq frame, if_pos hfits]
  rw [get?_decode_of_notMem hok (schema.key_notMem_reservedNames hmem) hbase, helements,
    Record.get?_foldl_insertElement_of_last frame hread hlast, Option.map_some,
    hsound.nullNaN_value hend]

/-- An array, and a field that is named like one of its elements. -/
def shadowed : Schema where
  type := 0x22
  name := "Shadowed"
  fields := [
    { name := "probe", offset := 0, width := 8, array := some 2 },
    { name := "probe[1]", offset := 16, width := 8, type := .signed }]
  size := 3
  format := .current
  accepted := layoutFault?_eq_none
    [{ name := "probe", offset := 0, width := 8, array := some 2 },
      { name := "probe[1]", offset := 16, width := 8, type := .signed }]
    (by decide) (by decide) (by decide) (by decide) (by decide)

/-- The first element of the array is found, and the field in place of the
second one. -/
theorem decode_covering_shadowed :
    ∃ record, shadowed.decode (Frame.ofBytes [7, 8, 0xFF]) 5000 none = .ok record ∧
      record.get? "probe[0]" = some (.uint 7) ∧ record.get? "probe[1]" = some (.int (-1)) := by
  obtain ⟨⟨record, hok, hget⟩, -⟩ := decode_covering shadowed (Frame.ofBytes [7, 8, 0xFF]) 5000 none
    rfl (by decide) (by decide)
  refine ⟨record, hok, ?_, ?_⟩
  · exact hget [] ⟨"probe[0]", 0, 8, .unsigned⟩
      [⟨"probe[1]", 8, 8, .unsigned⟩, ⟨"probe[1]", 16, 8, .signed⟩] rfl (by decide) (by decide)
  · exact hget [⟨"probe[0]", 0, 8, .unsigned⟩, ⟨"probe[1]", 8, 8, .unsigned⟩]
      ⟨"probe[1]", 16, 8, .signed⟩ [] rfl (by decide) (by decide)

/-- Two fields that are told apart by their bits, and by the case of their
names only. -/
def twins : List Field := [.named "Temp" 0 8 .unsigned, .named "temp" 8 8 .unsigned]

/-- They make an accepted layout, and of a frame that covers both a record
has the second one only. -/
theorem exists_reading_lost :
    ∃ schema record, Schema.ofFields 0x20 "Twins" twins 2 .current = .ok schema ∧
      schema.decode (Frame.ofBytes [1, 2]) 1000 none = .ok record ∧
      schema.elements = [⟨"temp", 0, 8, .unsigned⟩, ⟨"temp", 8, 8, .unsigned⟩] ∧
      schema.mergedNames = [] ∧
      Element.denotation [1, 2] ⟨"temp", 0, 8, .unsigned⟩ = .uint 1 ∧
      record.get? "temp" = some (.uint 2) := by
  have haccepted : layoutFault? "Twins" 2 twins = none :=
    layoutFault?_eq_none twins (List.Perm.refl _) (by decide) (by decide) (by decide) (by decide)
  exact ⟨_, _, ofFields_eq_ok 0x20 .current haccepted, rfl, rfl, rfl, rfl, rfl⟩

end Schema

end SensorGateway
