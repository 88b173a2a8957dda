import SensorGateway.Proofs.Record.Partial
import SensorGateway.Schema.Description

/-!
# `SensorGateway.Proofs.Record.Opening`: how every record opens

A record opens with the time of receipt, the time of production and the
device. No pass of the decoder moves these three keys, whatever a layout
names its fields: insertions only ever append to the keys.

The value under the first of them is another matter. A field may not be
called `timestamp`, but the words of a split value may be called
`timestamp_low` and `timestamp_high`, and their value then goes under the
key that is there already.

* `decode_opening`: the three keys open every record. The first has the
  time of receipt, unless the layout has a split value of that name; then
  it has the split value of the words that were read.
* `exists_receipt_overwritten`: a described message whose records have the
  time of receipt nowhere.
-/

set_option autoImplicit false

namespace SensorGateway

namespace Record

/-! ### Keys stay where they are -/

/-- An insertion only appends to the keys. -/
theorem keys_prefix_insert (record : Record) (key : String) (value : Value) :
    record.keys <+: (record.insert key value).keys := by
  rw [keys_insert]
  split
  · exact List.prefix_rfl
  · exact List.prefix_append _ _

theorem keys_prefix_insertElement (frame : Frame) (record : Record) (element : Element) :
    record.keys <+: (record.insertElement frame element).keys := by
  unfold insertElement
  split
  · exact record.keys_prefix_insert _ _
  · exact List.prefix_rfl

theorem keys_prefix_insertMerged (record : Record) (base : String) :
    record.keys <+: (record.insertMerged base).keys := by
  unfold insertMerged
  split
  · exact record.keys_prefix_insert _ _
  · exact List.prefix_rfl

/-- So does any row of steps each of which does. -/
theorem keys_prefix_foldl {α : Type} {step : Record → α → Record}
    (hstep : ∀ record x, record.keys <+: (step record x).keys) (xs : List α) (record : Record) :
    record.keys <+: (xs.foldl step record).keys := by
  induction xs generalizing record with
  | nil => exact List.prefix_rfl
  | cons x xs ih => exact (hstep record x).trans (ih (step record x))

/-! ### The split value of a name -/

/-- Inserting a split value gives its name the value of the words in the
record, if one of them is there. -/
theorem get?_insertMerged_self (record : Record) (base : String) :
    (record.insertMerged base).get? base =
      ((mergeWords? (record.int64? (base ++ lowSuffix))
        (record.int64? (base ++ highSuffix))).map Value.int).or (record.get? base) := by
  unfold insertMerged
  split
  · next n hmerged => rw [get?_insert_self, hmerged, Option.map_some, Option.some_or]
  · next hmerged => rw [hmerged, Option.map_none, Option.none_or]

/-- Among split values none of which is a word of this one, the words that
count are those of the record before the first of them was inserted. -/
theorem get?_foldl_insertMerged_of_mem {bases : List String} {base : String}
    (hnodup : bases.Nodup) (hmem : base ∈ bases) (hlow : base ++ lowSuffix ∉ bases)
    (hhigh : base ++ highSuffix ∉ bases) (record : Record) :
    (bases.foldl insertMerged record).get? base =
      ((mergeWords? (record.int64? (base ++ lowSuffix))
        (record.int64? (base ++ highSuffix))).map Value.int).or (record.get? base) := by
  obtain ⟨before, after, rfl⟩ := List.append_of_mem hmem
  have hafter : base ∉ after := (List.nodup_cons.mp (List.nodup_append.mp hnodup).2.1).1
  have hbefore : base ∉ before := fun hin =>
    (List.nodup_append.mp hnodup).2.2 base hin base (by simp) rfl
  -- The split values in front change neither the words nor the value.
  have hsame : ∀ key ∉ before, (before.foldl insertMerged record).get? key = record.get? key :=
    fun key hkey => get?_foldl_insertMerged_of_notMem hkey record
  rw [List.foldl_append, List.foldl_cons, get?_foldl_insertMerged_of_notMem hafter,
    get?_insertMerged_self, hsame base hbefore,
    int64?_congr (hsame _ fun hin => hlow (List.mem_append_left _ hin)),
    int64?_congr (hsame _ fun hin => hhigh (List.mem_append_left _ hin))]

end Record

/-! ### Described messages -/

/-- A message whose fields make an accepted layout has a schema. -/
theorem MessageDescription.schema_eq_ok {description : MessageDescription}
    (h : layoutFault? description.name description.size
      (description.fields.map FieldDescription.field) = none) :
    description.schema = .ok {
      type := description.type
      name := description.name
      fields := description.fields.map FieldDescription.field
      size := description.size
      format := description.format
      strictSize := description.strictSize
      construction := description.construction
      accepted := h } := by
  rw [schema, Schema.ofFields_eq_ok _ _ h]
  rfl

namespace Schema

/-! ### Whole records -/

/-- The reserved keys open the record that the passes of the decoder
leave. -/
theorem reservedNames_prefix_readings (schema : Schema) (frame : Frame) (receipt : Int) :
    reservedNames <+: (schema.readings frame receipt).keys := by
  rw [← keys_seed receipt]
  exact (Record.keys_prefix_foldl (Record.keys_prefix_insertElement frame) _ _).trans
    (Record.keys_prefix_foldl Record.keys_prefix_insertMerged _ _)

/-- No element has the key `timestamp`. -/
theorem get?_timestamp_elements (schema : Schema) (frame : Frame) (receipt : Int) :
    (schema.elements.foldl (Record.insertElement frame) (seed receipt)).get? timestampKey =
      some (.int receipt) := by
  have hother : ∀ element ∈ schema.elements, element.key ≠ timestampKey := by
    intro element hmem heq
    exact schema.key_notMem_reservedNames hmem (heq ▸ by decide)
  rw [Record.get?_foldl_insertElement_of_notMem frame hother]
  rfl

/-- What stands under `timestamp` was put there before time and device were
derived. -/
theorem get?_timestamp_decode {schema : Schema} {frame : Frame} {receipt : Int}
    {device : Option Int} {record : Record}
    (h : schema.decode frame receipt device = .ok record) :
    record.get? timestampKey =
      ((schema.readings frame receipt).get? timestampKey).map Value.nullNaN := by
  have htime : timestampKey ≠ generationTimeKey := by decide
  have hdevice : timestampKey ≠ deviceIdKey := by decide
  rw [eq_of_decode_eq_ok h, Record.get?_nullNaNs, derive, Record.get?_insert_of_ne _ _ hdevice,
    Record.get?_insert_of_ne _ _ htime]

/-- Every record opens with the three reserved keys, and has them once. The
time of receipt stands under the first of them if no split value is called
`timestamp`. If one is, and its words are no split values themselves, then
the time of receipt stands there only where neither word was read, and the
split value where one was. -/
theorem decode_opening {schema : Schema} {frame : Frame} {receipt : Int} {device : Option Int}
    {record : Record} (h : schema.decode frame receipt device = .ok record) :
    reservedNames <+: record.keys ∧ record.keys.Nodup ∧
    (timestampKey ∉ schema.mergedNames → record.get? timestampKey = some (.int receipt)) ∧
    (timestampKey ∈ schema.mergedNames →
      timestampKey ++ lowSuffix ∉ schema.mergedNames →
      timestampKey ++ highSuffix ∉ schema.mergedNames →
      record.get? timestampKey =
        some (.int ((mergeWords? (record.int64? (timestampKey ++ lowSuffix))
          (record.int64? (timestampKey ++ highSuffix))).getD receipt))) := by
  have hopening := schema.reservedNames_prefix_readings frame receipt
  refine ⟨?_, record.nodup_keys, ?_, ?_⟩
  · rw [eq_of_decode_eq_ok h, Record.keys_nullNaNs,
      schema.keys_derive _ _ fun name hname => hopening.subset hname]
    exact hopening
  · intro hbase
    rw [get?_timestamp_decode h, readings, Record.get?_foldl_insertMerged_of_notMem hbase,
      schema.get?_timestamp_elements]
    rfl
  · intro hbase hlow hhigh
    obtain ⟨hlow', hhigh'⟩ := part_notMem_reservedNames timestampKey
    rw [get?_timestamp_decode h, readings,
      Record.get?_foldl_insertMerged_of_mem schema.nodup_mergedNames hbase hlow hhigh,
      schema.get?_timestamp_elements, int64?_decode_of_notMem h hlow' hlow,
      int64?_decode_of_notMem h hhigh' hhigh]
    cases mergeWords? _ _ <;> rfl

/-- A record of the probe opens with its time of receipt. -/
theorem decode_opening_probe :
    ∃ record, probe.decode probeFrame 5000 none = .ok record ∧ reservedNames <+: record.keys ∧
      record.get? timestampKey = some (.int 5000) := by
  have hok := probe.decode_eq_ok probeFrame 5000 none rfl (by decide)
  obtain ⟨hopening, -, htime, -⟩ := decode_opening hok
  exact ⟨_, hok, hopening, htime (by decide)⟩

/-- A message with one field, whose name makes it the low word of a split
value. -/
def stopwatch : MessageDescription where
  name := "Stopwatch"
  type := 0x20
  size := 2
  fields := [{ name := "Timestamp_Low", offset := 0, width := 16 }]

/-- It is accepted, and a record that was received at 1000 says 9. -/
theorem exists_receipt_overwritten :
    ∃ schema record, stopwatch.schema = .ok schema ∧
      schema.decode (Frame.ofBytes [0x00, 0x09]) 1000 none = .ok record ∧
      record.get? timestampKey = some (.int 9) := by
  have haccepted : layoutFault? stopwatch.name stopwatch.size
      (stopwatch.fields.map FieldDescription.field) = none :=
    layoutFault?_eq_none [{ name := "timestamp_low", offset := 0, width := 16, role := .lowPart }]
      (by decide) (by decide) (by decide) (by decide) (by decide)
  exact ⟨_, _, stopwatch.schema_eq_ok haccepted, rfl, rfl⟩

end Schema

end SensorGateway
