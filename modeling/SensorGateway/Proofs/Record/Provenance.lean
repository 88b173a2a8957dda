import SensorGateway.Proofs.Record.Partial
import SensorGateway.Proofs.Record.Words

/-!
# `SensorGateway.Proofs.Record.Provenance`: when and where messages come from

A record says when its message was produced and by which device. Both are
derived from other entries of the same record: the device's clock and the
device's name, which stand under the first field with that role, or under a
fixed key if no field has it. What is found there may be an element, a split
value, or nothing.

* `Schema.HeaderKey`: the key that decides, said of the list of fields.
* `generationTime_eq`, `generationTime_anti`: the time of production is the time
  of receipt less the clock, and falls when the clock rises.
* `int64?_of_cutOff`: what ends past the window of a frame is not found.
* `decode_provenance`: both derived entries of every record.
-/

set_option autoImplicit false

namespace SensorGateway

/-! ### The time of production -/

/-- Where the clock in milliseconds fits into 64 bits, the time of production is
the exact difference, clamped. -/
theorem generationTime_eq (receipt : Int) {seconds : Int} (h : InInt64 (1000 * seconds)) :
    generationTime receipt (some seconds) = clampInt64 (receipt - 1000 * seconds) := by
  show clampInt64 (receipt - clampInt64 (seconds * 1000)) = _
  rw [Int.mul_comm seconds, clampInt64_of_inInt64 h]

/-- The later the clock, the earlier the time of production, over the whole
range. -/
theorem generationTime_anti (receipt : Int) {seconds later : Int} (h : seconds ≤ later) :
    generationTime receipt (some later) ≤ generationTime receipt (some seconds) := by
  show clampInt64 (receipt - clampInt64 (later * 1000)) ≤
    clampInt64 (receipt - clampInt64 (seconds * 1000))
  have hclock := clampInt64_mono (Int.mul_le_mul_of_nonneg_right h (show (0 : Int) ≤ 1000 by decide))
  exact clampInt64_mono (by omega)

namespace Schema

/-! ### Where the header is found -/

/-- The key under which the header value of a role stands: the name of the first
field with the role, or a fixed key if no field has it. -/
inductive HeaderKey (schema : Schema) (role : Role) (fixed : String) : String → Prop where
  | named {before after : List Field} {field : Field}
    (hfields : schema.fields = before ++ field :: after)
    (hbefore : ∀ earlier ∈ before, earlier.role ≠ role) (hrole : field.role = role) :
    HeaderKey schema role fixed field.name
  | unnamed (hfields : ∀ field ∈ schema.fields, field.role ≠ role) :
    HeaderKey schema role fixed fixed

/-- It is the key that the search for the role finds. -/
theorem headerKey_iff (schema : Schema) (role : Role) (fixed key : String) :
    schema.HeaderKey role fixed key ↔
      ((schema.fieldWithRole? role).map Field.name).getD fixed = key := by
  unfold fieldWithRole?
  constructor
  · intro h
    cases h with
    | @named before after field hfields hbefore hrole =>
      have hfind : schema.fields.find? (fun field => field.role == role) = some field := by
        refine List.find?_eq_some_iff_append.mpr ⟨by simpa using hrole, before, after, hfields, ?_⟩
        intro earlier hearlier
        simpa using hbefore earlier hearlier
      rw [hfind, Option.map_some, Option.getD_some]
    | unnamed hfields =>
      have hfind : schema.fields.find? (fun field => field.role == role) = none := by
        rw [List.find?_eq_none]
        intro field hfield
        simpa using hfields field hfield
      rw [hfind, Option.map_none, Option.getD_none]
  · rintro rfl
    cases hfind : schema.fields.find? (fun field => field.role == role) with
    | none =>
      refine .unnamed ?_
      intro field hfield
      simpa using List.find?_eq_none.mp hfind field hfield
    | some field =>
      obtain ⟨hrole, before, after, hfields, hbefore⟩ := List.find?_eq_some_iff_append.mp hfind
      refine .named hfields ?_ (by simpa using hrole)
      intro earlier hearlier
      simpa using hbefore earlier hearlier

/-- The decoder looks under this key. -/
theorem HeaderKey.headerValue?_eq {schema : Schema} {role : Role} {fixed key : String}
    (h : schema.HeaderKey role fixed key) (record : Record) :
    schema.headerValue? record role fixed = record.int64? key := by
  rw [headerValue?, (schema.headerKey_iff role fixed key).mp h]

/-- It is none of the keys that open every record, because no field has one of
these for a name. -/
theorem HeaderKey.notMem_reservedNames {schema : Schema} {role : Role} {fixed key : String}
    (h : schema.HeaderKey role fixed key) (hfixed : fixed ∉ reservedNames) :
    key ∉ reservedNames := by
  cases h with
  | @named before after field hfields _ _ =>
    have hmem : field ∈ schema.fields := by
      rw [hfields]
      exact List.mem_append_right before List.mem_cons_self
    exact (schema.sound_of_mem_fields hmem).name_notMem
  | unnamed _ => exact hfixed

/-! ### Whole records -/

/-- Under a key that is not reserved, a decoded record has the integer that the
elements and split values left there. -/
theorem int64?_decode_eq_readings {schema : Schema} {frame : Frame} {receipt : Int}
    {device : Option Int} {record : Record}
    (h : schema.decode frame receipt device = .ok record) {key : String}
    (hkey : key ∉ reservedNames) :
    record.int64? key = (schema.readings frame receipt).int64? key := by
  rw [eq_of_decode_eq_ok h, Record.int64?_nullNaNs]
  exact Record.int64?_congr (schema.get?_derive_of_notMem receipt device _ hkey)

/-- The time of production of a decoded record, by the integer under the key of
the clock. -/
theorem get?_generationTime_decode {schema : Schema} {frame : Frame} {receipt : Int}
    {device : Option Int} {record : Record}
    (h : schema.decode frame receipt device = .ok record) {clock : String}
    (hclock : schema.HeaderKey .headerTimestamp clockKey clock) :
    record.get? generationTimeKey = some (.int (generationTime receipt (record.int64? clock))) := by
  have hreserved : clock ∉ reservedNames := hclock.notMem_reservedNames (by decide)
  have hne : generationTimeKey ≠ deviceIdKey := by decide
  rw [int64?_decode_eq_readings h hreserved, eq_of_decode_eq_ok h, Record.get?_nullNaNs, derive,
    Record.get?_insert_of_ne _ _ hne, Record.get?_insert_self, hclock.headerValue?_eq]
  rfl

/-- The device of a decoded record, by the integer under the key of the origin.
That the time was inserted before changes nothing there. -/
theorem get?_deviceId_decode {schema : Schema} {frame : Frame} {receipt : Int}
    {device : Option Int} {record : Record}
    (h : schema.decode frame receipt device = .ok record) {origin : String}
    (horigin : schema.HeaderKey .headerOrigin originKey origin) :
    record.get? deviceIdKey =
      some ((((record.int64? origin).or device).map Value.int).getD .null) := by
  have hreserved : origin ∉ reservedNames := horigin.notMem_reservedNames (by decide)
  have hne : origin ≠ generationTimeKey := fun heq => hreserved (heq ▸ by decide)
  rw [int64?_decode_eq_readings h hreserved, eq_of_decode_eq_ok h, Record.get?_nullNaNs, derive,
    Record.get?_insert_self, horigin.headerValue?_eq,
    Record.int64?_congr (Record.get?_insert_of_ne _ _ hne)]
  cases ((schema.readings frame receipt).int64? origin).or device <;> rfl

/-- An element that ends past the window is not found, if nothing else uses its
key. -/
theorem int64?_of_cutOff {schema : Schema} {frame : Frame} {receipt : Int} {device : Option Int}
    {record : Record} (h : schema.decode frame receipt device = .ok record)
    (hkeys : (schema.elements.map Element.key).Nodup) {element : Element}
    (hmem : element ∈ schema.elements) (hbase : element.key ∉ schema.mergedNames)
    (hcut : frame.bitLength < element.endBit) : record.int64? element.key = none := by
  rw [Record.int64?, get?_decode_of_nodup h hkeys hmem hbase, if_neg (Nat.not_le.mpr hcut)]
  rfl

/-- When and where a message comes from, for every layout and every frame.

The time of production is the time of receipt if there is no integer of 64 bits
under the key of the clock. If there is one, it is the time of receipt less a
thousand times the clock: exactly so, clamped to 64 bits, wherever the product
fits into 64 bits, inside 64 bits whatever the clock says, and never later for
a later clock. The device is the integer under the key of the origin, or the
one that was passed on, or null. Where no two elements have the same key and
none has that of a split value, a clock or an origin that ends past the window
counts as not being there. -/
theorem decode_provenance {schema : Schema} {frame : Frame} {receipt : Int} {device : Option Int}
    {record : Record} (h : schema.decode frame receipt device = .ok record)
    (hreceipt : InInt64 receipt) :
    ∃ clock origin, schema.HeaderKey .headerTimestamp "header_atime" clock ∧
      schema.HeaderKey .headerOrigin "header_originatorid" origin ∧
      (record.int64? clock = none → record.get? "generation_time" = some (.int receipt)) ∧
      (∀ seconds, record.int64? clock = some seconds → InInt64 seconds ∧ ∃ time,
        record.get? "generation_time" = some (.int time) ∧ InInt64 time ∧
        (InInt64 (1000 * seconds) → time = clampInt64 (receipt - 1000 * seconds)) ∧
        ∀ (frame' : Frame) (device' : Option Int) (record' : Record) (later : Int),
          schema.decode frame' receipt device' = .ok record' → record'.int64? clock = some later →
          seconds ≤ later →
          ∃ time', record'.get? "generation_time" = some (.int time') ∧ time' ≤ time) ∧
      record.get? "device_id" =
        some ((((record.int64? origin).or device).map Value.int).getD .null) ∧
      ((schema.elements.map Element.key).Nodup →
        (∀ base ∈ schema.mergedNames, ∀ element ∈ schema.elements, element.key ≠ base) →
        ∀ element ∈ schema.elements, frame.bitLength < element.endBit →
          (element.key = clock → record.get? "generation_time" = some (.int receipt)) ∧
          (element.key = origin →
            record.get? "device_id" = some ((device.map Value.int).getD .null))) := by
  have hclock := (schema.headerKey_iff .headerTimestamp clockKey _).mpr rfl
  have horigin := (schema.headerKey_iff .headerOrigin originKey _).mpr rfl
  have htime := get?_generationTime_decode h hclock
  have hdevice := get?_deviceId_decode h horigin
  refine ⟨_, _, hclock, horigin, ?_, ?_, hdevice, ?_⟩
  · intro hnone
    rw [hnone] at htime
    exact htime
  · intro seconds hseconds
    have hreadings := hseconds
    rw [int64?_decode_eq_readings h (hclock.notMem_reservedNames (by decide))] at hreadings
    rw [hseconds] at htime
    refine ⟨(schema.ofWords_readings frame hreceipt).inInt64 hreadings, _, htime,
      inInt64_generationTime hreceipt _, generationTime_eq receipt, ?_⟩
    intro frame' device' record' later h' hlater hle
    have htime' := get?_generationTime_decode h' hclock
    rw [hlater] at htime'
    exact ⟨_, htime', generationTime_anti receipt hle⟩
  · intro hkeys hsplit element hmem hcut
    -- Nothing but the element could stand under its key, and it was not read.
    have hbase : element.key ∉ schema.mergedNames := fun hin => hsplit _ hin element hmem rfl
    have hnone := int64?_of_cutOff h hkeys hmem hbase hcut
    constructor
    · intro heq
      rw [← heq, hnone] at htime
      exact htime
    · intro heq
      rw [← heq, hnone, Option.none_or] at hdevice
      exact hdevice

/-- A layout with a clock in two words and an origin behind them. -/
def beacon : Schema where
  type := 0x26
  name := "Beacon"
  fields := [
    { name := "origin", offset := 32, width := 16, role := .headerOrigin },
    { name := "header_atime_high", offset := 0, width := 16, role := .highPart },
    { name := "header_atime_low", offset := 16, width := 16, role := .lowPart }]
  size := 6
  format := .current
  accepted := layoutFault?_eq_none
    [{ name := "header_atime_high", offset := 0, width := 16, role := .highPart },
      { name := "header_atime_low", offset := 16, width := 16, role := .lowPart },
      { name := "origin", offset := 32, width := 16, role := .headerOrigin }]
    (by decide) (by decide) (by decide) (by decide) (by decide)

/-- No field of the beacon has the role of a clock, so the split value counts.
The first five bytes hold it, and end before the origin does. -/
theorem decode_provenance_beacon :
    ∃ record, beacon.decode (Frame.ofBytes [0x00, 0x01, 0x00, 0x0A, 0x00]) 90000000 (some 7) =
        .ok record ∧
      InInt64 90000000 ∧ record.get? "generation_time" = some (.int 24454000) ∧
      record.get? "device_id" = some (.int 7) := by
  have hok := beacon.decode_eq_ok (Frame.ofBytes [0x00, 0x01, 0x00, 0x0A, 0x00]) 90000000 (some 7)
    rfl (by decide)
  obtain ⟨clock, origin, hclock, horigin, -, htime, -, hcut⟩ := decode_provenance hok (by decide)
  obtain rfl : "header_atime" = clock := (beacon.headerKey_iff _ _ _).mp hclock
  obtain rfl : "origin" = origin := (beacon.headerKey_iff _ _ _).mp horigin
  refine ⟨_, hok, by decide, ?_, ?_⟩
  · obtain ⟨-, time, hget, -, hexact, -⟩ := htime 65546 (by decide)
    rw [hget, hexact (by decide)]
    rfl
  · exact (hcut (by decide) (by decide) ⟨"origin", 32, 16, .unsigned⟩ (by decide) (by decide)).2 rfl

end Schema

end SensorGateway
