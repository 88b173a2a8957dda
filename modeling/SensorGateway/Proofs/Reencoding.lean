import SensorGateway.Proofs.Acceptance
import SensorGateway.Proofs.Command.Denotation
import SensorGateway.Proofs.Command.Encode
import SensorGateway.Proofs.Record.Partial
import SensorGateway.Proofs.Text.Decimal
import SensorGateway.Proofs.Text.Lowercase

/-!
# `SensorGateway.Proofs.Reencoding`: readings sent back

What was read of a device may be sent back to it: the integers of a record,
written in decimal, are texts that an operator could have given. The frame
that is built from them has the bits that were read, as far as an operator
sets them, and zeros everywhere else.

* `Field.rendered?` and `Schema.rendered?`: a record as parameters.
* `Element.Sound.bits_shown`: the text of an integer has the bits that the
  integer was read from, at every width and sign.
* `encode_decode`: the whole way, from a frame to a record and back.
* `exists_reading_refused`: parameters are found by the names of fields. If a
  single field and an array have the same name, their elements have different
  keys, and still no order of the parameters serves both.
-/

set_option autoImplicit false

namespace SensorGateway

/-! ### Records as parameters -/

/-- The values of a field as one text, with commas between the elements. -/
def Field.rendered? (field : Field) (record : Record) : Option String :=
  (field.elements.mapM fun element => (record.get? element.key).map Value.text).map
    (",".intercalate ·)

/-- The values of all settable fields under their names. -/
def Schema.rendered? (schema : Schema) (record : Record) : Option (List (String × String)) :=
  schema.settableFields.mapM fun field =>
    (field.rendered? record).map fun text => (field.name, text)

/-- A parameter is found if no other one has its name. The case of letters
plays no part where there are no capitals. -/
theorem Parameters.get?_of_mem {params : Parameters}
    (hcapitals : ∀ pair ∈ params.pairs, Text.NoCapitals pair.1)
    (hnodup : (params.pairs.map Prod.fst).Nodup) {name text : String}
    (hmem : (name, text) ∈ params.pairs) : params.get? name = some text := by
  have hname : Text.NoCapitals name := hcapitals _ hmem
  unfold get?
  cases hfind : params.pairs.find? fun pair => Text.sameIgnoringAsciiCase pair.1 name with
  | none =>
    have hself := (Text.sameIgnoringAsciiCase_iff hname hname).mpr rfl
    exact absurd hself (List.find?_eq_none.mp hfind _ hmem)
  | some pair =>
    have hin := List.mem_of_find?_eq_some hfind
    have hsame := List.find?_some hfind
    have heq : pair.1 = name := (Text.sameIgnoringAsciiCase_iff (hcapitals _ hin) hname).mp hsame
    rw [List.inj_on_of_nodup_map hnodup hin hmem heq]
    rfl

/-! ### Integers -/

namespace Element

/-- The value that the bits of an element denote, as a text. -/
def shown (frame : Frame) (element : Element) : String := (element.denotation frame.bytes).text

/-- The bits of an element in a frame. -/
def held (frame : Frame) (element : Element) : Assignment :=
  ⟨element, frame.bytes.number element.offset element.width⟩

/-- Neither a comma nor a blank stands in the text of an integer. -/
theorem plain_shown (frame : Frame) {element : Element}
    (htype : element.type = .unsigned ∨ element.type = .signed) :
    Text.Plain (element.shown frame) := by
  unfold shown denotation
  rcases htype with htype | htype
  · rw [htype]
    exact Text.plain_toString _
  · rw [htype]
    exact Text.plain_toString_int _

/-- The text of an integer has the bits that the integer was read from. -/
theorem Sound.bits_shown {element : Element} (hsound : element.Sound) (frame : Frame)
    (htype : element.type = .unsigned ∨ element.type = .signed) :
    element.bits (element.shown frame) = .ok (element.held frame).bits := by
  have hlt := frame.bytes.number_lt element.offset element.width
  unfold bits shown denotation
  rcases htype with htype | htype
  · rw [htype]
    exact (unsignedBits_eq_ok_iff hsound.width_le _ _).mpr ⟨Text.natural?_toString _, hlt⟩
  · -- Reading never leaves the range that writing asks for, at its ends either.
    obtain ⟨hrange, hbits⟩ := twosComplement_signed hsound.width_pos hlt
    rw [Frame.signed_number _ _ hsound.width_pos] at hrange hbits
    rw [htype]
    exact (signedBits_eq_ok_iff hsound.width_le _ _).mpr
      ⟨_, Text.integer?_toString _, hrange, hbits⟩

end Element

/-! ### Fields -/

namespace Field

/-- The values that the bits of a field denote, as one text. -/
def shown (frame : Frame) (field : Field) : String :=
  ",".intercalate (field.elements.map (Element.shown frame))

/-- A field whose elements a record has as they are in the frame. -/
theorem rendered?_eq {field : Field} {record : Record} {frame : Frame}
    (h : ∀ element ∈ field.elements,
      record.get? element.key = some (element.denotation frame.bytes)) :
    field.rendered? record = some (field.shown frame) := by
  have htexts : (field.elements.mapM fun element => (record.get? element.key).map Value.text) =
      some (field.elements.map (Element.shown frame)) := by
    refine List.mapM_eq_pure ?_
    intro element hmem
    rw [h element hmem]
    rfl
  rw [rendered?, htexts]
  rfl

/-- A field of integers takes its own text, and every element the bits that
it has in the frame. -/
theorem assignments_shown {field : Field} (hsound : field.Sound) (frame : Frame)
    (htype : field.type = .unsigned ∨ field.type = .signed) :
    field.assignments (field.shown frame) = .ok (field.elements.map (Element.held frame)) := by
  have helement : ∀ element ∈ field.elements,
      element.Sound ∧ (element.type = .unsigned ∨ element.type = .signed) := by
    intro element hmem
    obtain ⟨-, hsame⟩ := like_of_mem_elements hmem
    exact ⟨hsound.element hmem, by rwa [hsame]⟩
  have hlength : (field.elements.map (Element.shown frame)).length = field.count := by
    rw [List.length_map, length_elements]
  have hitems : field.items (field.shown frame) = field.elements.map (Element.shown frame) := by
    refine items_intercalate ?_ hlength ?_
    · have hpos := hsound.count_pos
      intro hnil
      rw [hnil, List.length_nil] at hlength
      omega
    · intro text hmem
      obtain ⟨element, hin, rfl⟩ := List.mem_map.mp hmem
      exact element.plain_shown frame (helement element hin).2
  -- So every element meets the text of its own bits.
  have hpairs : field.elements.zip (field.elements.map (Element.shown frame)) =
      field.elements.map fun element => (element, element.shown frame) :=
    List.map_prod_left_eq_zip.symm
  rw [assignments_eq_ok_iff, hitems, hpairs, List.forall₂_map_left_iff,
    List.forall₂_map_right_iff, List.forall₂_same]
  refine ⟨hlength, ?_⟩
  intro element hmem
  exact ⟨(helement element hmem).1.bits_shown frame (helement element hmem).2, rfl⟩

end Field

/-! ### Whole frames -/

namespace Schema

variable {schema : Schema} {frame : Frame}

/-- The record of a frame of the payload's size has every settable field as
it is in the frame, if each key is the key of one element only. -/
theorem rendered?_decode (hplaceable : schema.Placeable) {receipt : Int}
    {device : Option Int} {record : Record}
    (hdecode : schema.decode frame receipt device = .ok record)
    (hlength : frame.length = schema.size)
    (hkeys : (schema.elements.map Element.key).Nodup)
    (hbases : ∀ element ∈ schema.elements, element.key ∉ schema.mergedNames) :
    schema.rendered? record =
      some (schema.settableFields.map fun field => (field.name, field.shown frame)) := by
  refine List.mapM_eq_pure ?_
  intro field hmem
  obtain ⟨hfield, hsettable⟩ := List.mem_filter.mp hmem
  have hshown : field.rendered? record = some (field.shown frame) := by
    refine Field.rendered?_eq ?_
    intro element helement
    have hin : element ∈ schema.elements := List.mem_flatMap.mpr ⟨field, hfield, helement⟩
    -- What an operator sets lies inside the payload, so it was read.
    have hfits : element.endBit ≤ frame.bitLength := by
      rw [Frame.bitLength, hlength]
      exact element_endBit_le_of_settable hplaceable hfield hsettable helement
    have hunique : ∀ other ∈ schema.elements, other.key = element.key → other = element :=
      fun other hother hkey => List.inj_on_of_nodup_map hkeys hother hin hkey
    have hget := get?_decode_denotation hdecode hin hunique (hbases element hin)
    rw [hget, if_pos hfits]
  rw [hshown]
  rfl

/-- If every settable field is given its text in a frame, every element is
given the bits that it has there. -/
theorem assignments_shown {params : Parameters}
    (hintegers : ∀ field ∈ schema.settableFields, field.type = .unsigned ∨ field.type = .signed)
    (hget : ∀ field ∈ schema.settableFields,
      params.get? field.name = some (field.shown frame)) :
    schema.assignments params =
      .ok (schema.settableFields.map fun field => field.elements.map (Element.held frame)) := by
  refine List.mapM_eq_pure ?_
  intro field hmem
  have hsound := schema.sound_of_mem_fields (List.mem_filter.mp hmem).1
  refine (schema.fieldAssignments_eq_ok_iff params field _).mpr ⟨field.shown frame, ?_, ?_⟩
  · exact hget field hmem
  · exact field.assignments_shown hsound frame (hintegers field hmem)

/-- A frame of the payload's size with the bits that another one has in
settable fields. All other bits are zero. -/
structure Restores (schema : Schema) (frame payload : Frame) : Prop where
  length : payload.length = schema.size
  covered : ∀ field ∈ schema.settableFields, ∀ bit, field.Covers bit →
    payload.bytes.bit bit = frame.bytes.bit bit
  uncovered : ∀ bit, (∀ field ∈ schema.settableFields, ¬ field.Covers bit) →
    payload.bytes.bit bit = false

/-- A frame is built that has the bits of the settable fields. -/
theorem exists_restores (hplaceable : schema.Placeable) {params : Parameters}
    (hencode : schema.construction.canEncode = true)
    (hintegers : ∀ field ∈ schema.settableFields, field.type = .unsigned ∨ field.type = .signed)
    (hget : ∀ field ∈ schema.settableFields,
      params.get? field.name = some (field.shown frame)) :
    ∃ payload, schema.encode params = .ok payload ∧ schema.Restores frame payload := by
  have hgroups := assignments_shown hintegers hget
  have hok := (encode_eq_ok_iff hplaceable params _).mpr ⟨hencode, _, hgroups, rfl⟩
  refine ⟨_, hok, length_of_encode_eq_ok hok, ?_, ?_⟩
  · rintro field hmem bit ⟨element, helement, hin⟩
    have hbounded := addressable_of_mem_settableFields hplaceable hmem
    rw [← hbounded.elements_eq] at helement
    have hplaced : element.held frame ∈
        (schema.settableFields.map fun field =>
          field.elements.map (Element.held frame)).flatten :=
      List.mem_flatten.mpr
        ⟨_, List.mem_map_of_mem hmem, List.mem_map_of_mem helement⟩
    -- The bits of an element are as many as its width, so none is cut off.
    have hlt := frame.bytes.number_lt element.offset element.width
    have hnumber :=
      (number_of_assignments_eq_ok hplaceable hgroups hplaced).trans (Nat.mod_eq_of_lt hlt)
    exact Bytes.bit_eq_of_number_eq hnumber hin
  · intro bit hnone
    refine bit_of_encode_eq_ok hplaceable hok ?_
    intro element hmem hin
    obtain ⟨field, hfield, helement⟩ := List.mem_flatMap.mp hmem
    rw [(addressable_of_mem_settableFields hplaceable hfield).elements_eq] at helement
    exact hnone field hfield ⟨element, helement, hin⟩

/-- Reading a frame and sending its readings back. If settable fields end at numbers
of 64 bits and are integers with lower-case names, no two of the same name, and
every key of the schema belongs to one element and to no split value, then a
frame of the payload's size is read, the readings can be written down, and a
frame is built from them, in whatever order they are given. It has the size of the
payload, the bits of the first frame wherever a settable field lies, and
zeros everywhere else. -/
theorem encode_decode (schema : Schema) (frame : Frame) (receipt : Int) (device : Option Int)
    (hplaceable : schema.Placeable) (hboth : schema.construction = .both)
    (hintegers : ∀ field ∈ schema.settableFields, field.type = .unsigned ∨ field.type = .signed)
    (hlower : ∀ field ∈ schema.settableFields, ∃ raw, field.name = Text.lowercase raw)
    (hkeys : (schema.elements.map Element.key).Nodup)
    (hbases : ∀ element ∈ schema.elements, element.key ∉ schema.mergedNames)
    (hnames : (schema.settableFields.map Field.name).Nodup)
    (hlength : frame.length = schema.size) :
    ∃ record pairs, schema.decode frame receipt device = .ok record ∧
      schema.rendered? record = some pairs ∧
      ∀ params : Parameters, params.pairs.Perm pairs →
        ∃ payload, schema.encode params = .ok payload ∧ schema.Restores frame payload := by
  have hok := schema.decode_eq_ok frame receipt device (by rw [hboth]; rfl) fun _ => hlength
  refine ⟨_, _, hok, rendered?_decode hplaceable hok hlength hkeys hbases, ?_⟩
  intro params hperm
  -- The order of the parameters does not matter, since no two names are the same.
  have hcapitals : ∀ pair ∈ params.pairs, Text.NoCapitals pair.1 := by
    intro pair hmem
    obtain ⟨field, hfield, rfl⟩ := List.mem_map.mp (hperm.mem_iff.mp hmem)
    obtain ⟨raw, hraw⟩ := hlower field hfield
    show Text.NoCapitals field.name
    rw [hraw]
    exact Text.noCapitals_lowercase raw
  have hnodup : (params.pairs.map Prod.fst).Nodup := by
    refine (hperm.map Prod.fst).nodup_iff.mpr ?_
    rw [List.map_map]
    exact hnames
  have hget : ∀ field ∈ schema.settableFields,
      params.get? field.name = some (field.shown frame) := by
    intro field hmem
    exact Parameters.get?_of_mem hcapitals hnodup (hperm.mem_iff.mpr (List.mem_map_of_mem hmem))
  exact exists_restores hplaceable (by rw [hboth]; rfl) hintegers hget

/-- A layout with a signed array, a field that only the device sets, and a
byte that no field has. -/
def dial : Schema where
  type := 0x32
  name := "Dial"
  fields := [
    { name := "trim", offset := 16, width := 12, type := .signed, array := some 2 },
    { name := "mode", offset := 0, width := 3, settable := false },
    { name := "gain", offset := 3, width := 13 }]
  size := 6
  format := .current
  accepted := layoutFault?_eq_none
    [{ name := "mode", offset := 0, width := 3, settable := false },
      { name := "gain", offset := 3, width := 13 },
      { name := "trim", offset := 16, width := 12, type := .signed, array := some 2 }]
    (by decide) (by decide) (by decide) (by decide) (by decide)

/-- The largest gain, and the smallest and the largest trim. -/
def dialFrame : Frame := Frame.ofBytes [0xFF, 0xFF, 0x80, 0x07, 0xFF, 0xFF]

/-- Sent back, the readings restore what an operator sets. -/
theorem encode_decode_dial :
    ∃ record, dial.decode dialFrame 5000 none = .ok record ∧
      dial.rendered? record = some [("trim", "-2048,2047"), ("gain", "8191")] ∧
      ∃ payload, dial.encode ⟨[("gain", "8191"), ("trim", "-2048,2047")]⟩ = .ok payload ∧
        dial.Restores dialFrame payload := by
  obtain ⟨record, pairs, hdecode, hrendered, hencode⟩ :=
    encode_decode dial dialFrame 5000 none (by decide) rfl (by decide)
      (by
        intro field hmem
        refine ⟨field.name, ?_⟩
        revert field
        decide +kernel)
      (by decide) (by decide) (by decide) rfl
  have hpairs : dial.rendered? record = some [("trim", "-2048,2047"), ("gain", "8191")] := by
    obtain rfl := Except.ok.inj hdecode
    rfl
  obtain rfl := Option.some.inj (hrendered.symm.trans hpairs)
  exact ⟨record, hdecode, hpairs, hencode ⟨_⟩ (.swap _ _ _)⟩

/-! ### Names of fields -/

/-- A single field and an array of the same name. -/
def homonyms : Schema where
  type := 0x20
  name := "Homonyms"
  fields := [{ name := "x", offset := 0, width := 8 },
    { name := "x", offset := 8, width := 8, array := some 2 }]
  size := 3
  format := .current
  accepted := layoutFault?_eq_none
    [{ name := "x", offset := 0, width := 8 },
      { name := "x", offset := 8, width := 8, array := some 2 }]
    (by decide) (by decide) (by decide) (by decide) (by decide)

/-- A frame of theirs. -/
def homonymsFrame : Frame := Frame.ofBytes [5, 1, 2]

/-- Different keys are not enough. All elements of the two fields have keys of
their own and are read, but both fields are given the first parameter, which
is refused by one of them in either order. -/
theorem exists_reading_refused :
    homonyms.construction = .both ∧
    (∀ field ∈ homonyms.settableFields, field.type = .unsigned ∨ field.type = .signed) ∧
    (∀ field ∈ homonyms.settableFields, ∃ raw, field.name = Text.lowercase raw) ∧
    (homonyms.elements.map Element.key).Nodup ∧
    (∀ element ∈ homonyms.elements, element.key ∉ homonyms.mergedNames) ∧
    homonymsFrame.length = homonyms.size ∧
    ∃ record, homonyms.decode homonymsFrame 0 none = .ok record ∧
      homonyms.rendered? record = some [("x", "5"), ("x", "1,2")] ∧
      homonyms.encode ⟨[("x", "5"), ("x", "1,2")]⟩ =
        .error (.unparsable "x" "5" (.itemCount 2)) ∧
      homonyms.encode ⟨[("x", "1,2"), ("x", "5")]⟩ =
        .error (.unparsable "x" "1,2" (.numeral .invalidDigit)) := by
  refine ⟨rfl, by decide, ?_, by decide, by decide, rfl, ?_⟩
  · intro field hmem
    refine ⟨field.name, ?_⟩
    revert field
    decide +kernel
  · exact ⟨_, rfl, rfl, rfl, rfl⟩

end Schema

end SensorGateway
