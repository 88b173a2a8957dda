import Mathlib.Data.List.Forall2
import SensorGateway.Command.Encode
import SensorGateway.Proofs.Frame
import SensorGateway.Proofs.Layout
import SensorGateway.Proofs.Outcome

/-!
# `SensorGateway.Proofs.Command.Encode`: frames as sums of assignments

The encoder goes from field to field and from item to item, and writes as it
goes, byte strings byte by byte into zeros. Where everything an operator sets
ends at a number of 64 bits, writing never fails, because it lies inside the
payload. So reading the texts and writing the bits come apart:

* `Schema.encode_eq`: a frame is built by first finding the bits of all
  settable fields and then placing them into zeros.
* `Frame.writeBytes_eq`: bytes written one by one into zeros are one number
  with zeros behind it.
* `number_foldl_place`: every placed element holds its own bits, whatever
  is placed before or after it.
* `bit_foldl_place`: bits of no placed element are left alone.

What needs no bound: a built frame has the size of the payload
(`length_of_encode_eq_ok`), and every settable field was given bits
(`fieldAssignments_of_encode_eq_ok`).
-/

set_option autoImplicit false

namespace SensorGateway

/-- Bits and the element they are for. -/
structure Assignment where
  element : Element
  bits : Nat
  deriving Repr, DecidableEq

/-- The bits of an element. -/
def Field.assign (field : Field) (element : Element) (item : String) :
    Except EncodeError Assignment :=
  match element.bits item with
  | .ok bits => .ok ⟨element, bits⟩
  | .error fault => .error (.unparsable field.name item fault)

/-- The bits of all elements of a field. -/
def Field.assignments (field : Field) (text : String) : Except EncodeError (List Assignment) :=
  let items := field.items text
  if items.length = field.count then
    (field.elements.zip items).mapM fun (element, item) => field.assign element item
  else
    .error (.unparsable field.name text (.itemCount field.count))

/-- A sound element that lies among so many bits, and ends at a number of 64
bits. -/
structure Element.Within (element : Element) (bits : Nat) : Prop where
  sound : element.Sound
  fits : element.endBit ≤ bits
  bounded : element.endBit < 2 ^ 64

/-! ### Placing bits -/

namespace Frame

/-- The frame with the bits of an assignment in their place. -/
def place (frame : Frame) (assignment : Assignment) : Frame :=
  frame.put assignment.element.offset assignment.element.width assignment.bits

@[simp]
theorem bitLength_place (frame : Frame) (assignment : Assignment) :
    (frame.place assignment).bitLength = frame.bitLength := rfl

@[simp]
theorem bitLength_foldl_place (frame : Frame) (assignments : List Assignment) :
    (assignments.foldl place frame).bitLength = frame.bitLength := by
  induction assignments generalizing frame with
  | nil => rfl
  | cons first rest ih => rw [List.foldl_cons, ih, bitLength_place]

/-- A bit of none of the placed elements is what it was. -/
theorem bit_foldl_place (frame : Frame) {assignments : List Assignment} {i : Nat}
    (hi : i < frame.bitLength)
    (h : ∀ assignment ∈ assignments, assignment.element.endBit ≤ frame.bitLength ∧
      ¬ (assignment.element.offset ≤ i ∧ i < assignment.element.endBit)) :
    (assignments.foldl place frame).bytes.bit i = frame.bytes.bit i := by
  induction assignments generalizing frame with
  | nil => rfl
  | cons first rest ih =>
    obtain ⟨hfits, hout⟩ := h first (by simp)
    rw [List.foldl_cons,
      ih (frame.place first) hi fun assignment hmem =>
        h assignment (List.mem_cons_of_mem _ hmem),
      place, frame.bit_put hfits _ hi]
    exact if_neg hout

/-- An element apart from all placed ones holds what it held. -/
theorem number_foldl_place_of_apart (frame : Frame) {assignments : List Assignment}
    {element : Element} (hfits : element.endBit ≤ frame.bitLength)
    (h : ∀ assignment ∈ assignments, assignment.element.endBit ≤ frame.bitLength ∧
      element.Apart assignment.element) :
    (assignments.foldl place frame).bytes.number element.offset element.width =
      frame.bytes.number element.offset element.width := by
  apply Bytes.number_congr
  intro i hi
  simp only [Element.endBit] at hfits
  apply bit_foldl_place frame (by omega)
  intro assignment hmem
  obtain ⟨hend, hapart⟩ := h assignment hmem
  refine ⟨hend, ?_⟩
  simp only [Element.Apart, Element.endBit] at hapart ⊢
  omega

/-- Every one of the placed elements holds its own bits, as long as no two
of them share one. Induction over the placed elements: those before it are
overwritten by it, those behind it leave it alone. -/
theorem number_foldl_place (frame : Frame) {assignments : List Assignment}
    (hfits : ∀ assignment ∈ assignments, assignment.element.endBit ≤ frame.bitLength)
    (hapart : (assignments.map Assignment.element).Pairwise Element.Apart)
    {assignment : Assignment} (hmem : assignment ∈ assignments) :
    (assignments.foldl place frame).bytes.number assignment.element.offset
        assignment.element.width =
      assignment.bits % 2 ^ assignment.element.width := by
  induction assignments generalizing frame with
  | nil => cases hmem
  | cons first rest ih =>
    rw [List.map_cons, List.pairwise_cons] at hapart
    have hrest : ∀ assignment ∈ rest, assignment.element.endBit ≤ frame.bitLength :=
      fun assignment hin => hfits assignment (List.mem_cons_of_mem _ hin)
    rw [List.foldl_cons]
    cases List.mem_cons.mp hmem with
    | inl heq =>
      subst heq
      have hfirst := hfits assignment (by simp)
      rw [number_foldl_place_of_apart (frame.place assignment) hfirst
        fun other hin => ⟨hrest other hin, hapart.1 _ (List.mem_map_of_mem hin)⟩]
      exact frame.number_put hfirst assignment.bits
    | inr hin => exact ih (frame.place first) hrest hapart.2 hin

/-! ### Writing into zeros -/

/-- The bits of an element are zero. -/
def Blank (frame : Frame) (element : Element) : Prop :=
  frame.bytes.number element.offset element.width = 0

/-- Elements apart from a placed one stay blank. -/
theorem Blank.place {frame : Frame} {element : Element} (h : frame.Blank element)
    (hfits : element.endBit ≤ frame.bitLength) {assignment : Assignment}
    (hplaced : assignment.element.endBit ≤ frame.bitLength)
    (hapart : assignment.element.Apart element) : (frame.place assignment).Blank element :=
  (frame.number_put_of_disjoint hplaced assignment.bits hfits hapart).trans h

/-- So do elements apart from several. -/
theorem Blank.foldl_place {frame : Frame} {element : Element} (h : frame.Blank element)
    (hfits : element.endBit ≤ frame.bitLength) {assignments : List Assignment}
    (hplaced : ∀ assignment ∈ assignments, assignment.element.endBit ≤ frame.bitLength)
    (hapart : ∀ assignment ∈ assignments, assignment.element.Apart element) :
    (assignments.foldl Frame.place frame).Blank element := by
  have hsame := frame.number_foldl_place_of_apart hfits fun assignment hmem =>
    ⟨hplaced assignment hmem, (hapart assignment hmem).symm⟩
  exact hsame.trans h

/-- Bytes that are written one by one into zeros are one number there, with
zeros behind it. -/
theorem writeBytes_eq (frame : Frame) {offset pad : Nat} {bytes : Bytes}
    (hfits : offset + 8 * (bytes.length + pad) ≤ frame.bitLength)
    (hbounded : offset + 8 * (bytes.length + pad) < 2 ^ 64)
    (hblank : frame.bytes.number offset (8 * (bytes.length + pad)) = 0) :
    frame.writeBytes offset bytes =
      .ok (frame.put offset (8 * (bytes.length + pad))
        (Bytes.toNat (bytes ++ Bytes.zeros pad))) := by
  induction bytes generalizing frame offset with
  | nil =>
    rw [List.length_nil, Nat.zero_add] at hfits hblank ⊢
    rw [List.nil_append, Bytes.toNat_zeros, frame.put_zero hfits hblank]
    rfl
  | cons byte rest ih =>
    rw [List.length_cons] at hfits hbounded hblank ⊢
    have hsplit : 8 * (rest.length + 1 + pad) = 8 + 8 * (rest.length + pad) := by omega
    rw [hsplit] at hfits hbounded hblank ⊢
    have hfirst : offset + 8 ≤ frame.bitLength := by omega
    have hnext : wrapUInt64 (offset + 8) = offset + 8 := wrapUInt64_eq (by omega)
    -- The rest meets zeros, since the first byte lies in front of it.
    have hrest : (frame.put offset 8 byte.toNat).bytes.number (offset + 8)
        (8 * (rest.length + pad)) = 0 := by
      rw [frame.number_put_of_disjoint hfirst _ (by omega) (Or.inl (Nat.le_refl _))]
      rw [Bytes.number_add] at hblank
      omega
    have hpadded : (rest ++ Bytes.zeros pad).length = rest.length + pad := by
      rw [List.length_append, Bytes.length_zeros]
    have hlow := Bytes.toNat_lt (rest ++ Bytes.zeros pad)
    rw [hpadded, show 256 = 2 ^ 8 from rfl, ← Nat.pow_mul] at hlow
    have hall : Bytes.toNat (byte :: rest ++ Bytes.zeros pad) =
        2 ^ (8 * (rest.length + pad)) * byte.toNat + Bytes.toNat (rest ++ Bytes.zeros pad) := by
      rw [List.cons_append, ← List.singleton_append, Bytes.toNat_append, hpadded,
        show 256 = 2 ^ 8 from rfl, ← Nat.pow_mul, Nat.mul_comm]
      simp [Bytes.toNat]
    rw [writeBytes, frame.write_eq (by omega) (by omega) hfirst, hall,
      ← frame.put_put_append hfits byte.toNat hlow, hnext]
    rw [← Nat.add_assoc] at hfits hbounded
    exact ih (frame.put offset 8 byte.toNat) hfits hbounded hrest

end Frame

/-- Where its element is blank and lies inside the frame, an item is put there
as its bits are placed. -/
theorem Field.encodeItem_eq (field : Field) {frame : Frame} {element : Element} (item : String)
    (hwithin : element.Within frame.bitLength) (hblank : frame.Blank element) :
    field.encodeItem frame element item = (field.assign element item).map frame.place := by
  obtain ⟨hsound, hfits, hbounded⟩ := hwithin
  have hwrite : ∀ bits, frame.write element.offset element.width bits =
      .ok (frame.place ⟨element, bits⟩) :=
    fun bits => frame.write_eq hsound.width_pos hsound.width_le hfits bits
  unfold encodeItem assign
  cases hbits : element.bits item with
  | error fault => rfl
  | ok bits =>
    show (frame.writeElement element item bits).mapError EncodeError.frame =
      .ok (frame.place ⟨element, bits⟩)
    unfold Frame.writeElement
    cases htype : element.type with
    | unsigned => rw [hwrite]; rfl
    | signed => rw [hwrite]; rfl
    | float => rw [hwrite]; rfl
    | bytes =>
      -- The bytes that are not written are the zeros behind the text.
      rw [Element.bits, htype, Element.byteBits] at hbits
      simp only at hbits
      split at hbits
      · next hle =>
        obtain rfl := Except.ok.inj hbits
        obtain ⟨-, hwidth⟩ := hsound.bytes_aligned htype
        have hpad : 8 * ((Text.utf8 item).length +
            (element.width / 8 - (Text.utf8 item).length)) = element.width := by omega
        have hbytes := frame.writeBytes_eq (by rw [hpad]; exact hfits)
          (by rw [hpad]; exact hbounded) (by rw [hpad]; exact hblank)
        rw [hpad] at hbytes
        show (frame.writeBytes element.offset (Text.utf8 item)).mapError _ = _
        rw [hbytes]
        rfl
      · cases hbits

/-! ### The bits of a field -/

/-- An element is given bits when its text has some. -/
theorem Field.assign_eq_ok_iff (field : Field) (element : Element) (item : String)
    (assignment : Assignment) :
    field.assign element item = .ok assignment ↔
      element.bits item = .ok assignment.bits ∧ assignment.element = element := by
  unfold assign
  cases element.bits item with
  | error fault => simp
  | ok bits =>
    cases assignment
    simp only [Except.ok.injEq, Assignment.mk.injEq]
    exact ⟨fun h => ⟨h.2, h.1.symm⟩, fun h => ⟨h.2.symm, h.1⟩⟩

/-- A field is given bits when there are as many items as elements and each
item has bits for its element. -/
theorem Field.assignments_eq_ok_iff (field : Field) (text : String)
    (assignments : List Assignment) :
    field.assignments text = .ok assignments ↔
      (field.items text).length = field.count ∧
        List.Forall₂ (fun (pair : Element × String) assignment =>
            pair.1.bits pair.2 = .ok assignment.bits ∧ assignment.element = pair.1)
          (field.elements.zip (field.items text)) assignments := by
  unfold Field.assignments
  simp only
  split
  · next hcount =>
    rw [Except.mapM_eq_ok_iff]
    simp only [assign_eq_ok_iff, hcount, true_and]
  · next hcount => simp [hcount]

/-- The elements that are given bits are those of the field. -/
theorem Field.map_element_assignments {field : Field} {text : String}
    {assignments : List Assignment} (h : field.assignments text = .ok assignments) :
    assignments.map Assignment.element = field.elements := by
  obtain ⟨hcount, hall⟩ := (field.assignments_eq_ok_iff text assignments).mp h
  have helements : (field.elements.zip (field.items text)).map Prod.fst = field.elements :=
    List.map_fst_zip (Nat.le_of_eq (by rw [field.length_elements, hcount]))
  rw [← helements]
  clear h
  generalize field.elements.zip (field.items text) = pairs at hall ⊢
  induction hall with
  | nil => rfl
  | cons hfirst _ ih => rw [List.map_cons, List.map_cons, hfirst.2, ih]

/-- The bits of an element are among those of its field, and its text is
the item at its own position. -/
theorem Field.mem_assignments {field : Field} {text : String} {assignments : List Assignment}
    (h : field.assignments text = .ok assignments) {i : Nat} {element : Element} {item : String}
    (helement : field.elements[i]? = some element) (hitem : (field.items text)[i]? = some item) :
    ∃ bits, element.bits item = .ok bits ∧ ⟨element, bits⟩ ∈ assignments := by
  obtain ⟨-, hall⟩ := (field.assignments_eq_ok_iff text assignments).mp h
  have hpair : (field.elements.zip (field.items text))[i]? = some (element, item) := by
    rw [List.getElem?_zip_eq_some]
    exact ⟨helement, hitem⟩
  clear h helement hitem
  generalize field.elements.zip (field.items text) = pairs at hall hpair
  induction hall generalizing i with
  | nil => simp at hpair
  | @cons pair assignment pairs assignments hfirst _ ih =>
    cases i with
    | zero =>
      have heq : pair = (element, item) := by simpa using hpair
      subst heq
      obtain ⟨hbits, rfl⟩ := hfirst
      exact ⟨assignment.bits, hbits, List.mem_cons_self⟩
    | succ i =>
      obtain ⟨bits, hbits, hmem⟩ := ih hpair
      exact ⟨bits, hbits, List.mem_cons_of_mem _ hmem⟩

namespace Field

/-- Items are put into a frame one after the other as all their bits are
placed. Induction over the items: what is placed leaves the elements behind it
blank. -/
theorem foldlM_encodeItem (field : Field) (frame : Frame) {pairs : List (Element × String)}
    (hwithin : ∀ pair ∈ pairs, pair.1.Within frame.bitLength)
    (hapart : (pairs.map Prod.fst).Pairwise Element.Apart)
    (hblank : ∀ pair ∈ pairs, frame.Blank pair.1) :
    pairs.foldlM (fun frame (element, item) => field.encodeItem frame element item) frame =
      (pairs.mapM fun (element, item) => field.assign element item).map
        fun assignments : List Assignment => assignments.foldl Frame.place frame := by
  induction pairs generalizing frame with
  | nil => rfl
  | cons first rest ih =>
    obtain ⟨element, item⟩ := first
    have hfirst := hwithin (element, item) List.mem_cons_self
    rw [List.map_cons, List.pairwise_cons] at hapart
    rw [List.foldlM_cons, List.mapM_cons]
    simp only
    rw [field.encodeItem_eq item hfirst (hblank (element, item) List.mem_cons_self)]
    cases hassign : field.assign element item with
    | error error => rfl
    | ok assignment =>
      obtain ⟨-, rfl⟩ := (field.assign_eq_ok_iff element item assignment).mp hassign
      -- The items behind the first find a frame of the same length and zeros.
      have hothers : ∀ pair ∈ rest, pair.1.Within frame.bitLength := by
        intro pair hmem
        exact hwithin pair (List.mem_cons_of_mem _ hmem)
      have hleft : ∀ pair ∈ rest, (frame.place assignment).Blank pair.1 := by
        intro pair hmem
        have hpair := hblank pair (List.mem_cons_of_mem _ hmem)
        exact hpair.place (hothers pair hmem).fits hfirst.fits
          (hapart.1 _ (List.mem_map_of_mem hmem))
      show rest.foldlM _ (frame.place assignment) = _
      rw [ih (frame.place assignment) hothers hapart.2 hleft]
      cases rest.mapM fun (element, item) => field.assign element item with
      | error error => rfl
      | ok assignments => rfl

/-- An item that is put into a frame has bits. -/
theorem assign_of_encodeItem_eq_ok {field : Field} {frame written : Frame} {element : Element}
    {item : String} (h : field.encodeItem frame element item = .ok written) :
    ∃ assignment, field.assign element item = .ok assignment := by
  unfold encodeItem at h
  unfold assign
  cases hbits : element.bits item with
  | ok bits => exact ⟨⟨element, bits⟩, rfl⟩
  | error fault =>
    rw [hbits] at h
    cases h

/-- A text that is put into a frame gives bits to all elements of its field. -/
theorem assignments_of_encodeText_eq_ok {field : Field} {frame written : Frame} {text : String}
    (h : field.encodeText frame text = .ok written) :
    ∃ assignments, field.assignments text = .ok assignments := by
  unfold encodeText at h
  unfold assignments
  simp only at h ⊢
  split at h
  · next hcount =>
    rw [if_pos hcount, Except.exists_mapM_eq_ok_iff]
    intro pair hpair
    obtain ⟨state, next, hitem⟩ := Except.exists_of_foldlM_eq_ok h hpair
    exact assign_of_encodeItem_eq_ok hitem
  · cases h

/-- Where its elements are blank and lie inside the frame, a text is put there as
all its bits are placed. -/
theorem encodeText_eq (field : Field) (frame : Frame) (text : String)
    (hwithin : ∀ element ∈ field.elements, element.Within frame.bitLength)
    (hapart : field.elements.Pairwise Element.Apart)
    (hblank : ∀ element ∈ field.elements, frame.Blank element) :
    field.encodeText frame text =
      (field.assignments text).map fun assignments => assignments.foldl Frame.place frame := by
  unfold encodeText assignments
  simp only
  split
  · next hcount =>
    have helements : (field.elements.zip (field.items text)).map Prod.fst = field.elements :=
      List.map_fst_zip (Nat.le_of_eq (by rw [field.length_elements, hcount]))
    exact field.foldlM_encodeItem frame
      (fun pair hmem => hwithin pair.1 (List.of_mem_zip hmem).1) (helements.symm ▸ hapart)
      fun pair hmem => hblank pair.1 (List.of_mem_zip hmem).1
  · rfl

end Field

/-! ### Built frames as buffers -/

/-- The window is the whole buffer, of a number of bytes. -/
structure Frame.Whole (frame : Frame) (size : Nat) : Prop where
  base : frame.base = 0
  length : frame.length = size
  buffer : frame.buffer.length = size

namespace Frame.Whole

variable {frame written : Frame} {size : Nat}

theorem zeros (size : Nat) : (Frame.zeros size).Whole size :=
  ⟨rfl, Bytes.length_zeros size, Bytes.length_zeros size⟩

/-- No write changes that. -/
theorem write (h : frame.Whole size) {offset width value : Nat}
    (hwrite : frame.write offset width value = .ok written) : written.Whole size := by
  obtain ⟨-, -, hput⟩ := (Except.bind_eq_ok_iff _ _ _).mp hwrite
  obtain rfl := Except.ok.inj hput
  exact ⟨h.base, h.length, (frame.length_buffer_put _ _ _).trans h.buffer⟩

theorem writeBytes (h : frame.Whole size) {offset : Nat} {bytes : Bytes}
    (hwrite : frame.writeBytes offset bytes = .ok written) : written.Whole size := by
  induction bytes generalizing frame offset with
  | nil =>
    obtain rfl := Except.ok.inj hwrite
    exact h
  | cons byte rest ih =>
    obtain ⟨next, hfirst, hrest⟩ := (Except.bind_eq_ok_iff _ _ _).mp hwrite
    exact ih (h.write hfirst) hrest

theorem encodeItem (h : frame.Whole size) {field : Field} {element : Element} {item : String}
    (hitem : field.encodeItem frame element item = .ok written) : written.Whole size := by
  unfold Field.encodeItem at hitem
  split at hitem
  · next bits _ =>
    have hwrite := (Except.mapError_eq_ok_iff _ _ _).mp hitem
    unfold Frame.writeElement at hwrite
    split at hwrite
    · exact h.writeBytes hwrite
    · exact h.write hwrite
    · exact h.write hwrite
    · exact h.write hwrite
  · cases hitem

theorem encodeField (h : frame.Whole size) {schema : Schema} {params : Parameters}
    {field : Field} (hfield : schema.encodeField params frame field = .ok written) :
    written.Whole size := by
  unfold Schema.encodeField at hfield
  split at hfield
  · cases hfield
  · unfold Field.encodeText at hfield
    simp only at hfield
    split at hfield
    · exact Except.foldlM_induction (P := fun frame => frame.Whole size)
        (fun state pair next hstate hnext => hstate.encodeItem hnext) h hfield
    · cases hfield

end Frame.Whole

/-! ### Whole frames -/

namespace Schema

/-- A schema that builds a frame may be used for that, and goes through its
settable fields. -/
theorem encode_eq_ok {schema : Schema} {params : Parameters} {frame : Frame}
    (h : schema.encode params = .ok frame) :
    schema.construction.canEncode = true ∧
      schema.settableFields.foldlM (schema.encodeField params) (Frame.zeros schema.size) =
        .ok frame := by
  unfold encode at h
  split at h
  · cases h
  · next hencode => exact ⟨by simpa using hencode, h⟩

/-- The buffer of a built frame is the payload. -/
theorem whole_of_encode_eq_ok {schema : Schema} {params : Parameters} {frame : Frame}
    (h : schema.encode params = .ok frame) : frame.Whole schema.size :=
  Except.foldlM_induction (P := fun frame => frame.Whole schema.size)
    (fun _ _ _ hstate hnext => hstate.encodeField hnext) (Frame.Whole.zeros schema.size)
    (encode_eq_ok h).2

/-- A built frame has the size of the payload. -/
theorem length_of_encode_eq_ok {schema : Schema} {params : Parameters} {frame : Frame}
    (h : schema.encode params = .ok frame) : frame.length = schema.size :=
  (whole_of_encode_eq_ok h).length

/-- The window of a built frame is its whole buffer, so the frame is known by its
bytes. -/
theorem ofBytes_bytes_of_encode_eq_ok {schema : Schema} {params : Parameters} {frame : Frame}
    (h : schema.encode params = .ok frame) : Frame.ofBytes frame.bytes = frame := by
  obtain ⟨hbase, hlength, hbuffer⟩ := whole_of_encode_eq_ok h
  obtain ⟨buffer, base, length, hwindow⟩ := frame
  obtain rfl : base = 0 := hbase
  obtain rfl : length = buffer.length := hlength.trans hbuffer.symm
  simp [Frame.ofBytes, Frame.bytes]

/-- The bits that parameters give to a field. -/
def fieldAssignments (schema : Schema) (params : Parameters) (field : Field) :
    Except EncodeError (List Assignment) :=
  match params.get? field.name with
  | none => .error (.missingField schema.name field.name)
  | some text => field.assignments text

/-- The bits that parameters give to the settable fields, field by
field. -/
def assignments (schema : Schema) (params : Parameters) :
    Except EncodeError (List (List Assignment)) :=
  schema.settableFields.mapM (schema.fieldAssignments params)

/-- A field is given bits when it has a parameter, and by its text. -/
theorem fieldAssignments_eq_ok_iff (schema : Schema) (params : Parameters) (field : Field)
    (assignments : List Assignment) :
    schema.fieldAssignments params field = .ok assignments ↔
      ∃ text, params.get? field.name = some text ∧ field.assignments text = .ok assignments := by
  unfold fieldAssignments
  cases params.get? field.name <;> simp

/-- In a frame that is built, every settable field was given bits. -/
theorem fieldAssignments_of_encode_eq_ok {schema : Schema} {params : Parameters} {frame : Frame}
    (h : schema.encode params = .ok frame) {field : Field}
    (hfield : field ∈ schema.settableFields) :
    ∃ assignments, schema.fieldAssignments params field = .ok assignments := by
  obtain ⟨state, next, hnext⟩ := Except.exists_of_foldlM_eq_ok (encode_eq_ok h).2 hfield
  unfold encodeField at hnext
  unfold fieldAssignments
  cases htext : params.get? field.name with
  | none =>
    rw [htext] at hnext
    cases hnext
  | some text =>
    rw [htext] at hnext
    exact Field.assignments_of_encodeText_eq_ok hnext

/-- The elements that are given bits are those of the settable fields. -/
theorem map_element_assignments {schema : Schema} {params : Parameters}
    {groups : List (List Assignment)} (h : schema.assignments params = .ok groups) :
    groups.flatten.map Assignment.element = schema.settableFields.flatMap Field.elements := by
  have hall := (Except.mapM_eq_ok_iff _ _ _).mp h
  generalize schema.settableFields = fields at hall ⊢
  clear h
  induction hall with
  | nil => rfl
  | cons hfirst _ ih =>
    obtain ⟨text, -, htext⟩ := (schema.fieldAssignments_eq_ok_iff params _ _).mp hfirst
    rw [List.flatten_cons, List.map_append, ih, Field.map_element_assignments htext,
      List.flatMap_cons]

theorem addressable_of_mem_settableFields {schema : Schema} (h : schema.Placeable) {field : Field}
    (hfield : field ∈ schema.settableFields) : field.Addressable :=
  h field (List.mem_filter.mp hfield).1 (List.mem_filter.mp hfield).2

/-- No two elements of settable fields share a bit. -/
theorem settable_apart {schema : Schema} (h : schema.Placeable) :
    (schema.settableFields.flatMap Field.elements).Pairwise Element.Apart := by
  have hbounded := @addressable_of_mem_settableFields schema h
  refine List.pairwise_flatMap.mpr ⟨fun field hmem => ?_, ?_⟩
  · rw [(hbounded hmem).elements_eq]
    exact field.consecutive_apart
  · refine (schema.fields_apart.sublist List.filter_sublist).imp_of_mem ?_
    intro a b ha hb hapart x hx y hy
    rw [(hbounded ha).elements_eq] at hx
    rw [(hbounded hb).elements_eq] at hy
    exact (hapart (hbounded ha) (hbounded hb)).consecutive hx hy

/-- Elements of settable fields lie inside the payload. -/
theorem within_of_settable {schema : Schema} (h : schema.Placeable) :
    ∀ element ∈ schema.settableFields.flatMap Field.elements,
      element.Within (8 * schema.size) := by
  intro element hmem
  obtain ⟨field, howner, helement⟩ := List.mem_flatMap.mp hmem
  obtain ⟨hfield, hsettable⟩ := List.mem_filter.mp howner
  exact {
    sound := (schema.sound_of_mem_fields hfield).element helement
    fits := element_endBit_le_of_settable h hfield hsettable helement
    bounded := Nat.lt_of_le_of_lt (Field.endBit_le_of_mem_elements helement)
      (h field hfield hsettable) }

/-- Fields are encoded by finding the bits of all of them and placing
these. Placing the bits of a field keeps the length of the frame and leaves the
elements of the next ones blank. -/
theorem foldlM_encodeField (schema : Schema) (params : Parameters) (frame : Frame)
    {fields : List Field}
    (hwithin : ∀ element ∈ fields.flatMap Field.elements, element.Within frame.bitLength)
    (hapart : (fields.flatMap Field.elements).Pairwise Element.Apart)
    (hblank : ∀ element ∈ fields.flatMap Field.elements, frame.Blank element) :
    fields.foldlM (schema.encodeField params) frame =
      (fields.mapM (schema.fieldAssignments params)).map fun groups =>
        groups.flatten.foldl Frame.place frame := by
  induction fields generalizing frame with
  | nil => rfl
  | cons first rest ih =>
    rw [List.flatMap_cons, List.pairwise_append] at hapart
    simp only [List.flatMap_cons, List.forall_mem_append] at hwithin hblank
    have hfirst : schema.encodeField params frame first =
        (schema.fieldAssignments params first).map fun assignments =>
          assignments.foldl Frame.place frame := by
      unfold encodeField fieldAssignments
      cases params.get? first.name with
      | none => rfl
      | some text => exact first.encodeText_eq frame text hwithin.1 hapart.1 hblank.1
    rw [List.foldlM_cons, List.mapM_cons, hfirst]
    cases hassignments : schema.fieldAssignments params first with
    | error error => rfl
    | ok assignments =>
      obtain ⟨text, -, htext⟩ := (schema.fieldAssignments_eq_ok_iff params first _).mp hassignments
      have hplaced : ∀ assignment ∈ assignments, assignment.element ∈ first.elements := by
        intro assignment hmem
        rw [← Field.map_element_assignments htext]
        exact List.mem_map_of_mem hmem
      have hlength : (assignments.foldl Frame.place frame).bitLength = frame.bitLength :=
        frame.bitLength_foldl_place assignments
      have hleft : ∀ element ∈ rest.flatMap Field.elements,
          (assignments.foldl Frame.place frame).Blank element := by
        intro element hmem
        refine (hblank.2 element hmem).foldl_place (hwithin.2 element hmem).fits ?_ ?_
        · exact fun assignment hin => (hwithin.1 _ (hplaced assignment hin)).fits
        · exact fun assignment hin => hapart.2.2 _ (hplaced assignment hin) element hmem
      -- The next field finds a frame of the same length.
      show rest.foldlM (schema.encodeField params) (assignments.foldl Frame.place frame) = _
      rw [ih _ (hlength.symm ▸ hwithin.2) hapart.2.1 hleft]
      cases rest.mapM (schema.fieldAssignments params) with
      | error error => rfl
      | ok groups =>
        show Except.ok (groups.flatten.foldl Frame.place (assignments.foldl Frame.place frame)) =
          Except.ok ((assignments :: groups).flatten.foldl Frame.place frame)
        rw [List.flatten_cons, List.foldl_append]

/-- A frame is built by finding the bits of all settable fields and placing
them into zeros. -/
theorem encode_eq {schema : Schema} (h : schema.Placeable) (params : Parameters) :
    schema.encode params =
      if schema.construction.canEncode then
        (schema.assignments params).map fun groups =>
          groups.flatten.foldl Frame.place (Frame.zeros schema.size)
      else .error (.notEncodable schema.name) := by
  have hlength := Frame.bitLength_zeros schema.size
  have hblank : ∀ element ∈ schema.settableFields.flatMap Field.elements,
      (Frame.zeros schema.size).Blank element := by
    intro element _
    rw [Frame.Blank, Frame.zeros, Frame.bytes_ofBytes, Bytes.number_zeros]
  rw [encode, schema.foldlM_encodeField params _ (hlength.symm ▸ within_of_settable h)
    (settable_apart h) hblank]
  cases schema.construction.canEncode <;> rfl

/-- A frame is built when the schema is for building frames and all
settable fields have bits. -/
theorem encode_eq_ok_iff {schema : Schema} (h : schema.Placeable) (params : Parameters)
    (frame : Frame) :
    schema.encode params = .ok frame ↔
      schema.construction.canEncode = true ∧
        ∃ groups, schema.assignments params = .ok groups ∧
          groups.flatten.foldl Frame.place (Frame.zeros schema.size) = frame := by
  rw [encode_eq h]
  split
  · next hencode => simp only [Except.map_eq_ok_iff, hencode, true_and]
  · next hencode => simp [hencode]

/-- Every settable field is given bits, and these are among all that are
placed. -/
theorem exists_of_assignments_eq_ok {schema : Schema} {params : Parameters}
    {groups : List (List Assignment)} (h : schema.assignments params = .ok groups) {field : Field}
    (hfield : field ∈ schema.fields) (hsettable : field.settable = true) :
    ∃ text assignments, params.get? field.name = some text ∧
      field.assignments text = .ok assignments ∧ assignments ∈ groups := by
  have hall := (Except.mapM_eq_ok_iff _ _ _).mp h
  have hmem : field ∈ schema.settableFields := List.mem_filter.mpr ⟨hfield, hsettable⟩
  obtain ⟨i, hi⟩ := List.mem_iff_getElem?.mp hmem
  obtain ⟨hlength, hget⟩ := List.forall₂_iff_get.mp hall
  obtain ⟨hlt, rfl⟩ := List.getElem?_eq_some_iff.mp hi
  have hgroup := hget i hlt (hlength ▸ hlt)
  obtain ⟨text, htext, hassignments⟩ := (schema.fieldAssignments_eq_ok_iff params _ _).mp hgroup
  exact ⟨text, _, htext, hassignments, List.get_mem _ _⟩

/-! ### What a built frame holds -/

/-- What settable fields are given lies inside the payload. -/
theorem endBit_le_of_assignments_eq_ok {schema : Schema} (h : schema.Placeable)
    {params : Parameters} {groups : List (List Assignment)}
    (hgroups : schema.assignments params = .ok groups) :
    ∀ assignment ∈ groups.flatten,
      assignment.element.endBit ≤ (Frame.zeros schema.size).bitLength := by
  intro assignment hmem
  have hin : assignment.element ∈ schema.settableFields.flatMap Field.elements := by
    rw [← map_element_assignments hgroups]
    exact List.mem_map_of_mem hmem
  rw [Frame.bitLength_zeros]
  exact (within_of_settable h _ hin).fits

/-- In a built frame every element holds the bits it was given. Nothing
written later touches them, because no two elements share one. -/
theorem number_of_assignments_eq_ok {schema : Schema} (h : schema.Placeable)
    {params : Parameters} {groups : List (List Assignment)}
    (hgroups : schema.assignments params = .ok groups)
    {assignment : Assignment} (hmem : assignment ∈ groups.flatten) :
    (groups.flatten.foldl Frame.place (Frame.zeros schema.size)).bytes.number
        assignment.element.offset assignment.element.width =
      assignment.bits % 2 ^ assignment.element.width := by
  have hapart : (groups.flatten.map Assignment.element).Pairwise Element.Apart := by
    rw [map_element_assignments hgroups]
    exact settable_apart h
  exact Frame.number_foldl_place _ (endBit_le_of_assignments_eq_ok h hgroups) hapart hmem

/-- Every other bit of a built frame is zero, those behind its end too. -/
theorem bit_of_encode_eq_ok {schema : Schema} (h : schema.Placeable) {params : Parameters}
    {frame : Frame} (hframe : schema.encode params = .ok frame) {i : Nat}
    (hout : ∀ element ∈ schema.settableFields.flatMap Field.elements,
      ¬ (element.offset ≤ i ∧ i < element.endBit)) : frame.bytes.bit i = false := by
  have hlength := length_of_encode_eq_ok hframe
  obtain ⟨-, groups, hgroups, rfl⟩ := (encode_eq_ok_iff h params frame).mp hframe
  by_cases hi : i < (Frame.zeros schema.size).bitLength
  · rw [Frame.bit_foldl_place _ hi, Frame.zeros, Frame.bytes_ofBytes, Bytes.bit_zeros]
    · intro assignment hmem
      refine ⟨endBit_le_of_assignments_eq_ok h hgroups assignment hmem, ?_⟩
      refine hout _ ?_
      rw [← map_element_assignments hgroups]
      exact List.mem_map_of_mem hmem
  · apply Bytes.bit_of_length_le
    rw [Frame.bitLength_zeros] at hi
    rw [Frame.length_bytes, hlength]
    omega

/-- What a built frame holds: every settable field has a parameter with one
item for each element, and each element holds the bits of its own item. -/
theorem number_encode {schema : Schema} (h : schema.Placeable) {params : Parameters}
    {frame : Frame} (hframe : schema.encode params = .ok frame) {field : Field}
    (hfield : field ∈ schema.fields) (hsettable : field.settable = true) :
    ∃ text, params.get? field.name = some text ∧
      (field.items text).length = field.elements.length ∧
      ∀ (i : Nat) (element : Element) (item : String), field.elements[i]? = some element →
        (field.items text)[i]? = some item →
        ∃ bits, element.bits item = .ok bits ∧
          frame.bytes.number element.offset element.width = bits % 2 ^ element.width := by
  obtain ⟨-, groups, hgroups, rfl⟩ := (encode_eq_ok_iff h params frame).mp hframe
  obtain ⟨text, assignments, htext, hassignments, hgroup⟩ :=
    exists_of_assignments_eq_ok hgroups hfield hsettable
  have hcount := ((field.assignments_eq_ok_iff text assignments).mp hassignments).1
  refine ⟨text, htext, by rw [hcount, field.length_elements], ?_⟩
  intro i element item helement hitem
  obtain ⟨bits, hbits, hmem⟩ := Field.mem_assignments hassignments helement hitem
  exact ⟨bits, hbits,
    number_of_assignments_eq_ok h hgroups (List.mem_flatten.mpr ⟨assignments, hgroup, hmem⟩)⟩

end Schema

end SensorGateway
