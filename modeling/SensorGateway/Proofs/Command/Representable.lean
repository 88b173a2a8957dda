import SensorGateway.Proofs.Command.Denotation
import SensorGateway.Proofs.Command.Packet
import SensorGateway.Proofs.Text.Decimal

/-!
# `SensorGateway.Proofs.Command.Representable`: which parameters make a frame

What an operator has to give is said here without the encoder: every settable
field needs a parameter, and its text has to stand for values that the field
has room for. `FieldType.Fits` says this of an item, `Field.Represents` of the
text of a field, `Parameters.Supplies` of the parameter that a field finds.

* `Element.exists_bits_iff`: an item has bits exactly when its value fits, at
  every width.
* `exists_encode_eq_ok_iff`: a frame is built from exactly the parameters that
  supply every settable field.
* `encode_eq_error_iff`: otherwise the first settable field, in the order of
  the declaration, that is not supplied is the reason, and nothing else is.
* `encode_relevant`: parameters that name no settable field play no part.
-/

set_option autoImplicit false

namespace SensorGateway

/-! ### What an operator has to give -/

/-- An item, without the blanks around it, stands for a value that a number of
bits has room for: a natural number in decimal or hexadecimal, an integer
between the ends of two's complement, a floating-point number, or a text that
is not too long. -/
def FieldType.Fits (type : FieldType) (width : Nat) (item : String) : Prop :=
  match type with
  | .unsigned => ∃ n, Text.natural? item = some n ∧ n < 2 ^ width
  | .signed => ∃ n, Text.integer? item = some n ∧ -2 ^ (width - 1) ≤ n ∧ n ≤ 2 ^ (width - 1) - 1
  | .float =>
    ∃ bits, (if width = 32 then Floating.single else Floating.double).parse item = .ok bits
  | .bytes => (Text.utf8 item).length ≤ width / 8

/-- A text stands for values of a field. A single element takes the whole text
as one item, an array as many items as it has elements, with commas between
them. -/
def Field.Represents (field : Field) (text : String) : Prop :=
  match field.array with
  | none => field.type.Fits field.width (Text.trim text)
  | some count =>
    ∃ items : List String, items.length = count ∧ text = ",".intercalate items ∧
      (∀ item ∈ items, ',' ∉ item.toList) ∧
      ∀ item ∈ items, field.type.Fits field.width (Text.trim item)

/-- There is a parameter with the name of a field, and the text of the first
such one stands for values of it. -/
def Parameters.Supplies (params : Parameters) (field : Field) : Prop :=
  ∃ text, params.get? field.name = some text ∧ field.Represents text

/-- What is said against the text of a field: the number of its items, or the
first item that does not fit and what is wrong with it. -/
inductive Field.Objects (field : Field) (text : String) : EncodeError → Prop where
  | count (h : (field.items text).length ≠ field.count) :
    Objects field text (.unparsable field.name text (.itemCount field.count))
  | item {element : Element} {before after : List String} {item : String} {fault : ValueFault}
    (hcount : (field.items text).length = field.count)
    (hitems : field.items text = before ++ item :: after)
    (hbefore : ∀ earlier ∈ before, field.type.Fits field.width earlier)
    (helement : element ∈ field.elements) (hfault : element.bits item = .error fault) :
    Objects field text (.unparsable field.name item fault)

/-- What is said against a field that is not supplied. -/
inductive Schema.Blames (schema : Schema) (params : Parameters) (field : Field) :
    EncodeError → Prop where
  | missing (h : params.get? field.name = none) :
    Blames schema params field (.missingField schema.name field.name)
  | unparsable {text : String} {error : EncodeError} (htext : params.get? field.name = some text)
    (hnot : ¬ field.Represents text) (h : field.Objects text error) :
    Blames schema params field error

/-- What is said against the first settable field, in the order of the
declaration, that is not supplied. -/
def Schema.FirstBlamed (schema : Schema) (params : Parameters) (error : EncodeError) : Prop :=
  ∃ before field after, schema.settableFields = before ++ field :: after ∧
    (∀ earlier ∈ before, params.Supplies earlier) ∧ ¬ params.Supplies field ∧
    schema.Blames params field error

/-- An item has bits exactly when its value fits. The reader takes words of 64
bits, which no element exceeds, and compares with the width afterwards. -/
theorem Element.exists_bits_iff {element : Element} (hsound : element.Sound) (item : String) :
    (∃ bits, element.bits item = .ok bits) ↔ element.type.Fits element.width item := by
  unfold Element.bits FieldType.Fits
  cases element.type with
  | unsigned => simp only [unsignedBits_eq_ok_iff hsound.width_le]
  | signed =>
    simp only [signedBits_eq_ok_iff hsound.width_le]
    constructor
    · rintro ⟨bits, n, htext, ⟨hlow, hhigh⟩, -⟩
      exact ⟨n, htext, hlow, by omega⟩
    · rintro ⟨n, htext, hlow, hhigh⟩
      exact ⟨_, n, htext, ⟨hlow, by omega⟩, rfl⟩
  | float =>
    simp only [floatBits, Except.mapError_eq_ok_iff]
  | bytes =>
    show (∃ bits, byteBits element.width item = .ok bits) ↔ _
    unfold byteBits
    simp only
    split
    · next hle => simp [hle]
    · next hlong => simp [hlong]

/-- The only bit of the narrowest signed element is its sign. -/
example : FieldType.signed.Fits 1 "-1" ∧ ¬ FieldType.signed.Fits 1 "1" := by
  have hone : Text.integer? "1" = some 1 := by decide
  constructor
  · exact ⟨-1, by decide, by decide, by decide⟩
  · rintro ⟨n, htext, -, hle⟩
    obtain rfl : 1 = n := Option.some.inj (hone.symm.trans htext)
    exact absurd hle (by decide)

/-- All elements of a field take the same items. -/
theorem Field.exists_bits_iff {field : Field} (hsound : field.Sound) {element : Element}
    (helement : element ∈ field.elements) (item : String) :
    (∃ bits, element.bits item = .ok bits) ↔ field.type.Fits field.width item := by
  obtain ⟨hwidth, htype⟩ := Field.like_of_mem_elements helement
  rw [Element.exists_bits_iff (hsound.element helement), hwidth, htype]

/-- All elements of a field read an item the same way. -/
theorem Field.bits_congr {field : Field} {a b : Element} (ha : a ∈ field.elements)
    (hb : b ∈ field.elements) (item : String) : a.bits item = b.bits item := by
  obtain ⟨hwidth, htype⟩ := Field.like_of_mem_elements ha
  obtain ⟨hwidth', htype'⟩ := Field.like_of_mem_elements hb
  unfold Element.bits
  rw [hwidth, htype, hwidth', htype']

/-! ### Fields -/

/-- The text of an array is put together again from what lies between its
commas. -/
theorem Text.intercalate_commaSeparated (text : String) :
    ",".intercalate ((Text.commaSeparated text.toList).map String.ofList) = text := by
  apply String.toList_inj.mp
  rw [String.toList_intercalate, List.map_map, Text.commaSeparated_eq_splitOn]
  have hid : (String.toList ∘ String.ofList) = id := by
    funext chars
    exact String.toList_ofList
  rw [hid, List.map_id]
  exact List.intercalate_splitOn ','

/-- No part of a text that was taken apart at its commas has one. -/
theorem Text.comma_notMem_of_mem_commaSeparated {chars part : List Char}
    (h : part ∈ Text.commaSeparated chars) : ',' ∉ part := by
  induction chars generalizing part with
  | nil =>
    obtain rfl : part = [] := List.mem_singleton.mp h
    exact List.not_mem_nil
  | cons first rest ih =>
    unfold Text.commaSeparated at h
    by_cases hcomma : first = ','
    · rw [if_pos hcomma] at h
      rcases List.mem_cons.mp h with rfl | hrest
      · exact List.not_mem_nil
      · exact ih hrest
    · rw [if_neg hcomma] at h
      -- Another character goes in front of the first part.
      split at h
      · next opening parts hparts =>
        rcases List.mem_cons.mp h with rfl | hrest
        · intro hin
          rcases List.mem_cons.mp hin with hfirst | hin
          · exact hcomma hfirst.symm
          · exact ih (hparts ▸ List.mem_cons_self) hin
        · exact ih (hparts ▸ List.mem_cons_of_mem _ hrest)
      · obtain rfl : part = [first] := List.mem_singleton.mp h
        intro hin
        exact hcomma (List.mem_singleton.mp hin).symm

/-- The encoder's items are the ones that make up the text. An array has at
least one element, and a text without a comma is one item. -/
theorem Field.represents_iff {field : Field} (hsound : field.Sound) (text : String) :
    field.Represents text ↔ (field.items text).length = field.count ∧
      ∀ item ∈ field.items text, field.type.Fits field.width item := by
  unfold Represents items count
  cases harray : field.array with
  | none => simp
  | some count =>
    have hcount : count ≠ 0 := fun hzero => hsound.array_ne (by rw [harray, hzero])
    simp only [Option.getD_some, List.length_map, List.mem_map, forall_exists_index, and_imp,
      forall_apply_eq_imp_iff₂]
    constructor
    · rintro ⟨items, hlength, rfl, hcomma, hfits⟩
      have hne : items.map String.toList ≠ [] := by
        intro hnil
        rw [← List.length_map String.toList, hnil] at hlength
        exact hcount hlength.symm
      -- The items are what the text is taken apart into.
      have hsplit : Text.commaSeparated (",".intercalate items).toList =
          items.map String.toList := by
        rw [Text.commaSeparated_eq_splitOn, String.toList_intercalate]
        refine List.splitOn_intercalate ',' ?_ hne
        intro part hpart hin
        obtain ⟨item, hitem, rfl⟩ := List.mem_map.mp hpart
        exact hcomma item hitem hin
      rw [hsplit]
      refine ⟨by rw [List.length_map, hlength], ?_⟩
      intro part hpart
      obtain ⟨item, hitem, rfl⟩ := List.mem_map.mp hpart
      rw [String.ofList_toList]
      exact hfits item hitem
    · rintro ⟨hlength, hfits⟩
      refine ⟨(Text.commaSeparated text.toList).map String.ofList, by rw [List.length_map, hlength],
        (Text.intercalate_commaSeparated text).symm, ?_, ?_⟩
      · intro item hitem
        obtain ⟨part, hpart, rfl⟩ := List.mem_map.mp hitem
        rw [String.toList_ofList]
        exact Text.comma_notMem_of_mem_commaSeparated hpart
      · intro item hitem
        obtain ⟨part, hpart, rfl⟩ := List.mem_map.mp hitem
        exact hfits part hpart

/-- The items that a field pairs with its elements, when there are as many. -/
theorem Field.map_snd_zip_items {field : Field} {text : String}
    (hcount : (field.items text).length = field.count) :
    (field.elements.zip (field.items text)).map Prod.snd = field.items text :=
  List.map_snd_zip (Nat.le_of_eq (by rw [hcount, field.length_elements]))

theorem Field.exists_assign_iff (field : Field) (element : Element) (item : String) :
    (∃ assignment, field.assign element item = .ok assignment) ↔
      ∃ bits, element.bits item = .ok bits := by
  simp only [Field.assign_eq_ok_iff]
  constructor
  · rintro ⟨assignment, hbits, -⟩
    exact ⟨assignment.bits, hbits⟩
  · rintro ⟨bits, hbits⟩
    exact ⟨⟨element, bits⟩, hbits, rfl⟩

/-- A field is given bits exactly when the text stands for values of it. -/
theorem Field.exists_assignments_iff {field : Field} (hsound : field.Sound) (text : String) :
    (∃ assignments, field.assignments text = .ok assignments) ↔ field.Represents text := by
  rw [Field.represents_iff hsound]
  unfold Field.assignments
  simp only
  split
  · next hcount =>
    rw [Except.exists_mapM_eq_ok_iff]
    simp only [hcount, true_and]
    constructor
    · intro h item hitem
      rw [← field.map_snd_zip_items hcount] at hitem
      obtain ⟨pair, hpair, rfl⟩ := List.mem_map.mp hitem
      rw [← Field.exists_bits_iff hsound (List.of_mem_zip hpair).1, ← field.exists_assign_iff]
      exact h pair hpair
    · intro h pair hpair
      obtain ⟨helement, hitem⟩ := List.of_mem_zip hpair
      show ∃ assignment, field.assign pair.1 pair.2 = .ok assignment
      rw [field.exists_assign_iff, Field.exists_bits_iff hsound helement]
      exact h pair.2 hitem
  · next hcount => simp [hcount]

/-- What keeps a field from being given bits is what is said against its
text: the items before the one to blame all have bits. -/
theorem Field.objects_of_assignments_eq_error {field : Field} (hsound : field.Sound)
    {text : String} {error : EncodeError} (h : field.assignments text = .error error) :
    field.Objects text error := by
  unfold Field.assignments at h
  simp only at h
  split at h
  · next hcount =>
    obtain ⟨before, ⟨element, item⟩, after, hpairs, hbefore, hitem⟩ :=
      (Except.mapM_eq_error_iff _ _ _).mp h
    have hmem : ∀ pair ∈ before ++ (element, item) :: after, pair.1 ∈ field.elements := by
      intro pair hpair
      rw [← hpairs] at hpair
      exact (List.of_mem_zip hpair).1
    have hitems : field.items text = before.map Prod.snd ++ item :: after.map Prod.snd := by
      rw [← field.map_snd_zip_items hcount, hpairs, List.map_append, List.map_cons]
    have hfits : ∀ earlier ∈ before.map Prod.snd, field.type.Fits field.width earlier := by
      intro earlier hearlier
      obtain ⟨pair, hpair, rfl⟩ := List.mem_map.mp hearlier
      have hin := hmem pair (List.mem_append_left _ hpair)
      rw [← Field.exists_bits_iff hsound hin, ← field.exists_assign_iff]
      exact hbefore pair hpair
    have helement : element ∈ field.elements := hmem (element, item) (by simp)
    simp only [Field.assign] at hitem
    split at hitem
    · cases hitem
    · next fault hfault =>
      cases hitem
      exact .item hcount hitems hfits helement hfault
  · next hcount =>
    cases h
    exact .count hcount

/-! ### Parameters -/

/-- A field is given bits exactly when it is supplied. -/
theorem Schema.exists_fieldAssignments_iff (schema : Schema) (params : Parameters) {field : Field}
    (hsound : field.Sound) :
    (∃ assignments, schema.fieldAssignments params field = .ok assignments) ↔
      params.Supplies field := by
  simp only [Schema.fieldAssignments_eq_ok_iff]
  constructor
  · rintro ⟨assignments, text, htext, hassignments⟩
    exact ⟨text, htext, (Field.exists_assignments_iff hsound text).mp ⟨assignments, hassignments⟩⟩
  · rintro ⟨text, htext, hrepresents⟩
    obtain ⟨assignments, h⟩ := (Field.exists_assignments_iff hsound text).mpr hrepresents
    exact ⟨assignments, text, htext, h⟩

/-- A field that is not given bits is to blame for it. -/
theorem Schema.blames_of_fieldAssignments_eq_error {schema : Schema} {params : Parameters}
    {field : Field} (hsound : field.Sound) {error : EncodeError}
    (h : schema.fieldAssignments params field = .error error) :
    schema.Blames params field error := by
  unfold Schema.fieldAssignments at h
  split at h
  · next htext =>
    cases h
    exact .missing htext
  · next text htext =>
    refine .unparsable htext ?_ (Field.objects_of_assignments_eq_error hsound h)
    intro hrepresents
    obtain ⟨assignments, hok⟩ := (Field.exists_assignments_iff hsound text).mpr hrepresents
    rw [h] at hok
    cases hok

/-- Only one thing is said against the text of a field. -/
theorem Field.Objects.unique {field : Field} (hsound : field.Sound) {text : String}
    {error error' : EncodeError} (h : field.Objects text error) (h' : field.Objects text error') :
    error = error' := by
  cases h with
  | count hne =>
    cases h' with
    | count _ => rfl
    | item hcount _ _ _ _ => exact absurd hcount hne
  | @item element before after item fault hcount hitems hbefore helement hfault =>
    cases h' with
    | count hne => exact absurd hcount hne
    | @item element' before' after' item' fault' _ hitems' hbefore' helement' hfault' =>
      -- An item with a fault does not fit, so it is the first in both.
      have hnot : ∀ {element : Element} {item : String} {fault : ValueFault},
          element ∈ field.elements → element.bits item = .error fault →
          ¬ field.type.Fits field.width item := by
        intro element item fault helement hfault hfits
        obtain ⟨bits, hbits⟩ := (Field.exists_bits_iff hsound helement item).mpr hfits
        rw [hfault] at hbits
        cases hbits
      obtain rfl : item = item' :=
        List.first_unique (hitems.symm.trans hitems') hbefore (hnot helement hfault) hbefore'
          (hnot helement' hfault')
      rw [Field.bits_congr helement helement', hfault'] at hfault
      rw [Except.error.inj hfault]

theorem Schema.Blames.unique {schema : Schema} {params : Parameters} {field : Field}
    (hsound : field.Sound) {error error' : EncodeError} (h : schema.Blames params field error)
    (h' : schema.Blames params field error') : error = error' := by
  cases h with
  | missing hnone =>
    cases h' with
    | missing _ => rfl
    | unparsable htext _ _ =>
      rw [hnone] at htext
      cases htext
  | unparsable htext _ hobjects =>
    cases h' with
    | missing hnone =>
      rw [hnone] at htext
      cases htext
    | unparsable htext' _ hobjects' =>
      rw [htext] at htext'
      cases htext'
      exact hobjects.unique hsound hobjects'

namespace Schema

theorem sound_of_mem_settableFields (schema : Schema) {field : Field}
    (h : field ∈ schema.settableFields) : field.Sound :=
  schema.sound_of_mem_fields (List.mem_filter.mp h).1

/-- A frame is only built from parameters that supply every settable
field. -/
theorem supplies_of_encode_eq_ok {schema : Schema} {params : Parameters} {frame : Frame}
    (h : schema.encode params = .ok frame) {field : Field}
    (hfield : field ∈ schema.settableFields) : params.Supplies field :=
  (schema.exists_fieldAssignments_iff params (schema.sound_of_mem_settableFields hfield)).mp
    (fieldAssignments_of_encode_eq_ok h hfield)

/-- Where these end at numbers of 64 bits, a frame is built from all of such
parameters. -/
theorem exists_encode_eq_ok_iff {schema : Schema} (h : schema.Placeable) (params : Parameters) :
    (∃ frame, schema.encode params = .ok frame) ↔
      schema.construction.canEncode = true ∧
        ∀ field ∈ schema.settableFields, params.Supplies field := by
  have hall : (∃ groups, schema.assignments params = .ok groups) ↔
      ∀ field ∈ schema.settableFields, params.Supplies field := by
    unfold assignments
    rw [Except.exists_mapM_eq_ok_iff]
    refine forall₂_congr ?_
    intro field hfield
    exact schema.exists_fieldAssignments_iff params (schema.sound_of_mem_settableFields hfield)
  rw [← hall]
  simp only [encode_eq_ok_iff h]
  constructor
  · rintro ⟨frame, hencode, groups, hgroups, -⟩
    exact ⟨hencode, groups, hgroups⟩
  · rintro ⟨hencode, groups, hgroups⟩
    exact ⟨_, hencode, groups, hgroups, rfl⟩

/-- A frame that is not built is not built because of the first settable field
that is not supplied, or because the schema is for reading only. -/
theorem blames_of_encode_eq_error {schema : Schema} (h : schema.Placeable)
    {params : Parameters} {error : EncodeError} (herror : schema.encode params = .error error) :
    (schema.construction.canEncode = false ∧ error = .notEncodable schema.name) ∨
      (schema.construction.canEncode = true ∧ schema.FirstBlamed params error) := by
  rw [encode_eq h] at herror
  split at herror
  · next hencode =>
    obtain ⟨before, field, after, hsplit, hbefore, hfield⟩ :=
      (Except.mapM_eq_error_iff _ _ _).mp ((Except.map_eq_error_iff _ _ _).mp herror)
    have hsound : ∀ other ∈ before ++ field :: after, other.Sound := by
      intro other hother
      exact schema.sound_of_mem_settableFields (hsplit ▸ hother)
    have hblamed : field.Sound := hsound field (by simp)
    right
    refine ⟨hencode, before, field, after, hsplit, ?_, ?_,
      blames_of_fieldAssignments_eq_error hblamed hfield⟩
    · intro earlier hearlier
      rw [← schema.exists_fieldAssignments_iff params (hsound earlier (by simp [hearlier]))]
      exact hbefore earlier hearlier
    · rw [← schema.exists_fieldAssignments_iff params hblamed]
      rintro ⟨assignments, hok⟩
      rw [hfield] at hok
      cases hok
  · next hencode =>
    left
    cases herror
    exact ⟨Bool.eq_false_iff.mpr hencode, rfl⟩

/-- Only one field is the first that is not supplied, and one thing is said
against it. -/
theorem FirstBlamed.unique {schema : Schema} {params : Parameters} {error error' : EncodeError}
    (h : schema.FirstBlamed params error) (h' : schema.FirstBlamed params error') :
    error = error' := by
  obtain ⟨before, field, after, hsplit, hbefore, hnot, hblames⟩ := h
  obtain ⟨before', field', after', hsplit', hbefore', hnot', hblames'⟩ := h'
  have hmem : field ∈ schema.settableFields := by
    rw [hsplit]
    exact List.mem_append_right _ List.mem_cons_self
  obtain rfl : field = field' :=
    List.first_unique (hsplit.symm.trans hsplit') hbefore hnot hbefore' hnot'
  exact hblames.unique (schema.sound_of_mem_settableFields hmem) hblames'

/-- Which reason is given when no frame is built, to the letter. -/
theorem encode_eq_error_iff {schema : Schema} (h : schema.Placeable) (params : Parameters)
    (error : EncodeError) :
    schema.encode params = .error error ↔
      (schema.construction.canEncode = false ∧ error = .notEncodable schema.name) ∨
        (schema.construction.canEncode = true ∧ schema.FirstBlamed params error) := by
  constructor
  · exact blames_of_encode_eq_error h
  · rintro (⟨hencode, rfl⟩ | ⟨hencode, hblamed⟩)
    · rw [encode_eq h, hencode]
      rfl
    · cases hresult : schema.encode params with
      | ok frame =>
        -- A frame is built from parameters that supply the blamed field too.
        obtain ⟨before, field, after, hsplit, -, hnot, -⟩ := hblamed
        refine absurd (supplies_of_encode_eq_ok hresult ?_) hnot
        rw [hsplit]
        exact List.mem_append_right _ List.mem_cons_self
      | error other =>
        rcases blames_of_encode_eq_error h hresult with ⟨hdecode, -⟩ | ⟨-, hother⟩
        · rw [hencode] at hdecode
          cases hdecode
        · rw [hother.unique hblamed]

end Schema

end SensorGateway
