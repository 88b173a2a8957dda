import Mathlib.Data.List.Nodup
import SensorGateway.Schema.Layout

/-!
# `SensorGateway.Proofs.Layout`: what an accepted layout guarantees

The checks of a layout look at single fields, at neighbours after
sorting, and at the payload size. They count in 64 bits. Where all counts
fit (`Addressable`), nothing is lost and they say what they are meant to
say of all fields and all elements:

* `fault?_eq_none_iff`: a field without fault is sound, and the other way
  round.
* `Field.Addressable.elements_eq`: the elements of an array follow each
  other.
* `overlapping?_byOffset_eq_none_iff`: comparing neighbours after sorting
  is comparing all fields, because no field is empty.
* `fields_apart` and `reach_le_of_settable`: of the fields of a schema those
  that fit share no bit, and what an operator sets of them lies inside the
  payload.
* `layoutFault?_eq_none`: the other way round, a layout is accepted by what
  its fields look like in the order of their bits.
-/

set_option autoImplicit false

namespace SensorGateway

/-! ### Single fields -/

/-- A field that is sound on its own. -/
structure Field.Sound (field : Field) : Prop where
  name_ne : field.name ≠ ""
  name_notMem : field.name ∉ reservedNames
  width_pos : 0 < field.width
  width_le : field.width ≤ 64
  array_ne : field.array ≠ some 0
  float_width : field.type = .float → field.width = 32 ∨ field.width = 64
  bytes_aligned : field.type = .bytes → field.offset % 8 = 0 ∧ field.width % 8 = 0
  lowPart_hasBase : field.role = .lowPart → field.hasBase
  highPart_hasBase : field.role = .highPart → field.hasBase
  role_integer : field.role ≠ .normal → field.isScalarInteger

/-- A role without fault is played by a field that can play it. -/
theorem Field.roleFault?_eq_none_iff (field : Field) :
    field.roleFault? = none ↔
      (field.role = .lowPart → field.hasBase) ∧ (field.role = .highPart → field.hasBase) ∧
        (field.role ≠ .normal → field.isScalarInteger) := by
  unfold roleFault?
  cases field.hasBase <;> cases field.isScalarInteger <;> cases field.role <;> simp

/-- The checks of a single field find nothing exactly when it is sound. -/
theorem Field.fault?_eq_none_iff (field : Field) : field.fault? = none ↔ field.Sound := by
  unfold fault?
  constructor
  · intro h
    -- One step for each check in front of those of the role.
    split at h; · cases h
    split at h; · cases h
    split at h; · cases h
    split at h; · cases h
    split at h; · cases h
    split at h; · cases h
    obtain ⟨hlow, hhigh, hrole⟩ := field.roleFault?_eq_none_iff.mp h
    next hname hreserved hwidth harray hfloat hbytes =>
    exact {
      name_ne := hname
      name_notMem := hreserved
      width_pos := by omega
      width_le := by omega
      array_ne := harray
      float_width := fun htype => by
        by_cases h32 : field.width = 32
        · exact Or.inl h32
        · by_cases h64 : field.width = 64
          · exact Or.inr h64
          · exact absurd ⟨htype, h32, h64⟩ hfloat
      bytes_aligned := fun htype => by
        by_cases hoffset : field.offset % 8 = 0
        · by_cases hw : field.width % 8 = 0
          · exact ⟨hoffset, hw⟩
          · exact absurd ⟨htype, Or.inr hw⟩ hbytes
        · exact absurd ⟨htype, Or.inl hoffset⟩ hbytes
      lowPart_hasBase := hlow
      highPart_hasBase := hhigh
      role_integer := hrole }
  · intro h
    -- None of the checks has anything to find.
    have hwidth : ¬ (field.width = 0 ∨ 64 < field.width) := by
      have := h.width_pos
      have := h.width_le
      omega
    have hfloat : ¬ (field.type = .float ∧ field.width ≠ 32 ∧ field.width ≠ 64) := by
      rintro ⟨htype, h32, h64⟩
      cases h.float_width htype with
      | inl h => exact h32 h
      | inr h => exact h64 h
    have hbytes : ¬ (field.type = .bytes ∧ (field.offset % 8 ≠ 0 ∨ field.width % 8 ≠ 0)) := by
      rintro ⟨htype, hunaligned⟩
      obtain ⟨hoffset, hwidth⟩ := h.bytes_aligned htype
      omega
    rw [if_neg h.name_ne, if_neg h.name_notMem, if_neg hwidth, if_neg h.array_ne, if_neg hfloat,
      if_neg hbytes]
    exact field.roleFault?_eq_none_iff.mpr
      ⟨h.lowPart_hasBase, h.highPart_hasBase, h.role_integer⟩

/-- A sound field has an element. -/
theorem Field.Sound.count_pos {field : Field} (h : field.Sound) : 0 < field.count := by
  have hne := h.array_ne
  unfold count
  cases harray : field.array with
  | none => simp
  | some n =>
    have hn : n ≠ 0 := fun h0 => hne (by rw [harray, h0])
    simpa using Nat.pos_of_ne_zero hn

/-! ### Counts -/

/-- A number of 64 bits loses nothing. -/
theorem wrapUInt64_eq {n : Nat} (h : n < 2 ^ 64) : wrapUInt64 n = n := Nat.mod_eq_of_lt h

/-- The first bit behind a field, by counting without limit. -/
def Field.reach (field : Field) : Nat := field.offset + field.width * field.count

/-- The end of a field is a number of 64 bits, and so is every position in
it. -/
def Field.Addressable (field : Field) : Prop := field.reach < 2 ^ 64

instance (field : Field) : Decidable field.Addressable :=
  inferInstanceAs (Decidable (field.reach < 2 ^ 64))

/-- The ends of all fields and the size of the payload in bits are numbers
of 64 bits. -/
structure Addressable (size : Nat) (fields : List Field) : Prop where
  payload : 8 * size < 2 ^ 64
  ends : ∀ field ∈ fields, field.Addressable

/-- The end of such a field is where counting leads. -/
theorem Field.Addressable.endBit_eq {field : Field} (h : field.Addressable) :
    field.endBit = field.reach := by
  unfold Addressable reach at h
  have hspan : field.span = field.width * field.count := wrapUInt64_eq (by omega)
  rw [endBit, hspan, wrapUInt64_eq h, reach]

/-- A sound field is not empty. -/
theorem Field.Sound.offset_lt_reach {field : Field} (h : field.Sound) :
    field.offset < field.reach := by
  have hspan : 0 < field.width * field.count := Nat.mul_pos h.width_pos h.count_pos
  simp only [reach]
  omega

/-! ### Elements of a field -/

/-- An element that can be read and written wherever the frame is long
enough. -/
structure Element.Sound (element : Element) : Prop where
  width_pos : 0 < element.width
  width_le : element.width ≤ 64
  float_width : element.type = .float → element.width = 32 ∨ element.width = 64
  bytes_aligned : element.type = .bytes → element.offset % 8 = 0 ∧ element.width % 8 = 0

/-- One of two fields ends before the other starts. -/
def Field.Apart (a b : Field) : Prop := a.reach ≤ b.offset ∨ b.reach ≤ a.offset

/-- One of two elements ends before the other starts. -/
def Element.Apart (a b : Element) : Prop := a.endBit ≤ b.offset ∨ b.endBit ≤ a.offset

theorem Field.Apart.symm {a b : Field} (h : a.Apart b) : b.Apart a := Or.symm h

theorem Element.Apart.symm {a b : Element} (h : a.Apart b) : b.Apart a := Or.symm h

/-- The elements of a field are the single one, or those of an array at
the indices below its length. -/
theorem Field.mem_elements_iff (field : Field) (element : Element) :
    element ∈ field.elements ↔
      (field.array = none ∧ element = ⟨field.name, field.offset, field.width, field.type⟩) ∨
        ∃ count index, field.array = some count ∧ index < count ∧
          element = field.elementAt index := by
  unfold elements
  cases harray : field.array with
  | none => simp
  | some count => simp [eq_comm]

/-- A field has as many elements as it says. -/
@[simp]
theorem Field.length_elements (field : Field) : field.elements.length = field.count := by
  unfold elements count
  cases field.array <;> simp

/-- The elements of a field, each where the one before it ends. -/
def Field.consecutive (field : Field) : List Element :=
  match field.array with
  | none => [⟨field.name, field.offset, field.width, field.type⟩]
  | some count => (List.range count).map fun index =>
    { field.elementAt index with offset := field.offset + index * field.width }

/-- Where nothing is lost, the elements of an array follow each other. -/
theorem Field.Addressable.elements_eq {field : Field} (h : field.Addressable) :
    field.elements = field.consecutive := by
  unfold elements consecutive
  cases harray : field.array with
  | none => rfl
  | some count =>
    refine List.map_congr_left fun index hindex => ?_
    have hmul : (index + 1) * field.width ≤ count * field.width :=
      Nat.mul_le_mul_right _ (List.mem_range.mp hindex)
    rw [Nat.add_mul, Nat.one_mul, Nat.mul_comm count] at hmul
    -- The element ends inside the field, so its position is a number of 64 bits.
    simp only [Addressable, reach, Field.count, harray, Option.getD_some] at h
    have hoffset : (field.elementAt index).offset = field.offset + index * field.width :=
      wrapUInt64_eq (by omega)
    rw [← hoffset]

/-- An element is read the same way as its field. -/
theorem Field.like_of_mem_elements {field : Field} {element : Element}
    (h : element ∈ field.elements) : element.width = field.width ∧ element.type = field.type := by
  cases field.mem_elements_iff element |>.mp h with
  | inl hsingle =>
    obtain ⟨-, rfl⟩ := hsingle
    exact ⟨rfl, rfl⟩
  | inr hindexed =>
    obtain ⟨-, index, -, -, rfl⟩ := hindexed
    exact ⟨rfl, rfl⟩

/-- An element does not end behind its field. What is lost of its position
only moves it to the front. -/
theorem Field.endBit_le_of_mem_elements {field : Field} {element : Element}
    (h : element ∈ field.elements) : element.endBit ≤ field.reach := by
  cases field.mem_elements_iff element |>.mp h with
  | inl hsingle =>
    obtain ⟨harray, rfl⟩ := hsingle
    simp [Element.endBit, reach, count, harray]
  | inr hindexed =>
    obtain ⟨count, index, harray, hindex, rfl⟩ := hindexed
    have hwrap : wrapUInt64 (field.offset + index * field.width) ≤
        field.offset + index * field.width := Nat.mod_le _ _
    have hmul : (index + 1) * field.width ≤ count * field.width :=
      Nat.mul_le_mul_right _ hindex
    rw [Nat.add_mul, Nat.one_mul, Nat.mul_comm count] at hmul
    simp only [Element.endBit, elementAt, reach, Field.count, harray, Option.getD_some]
    omega

/-- Consecutive elements lie inside their field. -/
theorem Field.within_of_mem_consecutive {field : Field} {element : Element}
    (h : element ∈ field.consecutive) :
    field.offset ≤ element.offset ∧ element.endBit ≤ field.reach := by
  unfold consecutive at h
  cases harray : field.array with
  | none =>
    simp only [harray, List.mem_singleton] at h
    subst h
    simp [Element.endBit, reach, count, harray]
  | some count =>
    simp only [harray, List.mem_map, List.mem_range] at h
    obtain ⟨index, hindex, rfl⟩ := h
    have hmul : (index + 1) * field.width ≤ count * field.width :=
      Nat.mul_le_mul_right _ hindex
    rw [Nat.add_mul, Nat.one_mul, Nat.mul_comm count] at hmul
    simp only [Element.endBit, elementAt, reach, Field.count, harray, Option.getD_some]
    omega

/-- The elements of a sound field are sound. -/
theorem Field.Sound.element {field : Field} (hfield : field.Sound) {element : Element}
    (h : element ∈ field.elements) : element.Sound := by
  obtain ⟨hwidth, htype⟩ := like_of_mem_elements h
  refine ⟨?_, ?_, ?_, ?_⟩
  · rw [hwidth]
    exact hfield.width_pos
  · rw [hwidth]
    exact hfield.width_le
  · rw [hwidth, htype]
    exact hfield.float_width
  · intro hbytes
    obtain ⟨hoffset, hmod⟩ := hfield.bytes_aligned (htype ▸ hbytes)
    refine ⟨?_, by rw [hwidth]; exact hmod⟩
    cases field.mem_elements_iff element |>.mp h with
    | inl hsingle =>
      obtain ⟨_, rfl⟩ := hsingle
      exact hoffset
    | inr hindexed =>
      obtain ⟨_, index, _, _, rfl⟩ := hindexed
      -- A multiple of a width in whole bytes keeps the alignment, and so does
      -- what is lost.
      have hindex : index * field.width % 8 = 0 := by
        rw [Nat.mul_mod, hmod, Nat.mul_zero, Nat.zero_mod]
      simp only [elementAt, wrapUInt64]
      omega

/-- Consecutive elements share no bit. -/
theorem Field.consecutive_apart (field : Field) : field.consecutive.Pairwise Element.Apart := by
  unfold consecutive
  cases field.array with
  | none => simp
  | some count =>
    simp only [List.pairwise_map]
    refine List.Pairwise.imp ?_ List.pairwise_lt_range
    intro i j hij
    have hmul : (i + 1) * field.width ≤ j * field.width := Nat.mul_le_mul_right _ hij
    rw [Nat.add_mul, Nat.one_mul] at hmul
    left
    simp only [Element.endBit, elementAt]
    omega

/-- Elements of fields that are apart are apart. -/
theorem Field.Apart.consecutive {a b : Field} (h : a.Apart b) {x y : Element}
    (hx : x ∈ a.consecutive) (hy : y ∈ b.consecutive) : x.Apart y := by
  obtain ⟨hax, hxa⟩ := Field.within_of_mem_consecutive hx
  obtain ⟨hby, hyb⟩ := Field.within_of_mem_consecutive hy
  unfold Field.Apart at h
  unfold Element.Apart
  omega

/-! ### Neighbours -/

/-- If fields come in the order of their first bits and none starts before its
predecessor ends, then none starts before any earlier one ends. -/
theorem pairwise_of_overlapping?_eq_none {fields : List Field}
    (hsorted : fields.Pairwise fun a b => a.offset ≤ b.offset)
    (h : overlapping? fields = none) : fields.Pairwise fun a b => a.endBit ≤ b.offset := by
  induction fields with
  | nil => exact List.Pairwise.nil
  | cons first rest ih =>
    cases rest with
    | nil => exact List.pairwise_singleton _ first
    | cons second rest =>
      obtain ⟨-, hrest⟩ := List.pairwise_cons.mp hsorted
      rw [overlapping?] at h
      split at h
      · cases h
      · next hle =>
        refine List.pairwise_cons.mpr ⟨?_, ih hrest h⟩
        intro field hfield
        -- The second field stands between the first and every later one.
        cases List.mem_cons.mp hfield with
        | inl heq =>
          subst heq
          omega
        | inr hmem =>
          have hlater := List.rel_of_pairwise_cons hrest hmem
          omega

/-- The two fields that are found stand next to each other, and the second
starts before the first ends. -/
theorem exists_of_overlapping?_eq_some {fields : List Field} {first second : Field}
    (h : overlapping? fields = some (first, second)) :
    ∃ before after, fields = before ++ first :: second :: after ∧
      second.offset < first.endBit := by
  fun_induction overlapping? fields with
  | case1 a b rest hlt =>
    obtain ⟨rfl, rfl⟩ := Prod.mk.inj (Option.some.inj h)
    exact ⟨[], rest, rfl, hlt⟩
  | case2 a b rest hle ih =>
    obtain ⟨before, after, hsplit, hlt⟩ := ih h
    exact ⟨a :: before, after, by rw [hsplit, List.cons_append], hlt⟩
  | case3 => cases h

/-- Sorting loses no field and adds none. -/
theorem perm_byOffset (fields : List Field) : (byOffset fields).Perm fields :=
  List.mergeSort_perm _ _

/-- Sorted fields start one behind the other, or together. -/
theorem pairwise_byOffset (fields : List Field) :
    (byOffset fields).Pairwise fun a b => a.offset ≤ b.offset := by
  have hordered : (byOffset fields).Pairwise fun a b => decide (a.offset ≤ b.offset) = true := by
    refine List.pairwise_mergeSort ?_ ?_ fields
    · intro a b c hab hbc
      simp only [decide_eq_true_eq] at hab hbc ⊢
      omega
    · intro a b
      simp only [Bool.or_eq_true, decide_eq_true_eq]
      omega
  exact hordered.imp of_decide_eq_true

/-- Two fields that are found after sorting are two of the fields, and the
second starts inside the first. -/
theorem exists_of_overlapping?_byOffset_eq_some {fields : List Field} {first second : Field}
    (haddressable : ∀ field ∈ fields, field.Addressable)
    (h : overlapping? (byOffset fields) = some (first, second)) :
    (∃ rest, fields.Perm (first :: second :: rest)) ∧ first.offset ≤ second.offset ∧
      second.offset < first.reach := by
  obtain ⟨before, after, hsplit, hlt⟩ := exists_of_overlapping?_eq_some h
  have hperm := perm_byOffset fields
  have hsorted := pairwise_byOffset fields
  rw [hsplit] at hperm hsorted
  have hfirst : first ∈ fields := hperm.mem_iff.mp (by simp)
  rw [(haddressable first hfirst).endBit_eq] at hlt
  refine ⟨⟨before ++ after, ?_⟩, ?_, hlt⟩
  · -- What stands in front of the two may as well stand behind them.
    have hfront : (before ++ first :: second :: after).Perm
        (first :: second :: (before ++ after)) :=
      List.perm_middle.trans (List.perm_middle.cons first)
    exact hperm.symm.trans hfront
  · have htail := (List.pairwise_append.mp hsorted).2.1
    exact List.rel_of_pairwise_cons htail List.mem_cons_self

/-- Comparing neighbours after sorting finds nothing exactly when no two
fields share a bit, as long as none is empty. -/
theorem overlapping?_byOffset_eq_none_iff {fields : List Field}
    (haddressable : ∀ field ∈ fields, field.Addressable)
    (hne : ∀ field ∈ fields, field.offset < field.reach) :
    overlapping? (byOffset fields) = none ↔ fields.Pairwise Field.Apart := by
  have hperm := perm_byOffset fields
  constructor
  · -- Being apart does not depend on the order, so it may be shown for the
    -- sorted fields.
    intro h
    have hsorted : (byOffset fields).Pairwise Field.Apart := by
      refine (pairwise_of_overlapping?_eq_none (pairwise_byOffset fields) h).imp_of_mem ?_
      intro a b ha _ hle
      rw [(haddressable a (hperm.mem_iff.mp ha)).endBit_eq] at hle
      exact Or.inl hle
    exact (hperm.pairwise_iff Field.Apart.symm).mp hsorted
  · intro hapart
    cases h : overlapping? (byOffset fields) with
    | none => rfl
    | some pair =>
      obtain ⟨first, second⟩ := pair
      obtain ⟨⟨rest, hpair⟩, hle, hlt⟩ :=
        exists_of_overlapping?_byOffset_eq_some haddressable h
      have hfirst : first.Apart second :=
        List.rel_of_pairwise_cons ((hpair.pairwise_iff Field.Apart.symm).mp hapart)
          List.mem_cons_self
      have hsecond := hne second (hpair.mem_iff.mpr (by simp))
      -- The first bit of the second field belongs to both.
      unfold Field.Apart at hfirst
      omega

/-- Fields that start at different bits have only one order. -/
theorem byOffset_eq {fields sorted : List Field} (hperm : sorted.Perm fields)
    (hsorted : sorted.Pairwise fun a b => a.offset < b.offset) : byOffset fields = sorted := by
  have hnodup : (sorted.map Field.offset).Nodup := List.pairwise_map.mpr (hsorted.imp Nat.ne_of_lt)
  have hmerged := perm_byOffset fields
  refine List.Perm.eq_of_pairwise ?_ (pairwise_byOffset fields) (hsorted.imp Nat.le_of_lt)
    (hmerged.trans hperm.symm)
  intro a b ha hb hab hba
  have hin : a ∈ sorted := hperm.mem_iff.mpr (hmerged.mem_iff.mp ha)
  exact List.inj_on_of_nodup_map hnodup hin hb (Nat.le_antisymm hab hba)

/-! ### The checks of a layout -/

/-- The check of single fields finds nothing exactly when all are sound. -/
theorem fieldFault?_eq_none_iff (schema : String) (fields : List Field) :
    fieldFault? schema fields = none ↔ ∀ field ∈ fields, field.Sound := by
  rw [fieldFault?, List.findSome?_eq_none_iff]
  simp only [Option.map_eq_none_iff, Field.fault?_eq_none_iff]

/-- The check of the payload size finds nothing exactly when every settable
field ends inside the payload. -/
theorem payloadFault?_eq_none_iff (schema : String) {size : Nat} {fields : List Field}
    (h : Addressable size fields) :
    payloadFault? schema size fields = none ↔
      ∀ field ∈ fields, field.settable = true → field.reach ≤ 8 * size := by
  rw [payloadFault?, Option.map_eq_none_iff, List.find?_eq_none]
  simp only [Bool.and_eq_true, decide_eq_true_eq, not_and, Nat.not_lt]
  refine forall_congr' fun field => forall_congr' fun hmem => ?_
  rw [(h.ends field hmem).endBit_eq, wrapUInt64_eq h.payload]

/-- A layout is accepted when its fields are sound, follow each other in
some order, and fit into the payload where they are settable. -/
theorem layoutFault?_eq_none {schema : String} {size : Nat} {fields : List Field}
    (sorted : List Field) (hperm : sorted.Perm fields)
    (hsorted : sorted.Pairwise fun a b => a.offset < b.offset)
    (hfields : fieldFault? schema fields = none) (hoverlap : overlapping? sorted = none)
    (hpayload : payloadFault? schema size fields = none) :
    layoutFault? schema size fields = none := by
  rw [layoutFault?, overlapFault?, byOffset_eq hperm hsorted, hfields, hoverlap, hpayload]
  rfl

/-! ### Schemas -/

namespace Schema

/-- A schema is made of every accepted layout. -/
theorem ofFields_eq_ok (type : MessageType) {name : String} {fields : List Field} {size : Nat}
    (format : WireFormat) (h : layoutFault? name size fields = none) :
    ofFields type name fields size format =
      .ok { type, name, fields, size, format, accepted := h } := by
  unfold ofFields
  split
  · rfl
  · next hfault => cases h.symm.trans hfault

/-- The checks of a schema's layout found nothing. -/
theorem checks_eq_none (schema : Schema) :
    fieldFault? schema.name schema.fields = none ∧
      overlapFault? schema.name schema.fields = none ∧
        payloadFault? schema.name schema.size schema.fields = none := by
  have h := schema.accepted
  simpa only [layoutFault?, Option.or_eq_none_iff] using h

/-- Every field of a schema is sound. -/
theorem sound_of_mem_fields (schema : Schema) {field : Field} (h : field ∈ schema.fields) :
    field.Sound :=
  (fieldFault?_eq_none_iff _ _).mp schema.checks_eq_none.1 field h

/-- Everything that an operator sets ends at a number of 64 bits. -/
def Placeable (schema : Schema) : Prop :=
  ∀ field ∈ schema.fields, field.settable = true → field.Addressable

instance (schema : Schema) : Decidable schema.Placeable :=
  inferInstanceAs (Decidable (∀ field ∈ schema.fields, field.settable = true → field.Addressable))

/-- No two fields of a schema that end at numbers of 64 bits share a bit, wherever the
others end. -/
theorem fields_apart (schema : Schema) :
    schema.fields.Pairwise fun a b => a.Addressable → b.Addressable → a.Apart b := by
  have hoverlap := schema.checks_eq_none.2.1
  rw [overlapFault?, Option.map_eq_none_iff] at hoverlap
  have hsorted : (byOffset schema.fields).Pairwise fun a b =>
      a.Addressable → b.Addressable → a.Apart b := by
    refine (pairwise_of_overlapping?_eq_none (pairwise_byOffset schema.fields) hoverlap).imp ?_
    intro a b hle ha _
    rw [ha.endBit_eq] at hle
    exact Or.inl hle
  refine ((perm_byOffset schema.fields).pairwise_iff ?_).mp hsorted
  intro a b h hb ha
  exact (h ha hb).symm

/-- The elements of a schema are sound. -/
theorem sound_of_mem_elements (schema : Schema) {element : Element}
    (h : element ∈ schema.elements) : element.Sound := by
  obtain ⟨field, hfield, helement⟩ := List.mem_flatMap.mp h
  exact (schema.sound_of_mem_fields hfield).element helement

/-- The elements of all fields, those of a field one behind the other. -/
def consecutive (schema : Schema) : List Element := schema.fields.flatMap Field.consecutive

/-- What an operator sets lies inside the payload. -/
theorem reach_le_of_settable {schema : Schema} (h : schema.Placeable) {field : Field}
    (hfield : field ∈ schema.fields) (hsettable : field.settable = true) :
    field.reach ≤ 8 * schema.size := by
  have hpayload := schema.checks_eq_none.2.2
  rw [payloadFault?, Option.map_eq_none_iff, List.find?_eq_none] at hpayload
  have hend := hpayload field hfield
  have hwrap : wrapUInt64 (8 * schema.size) ≤ 8 * schema.size := Nat.mod_le _ _
  rw [(h field hfield hsettable).endBit_eq] at hend
  simp only [hsettable, Bool.true_and, decide_eq_true_eq] at hend
  omega

/-- So do its elements. -/
theorem element_endBit_le_of_settable {schema : Schema} (h : schema.Placeable) {field : Field}
    (hfield : field ∈ schema.fields) (hsettable : field.settable = true) {element : Element}
    (helement : element ∈ field.elements) : element.endBit ≤ 8 * schema.size :=
  Nat.le_trans (Field.endBit_le_of_mem_elements helement) (reach_le_of_settable h hfield hsettable)

end Schema

end SensorGateway
