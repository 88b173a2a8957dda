import Mathlib.Data.List.Induction
import SensorGateway.Proofs.Acceptance
import SensorGateway.Proofs.Outcome
import SensorGateway.Proofs.Record.Opening

/-!
# `SensorGateway.Proofs.Registration`: schemas under their own types, all or nothing

A registry comes about in two ways: schemas are registered one by one, where a
call that fails leaves the registry as it is, or all messages of a description
are, where one failure leaves no registry at all.

* `Registered` says of a registry what calls made it. `Registered.attempt` is one
  call more, `registered_after` any number of calls.
* `FieldDescription.Describes` says which field is described, without any
  function that makes one up; `describes_iff` is that there is just one.
* `ofDescriptions_eq_ok_iff` and `ofDescriptions_eq_error_iff`: when a description
  makes up a registry, and which of its defects is reported if it does not.
* `registry_registered`: both ways.
-/

set_option autoImplicit false

namespace SensorGateway

namespace Registry

/-! ### Single registrations -/

theorem schema?_insert (registry : Registry) (schema : Schema) (type : MessageType) :
    (registry.insert schema).schema? type =
      if type = schema.type then some schema else registry.schema? type := rfl

/-- All that may become of a registration. A schema of another type is found out
first. -/
theorem register_cases (registry : Registry) (type : MessageType) (schema : Schema) :
    schema.type ≠ type ∧ registry.register type schema =
      .error (.typeMismatch schema.name schema.type type) ∨
    schema.type = type ∧ registry.contains type = true ∧
      registry.register type schema = .error (.duplicate type) ∨
    schema.type = type ∧ registry.contains type = false ∧
      registry.register type schema = .ok (registry.insert schema) := by
  unfold register
  by_cases htype : schema.type = type
  · rw [if_neg (not_not.mpr htype)]
    cases hcontains : registry.contains type with
    | true => exact .inr (.inl ⟨htype, rfl, rfl⟩)
    | false => exact .inr (.inr ⟨htype, rfl, rfl⟩)
  · exact .inl ⟨htype, if_pos htype⟩

theorem contains_iff (registry : Registry) (type : MessageType) :
    registry.contains type = true ↔ ∃ schema, registry.schema? type = some schema :=
  Option.isSome_iff_exists

theorem lookup_eq_ok_iff (registry : Registry) (type : MessageType) (schema : Schema) :
    registry.lookup type = .ok schema ↔ registry.schema? type = some schema := by
  unfold lookup
  cases registry.schema? type <;> simp

/-! ### The types of a registry -/

theorem mem_messageTypes_iff (registry : Registry) (type : MessageType) :
    type ∈ registry.messageTypes ↔ registry.contains type = true := by
  have hall : type ∈ (List.range 256).map UInt8.ofNat :=
    List.mem_map.mpr ⟨type.toNat, List.mem_range.mpr type.toNat_lt, UInt8.ofNat_toNat⟩
  rw [messageTypes, List.mem_filter]
  exact and_iff_right hall

/-- The types stand in ascending order, each once. -/
theorem pairwise_messageTypes (registry : Registry) :
    registry.messageTypes.Pairwise (· < ·) := by
  -- Leaving types out disturbs no order, so it is enough that all bytes ascend.
  refine List.Pairwise.filter _ (List.pairwise_map.mpr ?_)
  refine (List.pairwise_lt_range (n := 256)).imp_of_mem ?_
  intro a b ha hb hlt
  rw [UInt8.lt_iff_toNat_lt, UInt8.toNat_ofNat_of_lt' (List.mem_range.mp ha),
    UInt8.toNat_ofNat_of_lt' (List.mem_range.mp hb)]
  exact hlt

/-! ### Registrations one after the other -/

/-- A schema that someone registers under a type. -/
structure Registration where
  type : MessageType
  schema : Schema

/-- The schema is registered under the type that it declares, and this is the
type. -/
def Registration.Gives (call : Registration) (type : MessageType) : Prop :=
  call.type = type ∧ call.schema.type = type

instance (call : Registration) (type : MessageType) : Decidable (call.Gives type) :=
  inferInstanceAs (Decidable (_ ∧ _))

/-- What a registration answers, and the registry that it leaves. -/
def attempt (registry : Registry) (call : Registration) : Except SchemaError Unit × Registry :=
  match registry.register call.type call.schema with
  | .ok after => (.ok (), after)
  | .error error => (.error error, registry)

/-- The registry that registrations one after the other leave. -/
def after (calls : List Registration) : Registry :=
  calls.foldl (fun registry call => (registry.attempt call).2) empty

/-- The first schema that was registered under a type. -/
def first? (calls : List Registration) (type : MessageType) : Option Schema :=
  (calls.find? fun call => call.Gives type).map Registration.schema

/-- The registry has the schemas that came first under their own types, and no
others. -/
def Registered (calls : List Registration) (registry : Registry) : Prop :=
  ∀ type, registry.schema? type = first? calls type

variable {calls : List Registration} {registry : Registry}

theorem exists_first?_iff (calls : List Registration) (type : MessageType) :
    (∃ schema, first? calls type = some schema) ↔ ∃ call ∈ calls, call.Gives type := by
  rw [← Option.isSome_iff_exists, first?, Option.isSome_map, List.find?_isSome]
  simp only [decide_eq_true_eq]

theorem Registered.contains_iff (h : Registered calls registry) (type : MessageType) :
    registry.contains type = true ↔ ∃ call ∈ calls, call.Gives type := by
  rw [registry.contains_iff, h type, exists_first?_iff]

theorem first?_concat (calls : List Registration) (call : Registration) (type : MessageType) :
    first? (calls ++ [call]) type =
      (first? calls type).or (if call.Gives type then some call.schema else none) := by
  have hlast : first? [call] type = if call.Gives type then some call.schema else none := by
    unfold first?
    by_cases hgives : call.Gives type <;> simp [hgives]
  rw [← hlast, first?, List.find?_append, Option.map_or]
  rfl

/-- One registration more. -/
theorem Registered.attempt (h : Registered calls registry) (call : Registration) :
    Registered (calls ++ [call]) (registry.attempt call).2 := by
  intro type
  rw [first?_concat, ← h type]
  unfold Registry.attempt
  obtain ⟨hother, hregister⟩ | ⟨-, htaken, hregister⟩ | ⟨htype, hfree, hregister⟩ :=
    registry.register_cases call.type call.schema
  -- The schema was refused for its type, and is found under none.
  · have hnot : ¬ call.Gives type := fun hgives => hother (hgives.2.trans hgives.1.symm)
    rw [hregister, if_neg hnot, Option.or_none]
  -- The type was taken, and what was there first stays.
  · rw [hregister]
    by_cases hgives : call.Gives type
    · obtain ⟨schema, hschema⟩ := (registry.contains_iff call.type).mp htaken
      rw [← hgives.1, hschema]
      rfl
    · rw [if_neg hgives, Option.or_none]
  -- The type was free, so no earlier call gave it a schema.
  · rw [hregister]
    show (if type = call.schema.type then some call.schema else registry.schema? type) = _
    by_cases hgives : call.Gives type
    · have hnone : registry.schema? type = none := by
        rw [← hgives.1]
        exact Option.not_isSome_iff_eq_none.mp (Bool.eq_false_iff.mp hfree)
      rw [if_pos hgives.2.symm, if_pos hgives, hnone]
      rfl
    · have hne : type ≠ call.schema.type := fun heq => hgives ⟨htype.symm.trans heq.symm, heq.symm⟩
      rw [if_neg hne, if_neg hgives, Option.or_none]

theorem after_concat (calls : List Registration) (call : Registration) :
    after (calls ++ [call]) = ((after calls).attempt call).2 := List.foldl_concat ..

/-- Any number of registrations. Induction over the calls, the last one being the
one that is made next. -/
theorem registered_after (calls : List Registration) : Registered calls (after calls) := by
  induction calls using List.reverseRecOn with
  | nil =>
    intro type
    rfl
  | append_singleton calls call ih =>
    rw [after_concat]
    exact ih.attempt call

/-- What a registration answers after others. -/
inductive Answers (calls : List Registration) (call : Registration) :
    Except SchemaError Unit → Prop where
  | registered (htype : call.schema.type = call.type)
    (hfree : ∀ earlier ∈ calls, ¬ earlier.Gives call.type) : Answers calls call (.ok ())
  /-- A schema of another type is reported whether or not the type is taken. -/
  | mismatch (htype : call.schema.type ≠ call.type) :
    Answers calls call (.error (.typeMismatch call.schema.name call.schema.type call.type))
  | duplicate (htype : call.schema.type = call.type)
    (htaken : ∃ earlier ∈ calls, earlier.Gives call.type) :
    Answers calls call (.error (.duplicate call.type))

/-- A registration succeeds exactly if the schema declares the type and no schema has
it yet. -/
theorem Answers.eq_ok_iff {call : Registration} {answer : Except SchemaError Unit}
    (h : Answers calls call answer) :
    answer = .ok () ↔
      call.schema.type = call.type ∧ ∀ earlier ∈ calls, ¬ earlier.Gives call.type := by
  cases h with
  | registered htype hfree => exact iff_of_true rfl ⟨htype, hfree⟩
  | mismatch htype => exact iff_of_false (by simp) fun hok => htype hok.1
  | duplicate _ htaken =>
    obtain ⟨earlier, hmem, hgives⟩ := htaken
    exact iff_of_false (by simp) fun hok => hok.2 earlier hmem hgives

theorem Registered.answers (h : Registered calls registry) (call : Registration) :
    Answers calls call (registry.attempt call).1 := by
  unfold Registry.attempt
  obtain ⟨hother, hregister⟩ | ⟨htype, htaken, hregister⟩ | ⟨htype, hfree, hregister⟩ :=
    registry.register_cases call.type call.schema
  · rw [hregister]
    exact .mismatch hother
  · rw [hregister]
    exact .duplicate htype ((h.contains_iff call.type).mp htaken)
  · rw [hregister]
    refine .registered htype fun earlier hmem hgives => ?_
    have htaken := (h.contains_iff call.type).mpr ⟨earlier, hmem, hgives⟩
    exact absurd (htaken.symm.trans hfree) (by decide)

/-- A registration that fails leaves the registry as it is. -/
theorem attempt_of_error {call : Registration} {error : SchemaError}
    (h : (registry.attempt call).1 = .error error) : (registry.attempt call).2 = registry := by
  unfold Registry.attempt at h ⊢
  split at h
  case h_1 => cases h
  case h_2 => rfl

end Registry

/-! ### Descriptions of fields -/

/-- The field that is described: its name is put in lower case, and the role that is
not given is that of the ending of this name. -/
structure FieldDescription.Describes (description : FieldDescription) (field : Field) :
    Prop where
  name : field.name = Text.lowercase description.name
  offset : field.offset = description.offset
  width : field.width = description.width
  type : field.type = description.type
  array : field.array = description.array
  settable : field.settable = description.settable
  given : ∀ role, description.role = some role → field.role = role
  low : description.role = none → (∃ base, field.name = base ++ "_low") → field.role = .lowPart
  high : description.role = none → (∃ base, field.name = base ++ "_high") →
    field.role = .highPart
  normal : description.role = none → (∀ base, field.name ≠ base ++ "_low") →
    (∀ base, field.name ≠ base ++ "_high") → field.role = .normal

/-- No name has both endings. -/
theorem low_ne_high (base base' : String) : base ++ "_low" ≠ base' ++ "_high" := by
  intro h
  have hlast := congrArg (fun name => name.toList.getLast?) h
  simp only [String.toList_append] at hlast
  rw [List.getLast?_append_of_ne_nil _ (by decide), List.getLast?_append_of_ne_nil _ (by decide)]
    at hlast
  exact absurd hlast (by decide)

theorem isSome_stripSuffix?_iff (suffix name : String) :
    (stripSuffix? suffix name).isSome = true ↔ ∃ base, name = base ++ suffix := by
  rw [Option.isSome_iff_exists]
  simp only [stripSuffix?_eq_some_iff]

/-- The role that a name stands for, said without taking it apart. -/
theorem Role.eq_ofName_iff (name : String) (role : Role) :
    role = Role.ofName name ↔
      ((∃ base, name = base ++ "_low") → role = .lowPart) ∧
      ((∃ base, name = base ++ "_high") → role = .highPart) ∧
      ((∀ base, name ≠ base ++ "_low") → (∀ base, name ≠ base ++ "_high") → role = .normal) := by
  have hlow := isSome_stripSuffix?_iff lowSuffix name
  have hhigh := isSome_stripSuffix?_iff highSuffix name
  -- A name has at most one of the two endings, so the order in which they are looked
  -- for does not matter.
  unfold Role.ofName
  split
  case isTrue h =>
    obtain ⟨base, rfl⟩ := hlow.mp h
    constructor
    · rintro rfl
      refine ⟨fun _ => rfl, ?_, fun hnot => absurd rfl (hnot base)⟩
      rintro ⟨base', heq⟩
      exact absurd heq (low_ne_high base base')
    · intro h
      exact h.1 ⟨base, rfl⟩
  case isFalse hnotLow =>
    have hnotLow' : ∀ base, name ≠ base ++ "_low" := fun base heq => hnotLow (hlow.mpr ⟨base, heq⟩)
    split
    case isTrue h =>
      obtain ⟨base, rfl⟩ := hhigh.mp h
      constructor
      · rintro rfl
        refine ⟨?_, fun _ => rfl, fun _ hnot => absurd rfl (hnot base)⟩
        rintro ⟨base', heq⟩
        exact absurd heq (hnotLow' base')
      · intro h
        exact h.2.1 ⟨base, rfl⟩
    case isFalse hnotHigh =>
      have hnotHigh' : ∀ base, name ≠ base ++ "_high" := fun base heq =>
        hnotHigh (hhigh.mpr ⟨base, heq⟩)
      constructor
      · rintro rfl
        exact ⟨fun ⟨base, heq⟩ => absurd heq (hnotLow' base),
          fun ⟨base, heq⟩ => absurd heq (hnotHigh' base), fun _ _ => rfl⟩
      · intro h
        exact h.2.2 hnotLow' hnotHigh'

theorem FieldDescription.role_field (description : FieldDescription) :
    description.field.role = description.role.getD (Role.ofName description.field.name) := rfl

/-- A description describes one field. -/
theorem FieldDescription.describes_iff (description : FieldDescription) (field : Field) :
    description.Describes field ↔ field = description.field := by
  constructor
  · intro h
    have hrole : field.role = description.role.getD (Role.ofName field.name) := by
      cases hrole : description.role with
      | some role => exact h.given role hrole
      | none => exact (Role.eq_ofName_iff _ _).mpr ⟨h.low hrole, h.high hrole, h.normal hrole⟩
    rw [FieldDescription.field, ← h.name, ← h.offset, ← h.width, ← h.type, ← h.array,
      ← h.settable, ← hrole]
  · rintro rfl
    have hinferred (hnone : description.role = none) :=
      (Role.eq_ofName_iff description.field.name description.field.role).mp (by
        rw [role_field, hnone, Option.getD_none])
    exact {
      name := rfl
      offset := rfl
      width := rfl
      type := rfl
      array := rfl
      settable := rfl
      given := fun role hrole => by
        rw [role_field, hrole, Option.getD_some]
      low := fun hnone => (hinferred hnone).1
      high := fun hnone => (hinferred hnone).2.1
      normal := fun hnone => (hinferred hnone).2.2 }

/-- The fields of a message are described one by one. -/
theorem FieldDescription.forall₂_describes_iff (descriptions : List FieldDescription)
    (fields : List Field) :
    List.Forall₂ FieldDescription.Describes descriptions fields ↔
      fields = descriptions.map FieldDescription.field := by
  induction descriptions generalizing fields with
  | nil => rw [List.forall₂_nil_left_iff, List.map_nil]
  | cons first rest ih =>
    rw [List.forall₂_cons_left_iff, List.map_cons]
    simp only [FieldDescription.describes_iff, ih]
    constructor
    · rintro ⟨_, _, rfl, rfl, rfl⟩
      rfl
    · rintro rfl
      exact ⟨_, _, rfl, rfl, rfl⟩

/-! ### Descriptions of messages -/

namespace MessageDescription

/-- What is checked of the fields described. -/
def CheckedAs (description : MessageDescription) (result : Except SchemaError Schema) : Prop :=
  ∃ fields, List.Forall₂ FieldDescription.Describes description.fields fields ∧
    Schema.ofFields description.type description.name fields description.size
      description.format = result

/-- The fields described make up an accepted layout. -/
def Accepted (description : MessageDescription) : Prop :=
  ∃ schema, description.CheckedAs (.ok schema)

/-- The schema that is described. -/
structure Describes (description : MessageDescription) (schema : Schema) : Prop where
  type : schema.type = description.type
  name : schema.name = description.name
  fields : List.Forall₂ FieldDescription.Describes description.fields schema.fields
  size : schema.size = description.size
  format : schema.format = description.format
  strictSize : schema.strictSize = description.strictSize
  construction : schema.construction = description.construction

variable {description : MessageDescription}

theorem checkedAs_iff (result : Except SchemaError Schema) :
    description.CheckedAs result ↔
      Schema.ofFields description.type description.name
        (description.fields.map FieldDescription.field) description.size
        description.format = result := by
  simp only [CheckedAs, FieldDescription.forall₂_describes_iff, exists_eq_left]

/-- A schema comes of a description exactly if it is the one described. -/
theorem schema_eq_ok_iff (schema : Schema) :
    description.schema = .ok schema ↔ description.Describes schema := by
  constructor
  · intro h
    obtain ⟨checked, hchecked, hschema⟩ := (Except.bind_eq_ok_iff _ _ _).mp h
    obtain ⟨_, rfl⟩ := (Schema.ofFields_eq_ok_iff ..).mp hchecked
    obtain rfl := Except.ok.inj hschema
    exact ⟨rfl, rfl, (FieldDescription.forall₂_describes_iff _ _).mpr rfl, rfl, rfl, rfl, rfl⟩
  · intro h
    obtain ⟨type, name, fields, size, format, strictSize, construction, accepted⟩ := schema
    obtain ⟨rfl, rfl, hfields, rfl, rfl, rfl, rfl⟩ := h
    obtain rfl := (FieldDescription.forall₂_describes_iff _ _).mp hfields
    exact schema_eq_ok accepted

/-- There is no schema for what the checks of the layout find. -/
theorem schema_eq_error_iff (error : SchemaError) :
    description.schema = .error error ↔ description.CheckedAs (.error error) := by
  rw [checkedAs_iff, schema]
  cases Schema.ofFields description.type description.name
    (description.fields.map FieldDescription.field) description.size description.format with
  | error fault => exact Iff.rfl
  | ok schema =>
    constructor
    · intro h
      cases h
    · intro h
      cases h

/-- The checks have one result. -/
theorem CheckedAs.unique {result result' : Except SchemaError Schema}
    (h : description.CheckedAs result) (h' : description.CheckedAs result') : result = result' :=
  ((checkedAs_iff result).mp h).symm.trans ((checkedAs_iff result').mp h')

theorem not_accepted {error : SchemaError} (h : description.CheckedAs (.error error)) :
    ¬ description.Accepted := by
  rintro ⟨schema, haccepted⟩
  cases h.unique haccepted

theorem accepted_iff : description.Accepted ↔ ∃ schema, description.schema = .ok schema := by
  constructor
  · rintro ⟨checked, hchecked⟩
    refine ⟨_, (Except.bind_eq_ok_iff _ _ _).mpr ⟨checked, (checkedAs_iff _).mp hchecked, rfl⟩⟩
  · rintro ⟨schema, h⟩
    obtain ⟨checked, hchecked, -⟩ := (Except.bind_eq_ok_iff _ _ _).mp h
    exact ⟨checked, (checkedAs_iff _).mpr hchecked⟩

end MessageDescription

/-! ### Registries of descriptions -/

namespace Registry

/-- The registry has the schemas of the messages, each under its own type. -/
structure Holds (messages : List MessageDescription) (registry : Registry) : Prop where
  accepted : ∀ message ∈ messages, message.Accepted
  nodup : (messages.map MessageDescription.type).Nodup
  schema?_iff : ∀ type schema, registry.schema? type = some schema ↔
    ∃ message ∈ messages, message.type = type ∧ message.Describes schema

/-- What is wrong with a message that stands behind others. If its fields are
refused, it does not matter whether its type is taken. -/
inductive Offends (before : List MessageDescription) (message : MessageDescription) :
    SchemaError → Prop where
  | layout {error : SchemaError} (hchecked : message.CheckedAs (.error error)) :
    Offends before message error
  | duplicate (haccepted : message.Accepted)
    (htaken : message.type ∈ before.map MessageDescription.type) :
    Offends before message (.duplicate message.type)

variable {messages : List MessageDescription} {registry : Registry}

theorem Holds.contains_iff (h : Holds messages registry) (type : MessageType) :
    registry.contains type = true ↔ type ∈ messages.map MessageDescription.type := by
  rw [registry.contains_iff, List.mem_map]
  constructor
  · rintro ⟨schema, hschema⟩
    obtain ⟨message, hmem, htype, -⟩ := (h.schema?_iff type schema).mp hschema
    exact ⟨message, hmem, htype⟩
  · rintro ⟨message, hmem, htype⟩
    obtain ⟨schema, hschema⟩ := MessageDescription.accepted_iff.mp (h.accepted message hmem)
    exact ⟨schema, (h.schema?_iff type schema).mpr
      ⟨message, hmem, htype, (MessageDescription.schema_eq_ok_iff schema).mp hschema⟩⟩

/-- All that may become of one message more. -/
theorem registerDescribed_cases (registry : Registry) (message : MessageDescription) :
    (∃ error, message.CheckedAs (.error error) ∧
      registry.registerDescribed message = .error error) ∨
    ∃ schema, message.Describes schema ∧
      (registry.contains message.type = true ∧
        registry.registerDescribed message = .error (.duplicate message.type) ∨
      registry.contains message.type = false ∧
        registry.registerDescribed message = .ok (registry.insert schema)) := by
  unfold registerDescribed
  cases hschema : message.schema with
  | error error => exact .inl ⟨error, (message.schema_eq_error_iff error).mp hschema, rfl⟩
  | ok schema =>
    have hdescribes := (message.schema_eq_ok_iff schema).mp hschema
    refine .inr ⟨schema, hdescribes, ?_⟩
    -- The schema of a description has its type, so nothing else can go wrong.
    obtain ⟨hother, -⟩ | ⟨-, htaken, hregister⟩ | ⟨-, hfree, hregister⟩ :=
      registry.register_cases message.type schema
    · exact absurd hdescribes.type hother
    · exact .inl ⟨htaken, hregister⟩
    · exact .inr ⟨hfree, hregister⟩

/-- One message more that is registered. -/
theorem Holds.insert (h : Holds messages registry) {message : MessageDescription}
    {schema : Schema} (hdescribes : message.Describes schema)
    (hfree : registry.contains message.type = false) :
    Holds (messages ++ [message]) (registry.insert schema) := by
  have hnew : message.type ∉ messages.map MessageDescription.type := by
    rw [← h.contains_iff, hfree]
    decide
  have haccepted : message.Accepted :=
    MessageDescription.accepted_iff.mpr ⟨schema, (message.schema_eq_ok_iff schema).mpr hdescribes⟩
  refine ⟨?_, ?_, fun type found => ?_⟩
  · intro other hmem
    cases List.mem_append.mp hmem with
    | inl hmem => exact h.accepted other hmem
    | inr hmem => exact List.mem_singleton.mp hmem ▸ haccepted
  · rw [List.map_append, List.map_singleton, ← List.concat_eq_append]
    exact List.Nodup.concat hnew h.nodup
  · rw [schema?_insert, hdescribes.type]
    simp only [List.mem_append, List.mem_singleton]
    by_cases htype : type = message.type
    · rw [if_pos htype]
      constructor
      · intro heq
        exact ⟨message, .inr rfl, htype.symm, Option.some.inj heq ▸ hdescribes⟩
      · rintro ⟨other, hmem | rfl, hother, hfound⟩
        · exact absurd (List.mem_map.mpr ⟨other, hmem, hother.trans htype⟩) hnew
        -- A description describes one schema.
        · have heq := ((other.schema_eq_ok_iff schema).mpr hdescribes).symm.trans
            ((other.schema_eq_ok_iff found).mpr hfound)
          rw [Except.ok.inj heq]
    · rw [if_neg htype, h.schema?_iff]
      constructor
      · rintro ⟨other, hmem, hother⟩
        exact ⟨other, .inl hmem, hother⟩
      · rintro ⟨other, hmem | rfl, hother⟩
        · exact ⟨other, hmem, hother⟩
        · exact absurd hother.1.symm htype

/-- Induction over the messages, the last one being the one that is registered
next. -/
theorem holds_of_ofDescriptions (h : ofDescriptions messages = .ok registry) :
    Holds messages registry := by
  induction messages using List.reverseRecOn generalizing registry with
  | nil =>
    obtain rfl := Except.ok.inj h
    refine ⟨by simp, List.nodup_nil, fun type schema => ?_⟩
    simp [empty]
  | append_singleton messages message ih =>
    rw [ofDescriptions, List.foldlM_append] at h
    obtain ⟨registry', hmessages, h⟩ := (Except.bind_eq_ok_iff _ _ _).mp h
    rw [List.foldlM_cons] at h
    obtain ⟨last, hmessage, hlast⟩ := (Except.bind_eq_ok_iff _ _ _).mp h
    obtain rfl := Except.ok.inj hlast
    have hholds := ih hmessages
    -- The last message was registered, so of its cases only that one is left.
    obtain ⟨_, -, hregister⟩ | ⟨schema, hdescribes, ⟨-, hregister⟩ | ⟨hfree, hregister⟩⟩ :=
      registry'.registerDescribed_cases message
    · cases hmessage.symm.trans hregister
    · cases hmessage.symm.trans hregister
    · obtain rfl := Except.ok.inj (hmessage.symm.trans hregister)
      exact hholds.insert hdescribes hfree

/-- A message is not registered for what is wrong with it. -/
theorem Holds.registerDescribed_eq_error_iff (h : Holds messages registry)
    (message : MessageDescription) (error : SchemaError) :
    registry.registerDescribed message = .error error ↔ Offends messages message error := by
  obtain ⟨fault, hchecked, hregister⟩ | ⟨schema, hdescribes, hregister⟩ :=
    registry.registerDescribed_cases message
  · rw [hregister]
    constructor
    · intro heq
      obtain rfl := Except.error.inj heq
      exact .layout hchecked
    · rintro (hchecked' | ⟨⟨schema, haccepted⟩, -⟩)
      · rw [Except.error.inj (hchecked.unique hchecked')]
      · exact absurd ⟨schema, haccepted⟩ (MessageDescription.not_accepted hchecked)
  · have haccepted : message.Accepted := MessageDescription.accepted_iff.mpr
      ⟨schema, (message.schema_eq_ok_iff schema).mpr hdescribes⟩
    have hoffends : Offends messages message error ↔
        message.type ∈ messages.map MessageDescription.type ∧
          error = .duplicate message.type := by
      constructor
      · rintro (hchecked | ⟨-, htaken⟩)
        · exact absurd haccepted (MessageDescription.not_accepted hchecked)
        · exact ⟨htaken, rfl⟩
      · rintro ⟨htaken, rfl⟩
        exact .duplicate haccepted htaken
    rw [hoffends, ← h.contains_iff]
    obtain ⟨htaken, hregister⟩ | ⟨hfree, hregister⟩ := hregister
    · rw [hregister, htaken]
      simp [eq_comm]
    · rw [hregister, hfree]
      simp

/-- What is reported is what is wrong with some message behind others that make up a
registry. -/
theorem exists_of_ofDescriptions_eq_error {error : SchemaError}
    (h : ofDescriptions messages = .error error) :
    ∃ before message after registry, messages = before ++ message :: after ∧
      Holds before registry ∧ Offends before message error := by
  obtain ⟨before, message, after, registry, hsplit, hbefore, hmessage⟩ :=
    (Except.foldlM_eq_error_iff _ _ _ _).mp h
  have hholds := holds_of_ofDescriptions hbefore
  exact ⟨before, message, after, registry, hsplit, hholds,
    (hholds.registerDescribed_eq_error_iff message error).mp hmessage⟩

/-- A description makes up a registry exactly if all of its messages have accepted
layouts and different types. -/
theorem exists_ofDescriptions_eq_ok_iff (messages : List MessageDescription) :
    (∃ registry, ofDescriptions messages = .ok registry) ↔
      (∀ message ∈ messages, message.Accepted) ∧
      (messages.map MessageDescription.type).Nodup := by
  constructor
  · rintro ⟨registry, h⟩
    have hholds := holds_of_ofDescriptions h
    exact ⟨hholds.accepted, hholds.nodup⟩
  · rintro ⟨haccepted, hnodup⟩
    cases hmessages : ofDescriptions messages with
    | ok registry => exact ⟨registry, rfl⟩
    | error error =>
      obtain ⟨before, message, after, _, rfl, -, hoffends⟩ :=
        exists_of_ofDescriptions_eq_error hmessages
      -- Whatever is wrong with a message contradicts one of the two conditions.
      cases hoffends with
      | layout hchecked =>
        have hmem : message ∈ before ++ message :: after :=
          List.mem_append_right _ List.mem_cons_self
        exact absurd (haccepted message hmem) (MessageDescription.not_accepted hchecked)
      | duplicate _ htaken =>
        rw [List.map_append, List.map_cons] at hnodup
        have hdisjoint := (List.nodup_append.mp hnodup).2.2
        exact absurd rfl (hdisjoint _ htaken _ List.mem_cons_self)

/-- What is reported of a description is what is wrong with the first message that
has a defect. -/
theorem ofDescriptions_eq_error_iff (messages : List MessageDescription) (error : SchemaError) :
    ofDescriptions messages = .error error ↔
      ∃ before message after, messages = before ++ message :: after ∧
        (∀ earlier ∈ before, earlier.Accepted) ∧
        (before.map MessageDescription.type).Nodup ∧ Offends before message error := by
  constructor
  · intro h
    obtain ⟨before, message, after, registry, hsplit, hholds, hoffends⟩ :=
      exists_of_ofDescriptions_eq_error h
    exact ⟨before, message, after, hsplit, hholds.accepted, hholds.nodup, hoffends⟩
  · rintro ⟨before, message, after, rfl, haccepted, hnodup, hoffends⟩
    obtain ⟨registry, hbefore⟩ :=
      (exists_ofDescriptions_eq_ok_iff before).mpr ⟨haccepted, hnodup⟩
    have hmessage := ((holds_of_ofDescriptions hbefore).registerDescribed_eq_error_iff message
      error).mpr hoffends
    exact (Except.foldlM_eq_error_iff _ _ _ _).mpr
      ⟨before, message, after, registry, rfl, hbefore, hmessage⟩

/-- A registry has validated schemas under their own types. Of registrations one
after the other exactly those succeed whose schema declares the type when no other
has it, and the others change nothing; so the first schema of a type is the one that
is found. A description makes up a registry exactly if all of its messages have
accepted layouts and different types, and otherwise what is wrong with the first
that has a defect is reported. -/
theorem registry_registered (calls : List Registration) (messages : List MessageDescription) :
    (∀ call,
      (((after calls).attempt call).1 = .ok () ↔
        call.schema.type = call.type ∧ ∀ earlier ∈ calls, ¬ earlier.Gives call.type) ∧
      Answers calls call ((after calls).attempt call).1 ∧
      ∀ error, ((after calls).attempt call).1 = .error error →
        after (calls ++ [call]) = after calls) ∧
    (∀ type schema, first? calls type = some schema → (after calls).lookup type = .ok schema) ∧
    (∀ type, first? calls type = none →
      (after calls).lookup type = .error (.unknownType type)) ∧
    (∀ type schema, (after calls).lookup type = .ok schema →
      schema.type = type ∧ layoutFault? schema.name schema.size schema.fields = none ∧
        (Addressable schema.size schema.fields → WellFormed schema.size schema.fields)) ∧
    (after calls).messageTypes.Pairwise (· < ·) ∧
    (∀ type, type ∈ (after calls).messageTypes ↔ ∃ call ∈ calls, call.Gives type) ∧
    ((∃ registry, ofDescriptions messages = .ok registry) ↔
      (∀ message ∈ messages, message.Accepted) ∧
      (messages.map MessageDescription.type).Nodup) ∧
    (∀ registry, ofDescriptions messages = .ok registry → Holds messages registry) ∧
    (∀ error, ofDescriptions messages = .error error ↔
      ∃ before message after, messages = before ++ message :: after ∧
        (∀ earlier ∈ before, earlier.Accepted) ∧
        (before.map MessageDescription.type).Nodup ∧ Offends before message error) := by
  have hregistered := registered_after calls
  refine ⟨fun call => ?_, fun type schema hfirst => ?_, fun type hfirst => ?_,
    fun type schema hlookup => ?_, pairwise_messageTypes _, fun type => ?_,
    exists_ofDescriptions_eq_ok_iff messages, fun _ => holds_of_ofDescriptions,
    ofDescriptions_eq_error_iff messages⟩
  · have hanswers := hregistered.answers call
    refine ⟨hanswers.eq_ok_iff, hanswers, fun error herror => ?_⟩
    rw [after_concat]
    exact attempt_of_error herror
  · rw [lookup, hregistered type, hfirst]
  · rw [lookup, hregistered type, hfirst]
  · have hschema := ((after calls).lookup_eq_ok_iff type schema).mp hlookup
    exact ⟨(after calls).type_eq type schema hschema,
      schema.accepted, fun haddressable =>
        (layoutFault?_eq_none_iff _ haddressable).mp schema.accepted⟩
  · rw [mem_messageTypes_iff, hregistered.contains_iff]

end Registry

end SensorGateway
