import SensorGateway.Proofs.Command.Representable
import SensorGateway.Proofs.Text.Lowercase

/-!
# `SensorGateway.Proofs.Command.Naming`: parameters named as fields are declared

The name of a field is put in lower case by the rules of Unicode when it is
declared. A parameter names the field if the two names are the same but for
the case of ASCII letters. So a parameter that is spelled as the field was
declared names it exactly when its capitals are ASCII letters.

* `Parameters.get?_of_append`: the first parameter that may name a field, and
  what becomes of the field if it does not.
* `encode_declared`: what a parameter spelled as declared does for its field.
  With capitals of ASCII only it decides what the field is given. With another
  capital it is passed over, and if no other parameter names the field, the
  field is reported as missing.
* `exists_declared_missing`: a field that cannot be named as it was declared.
-/

set_option autoImplicit false

namespace SensorGateway

/-- Where no earlier parameter has the name, a parameter is found if it has it,
and those behind it are searched if it does not. -/
theorem Parameters.get?_of_append {params : Parameters} {name : String}
    {before after : List (String × String)} {pair : String × String}
    (hpairs : params.pairs = before ++ pair :: after)
    (hbefore : ∀ earlier ∈ before, Text.sameIgnoringAsciiCase earlier.1 name = false) :
    params.get? name =
      if Text.sameIgnoringAsciiCase pair.1 name then some pair.2
      else (Parameters.mk after).get? name := by
  have hnone : before.find? (fun pair => Text.sameIgnoringAsciiCase pair.1 name) = none := by
    rw [List.find?_eq_none]
    intro earlier hearlier
    rw [hbefore earlier hearlier]
    exact Bool.false_ne_true
  unfold get?
  rw [hpairs, List.find?_append, hnone, Option.none_or, List.find?_cons]
  cases Text.sameIgnoringAsciiCase pair.1 name <;> rfl

/-- Parameters none of which has a name do not have it. -/
theorem Parameters.get?_eq_none {params : Parameters} {name : String}
    (h : ∀ pair ∈ params.pairs, Text.sameIgnoringAsciiCase pair.1 name = false) :
    params.get? name = none := by
  unfold get?
  rw [Option.map_eq_none_iff, List.find?_eq_none]
  intro pair hpair
  rw [h pair hpair]
  exact Bool.false_ne_true

namespace Schema

/-- A field that has a parameter is not reported as missing. The report gives a
name, and fields of one name have the same parameter. -/
theorem encode_ne_missingField {schema : Schema} {params : Parameters} {name text : String}
    (h : params.get? name = some text) :
    schema.encode params ≠ .error (.missingField schema.name name) := by
  intro herror
  cases refuses_of_encode_eq_error herror with
  | missing _ hnone =>
    rw [h] at hnone
    cases hnone

/-- The first settable field that is not supplied is reported as missing if it
has no parameter. -/
theorem encode_eq_missingField {schema : Schema} (h : schema.Placeable) {params : Parameters}
    {field : Field} {front back : List Field} (hencode : schema.construction.canEncode = true)
    (hfields : schema.settableFields = front ++ field :: back)
    (hfront : ∀ earlier ∈ front, params.Supplies earlier)
    (hnone : params.get? field.name = none) :
    schema.encode params = .error (.missingField schema.name field.name) := by
  have hnot : ¬ params.Supplies field := by
    rintro ⟨text, htext, -⟩
    rw [hnone] at htext
    cases htext
  exact (encode_eq_error_iff h params _).mpr
    (Or.inr ⟨hencode, front, field, back, hfields, hfront, hnot, .missing hnone⟩)

/-- A parameter that is spelled as a settable field was declared, with no earlier
parameter that names the field.

If its capitals are ASCII letters, the field is given its text: the field is not
reported as missing, and in every frame that is built the text stands for values
of the field and each element holds the bits of its own item. If it has another
capital, the parameter is passed over for this field, and if no later one names
the field, no frame is built and the field is reported as missing once all
fields before it are supplied. What is said of bits, and of fields before, is said
where everything that an operator sets ends at a number of 64 bits.

Of all spellings with the lower case of the field, those whose capitals are ASCII
letters name it, and no others. Any two of those name the same fields. -/
theorem encode_declared {schema : Schema} {params : Parameters} {field : Field}
    {declared text : String} {before after : List (String × String)}
    (hfield : field ∈ schema.settableFields) (hname : field.name = Text.lowercase declared)
    (hpairs : params.pairs = before ++ (declared, text) :: after)
    (hbefore : ∀ pair ∈ before, Text.sameIgnoringAsciiCase pair.1 field.name = false) :
    (Text.AsciiCased declared →
      params.get? field.name = some text ∧
      schema.encode params ≠ .error (.missingField schema.name field.name) ∧
      ∀ frame, schema.encode params = .ok frame →
        field.Represents text ∧
        (schema.Placeable →
          ∀ (i : Nat) (element : Element) (item : String), field.elements[i]? = some element →
            (field.items text)[i]? = some item →
            ∃ bits, element.bits item = .ok bits ∧
              frame.bytes.number element.offset element.width = bits % 2 ^ element.width)) ∧
    (¬ Text.AsciiCased declared →
      params.get? field.name = (Parameters.mk after).get? field.name ∧
      ((∀ pair ∈ after, Text.sameIgnoringAsciiCase pair.1 field.name = false) →
        (∀ frame, schema.encode params ≠ .ok frame) ∧
        ∀ front back, schema.Placeable → schema.construction.canEncode = true →
          schema.settableFields = front ++ field :: back →
          (∀ earlier ∈ front, params.Supplies earlier) →
          schema.encode params = .error (.missingField schema.name field.name))) ∧
    (∀ spelling, Text.lowercase spelling = field.name →
      (Text.sameIgnoringAsciiCase spelling field.name = true ↔ Text.AsciiCased spelling)) ∧
    ∀ a b, Text.lowercase a = Text.lowercase b → Text.AsciiCased a → Text.AsciiCased b →
      ∀ name, Text.sameIgnoringAsciiCase a name = Text.sameIgnoringAsciiCase b name := by
  have hget := Parameters.get?_of_append hpairs hbefore
  have hdeclared : Text.sameIgnoringAsciiCase declared field.name = true ↔
      Text.AsciiCased declared := by
    rw [hname]
    exact Text.sameIgnoringAsciiCase_lowercase_iff declared
  refine ⟨?_, ?_, ?_, fun a b h ha hb => Text.sameIgnoringAsciiCase_congr h ha hb⟩
  · intro hcased
    have htext : params.get? field.name = some text := by
      rw [hget, if_pos (hdeclared.mpr hcased)]
    refine ⟨htext, encode_ne_missingField htext, ?_⟩
    intro frame hframe
    obtain ⟨hin, hsettable⟩ := List.mem_filter.mp hfield
    obtain ⟨found, hfound, hrepresents⟩ := supplies_of_encode_eq_ok hframe hfield
    -- Whatever text was found for the field is that of the parameter.
    obtain rfl : text = found := Option.some.inj (htext.symm.trans hfound)
    refine ⟨hrepresents, ?_⟩
    intro hplaceable
    obtain ⟨found, hfound, -, hbits⟩ := number_encode hplaceable hframe hin hsettable
    obtain rfl : text = found := Option.some.inj (htext.symm.trans hfound)
    exact hbits
  · intro hforeign
    have hskipped : params.get? field.name = (Parameters.mk after).get? field.name := by
      rw [hget, if_neg (fun hsame => hforeign (hdeclared.mp hsame))]
    refine ⟨hskipped, ?_⟩
    intro hafter
    have hnone : params.get? field.name = none := hskipped.trans (Parameters.get?_eq_none hafter)
    constructor
    · intro frame hframe
      obtain ⟨found, hfound, -⟩ := supplies_of_encode_eq_ok hframe hfield
      rw [hnone] at hfound
      cases hfound
    · intro front back hplaceable hencode hfields hfront
      exact encode_eq_missingField hplaceable hencode hfields hfront hnone
  · intro spelling hspelling
    rw [← hspelling]
    exact Text.sameIgnoringAsciiCase_lowercase_iff spelling

/-- The level of a tank. -/
def tank : Schema where
  type := 0x24
  name := "Tank"
  fields := [.named "FüllStand" 0 8 .unsigned]
  size := 1
  format := .current
  accepted := layoutFault?_eq_none [.named "FüllStand" 0 8 .unsigned]
    (by decide) (by decide) (by decide) (by decide) (by decide)

/-- Spelled as it was declared, with a small letter of another alphabet, the
level is the second of three parameters and the one that counts. -/
theorem encode_declared_tank :
    Field.named "FüllStand" 0 8 .unsigned ∈ tank.settableFields ∧
    Text.AsciiCased "FüllStand" ∧
    Parameters.get? ⟨[("stand", "1"), ("FüllStand", "7"), ("füllstand", "9")]⟩ "füllstand" =
      some "7" := by
  have hmem : Field.named "FüllStand" 0 8 .unsigned ∈ tank.settableFields := by decide
  have hcased : Text.AsciiCased "FüllStand" := by decide
  have hpairs : Parameters.pairs ⟨[("stand", "1"), ("FüllStand", "7"), ("füllstand", "9")]⟩ =
      [("stand", "1")] ++ ("FüllStand", "7") :: [("füllstand", "9")] := rfl
  obtain ⟨hgiven, -, -, -⟩ := encode_declared hmem rfl hpairs (by decide)
  exact ⟨hmem, hcased, (hgiven hcased).1⟩

/-- The level of an oil tank, declared with a capital of another alphabet, is
reported as missing when it is given by the name it was declared with. -/
theorem exists_declared_missing :
    ∃ schema, Schema.ofFields 0x25 "Oil" [.named "Ölstand" 0 8 .unsigned] 1 .current =
        .ok schema ∧
      schema.encode ⟨[("Ölstand", "5")]⟩ = .error (.missingField "Oil" "ölstand") := by
  have haccepted : layoutFault? "Oil" 1 [.named "Ölstand" 0 8 .unsigned] = none :=
    layoutFault?_eq_none [.named "Ölstand" 0 8 .unsigned]
      (by decide) (by decide) (by decide) (by decide) (by decide)
  exact ⟨_, ofFields_eq_ok 0x25 .current haccepted, rfl⟩

end Schema

end SensorGateway
