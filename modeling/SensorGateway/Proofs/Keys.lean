import Std.Data.String.ToNat
import SensorGateway.Proofs.Layout

/-!
# `SensorGateway.Proofs.Keys`: the keys of elements

A record keeps an element under the name of its field, followed by an
index in brackets if the field is an array. An indexed key tells the name
and the index, so within a field the keys tell the elements apart, and no
element of a schema has one of the keys that open every record.
-/

set_option autoImplicit false

namespace SensorGateway

/-- The characters of an indexed key. -/
theorem Field.toList_key_elementAt (field : Field) (index : Nat) :
    (field.elementAt index).key.toList =
      field.name.toList ++ '[' :: (Nat.repr index).toList ++ [']'] := by
  simp [elementAt, toString]

/-- What follows the last bracket tells where it stands. -/
theorem append_cons_inj_of_notMem {c : Char} {xs ys us vs : List Char} (hus : c ∉ us)
    (hvs : c ∉ vs) (h : xs ++ c :: us = ys ++ c :: vs) : xs = ys ∧ us = vs := by
  cases List.append_eq_append_iff.mp h with
  | inl hleft =>
    obtain ⟨middle, rfl, hmiddle⟩ := hleft
    cases middle with
    | nil => exact ⟨(List.append_nil xs).symm, (List.cons.inj hmiddle).2⟩
    | cons first rest => exact absurd ((List.cons.inj hmiddle).2 ▸ by simp) hus
  | inr hright =>
    obtain ⟨middle, rfl, hmiddle⟩ := hright
    cases middle with
    | nil => exact ⟨List.append_nil ys, (List.cons.inj hmiddle).2.symm⟩
    | cons first rest => exact absurd ((List.cons.inj hmiddle).2 ▸ by simp) hvs

/-- No index contains a bracket. -/
theorem bracket_notMem_repr (n : Nat) : '[' ∉ (Nat.repr n).toList ++ [']'] := by
  rw [Nat.repr_eq_ofList_toDigits, String.toList_ofList]
  intro h
  cases List.mem_append.mp h with
  | inl hdigit =>
    exact absurd (Nat.isDigit_of_mem_toDigits (by decide) (by decide) hdigit) (by decide)
  | inr hlast => exact absurd hlast (by decide)

/-- Indexed keys are equal only if names and indices are. -/
theorem Field.elementAt_key_inj {a b : Field} {i j : Nat}
    (h : (a.elementAt i).key = (b.elementAt j).key) : a.name = b.name ∧ i = j := by
  have hlist := congrArg String.toList h
  rw [toList_key_elementAt, toList_key_elementAt, List.append_assoc, List.append_assoc] at hlist
  obtain ⟨hname, hindex⟩ := append_cons_inj_of_notMem (bracket_notMem_repr i)
    (bracket_notMem_repr j) hlist
  have hdigits : (Nat.repr i).toList = (Nat.repr j).toList := by simpa using hindex
  exact ⟨String.toList_inj.mp hname, Nat.repr_injective (String.toList_inj.mp hdigits)⟩

/-- An indexed key ends in a bracket, which no reserved name does. -/
theorem Field.key_elementAt_notMem_reservedNames (field : Field) (index : Nat) :
    (field.elementAt index).key ∉ reservedNames := by
  intro hmem
  have hlast : (field.elementAt index).key.toList.getLast? = some ']' := by
    rw [toList_key_elementAt, List.getLast?_concat]
  have hreserved : ∀ name ∈ reservedNames, name.toList.getLast? ≠ some ']' := by decide
  exact hreserved _ hmem hlast

/-- No element has one of the keys that open every record. -/
theorem Schema.key_notMem_reservedNames (schema : Schema) {element : Element}
    (h : element ∈ schema.elements) : element.key ∉ reservedNames := by
  obtain ⟨field, hfield, helement⟩ := List.mem_flatMap.mp h
  cases field.mem_elements_iff element |>.mp helement with
  | inl hsingle =>
    obtain ⟨_, rfl⟩ := hsingle
    exact (schema.sound_of_mem_fields hfield).name_notMem
  | inr hindexed =>
    obtain ⟨_, index, _, _, rfl⟩ := hindexed
    exact field.key_elementAt_notMem_reservedNames index

end SensorGateway
