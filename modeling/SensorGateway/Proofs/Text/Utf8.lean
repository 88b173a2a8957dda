import SensorGateway.Text.Utf8

/-!
# `SensorGateway.Proofs.Text.Utf8`: bytes of texts

* `utf8_eq_encoded`: a text has the bytes of its characters.
* `ofUtf8?_utf8`: it is read again from its bytes.
* `mem_utf8EncodeChar_iff`: a byte below 128 is the only one of its
  character, and `newline_mem_encoded_iff`: so a line feed among the bytes is
  one of the text.
-/

set_option autoImplicit false

namespace SensorGateway.Text

@[simp]
theorem encoded_append (first second : List Char) :
    encoded (first ++ second) = encoded first ++ encoded second := List.flatMap_append

theorem encoded_flatten (pieces : List (List Char)) :
    encoded pieces.flatten = (pieces.map encoded).flatten := by
  induction pieces with
  | nil => rfl
  | cons first rest ih =>
    rw [List.flatten_cons, encoded_append, ih, List.map_cons, List.flatten_cons]

/-- A text has the bytes of its characters. -/
theorem utf8_eq_encoded (text : String) : utf8 text = encoded text.toList := by
  have hbytes : text.toUTF8 = text.toList.utf8Encode := by
    rw [← String.toByteArray_ofList, String.ofList_toList]
    rfl
  rw [utf8, hbytes, List.utf8Encode, List.toList_data_toByteArray, encoded]

/-- A text is read again from its bytes. -/
theorem ofUtf8?_utf8 (text : String) : ofUtf8? (utf8 text) = some text := by
  have hbytes : (utf8 text).toByteArray = text.toByteArray := by
    apply ByteArray.ext
    apply Array.toList_inj.mp
    rw [List.toList_data_toByteArray]
    rfl
  rw [ofUtf8?, hbytes, String.fromUTF8?, dif_pos text.isValidUTF8]
  rfl

/-- The bytes of a character that has several are 128 or more. -/
theorem ne_ofNat {byte : UInt8} (h : byte.toNat < 128) {n : Nat} (hlow : 128 ≤ n)
    (hhigh : n < 256) : byte ≠ UInt8.ofNat n := by
  rintro rfl
  rw [UInt8.toNat_ofNat', Nat.mod_eq_of_lt hhigh] at h
  omega

/-- A byte below 128 is all there is of its character. -/
theorem mem_utf8EncodeChar_iff {byte : UInt8} (h : byte.toNat < 128) (c : Char) :
    byte ∈ String.utf8EncodeChar c ↔ c.toNat = byte.toNat := by
  have hval : c.val.toNat = c.toNat := rfl
  unfold String.utf8EncodeChar
  simp only [hval]
  split
  · next hone =>
    rw [List.mem_singleton]
    constructor
    · rintro rfl
      rw [UInt8.toNat_ofNat', Nat.mod_eq_of_lt (by omega)]
    · intro heq
      rw [heq, UInt8.ofNat_toNat]
  · next hseveral =>
    -- All bytes of a longer character have their first bit set.
    have hnot : ¬ c.toNat = byte.toNat := by omega
    have hbyte := @ne_ofNat byte h
    rw [iff_false_right hnot]
    split
    · simp only [List.mem_cons, List.not_mem_nil, or_false, not_or]
      exact ⟨hbyte (by omega) (by omega), hbyte (by omega) (by omega)⟩
    · split
      · simp only [List.mem_cons, List.not_mem_nil, or_false, not_or]
        exact ⟨hbyte (by omega) (by omega), hbyte (by omega) (by omega),
          hbyte (by omega) (by omega)⟩
      · simp only [List.mem_cons, List.not_mem_nil, or_false, not_or]
        exact ⟨hbyte (by omega) (by omega), hbyte (by omega) (by omega),
          hbyte (by omega) (by omega), hbyte (by omega) (by omega)⟩

/-- A line feed among the bytes is one of the characters. -/
theorem newline_mem_encoded_iff (chars : List Char) : 10 ∈ encoded chars ↔ '\n' ∈ chars := by
  have hchar : ∀ c, 10 ∈ String.utf8EncodeChar c ↔ c = '\n' := by
    intro c
    rw [mem_utf8EncodeChar_iff (by decide)]
    constructor
    · intro h
      exact Char.toNat_inj.mp h
    · rintro rfl
      rfl
  simp only [encoded, List.mem_flatMap, hchar, exists_eq_right]

end SensorGateway.Text
