import SensorGateway.Power

/-!
# `SensorGateway.Bytes`: byte strings as big-endian numbers

A byte string is a list of bytes, first byte first. `Bytes.toNat` reads
it as one number in base 256, most significant byte first, and
`Bytes.ofNat` spells a number in a given number of bytes. The two are
inverse to each other as long as the number fits:

* `toNat_ofNat`: reading back what was spelled gives the number modulo
  `256 ^ len`.
* `ofNat_toNat`: spelling a byte string's number in its own length
  gives the byte string back.
-/

set_option autoImplicit false

namespace SensorGateway

/-- A finite byte string, first byte first. -/
abbrev Bytes := List UInt8

namespace Bytes

/-- The number a byte string spells in base 256, most significant byte
first. -/
def toNat (bytes : Bytes) : Nat :=
  bytes.foldl (fun acc byte => acc * 256 + byte.toNat) 0

/-- The low `len` base-256 digits of a number, most significant digit
first. -/
def ofNat : Nat → Nat → Bytes
  | 0, _ => []
  | len + 1, n => ofNat len (n / 256) ++ [UInt8.ofNat n]

/-- A byte string of `len` zero bytes. -/
def zeros (len : Nat) : Bytes := List.replicate len 0

/-! ### Length -/

/-- A number spelled in `len` bytes takes `len` bytes. -/
@[simp]
theorem length_ofNat (len n : Nat) : (ofNat len n).length = len := by
  induction len generalizing n with
  | zero => rfl
  | succ len ih => simp [ofNat, ih]

@[simp]
theorem length_zeros (len : Nat) : (zeros len).length = len := by
  simp [zeros]

/-! ### The two readings -/

@[simp]
theorem toNat_nil : toNat [] = 0 := rfl

/-- A last byte is the lowest digit. -/
theorem toNat_concat (bytes : Bytes) (byte : UInt8) :
    toNat (bytes ++ [byte]) = toNat bytes * 256 + byte.toNat := by
  simp [toNat, List.foldl_append]

/-- Concatenation shifts the first part past the second. -/
theorem toNat_append (front back : Bytes) :
    toNat (front ++ back) = toNat front * 256 ^ back.length + toNat back := by
  induction back generalizing front with
  | nil => simp
  | cons byte rest ih =>
    have hsplit : front ++ byte :: rest = (front ++ [byte]) ++ rest := by simp
    have hone : toNat (byte :: rest) = byte.toNat * 256 ^ rest.length + toNat rest := by
      have h := ih [byte]
      simpa [toNat] using h
    rw [hsplit, ih, toNat_concat, hone, List.length_cons, Nat.pow_succ]
    rw [Nat.add_mul, Nat.mul_assoc, Nat.mul_comm 256, Nat.add_assoc]

/-- Zero bytes spell zero. -/
@[simp]
theorem toNat_zeros (len : Nat) : toNat (zeros len) = 0 := by
  induction len with
  | zero => rfl
  | succ len ih =>
    rw [zeros, List.replicate_succ', toNat_concat]
    show toNat (zeros len) * 256 + 0 = 0
    rw [ih]

/-- A byte string spells less than `256` to its length. -/
theorem toNat_lt (bytes : Bytes) : toNat bytes < 256 ^ bytes.length := by
  have hgen : ∀ (rest : Bytes) (acc bound : Nat), acc < bound →
      rest.foldl (fun acc byte => acc * 256 + byte.toNat) acc < bound * 256 ^ rest.length := by
    intro rest
    induction rest with
    | nil => intro acc bound h; simpa using h
    | cons byte rest ih =>
      intro acc bound h
      have hbyte := byte.toNat_lt
      have hstep : acc * 256 + byte.toNat < bound * 256 := by omega
      have hrec := ih (acc * 256 + byte.toNat) (bound * 256) hstep
      simpa [Nat.pow_succ, Nat.mul_assoc, Nat.mul_comm 256] using hrec
  simpa [toNat] using hgen bytes 0 1 (by decide)

/-- Reading back what was spelled gives the number modulo `256 ^ len`. -/
theorem toNat_ofNat (len n : Nat) : toNat (ofNat len n) = n % 256 ^ len := by
  induction len generalizing n with
  | zero => simp [ofNat, Nat.mod_one]
  | succ len ih =>
    rw [ofNat, toNat_concat, ih, Nat.pow_succ, Nat.mul_comm (256 ^ len) 256, Nat.mod_mul]
    have hbyte : (UInt8.ofNat n).toNat = n % 256 := by simp
    omega

/-- Spelling a byte string's number in its own length gives the byte
string back. -/
theorem ofNat_toNat (bytes : Bytes) : ofNat bytes.length (toNat bytes) = bytes := by
  have hgen : ∀ reversed : Bytes,
      ofNat reversed.length (toNat reversed.reverse) = reversed.reverse := by
    intro reversed
    induction reversed with
    | nil => rfl
    | cons byte rest ih =>
      have hbyte := byte.toNat_lt
      rw [List.reverse_cons, toNat_concat, List.length_cons, ofNat]
      have hdiv : (toNat rest.reverse * 256 + byte.toNat) / 256 = toNat rest.reverse := by
        omega
      have hlow : UInt8.ofNat (toNat rest.reverse * 256 + byte.toNat) = byte := by
        apply UInt8.toNat_inj.mp
        simp
      rw [hdiv, ih, hlow]
  simpa using hgen bytes.reverse

end Bytes

end SensorGateway
