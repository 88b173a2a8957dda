import Mathlib.Data.List.Forall2
import SensorGateway.Forwarder.Framing
import SensorGateway.Proofs.Outcome

/-!
# `SensorGateway.Proofs.Forwarder.Framing`: packets behind their lengths

A packet of up to 255 bytes makes a frame, and a buffer starts with a
complete packet exactly when it starts with a frame.

* `decodePacket_eq_ok_iff`: taking a packet off a buffer undoes framing.
* `decodePacket_append`: bytes that arrive later do not change it.
* `incomplete_iff`: what is no packet yet is the beginning of a frame.
* `decodeAll_frames`: the packets of a row of frames.
-/

set_option autoImplicit false

namespace SensorGateway.Forwarder

/-! ### One packet -/

theorem encodePacket_eq_ok_iff (packet frame : Bytes) :
    encodePacket packet = .ok frame ↔
      packet.length ≤ maxPacket ∧ UInt8.ofNat packet.length :: packet = frame := by
  unfold encodePacket
  split
  · next hle => simp [hle]
  · next hlong => simp [hlong]

/-- A buffer whose first packet can be taken off is a frame and what is left. -/
theorem decodePacket_eq_ok_iff (bytes packet rest : Bytes) :
    decodePacket bytes = .ok (packet, rest) ↔
      ∃ frame, encodePacket packet = .ok frame ∧ bytes = frame ++ rest := by
  simp only [encodePacket_eq_ok_iff]
  constructor
  · intro h
    match bytes with
    | [] => cases h
    | length :: more =>
      rw [decodePacket] at h
      split at h
      · next hle =>
        obtain ⟨rfl, rfl⟩ := Prod.mk.inj (Except.ok.inj h)
        have hlength : (more.take length.toNat).length = length.toNat := by
          rw [List.length_take, Nat.min_eq_left hle]
        refine ⟨_, ⟨?_, rfl⟩, ?_⟩
        · rw [hlength]
          exact Nat.le_of_lt_succ length.toNat_lt
        · rw [hlength, UInt8.ofNat_toNat, List.cons_append, List.take_append_drop]
      · cases h
  · rintro ⟨frame, ⟨hle, rfl⟩, rfl⟩
    have hlength : (UInt8.ofNat packet.length).toNat = packet.length := by
      rw [UInt8.toNat_ofNat']
      exact Nat.mod_eq_of_lt (Nat.lt_succ_of_le hle)
    rw [List.cons_append, decodePacket, hlength, if_pos (by simp)]
    simp

/-- More bytes behind a complete packet are left for later. -/
theorem decodePacket_append {bytes packet rest : Bytes}
    (h : decodePacket bytes = .ok (packet, rest)) (more : Bytes) :
    decodePacket (bytes ++ more) = .ok (packet, rest ++ more) := by
  obtain ⟨frame, hframe, rfl⟩ := (decodePacket_eq_ok_iff ..).mp h
  refine (decodePacket_eq_ok_iff ..).mpr ⟨frame, hframe, ?_⟩
  rw [List.append_assoc]

/-- A buffer without a complete packet is shorter than the longest frame. -/
theorem length_lt_of_decodePacket_eq_error {bytes : Bytes} {error : FramingError}
    (h : decodePacket bytes = .error error) : bytes.length < 256 := by
  match bytes with
  | [] => decide
  | length :: more =>
    rw [decodePacket] at h
    split at h
    · cases h
    · next hshort =>
      have hlt := length.toNat_lt
      simp only [List.length_cons]
      omega

/-! ### Incomplete packets -/

/-- The beginning of a frame, but not all of it. -/
def Incomplete (bytes : Bytes) : Prop :=
  ∃ packet frame, encodePacket packet = .ok frame ∧ bytes <+: frame ∧ bytes ≠ frame

/-- A buffer has no complete packet exactly when it is the beginning of one. -/
theorem incomplete_iff (bytes : Bytes) :
    Incomplete bytes ↔ ∃ error, decodePacket bytes = .error error := by
  constructor
  · rintro ⟨packet, frame, hframe, ⟨missing, rfl⟩, hne⟩
    cases hdecode : decodePacket bytes with
    | error error => exact ⟨error, rfl⟩
    | ok result =>
      -- Were a packet complete, it would be complete in the whole frame too, and
      -- nothing would be left of that.
      obtain ⟨found, rest⟩ := result
      have hwhole := (decodePacket_eq_ok_iff (bytes ++ missing) packet []).mpr
        ⟨_, hframe, (List.append_nil _).symm⟩
      rw [decodePacket_append hdecode missing] at hwhole
      have hrest := (Prod.mk.inj (Except.ok.inj hwhole)).2
      have hmissing : missing = [] := (List.append_eq_nil_iff.mp hrest).2
      exact absurd (by rw [hmissing, List.append_nil]) hne
  · rintro ⟨error, h⟩
    match bytes with
    | [] => exact ⟨[], [0], rfl, List.nil_prefix, by simp⟩
    | length :: more =>
      rw [decodePacket] at h
      split at h
      · cases h
      · next hshort =>
        -- Zeros complete the packet.
        have hlength : (more ++ Bytes.zeros (length.toNat - more.length)).length =
            length.toNat := by
          rw [List.length_append, Bytes.length_zeros]
          omega
        refine ⟨more ++ Bytes.zeros (length.toNat - more.length), _,
          (encodePacket_eq_ok_iff ..).mpr ⟨?_, rfl⟩, ?_, ?_⟩
        · rw [hlength]
          exact Nat.le_of_lt_succ length.toNat_lt
        · rw [hlength, UInt8.ofNat_toNat]
          exact List.prefix_append (length :: more) _
        · intro heq
          have := congrArg List.length heq
          simp only [List.length_cons, hlength] at this
          omega

/-! ### Rows of packets -/

theorem decodeAll_of_eq_ok {bytes packet rest : Bytes}
    (h : decodePacket bytes = .ok (packet, rest)) :
    decodeAll bytes = (packet :: (decodeAll rest).1, (decodeAll rest).2) := by
  rw [decodeAll]
  split
  · next found more hfound =>
    rw [h] at hfound
    cases hfound
    rfl
  · next error herror =>
    rw [h] at herror
    cases herror

theorem decodeAll_of_eq_error {bytes : Bytes} {error : FramingError}
    (h : decodePacket bytes = .error error) : decodeAll bytes = ([], bytes) := by
  rw [decodeAll]
  split
  · next hfound =>
    rw [h] at hfound
    cases hfound
  · rfl

/-- A row of frames and an incomplete one are taken apart into the packets
of the frames and the rest. -/
theorem decodeAll_frames {packets frames : List Bytes}
    (hframes : packets.mapM encodePacket = .ok frames) {tail : Bytes} (htail : Incomplete tail) :
    decodeAll (frames.flatten ++ tail) = (packets, tail) := by
  have hall := (Except.mapM_eq_ok_iff _ _ _).mp hframes
  clear hframes
  induction hall with
  | nil =>
    obtain ⟨error, herror⟩ := (incomplete_iff tail).mp htail
    exact decodeAll_of_eq_error herror
  | @cons packet frame packets frames hframe _ ih =>
    have hfirst : decodePacket ((frame :: frames).flatten ++ tail) =
        .ok (packet, frames.flatten ++ tail) := by
      refine (decodePacket_eq_ok_iff ..).mpr ⟨frame, hframe, ?_⟩
      rw [List.flatten_cons, List.append_assoc]
    rw [decodeAll_of_eq_ok hfirst, ih]

/-- Packets of up to 255 bytes have frames. -/
theorem exists_frames {packets : List Bytes} (h : ∀ packet ∈ packets, packet.length ≤ maxPacket) :
    packets.mapM encodePacket =
      .ok (packets.map fun packet => UInt8.ofNat packet.length :: packet) := by
  rw [Except.mapM_eq_ok_iff, List.forall₂_map_right_iff, List.forall₂_same]
  intro packet hmem
  exact (encodePacket_eq_ok_iff ..).mpr ⟨h packet hmem, rfl⟩

end SensorGateway.Forwarder
