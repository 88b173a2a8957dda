import SensorGateway.Proofs.Bits
import SensorGateway.Proofs.Outcome
import SensorGateway.Proofs.Packet

/-!
# `SensorGateway.Proofs.Wrapping`: packets taken apart

Packets are built and taken apart by separate code. `WireFormat.Carries`
says what the bits of a packet mean without either of them: where the
destination, the message type and the length stand, and what the byte that
is left over holds.

* `carries_of_wrap_eq_ok` and `unwrap_eq_ok_iff`: a packet that is built
  carries what it was built from, and taking a packet apart gives what it
  carries.
* `unwrap_append_of_wrap_eq_ok` and `wrap_of_unwrap_eq_ok`: the way there and
  back, from either end.
* `wrap_unwrap`: all of it, for every packet of both formats.
-/

set_option autoImplicit false

namespace SensorGateway.WireFormat

/-! ### Addresses -/

theorem toNat_address (high low : UInt8) : (address high low).toNat = Bytes.toNat [high, low] := by
  have hlt : Bytes.toNat [high, low] < 256 ^ 2 := Bytes.toNat_lt [high, low]
  rw [address, UInt16.toNat_ofNat']
  exact Nat.mod_eq_of_lt hlt

/-- An address is spelled by the two bytes it was made of. -/
theorem ofNat_address (high low : UInt8) :
    Bytes.ofNat 2 (address high low).toNat = [high, low] := by
  rw [toNat_address]
  exact Bytes.ofNat_toNat [high, low]

/-- Every address is made of the two bytes that spell it. -/
theorem exists_address (destination : UInt16) :
    ∃ high low, Bytes.ofNat 2 destination.toNat = [high, low] ∧
      address high low = destination := by
  refine ⟨UInt8.ofNat (destination.toNat / 256), UInt8.ofNat destination.toNat, rfl, ?_⟩
  have hlt : destination.toNat < 256 ^ 2 := destination.toNat_lt
  have hnat := Bytes.toNat_ofNat 2 destination.toNat
  rw [Nat.mod_eq_of_lt hlt] at hnat
  show UInt16.ofNat (Bytes.toNat (Bytes.ofNat 2 destination.toNat)) = destination
  rw [hnat, UInt16.ofNat_toNat]

/-! ### Headers byte by byte -/

/-- The group in the headers that a format writes. -/
def group : WireFormat → Option UInt8
  | .legacy => some legacyGroup
  | .current => none

/-- What five bytes say as a header. -/
def fields (format : WireFormat) (first second third type length : UInt8) : Header :=
  match format with
  | .legacy => ⟨address first second, some third, type, length⟩
  | .current => ⟨address second third, none, type, length⟩

/-- A header is refused for its marker first, and then for the length it
declares. -/
theorem readHeader_cons (format : WireFormat) (first second third type length : UInt8)
    (rest : Bytes) :
    format.readHeader (first :: second :: third :: type :: length :: rest) =
      if format = .current ∧ first ≠ marker then .error (.badMarker first)
      else if rest.length < length.toNat then .error (.truncated length.toNat rest.length)
      else .ok (format.fields first second third type length) := by
  cases format with
  | legacy =>
    rw [if_neg (by simp)]
    rfl
  | current =>
    show (if first = marker then
        if rest.length < length.toNat then
          Except.error (PacketError.truncated length.toNat rest.length)
        else Except.ok (current.fields first second third type length)
      else Except.error (PacketError.badMarker first)) = _
    by_cases hmarker : first = marker <;> simp [hmarker]

/-- A packet of five bytes or more starts with a header. -/
theorem exists_header_of_length_le {packet : Bytes} (h : headerLength ≤ packet.length) :
    ∃ first second third type length rest,
      packet = first :: second :: third :: type :: length :: rest := by
  match packet, h with
  | first :: second :: third :: type :: length :: rest, _ =>
    exact ⟨first, second, third, type, length, rest, rfl⟩

/-- A shorter one has none. -/
theorem readHeader_of_length_lt (format : WireFormat) {packet : Bytes}
    (h : packet.length < headerLength) :
    format.readHeader packet = .error (.tooShort packet.length) := by
  match packet, h with
  | [], _ | [_], _ | [_, _], _ | [_, _, _], _ | [_, _, _, _], _ => rfl

theorem readHeader_eq_ok_iff (format : WireFormat) (first second third type length : UInt8)
    (rest : Bytes) (head : Header) :
    format.readHeader (first :: second :: third :: type :: length :: rest) = .ok head ↔
      (format = .current → first = marker) ∧ length.toNat ≤ rest.length ∧
        format.fields first second third type length = head := by
  rw [readHeader_cons]
  by_cases hmarker : format = .current ∧ first ≠ marker
  · simp [hmarker]
  · have hopens : format = .current → first = marker := by simpa using hmarker
    rw [if_neg hmarker]
    by_cases hlength : rest.length < length.toNat
    · have hshort : ¬ length.toNat ≤ rest.length := Nat.not_le.mpr hlength
      simp [hlength, hshort]
    · rw [if_neg hlength, Except.ok.injEq]
      exact ⟨fun h => ⟨hopens, Nat.not_lt.mp hlength, h⟩, fun h => h.2.2⟩

/-- Taking a packet apart keeps the fields of its header, and the declared
part of what follows as the payload. -/
theorem unwrap_cons_eq_ok_iff (format : WireFormat) (first second third type length : UInt8)
    (rest : Bytes) (message : Packet) :
    format.unwrap (first :: second :: third :: type :: length :: rest) = .ok message ↔
      (format = .current → first = marker) ∧ length.toNat ≤ rest.length ∧
        message = ⟨(format.fields first second third type length).destination,
          (format.fields first second third type length).group, type,
          rest.take length.toNat⟩ := by
  have hfields : ∀ head, format.fields first second third type length = head →
      head.messageType = type ∧ head.length = length := by
    rintro head rfl
    cases format <;> exact ⟨rfl, rfl⟩
  unfold unwrap
  rw [Except.bind_eq_ok_iff]
  constructor
  · rintro ⟨head, hhead, hmessage⟩
    obtain ⟨hmarker, hlength, rfl⟩ := (readHeader_eq_ok_iff ..).mp hhead
    obtain ⟨htype, hlen⟩ := hfields _ rfl
    refine ⟨hmarker, hlength, ?_⟩
    rw [← Except.ok.inj hmessage, htype, hlen]
    rfl
  · rintro ⟨hmarker, hlength, rfl⟩
    obtain ⟨htype, hlen⟩ := hfields _ rfl
    refine ⟨_, (readHeader_eq_ok_iff ..).mpr ⟨hmarker, hlength, rfl⟩, ?_⟩
    rw [htype, hlen]
    rfl

theorem unwrap_of_length_lt (format : WireFormat) {packet : Bytes}
    (h : packet.length < headerLength) :
    format.unwrap packet = .error (.tooShort packet.length) := by
  rw [unwrap, readHeader_of_length_lt format h]
  rfl

/-! ### The way back from a packet that was built -/

/-- The header that a format writes, byte by byte. -/
theorem exists_header_eq (format : WireFormat) (destination : UInt16) (type : MessageType)
    (length : Nat) :
    ∃ first second third,
      format.header destination type length = [first, second, third, type, UInt8.ofNat length] ∧
      (format = .current → first = marker) ∧
      ∀ byte, format.fields first second third type byte =
        ⟨destination, format.group, type, byte⟩ := by
  obtain ⟨high, low, hbytes, haddress⟩ := exists_address destination
  cases format with
  | legacy =>
    refine ⟨high, low, legacyGroup, ?_, by simp, fun byte => ?_⟩
    · rw [header, hbytes]
      rfl
    · rw [fields, haddress, group]
  | current =>
    refine ⟨marker, high, low, ?_, fun _ => rfl, fun byte => ?_⟩
    · rw [header, hbytes]
      rfl
    · rw [fields, haddress, group]

/-- What was built is taken apart into what it was built from, whatever
follows it. -/
theorem unwrap_append_of_wrap_eq_ok {format : WireFormat} {destination : UInt16}
    {type : MessageType} {payload packet : Bytes}
    (h : format.wrap destination type payload = .ok packet) (extra : Bytes) :
    format.unwrap (packet ++ extra) = .ok ⟨destination, format.group, type, payload⟩ := by
  obtain ⟨hle, rfl⟩ := (format.wrap_eq_ok_iff destination type payload packet).mp h
  obtain ⟨first, second, third, hheader, hmarker, hfields⟩ :=
    format.exists_header_eq destination type payload.length
  -- The length byte holds the length, since a payload is not too long for it.
  have hlength : (UInt8.ofNat payload.length).toNat = payload.length := by
    rw [UInt8.toNat_ofNat']
    exact Nat.mod_eq_of_lt (Nat.lt_succ_of_le hle)
  rw [hheader]
  refine (format.unwrap_cons_eq_ok_iff ..).mpr ⟨hmarker, ?_, ?_⟩
  · rw [hlength]
    simp
  · rw [hfields, hlength]
    simp

/-! ### The way back from a packet that was taken apart -/

/-- How many bytes of payload the length byte declares. -/
def declaredLength (packet : Bytes) : Nat := (packet.getD 4 0).toNat

/-- A packet up to its declared end. -/
def declaredPart (packet : Bytes) : Bytes := packet.take (headerLength + declaredLength packet)

/-- Bytes with the group that a format writes; only legacy headers have
room for one. -/
def regroup (format : WireFormat) (packet : Bytes) : Bytes :=
  match format with
  | .legacy => packet.set 2 legacyGroup
  | .current => packet

/-- A packet that can be taken apart: its header is there, a current one
starts with the marker, and everything it declares follows. -/
def Intact (format : WireFormat) (packet : Bytes) : Prop :=
  headerLength ≤ packet.length ∧ (format = .current → packet.head? = some marker) ∧
    declaredLength packet ≤ packet.length - headerLength

instance (format : WireFormat) (packet : Bytes) : Decidable (format.Intact packet) :=
  inferInstanceAs (Decidable (_ ∧ _ ∧ _))

/-- A header made of what was read is the header that was read, but for the
group. -/
theorem header_fields (format : WireFormat) {first second third type : UInt8}
    (hmarker : format = .current → first = marker) (length : UInt8) :
    format.header (format.fields first second third type length).destination type length.toNat =
      format.regroup [first, second, third, type, length] := by
  cases format with
  | legacy =>
    rw [header, fields, ofNat_address, UInt8.ofNat_toNat]
    rfl
  | current =>
    rw [header, fields, ofNat_address, UInt8.ofNat_toNat, hmarker rfl]
    rfl

theorem exists_unwrap_eq_ok_iff (format : WireFormat) (packet : Bytes) :
    (∃ message, format.unwrap packet = .ok message) ↔ format.Intact packet := by
  by_cases hlength : headerLength ≤ packet.length
  · obtain ⟨first, second, third, type, length, rest, rfl⟩ := exists_header_of_length_le hlength
    simp only [unwrap_cons_eq_ok_iff]
    simp [Intact, declaredLength, headerLength]
  · have hshort := format.unwrap_of_length_lt (Nat.not_le.mp hlength)
    simp [hshort, Intact, hlength]

/-- The declared part of a packet is its header and its payload. -/
theorem regroup_declaredPart (format : WireFormat) (first second third type length : UInt8)
    (rest : Bytes) :
    format.regroup (declaredPart (first :: second :: third :: type :: length :: rest)) =
      format.regroup [first, second, third, type, length] ++ rest.take length.toNat := by
  have hpart : declaredPart (first :: second :: third :: type :: length :: rest) =
      first :: second :: third :: type :: length :: rest.take length.toNat := by
    show (first :: second :: third :: type :: length :: rest).take (5 + length.toNat) = _
    rw [Nat.add_comm]
    rfl
  rw [hpart]
  cases format <;> rfl

/-- What was taken apart is built again as it was up to its declared end. Only the
group of a legacy header is not kept. -/
theorem wrap_of_unwrap_eq_ok {format : WireFormat} {packet : Bytes} {message : Packet}
    (h : format.unwrap packet = .ok message) :
    format.wrap message.destination message.messageType message.payload =
      .ok (format.regroup (declaredPart packet)) := by
  have hintact := (format.exists_unwrap_eq_ok_iff packet).mp ⟨message, h⟩
  obtain ⟨first, second, third, type, length, rest, rfl⟩ := exists_header_of_length_le hintact.1
  obtain ⟨hmarker, hlength, rfl⟩ := (format.unwrap_cons_eq_ok_iff ..).mp h
  have htake : (rest.take length.toNat).length = length.toNat := by
    rw [List.length_take, Nat.min_eq_left hlength]
  refine (format.wrap_eq_ok_iff ..).mpr ⟨?_, ?_⟩
  · rw [htake]
    exact Nat.le_of_lt_succ length.toNat_lt
  · rw [htake, regroup_declaredPart, ← format.header_fields hmarker]

/-! ### What the bits of a packet mean -/

/-- Where the destination starts, in bits. -/
def destinationBit : WireFormat → Nat
  | .legacy => 0
  | .current => 8

/-- Packet and message say the same: the bits of the packet spell the
destination, the type and the length of the payload, which follows the
header. A legacy header also spells the group, and a current one starts
with zeros instead. -/
structure Carries (format : WireFormat) (packet : Bytes) (message : Packet) : Prop where
  length_le : headerLength ≤ packet.length
  destination : packet.number format.destinationBit 16 = message.destination.toNat
  messageType : packet.number 24 8 = message.messageType.toNat
  length : packet.number 32 8 = message.payload.length
  payload : message.payload <+: packet.drop headerLength
  legacy : format = .legacy → message.group = some (UInt8.ofNat (packet.number 16 8))
  current : format = .current → message.group = none ∧ packet.number 0 8 = 0

/-- Payloads are the declared part of what follows the header. -/
theorem prefix_of_length_iff {payload rest : Bytes} {length : UInt8} :
    (length.toNat = payload.length ∧ payload <+: rest) ↔
      length.toNat ≤ rest.length ∧ payload = rest.take length.toNat := by
  constructor
  · rintro ⟨hlength, hfront⟩
    rw [hlength]
    exact ⟨hfront.length_le, List.prefix_iff_eq_take.mp hfront⟩
  · rintro ⟨hle, rfl⟩
    rw [List.length_take, Nat.min_eq_left hle]
    exact ⟨rfl, List.take_prefix _ _⟩

/-- The bits of a packet mean what its bytes say. -/
theorem carries_cons_iff (format : WireFormat) (first second third type length : UInt8)
    (rest : Bytes) (message : Packet) :
    format.Carries (first :: second :: third :: type :: length :: rest) message ↔
      (format = .current → first = marker) ∧ length.toNat ≤ rest.length ∧
        message = ⟨(format.fields first second third type length).destination,
          (format.fields first second third type length).group, type,
          rest.take length.toNat⟩ := by
  obtain ⟨packet, hpacket⟩ :
    ∃ packet : Bytes, packet = first :: second :: third :: type :: length :: rest := ⟨_, rfl⟩
  rw [← hpacket]
  -- The numbers that are read off the bits are single bytes, or two.
  have hbyte : ∀ (i : Nat) (byte : UInt8), packet[i]? = some byte →
      packet.number (8 * i) 8 = byte.toNat := fun _ _ => Bytes.number_byte
  have hfirst : packet.number 0 8 = first.toNat := hbyte 0 _ (by rw [hpacket]; rfl)
  have hthird : packet.number 16 8 = third.toNat := hbyte 2 _ (by rw [hpacket]; rfl)
  have htype : packet.number 24 8 = type.toNat := hbyte 3 _ (by rw [hpacket]; rfl)
  have hlength : packet.number 32 8 = length.toNat := hbyte 4 _ (by rw [hpacket]; rfl)
  have hlegacy : packet.number 0 16 = (address first second).toNat := by
    rw [toNat_address]
    exact @Bytes.number_two_bytes packet 0 _ _ (by rw [hpacket]; rfl) (by rw [hpacket]; rfl)
  have hcurrent : packet.number 8 16 = (address second third).toNat := by
    rw [toNat_address]
    exact @Bytes.number_two_bytes packet 1 _ _ (by rw [hpacket]; rfl) (by rw [hpacket]; rfl)
  have hdrop : packet.drop headerLength = rest := by rw [hpacket]; rfl
  have hle : headerLength ≤ packet.length := by rw [hpacket]; simp [headerLength]
  constructor
  · intro h
    obtain ⟨destination, group, messageType, payload⟩ := message
    obtain ⟨hdeclared, rfl⟩ :=
      prefix_of_length_iff.mp ⟨hlength.symm.trans h.length, hdrop ▸ h.payload⟩
    obtain rfl : messageType = type := UInt8.toNat_inj.mp (h.messageType.symm.trans htype)
    cases format with
    | legacy =>
      obtain rfl := UInt16.toNat_inj.mp (h.destination.symm.trans hlegacy)
      have hgroup : group = some (UInt8.ofNat (packet.number 16 8)) := h.legacy rfl
      rw [hthird, UInt8.ofNat_toNat] at hgroup
      rw [hgroup]
      exact ⟨by simp, hdeclared, rfl⟩
    | current =>
      obtain rfl := UInt16.toNat_inj.mp (h.destination.symm.trans hcurrent)
      obtain ⟨rfl, hzero⟩ := h.current rfl
      have hmarker : first = marker := UInt8.toNat_inj.mp (hfirst.symm.trans hzero)
      exact ⟨fun _ => hmarker, hdeclared, rfl⟩
  · rintro ⟨hmarker, hdeclared, rfl⟩
    obtain ⟨hpayload, hfront⟩ := prefix_of_length_iff.mpr ⟨hdeclared, rfl⟩
    refine ⟨hle, ?_, htype, hlength.trans hpayload, hdrop ▸ hfront, ?_, ?_⟩
    · cases format <;> assumption
    · rintro rfl
      rw [hthird, UInt8.ofNat_toNat]
      rfl
    · rintro rfl
      rw [hfirst, hmarker rfl]
      exact ⟨rfl, rfl⟩

/-- Taking a packet apart gives exactly what its bits mean. -/
theorem unwrap_eq_ok_iff (format : WireFormat) (packet : Bytes) (message : Packet) :
    format.unwrap packet = .ok message ↔ format.Carries packet message := by
  by_cases hlength : headerLength ≤ packet.length
  · obtain ⟨first, second, third, type, length, rest, rfl⟩ := exists_header_of_length_le hlength
    rw [unwrap_cons_eq_ok_iff, carries_cons_iff]
  · rw [format.unwrap_of_length_lt (Nat.not_le.mp hlength)]
    constructor
    · intro h
      cases h
    · intro h
      exact absurd h.length_le hlength

/-- What was built carries what it was built from, whatever follows it. -/
theorem carries_of_wrap_eq_ok {format : WireFormat} {destination : UInt16} {type : MessageType}
    {payload packet : Bytes} (h : format.wrap destination type payload = .ok packet)
    (extra : Bytes) :
    format.Carries (packet ++ extra) ⟨destination, format.group, type, payload⟩ :=
  (format.unwrap_eq_ok_iff _ _).mp (unwrap_append_of_wrap_eq_ok h extra)

/-! ### Both formats -/

/-- Where both formats take a packet apart they find the same type and the
same payload, since both headers end in the type and the length. -/
theorem agree_of_unwrap_eq_ok {packet : Bytes} {old new : Packet}
    (hold : legacy.unwrap packet = .ok old) (hnew : current.unwrap packet = .ok new) :
    old.messageType = new.messageType ∧ old.payload = new.payload := by
  have hintact := (legacy.exists_unwrap_eq_ok_iff packet).mp ⟨old, hold⟩
  obtain ⟨first, second, third, type, length, rest, rfl⟩ := exists_header_of_length_le hintact.1
  obtain ⟨-, -, rfl⟩ := (legacy.unwrap_cons_eq_ok_iff ..).mp hold
  obtain ⟨-, -, rfl⟩ := (current.unwrap_cons_eq_ok_iff ..).mp hnew
  exact ⟨rfl, rfl⟩

/-- Building packets and taking them apart, in either format. A payload of up
to 255 bytes makes a packet; it carries destination, type and payload, and
taking it apart gives these back whatever follows it. Exactly the intact
packets can be taken apart, into what their bits mean, and building a packet
from that gives the declared part back, but for the group of a legacy
header. Where both formats take a packet apart, they agree on its type and
its payload. -/
theorem wrap_unwrap (format : WireFormat) (destination : UInt16) (type : MessageType)
    (payload packet : Bytes) :
    ((∃ built, format.wrap destination type payload = .ok built) ↔ payload.length ≤ 255) ∧
    (∀ built, format.wrap destination type payload = .ok built → ∀ extra,
      format.Carries (built ++ extra) ⟨destination, format.group, type, payload⟩ ∧
      format.unwrap (built ++ extra) = .ok ⟨destination, format.group, type, payload⟩) ∧
    ((∃ message, format.unwrap packet = .ok message) ↔ format.Intact packet) ∧
    (∀ message, format.unwrap packet = .ok message →
      format.Carries packet message ∧
      format.wrap message.destination message.messageType message.payload =
        .ok (format.regroup (declaredPart packet))) ∧
    (∀ old new, legacy.unwrap packet = .ok old → current.unwrap packet = .ok new →
      old.messageType = new.messageType ∧ old.payload = new.payload) := by
  refine ⟨?_, ?_, format.exists_unwrap_eq_ok_iff packet, ?_, fun _ _ => agree_of_unwrap_eq_ok⟩
  · simp only [wrap_eq_ok_iff, exists_and_left, exists_eq', and_true, maxPayload]
  · intro built h extra
    exact ⟨carries_of_wrap_eq_ok h extra, unwrap_append_of_wrap_eq_ok h extra⟩
  · intro message h
    exact ⟨(format.unwrap_eq_ok_iff packet message).mp h, wrap_of_unwrap_eq_ok h⟩

/-- A packet that both formats take apart. A byte follows that it does not
declare, and its group is not the one that is written. -/
def doubtful : Bytes := [0x00, 0x01, 0x7D, 0x05, 0x02, 0xAA, 0xBB, 0xCC]

/-- What the packet is in each format, and what is built from that. -/
theorem wrap_unwrap_doubtful :
    legacy.unwrap doubtful = .ok ⟨0x0001, some 0x7D, 0x05, [0xAA, 0xBB]⟩ ∧
    current.unwrap doubtful = .ok ⟨0x017D, none, 0x05, [0xAA, 0xBB]⟩ ∧
    legacy.wrap 0x0001 0x05 [0xAA, 0xBB] = .ok (legacy.regroup (declaredPart doubtful)) ∧
    legacy.wrap 0x0001 0x05 [0xAA, 0xBB] = .ok [0x00, 0x01, 0xFF, 0x05, 0x02, 0xAA, 0xBB] ∧
    legacy.unwrap ([0x00, 0x01, 0xFF, 0x05, 0x02, 0xAA, 0xBB] ++ [0xCC]) =
      .ok ⟨0x0001, some 0xFF, 0x05, [0xAA, 0xBB]⟩ ∧
    Packet.payload ⟨0x0001, some 0x7D, 0x05, [0xAA, 0xBB]⟩ =
      Packet.payload ⟨0x017D, none, 0x05, [0xAA, 0xBB]⟩ := by
  obtain ⟨-, hbuilt, -, hread, hboth⟩ := legacy.wrap_unwrap 0x0001 0x05 [0xAA, 0xBB] doubtful
  have hlegacy : legacy.unwrap doubtful = .ok ⟨0x0001, some 0x7D, 0x05, [0xAA, 0xBB]⟩ := by
    decide
  have hcurrent : current.unwrap doubtful = .ok ⟨0x017D, none, 0x05, [0xAA, 0xBB]⟩ := by
    decide
  have hwrap : legacy.wrap 0x0001 0x05 [0xAA, 0xBB] =
      .ok [0x00, 0x01, 0xFF, 0x05, 0x02, 0xAA, 0xBB] := by decide
  exact ⟨hlegacy, hcurrent, (hread _ hlegacy).2, hwrap, (hbuilt _ hwrap [0xCC]).2,
    (hboth _ _ hlegacy hcurrent).2⟩

end SensorGateway.WireFormat
