import Mathlib.Algebra.GroupWithZero.Nat
import SensorGateway.Forwarder.Stream
import SensorGateway.Proofs.Forwarder.Framing

/-!
# `SensorGateway.Proofs.Forwarder.Reassembly`: packets out of pieces

Bytes arrive in pieces that have nothing to do with packets, and a reader
may have to be called again and again while there are none. None of this
shows in the packets it comes up with.

* `Called` says all that one call may come to, in terms of the bytes that
  were kept and those that arrive, however these are cut.
* `Reading.Sound.calls`: after any number of calls, what was received is the
  frames of the packets that were returned, and what is kept.
* `Reading.answers_calls`: the packets are those of all bytes together.
* `calls_reassemble`: both, for the frames of any packets and for any bytes
  at all.
-/

set_option autoImplicit false

namespace SensorGateway.Forwarder

/-! ### What arrives -/

namespace Arrival

/-- The bytes that arrive, one piece after the other. -/
def content : List Arrival → Bytes
  | [] => []
  | .bytes chunk :: rest => chunk ++ content rest
  | .pending :: rest | .failure :: rest => content rest

/-- How often nothing is there yet when a reader asks. -/
def interruptions (arrivals : List Arrival) : Nat := arrivals.count .pending

/-- Bytes arrive in pieces, and there may be nothing for a while. No read
fails. -/
def Flows (arrivals : List Arrival) : Prop :=
  ∀ arrival ∈ arrivals, arrival = .pending ∨ ∃ chunk, chunk ≠ [] ∧ arrival = .bytes chunk

/-- All that a read may come to: the end, nothing yet, or some of the bytes. -/
theorem read_cases {limit : Nat} (hlimit : 0 < limit) {arrivals : List Arrival}
    (h : Flows arrivals) :
    arrivals = [] ∧ read limit arrivals = (.ended, []) ∨
    (∃ rest, Flows rest ∧ arrivals = .pending :: rest ∧
      read limit arrivals = (.pending, rest)) ∨
    ∃ chunk rest, chunk ≠ [] ∧ Flows rest ∧ read limit arrivals = (.bytes chunk, rest) ∧
      content arrivals = chunk ++ content rest ∧ interruptions arrivals = interruptions rest := by
  cases arrivals with
  | nil => exact .inl ⟨rfl, rfl⟩
  | cons arrival rest =>
    have hrest : Flows rest := fun other hmem => h other (List.mem_cons_of_mem _ hmem)
    obtain rfl | ⟨chunk, hne, rfl⟩ := h arrival List.mem_cons_self
    · exact .inr (.inl ⟨rest, hrest, rfl, rfl⟩)
    · obtain ⟨byte, more, rfl⟩ := List.exists_cons_of_ne_nil hne
      refine .inr (.inr ?_)
      by_cases hle : (byte :: more).length ≤ limit
      · refine ⟨byte :: more, rest, hne, hrest, ?_, rfl, ?_⟩
        · rw [read, if_pos hle]
          exact hne
        · simp [interruptions]
      · -- The piece is too long for one read, and its end is left for the next.
        refine ⟨(byte :: more).take limit, .bytes ((byte :: more).drop limit) :: rest,
          ?_, ?_, ?_, ?_, ?_⟩
        · simp [Nat.ne_of_gt hlimit]
        · intro other hmem
          obtain rfl | hmem := List.mem_cons.mp hmem
          · refine .inr ⟨_, ?_, rfl⟩
            simpa using Nat.not_le.mp hle
          · exact hrest other hmem
        · rw [read, if_neg hle]
          exact hne
        · rw [content, content, ← List.append_assoc, List.take_append_drop]
        · simp [interruptions]

/-- A read looks at the first arrival only. -/
theorem read_append {limit : Nat} {arrivals : List Arrival} (hne : arrivals ≠ [])
    (more : List Arrival) :
    read limit (arrivals ++ more) = ((read limit arrivals).1, (read limit arrivals).2 ++ more) := by
  match arrivals with
  | .pending :: rest => rfl
  | .failure :: rest => rfl
  | .bytes [] :: rest => rfl
  | .bytes (byte :: chunk) :: rest =>
    simp only [List.cons_append, read]
    split <;> rfl

/-- A read that gives bytes gives some, and takes one arrival at most. -/
theorem length_of_read {limit : Nat} (hlimit : 0 < limit) {arrivals rest : List Arrival}
    {chunk : Bytes} (h : read limit arrivals = (.bytes chunk, rest)) :
    0 < chunk.length ∧ arrivals.length ≤ rest.length + 1 := by
  match arrivals with
  | [] => cases h
  | .pending :: _ => cases h
  | .failure :: _ => cases h
  | .bytes [] :: _ => cases h
  | .bytes (byte :: more) :: later =>
    simp only [read] at h
    split at h
    · cases h
      simp
    · cases h
      simp only [List.length_take, List.length_cons]
      omega

end Arrival

open Arrival

/-! ### One call -/

theorem readPacket_of_eq_ok {buffer packet rest : Bytes}
    (h : decodePacket buffer = .ok (packet, rest)) (arrivals : List Arrival) :
    readPacket buffer arrivals = (.packet packet, rest, arrivals) := by
  rw [readPacket]
  split
  · next hfound =>
    rw [h] at hfound
    cases hfound
    rfl
  · next herror =>
    rw [h] at herror
    cases herror

/-- Without a complete packet the reader has to read. -/
theorem readPacket_of_eq_error {buffer : Bytes} {error : FramingError}
    (h : decodePacket buffer = .error error) (arrivals : List Arrival) :
    readPacket buffer arrivals =
      match read chunkLimit arrivals with
      | (.bytes chunk, rest) => readPacket (buffer ++ chunk) rest
      | (.ended, rest) =>
        if buffer = [] then (.ended, buffer, rest)
        else (.error (.truncatedPacket buffer.length), buffer, rest)
      | (.pending, rest) => (.pending, buffer, rest)
      | (.failed, rest) => (.error .io, buffer, rest) := by
  rw [readPacket]
  split
  · next hfound =>
    rw [h] at hfound
    cases hfound
  · split <;> next hread => rw [hread]

/-- How a stream ends of which some bytes are left. -/
def ending (tail : Bytes) : PacketResult :=
  if tail = [] then .ended else .error (.truncatedPacket tail.length)

/-- All that a call may come to, with what is kept and what is still to arrive
after it. -/
inductive Called (buffer : Bytes) (arrivals : List Arrival) :
    PacketResult → Bytes → List Arrival → Prop where
  /-- The first packet of all that was received or arrives. -/
  | packet {packet kept : Bytes} {rest : List Arrival} (hflows : Flows rest)
    (hinterruptions : interruptions arrivals = interruptions rest)
    (hdecode : decodePacket (buffer ++ content arrivals) = .ok (packet, kept ++ content rest)) :
    Called buffer arrivals (.packet packet) kept rest
  /-- Nothing, since the bytes are not there yet. None of them is lost. -/
  | pending {kept : Bytes} {rest : List Arrival} (hflows : Flows rest)
    (hinterruptions : interruptions arrivals = interruptions rest + 1)
    (hkept : kept ++ content rest = buffer ++ content arrivals) :
    Called buffer arrivals .pending kept rest
  /-- The end of the stream, when everything arrived and is no packet. -/
  | ended {result : PacketResult} {kept : Bytes} {error : FramingError}
    (hinterruptions : interruptions arrivals = 0) (hkept : kept = buffer ++ content arrivals)
    (hdecode : decodePacket kept = .error error) (hresult : result = ending kept) :
    Called buffer arrivals result kept []

/-- Bytes that are read on the way make no difference. -/
theorem Called.of_read {buffer chunk : Bytes} {arrivals rest : List Arrival}
    (hcontent : content arrivals = chunk ++ content rest)
    (hinterruptions : interruptions arrivals = interruptions rest) {result : PacketResult}
    {kept : Bytes} {later : List Arrival} (h : Called (buffer ++ chunk) rest result kept later) :
    Called buffer arrivals result kept later := by
  have hbytes : buffer ++ chunk ++ content rest = buffer ++ content arrivals := by
    rw [hcontent, List.append_assoc]
  cases h with
  | packet hflows hrest hdecode =>
    exact .packet hflows (hinterruptions.trans hrest) (hbytes ▸ hdecode)
  | pending hflows hrest hkept =>
    exact .pending hflows (hinterruptions.trans hrest) (hkept.trans hbytes)
  | ended hrest hkept hdecode hresult =>
    exact .ended (hinterruptions.trans hrest) (hkept.trans hbytes) hdecode hresult

/-- A call comes to nothing else. Induction on what is still to be read. -/
theorem called_readPacket (buffer : Bytes) {arrivals : List Arrival} (hflows : Flows arrivals) :
    Called buffer arrivals (readPacket buffer arrivals).1 (readPacket buffer arrivals).2.1
      (readPacket buffer arrivals).2.2 := by
  induction hweight : weight arrivals using Nat.strongRecOn generalizing buffer arrivals with
  | _ n ih =>
    cases hdecode : decodePacket buffer with
    | ok result =>
      obtain ⟨packet, kept⟩ := result
      rw [readPacket_of_eq_ok hdecode]
      exact .packet hflows rfl (decodePacket_append hdecode _)
    | error error =>
      rw [readPacket_of_eq_error hdecode]
      obtain ⟨rfl, hread⟩ | ⟨rest, hrest, rfl, hread⟩ |
        ⟨chunk, rest, hne, hrest, hread, hcontent, hinterruptions⟩ :=
        read_cases (show 0 < chunkLimit by decide) hflows
      · have hkept : buffer = buffer ++ content [] := (List.append_nil buffer).symm
        rw [hread]
        by_cases hbuffer : buffer = []
        · simp only [if_pos hbuffer]
          exact .ended rfl hkept hdecode (by rw [ending, if_pos hbuffer])
        · simp only [if_neg hbuffer]
          exact .ended rfl hkept hdecode (by rw [ending, if_neg hbuffer])
      · rw [hread]
        exact .pending hrest (by simp [interruptions]) rfl
      · have hlt := weight_read_lt (show 0 < chunkLimit by decide) hread
        rw [hread]
        exact (ih _ (hweight ▸ hlt) (buffer ++ chunk) hrest rfl).of_read hcontent hinterruptions

/-- A call looks at 256 arrivals at most, whatever follows them: each adds a
byte to what is kept, and with 256 bytes there is a packet. -/
theorem readPacket_append (buffer : Bytes) (arrivals more : List Arrival)
    (h : 256 ≤ buffer.length + arrivals.length) :
    readPacket buffer (arrivals ++ more) =
      ((readPacket buffer arrivals).1, (readPacket buffer arrivals).2.1,
        (readPacket buffer arrivals).2.2 ++ more) := by
  induction hweight : weight arrivals using Nat.strongRecOn generalizing buffer arrivals with
  | _ n ih =>
    cases hdecode : decodePacket buffer with
    | ok result =>
      obtain ⟨packet, kept⟩ := result
      rw [readPacket_of_eq_ok hdecode, readPacket_of_eq_ok hdecode]
    | error error =>
      have hshort := length_lt_of_decodePacket_eq_error hdecode
      rw [readPacket_of_eq_error hdecode, readPacket_of_eq_error hdecode]
      -- The buffer is too short, so there is an arrival to read.
      have hne : arrivals ≠ [] := by
        rintro rfl
        simp only [List.length_nil] at h
        omega
      rw [read_append hne]
      rcases hread : Arrival.read chunkLimit arrivals with ⟨result, rest⟩
      cases result with
      | bytes chunk =>
        have hlt := weight_read_lt (show 0 < chunkLimit by decide) hread
        obtain ⟨hchunk, hrest⟩ := length_of_read (show 0 < chunkLimit by decide) hread
        refine ih _ (hweight ▸ hlt) (buffer ++ chunk) rest ?_ rfl
        rw [List.length_append]
        omega
      | ended =>
        simp only
        split <;> rfl
      | pending => rfl
      | failed => rfl

/-! ### Many calls -/

/-- A reader, what is still to arrive, and what it came up with so far. -/
structure Reading where
  buffer : Bytes := []
  arrivals : List Arrival
  results : List PacketResult := []
  deriving Repr, DecidableEq

namespace Reading

/-- A reader that received nothing yet. -/
def start (arrivals : List Arrival) : Reading := { arrivals }

/-- Calls the reader once. -/
def call (reading : Reading) : Reading where
  buffer := (readPacket reading.buffer reading.arrivals).2.1
  arrivals := (readPacket reading.buffer reading.arrivals).2.2
  results := reading.results ++ [(readPacket reading.buffer reading.arrivals).1]

/-- Calls the reader a number of times. -/
def calls (reading : Reading) : Nat → Reading
  | 0 => reading
  | n + 1 => reading.call.calls n

/-- What the reader came up with, the interrupted calls left out. -/
def answers (reading : Reading) : List PacketResult :=
  reading.results.filter fun result => result != .pending

/-- The packet that a call returned. -/
def packet? : PacketResult → Option Bytes
  | .packet packet => some packet
  | _ => none

/-- The packets that were returned. -/
def packets (reading : Reading) : List Bytes := reading.results.filterMap packet?

/-- The frames of these packets, one behind the other. -/
def frames (reading : Reading) : Bytes :=
  (reading.packets.map fun packet => UInt8.ofNat packet.length :: packet).flatten

/-- How many of the bytes were received so far. -/
def received (bytes : Bytes) (reading : Reading) : Nat :=
  bytes.length - (content reading.arrivals).length

/-- What was received is the frames of the packets that were returned, and
what is kept. -/
structure Sound (bytes : Bytes) (reading : Reading) : Prop where
  flows : Flows reading.arrivals
  split : reading.frames ++ reading.buffer ++ content reading.arrivals = bytes

theorem sound_start {arrivals : List Arrival} (h : Flows arrivals) :
    (start arrivals).Sound (content arrivals) := ⟨h, rfl⟩

/-- A packet that was returned adds its frame. -/
theorem frames_concat (kept : Bytes) (rest : List Arrival) (results : List PacketResult)
    (result : PacketResult) :
    frames ⟨kept, rest, results ++ [result]⟩ = frames ⟨kept, rest, results⟩ ++
      ((packet? result).map fun packet => UInt8.ofNat packet.length :: packet).getD [] := by
  cases hpacket : packet? result <;> simp [frames, packets, hpacket]

theorem packet?_ending (tail : Bytes) : packet? (ending tail) = none := by
  unfold ending
  split <;> rfl

/-- Every call keeps that. -/
theorem Sound.call {bytes : Bytes} {reading : Reading} (h : reading.Sound bytes) :
    reading.call.Sound bytes := by
  have hcalled := called_readPacket reading.buffer h.flows
  obtain ⟨hflows, hsplit⟩ := h
  obtain ⟨buffer, arrivals, results⟩ := reading
  rw [Reading.call]
  simp only at hcalled hsplit ⊢
  generalize readPacket buffer arrivals = outcome at hcalled ⊢
  obtain ⟨result, kept, rest⟩ := outcome
  cases hcalled with
  | packet hrest _ hdecode =>
    obtain ⟨frame, hframe, hbytes⟩ := (decodePacket_eq_ok_iff ..).mp hdecode
    obtain ⟨-, rfl⟩ := (encodePacket_eq_ok_iff ..).mp hframe
    refine ⟨hrest, ?_⟩
    rw [← hsplit, frames_concat, List.append_assoc, List.append_assoc, List.append_assoc, hbytes]
    rfl
  | pending hrest _ hkept =>
    refine ⟨hrest, ?_⟩
    rw [← hsplit, frames_concat, List.append_assoc, List.append_assoc, List.append_assoc, hkept]
    rfl
  | ended _ hkept _ hresult =>
    refine ⟨by simp [Flows], ?_⟩
    rw [← hsplit, frames_concat, hresult, packet?_ending, hkept]
    simp [content, frames, packets]

/-- It holds after any number of calls. -/
theorem Sound.calls {bytes : Bytes} {reading : Reading} (h : reading.Sound bytes) (n : Nat) :
    (reading.calls n).Sound bytes := by
  induction n generalizing reading with
  | zero => exact h
  | succ n ih => exact ih h.call

/-- What is kept is what was received without the frames that were
returned. -/
theorem Sound.received_eq {bytes : Bytes} {reading : Reading} (h : reading.Sound bytes) :
    reading.received bytes =
      (reading.packets.map fun packet => 1 + packet.length).sum + reading.buffer.length := by
  have hframes : reading.frames.length =
      (reading.packets.map fun packet => 1 + packet.length).sum := by
    simp [frames, List.length_flatten, Function.comp_def, Nat.add_comm]
  rw [received, ← h.split, List.length_append, List.length_append, hframes, Nat.add_sub_cancel]

/-! ### The packets that are returned -/

theorem answers_call (reading : Reading) :
    reading.call.answers = reading.answers ++
      [(readPacket reading.buffer reading.arrivals).1].filter fun result => result != .pending :=
  List.filter_append _ _

/-- A call takes the first packet of all that are left, or counts one
interruption down, or ends the stream when none of either is left. -/
theorem call_cases {reading : Reading} (hflows : Flows reading.arrivals) {packets : List Bytes}
    {tail : Bytes}
    (hall : decodeAll (reading.buffer ++ content reading.arrivals) = (packets, tail)) :
    Flows reading.call.arrivals ∧
    ((∃ packet rest, packets = packet :: rest ∧
        reading.call.answers = reading.answers ++ [.packet packet] ∧
        decodeAll (reading.call.buffer ++ content reading.call.arrivals) = (rest, tail) ∧
        interruptions reading.arrivals = interruptions reading.call.arrivals) ∨
      (reading.call.answers = reading.answers ∧
        decodeAll (reading.call.buffer ++ content reading.call.arrivals) = (packets, tail) ∧
        interruptions reading.arrivals = interruptions reading.call.arrivals + 1) ∨
      (packets = [] ∧ interruptions reading.arrivals = 0 ∧
        reading.call.answers = reading.answers ++ [ending tail])) := by
  have hcalled := called_readPacket reading.buffer hflows
  have hanswers := reading.answers_call
  have hbuffer : reading.call.buffer = (readPacket reading.buffer reading.arrivals).2.1 := rfl
  have hrest : reading.call.arrivals = (readPacket reading.buffer reading.arrivals).2.2 := rfl
  rw [← hbuffer, ← hrest] at hcalled
  -- Only what the call may come to is known from here on.
  generalize (readPacket reading.buffer reading.arrivals).1 = result at hcalled hanswers
  generalize reading.call.buffer = kept at hcalled ⊢
  generalize reading.call.arrivals = later at hcalled ⊢
  cases hcalled with
  | @packet packet _ _ hlater hinterruptions hdecode =>
    rw [decodeAll_of_eq_ok hdecode] at hall
    obtain ⟨rfl, rfl⟩ := Prod.mk.inj hall
    exact ⟨hlater, .inl ⟨packet, _, rfl, hanswers, rfl, hinterruptions⟩⟩
  | pending hlater hinterruptions hkept =>
    rw [← hkept] at hall
    exact ⟨hlater, .inr (.inl ⟨hanswers.trans (List.append_nil _), hall, hinterruptions⟩)⟩
  | ended hinterruptions hkept hdecode hresult =>
    rw [← hkept, decodeAll_of_eq_error hdecode] at hall
    obtain ⟨rfl, rfl⟩ := Prod.mk.inj hall
    refine ⟨by simp [Flows], .inr (.inr ⟨rfl, hinterruptions, ?_⟩)⟩
    rw [hanswers, hresult, ending]
    split <;> rfl

/-- Calls that are interrupted give nothing. All others give the packets of
everything that was received or arrives, one after the other, and then say
how the stream ends. Induction on the packets and interruptions that are
left. -/
theorem answers_calls {reading : Reading} (hflows : Flows reading.arrivals)
    {packets : List Bytes} {tail : Bytes}
    (hall : decodeAll (reading.buffer ++ content reading.arrivals) = (packets, tail)) :
    (reading.calls (packets.length + interruptions reading.arrivals + 1)).answers =
      reading.answers ++ packets.map .packet ++ [ending tail] := by
  induction hn : packets.length + interruptions reading.arrivals
    generalizing reading packets with
  | zero =>
    obtain ⟨-, ⟨packet, rest, rfl, -⟩ | ⟨-, -, hinterruptions⟩ | ⟨rfl, -, hanswers⟩⟩ :=
      call_cases hflows hall
    · simp at hn
    · omega
    · rw [List.map_nil, List.append_nil]
      exact hanswers
  | succ n ih =>
    obtain ⟨hlater, ⟨packet, rest, rfl, hanswers, hrest, hinterruptions⟩ |
      ⟨hanswers, hrest, hinterruptions⟩ | ⟨rfl, hnone, -⟩⟩ := call_cases hflows hall
    · rw [calls, ih hlater hrest (by rw [List.length_cons] at hn; omega), hanswers]
      simp
    · rw [calls, ih hlater hrest (by omega), hanswers]
    · simp [hnone] at hn

end Reading

/-! ### Any cut -/

/-- Packets come out of a stream as they went in, however their frames were
cut into pieces and however often the reader was interrupted: packets of up
to 255 bytes have frames, and from these and an incomplete one the reader
makes the packets, in order, and then says how the stream ends. From any
bytes it makes the packets that are found in all of them together. After any
calls, what is kept is what was received without the frames that were
returned. A call looks at 256 pieces at most, whatever follows them. -/
theorem calls_reassemble :
    (∀ (packets : List Bytes) (tail : Bytes), (∀ packet ∈ packets, packet.length ≤ 255) →
      Incomplete tail → ∃ frames, packets.mapM encodePacket = .ok frames ∧
        ∀ arrivals, Flows arrivals → content arrivals = frames.flatten ++ tail →
          ((Reading.start arrivals).calls (packets.length + interruptions arrivals + 1)).answers =
            packets.map .packet ++ [ending tail]) ∧
    (∀ arrivals, Flows arrivals →
      ((Reading.start arrivals).calls
          ((decodeAll (content arrivals)).1.length + interruptions arrivals + 1)).answers =
        (decodeAll (content arrivals)).1.map .packet ++
          [ending (decodeAll (content arrivals)).2] ∧
      ∀ n, ((Reading.start arrivals).calls n).received (content arrivals) =
        (((Reading.start arrivals).calls n).packets.map fun packet => 1 + packet.length).sum +
          ((Reading.start arrivals).calls n).buffer.length) ∧
    ∀ buffer arrivals more, 256 ≤ arrivals.length →
      readPacket buffer (arrivals ++ more) =
        ((readPacket buffer arrivals).1, (readPacket buffer arrivals).2.1,
          (readPacket buffer arrivals).2.2 ++ more) := by
  refine ⟨?_, ?_, ?_⟩
  · intro packets tail hpackets htail
    refine ⟨_, exists_frames hpackets, fun arrivals hflows hcontent => ?_⟩
    have hall := decodeAll_frames (exists_frames hpackets) htail
    rw [← hcontent] at hall
    exact Reading.answers_calls hflows hall
  · intro arrivals hflows
    refine ⟨Reading.answers_calls hflows rfl, fun n => ?_⟩
    exact ((Reading.sound_start hflows).calls n).received_eq
  · intro buffer arrivals more h
    exact readPacket_append buffer arrivals more (by omega)

/-- Two packets, the second one empty, and the beginning of a third. The
first one comes in three pieces, the last of which holds parts of three
frames, and twice nothing is there yet. -/
def late : List Arrival :=
  [.bytes [2], .pending, .bytes [0xAA], .pending, .bytes [0xBB, 0, 3], .bytes [1]]

theorem calls_reassemble_late :
    ((Reading.start late).calls 5).answers =
      [.packet [0xAA, 0xBB], .packet [], .error (.truncatedPacket 2)] := by
  have hshort : ∀ packet ∈ ([[0xAA, 0xBB], []] : List Bytes), packet.length ≤ 255 := by decide
  have htail : Incomplete [3, 1] := (incomplete_iff _).mpr ⟨.insufficientData 4 2, rfl⟩
  obtain ⟨frames, hframes, hanswers⟩ := calls_reassemble.1 _ _ hshort htail
  obtain rfl : [[2, 0xAA, 0xBB], [0]] = frames := Except.ok.inj hframes
  have hflows : Flows late := by simp [Flows, late]
  exact hanswers late hflows rfl

end SensorGateway.Forwarder
