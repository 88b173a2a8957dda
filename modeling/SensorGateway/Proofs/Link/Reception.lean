import Mathlib.Data.List.Basic
import SensorGateway.Link.Reception
import SensorGateway.Proofs.Forwarder.Reassembly

/-!
# `SensorGateway.Proofs.Link.Reception`: every packet once, and in order

A link goes round and round while its connection is up. In each `Round` it
looks for a packet and passes one that is there on to its bus, or it notices
that it is to stop. Looking is interrupted again and again, dispatches fail in
many ways, and others change the listeners of the bus in the meantime.

* `Arrival.sent` is what a stream comes to before it ends or breaks.
  `looked_readPacket` says all that one look at it may come to.
* `Reader.run` is what the rounds come to without the bus, and
  `Receiving.run_eq` says that the bus has no say in it.
* `run_replicate` and `world_run`: `receive` and `dispatchAll` are such rounds.
* `reception`: which packets are passed on, and how the connection ends.
-/

set_option autoImplicit false

namespace SensorGateway

open Forwarder (Arrival PacketResult StreamError FramingError readPacket decodePacket decodeAll
  ending)
open Forwarder.Arrival (read weight interruptions)

/-! ### What a stream comes to -/

namespace Forwarder.Arrival

/-- The bytes that arrive before the stream ends or breaks. -/
def sent : List Arrival → Bytes
  | [] | .failure :: _ | .bytes [] :: _ => []
  | .pending :: rest => sent rest
  | .bytes (byte :: more) :: rest => byte :: more ++ sent rest

/-- The stream breaks; it does not end. -/
def breaks : List Arrival → Bool
  | [] | .bytes [] :: _ => false
  | .failure :: _ => true
  | .pending :: rest | .bytes _ :: rest => breaks rest

/-- Nothing is behind the end of a stream that flows. -/
theorem sent_eq_content {arrivals : List Arrival} (h : Flows arrivals) :
    sent arrivals = content arrivals ∧ breaks arrivals = false := by
  induction arrivals with
  | nil => exact ⟨rfl, rfl⟩
  | cons arrival rest ih =>
    obtain ⟨hsent, hbreaks⟩ := ih fun other hmem => h other (List.mem_cons_of_mem _ hmem)
    obtain rfl | ⟨chunk, hne, rfl⟩ := h arrival List.mem_cons_self
    · exact ⟨hsent, hbreaks⟩
    · obtain ⟨byte, more, rfl⟩ := List.exists_cons_of_ne_nil hne
      exact ⟨by rw [sent, content, hsent], hbreaks⟩

/-- All that a read may come to, for any stream. -/
theorem read_sent_cases (limit : Nat) (arrivals : List Arrival) :
    (∃ rest, read limit arrivals = (.ended, rest) ∧ sent arrivals = [] ∧
      breaks arrivals = false) ∨
    (∃ rest, read limit arrivals = (.failed, rest) ∧ sent arrivals = [] ∧
      breaks arrivals = true) ∨
    (∃ rest, read limit arrivals = (.pending, rest) ∧ sent arrivals = sent rest ∧
      breaks arrivals = breaks rest ∧ interruptions arrivals = interruptions rest + 1) ∨
    ∃ chunk rest, read limit arrivals = (.bytes chunk, rest) ∧
      sent arrivals = chunk ++ sent rest ∧ breaks arrivals = breaks rest ∧
      interruptions arrivals = interruptions rest := by
  match arrivals with
  | [] => exact .inl ⟨[], rfl, rfl, rfl⟩
  | .failure :: rest => exact .inr (.inl ⟨rest, rfl, rfl, rfl⟩)
  | .bytes [] :: rest => exact .inl ⟨rest, rfl, rfl, rfl⟩
  | .pending :: rest =>
    exact .inr (.inr (.inl ⟨rest, rfl, rfl, rfl, by simp [interruptions]⟩))
  | .bytes (byte :: more) :: rest =>
    refine .inr (.inr (.inr ?_))
    by_cases hle : (byte :: more).length ≤ limit
    · exact ⟨byte :: more, rest, by rw [read, if_pos hle]; simp, rfl, rfl, by simp [interruptions]⟩
    · -- The piece is too long for one read, and its end is left for the next.
      obtain ⟨first, left, hleft⟩ := List.exists_cons_of_ne_nil
        (show (byte :: more).drop limit ≠ [] by simpa using Nat.not_le.mp hle)
      refine ⟨(byte :: more).take limit, .bytes ((byte :: more).drop limit) :: rest,
        by rw [read, if_neg hle]; simp, ?_, ?_, by simp [interruptions]⟩
      · rw [hleft, sent, sent, ← hleft, ← List.append_assoc, List.take_append_drop]
      · rw [hleft]
        rfl

end Forwarder.Arrival

open Forwarder.Arrival (sent breaks read_sent_cases weight_read_lt)

/-- All that a look at a stream may come to, with what is kept and what is
still to arrive after it. -/
inductive Looked (buffer : Bytes) (arrivals : List Arrival) :
    PacketResult → Bytes → List Arrival → Prop where
  /-- The first packet of all that was received or is sent. -/
  | packet {packet kept : Bytes} {rest : List Arrival}
    (hdecode : decodePacket (buffer ++ sent arrivals) = .ok (packet, kept ++ sent rest))
    (hbreaks : breaks arrivals = breaks rest)
    (hinterruptions : interruptions arrivals = interruptions rest) :
    Looked buffer arrivals (.packet packet) kept rest
  /-- Nothing, since the bytes are not there yet. None of them is lost. -/
  | pending {kept : Bytes} {rest : List Arrival}
    (hkept : buffer ++ sent arrivals = kept ++ sent rest)
    (hbreaks : breaks arrivals = breaks rest)
    (hinterruptions : interruptions arrivals = interruptions rest + 1) :
    Looked buffer arrivals .pending kept rest
  /-- The end of the stream, when all that was sent is no packet. -/
  | ended {result : PacketResult} {kept : Bytes} {rest : List Arrival} {error : FramingError}
    (hdecode : decodePacket (buffer ++ sent arrivals) = .error error)
    (hresult : result =
      if breaks arrivals then .error .io else ending (buffer ++ sent arrivals)) :
    Looked buffer arrivals result kept rest

/-- Bytes that are read on the way make no difference. -/
theorem Looked.of_read {buffer chunk : Bytes} {arrivals rest : List Arrival}
    (hsent : sent arrivals = chunk ++ sent rest) (hbreaks : breaks arrivals = breaks rest)
    (hinterruptions : interruptions arrivals = interruptions rest) {result : PacketResult}
    {kept : Bytes} {later : List Arrival} (h : Looked (buffer ++ chunk) rest result kept later) :
    Looked buffer arrivals result kept later := by
  have hbytes : buffer ++ chunk ++ sent rest = buffer ++ sent arrivals := by
    rw [hsent, List.append_assoc]
  cases h with
  | packet hdecode hlater hcount =>
    exact .packet (hbytes ▸ hdecode) (hbreaks.trans hlater) (hinterruptions.trans hcount)
  | pending hkept hlater hcount =>
    exact .pending (hbytes ▸ hkept) (hbreaks.trans hlater) (hinterruptions.trans hcount)
  | ended hdecode hresult =>
    rw [hbytes] at hdecode hresult
    exact .ended hdecode (hbreaks ▸ hresult)

/-- A look comes to nothing else. Induction on what is still to be read. -/
theorem looked_readPacket (buffer : Bytes) (arrivals : List Arrival) :
    Looked buffer arrivals (readPacket buffer arrivals).1 (readPacket buffer arrivals).2.1
      (readPacket buffer arrivals).2.2 := by
  induction hweight : weight arrivals using Nat.strongRecOn generalizing buffer arrivals with
  | _ n ih =>
    cases hdecode : decodePacket buffer with
    | ok result =>
      obtain ⟨packet, kept⟩ := result
      -- There is a packet already, and nothing is read.
      rw [Forwarder.readPacket_of_eq_ok hdecode]
      exact .packet (Forwarder.decodePacket_append hdecode _) rfl rfl
    | error error =>
      rw [Forwarder.readPacket_of_eq_error hdecode]
      obtain ⟨rest, hread, hsent, hbreaks⟩ | ⟨rest, hread, hsent, hbreaks⟩ |
        ⟨rest, hread, hsent, hbreaks, hinterruptions⟩ |
        ⟨chunk, rest, hread, hsent, hbreaks, hinterruptions⟩ :=
        read_sent_cases Forwarder.chunkLimit arrivals
      · have hall : buffer ++ sent arrivals = buffer := by rw [hsent, List.append_nil]
        rw [hread]
        refine .ended (hall.symm ▸ hdecode) ?_
        rw [hbreaks, hall, ending]
        by_cases hbuffer : buffer = [] <;> simp [hbuffer]
      · have hall : buffer ++ sent arrivals = buffer := by rw [hsent, List.append_nil]
        rw [hread]
        refine .ended (hall.symm ▸ hdecode) ?_
        rw [hbreaks]
        rfl
      · rw [hread]
        exact .pending (by rw [hsent]) hbreaks hinterruptions
      · -- Bytes came, and it is looked again with less to read.
        have hlt := weight_read_lt (show 0 < Forwarder.chunkLimit by decide) hread
        rw [hread]
        exact (ih _ (hweight ▸ hlt) (buffer ++ chunk) rest rfl).of_read hsent hbreaks
          hinterruptions

namespace Link

/-! ### Rounds -/

/-- What a link does in one round. -/
inductive Round where
  /-- It looks for a packet. -/
  | look
  /-- It notices that it is to stop, or that its writer did. -/
  | stop
  deriving Repr, DecidableEq

/-- A connection without its bus. -/
structure Reader where
  buffer : Bytes := []
  arrivals : List Arrival
  /-- How the connection ended, if it did. -/
  ending? : Option Ending := none
  deriving Repr, DecidableEq

namespace Reader

/-- One round, with the packet that it gives. Nothing comes after the end. -/
def step (reader : Reader) : Round → Option Bytes × Reader
  | .look =>
    match reader.ending? with
    | some _ => (none, reader)
    | none =>
      match readPacket reader.buffer reader.arrivals with
      | (.packet packet, buffer, arrivals) => (some packet, { reader with buffer, arrivals })
      | (.pending, buffer, arrivals) => (none, { reader with buffer, arrivals })
      | (.ended, buffer, arrivals) => (none, { buffer, arrivals, ending? := some .closed })
      | (.error error, buffer, arrivals) =>
        (none, { buffer, arrivals, ending? := some (.failed error) })
  | .stop => (none, { reader with ending? := some (reader.ending?.getD .stopped) })

/-- One round after the other, with all packets that they give. -/
def run (reader : Reader) : List Round → List Bytes × Reader
  | [] => ([], reader)
  | round :: rest =>
    let (packet?, reader) := reader.step round
    let (packets, reader) := reader.run rest
    (packet?.toList ++ packets, reader)

/-- How a stream ends or breaks of which some bytes are left. -/
def outcome (breaks : Bool) (tail : Bytes) : Ending :=
  if breaks then .failed .io
  else if tail = [] then .closed else .failed (.truncatedPacket tail.length)

/-- A look at a connection that is up takes the first packet of all that are
left, or waits, or ends the connection when none is left. -/
theorem step_look_cases {reader : Reader} (hup : reader.ending? = none) {packets : List Bytes}
    {tail : Bytes} (hall : decodeAll (reader.buffer ++ sent reader.arrivals) = (packets, tail)) :
    ∃ buffer arrivals,
      (∃ packet rest, packets = packet :: rest ∧
        reader.step .look = (some packet, { reader with buffer, arrivals }) ∧
        decodeAll (buffer ++ sent arrivals) = (rest, tail) ∧
        breaks reader.arrivals = breaks arrivals ∧
        interruptions reader.arrivals = interruptions arrivals) ∨
      (reader.step .look = (none, { reader with buffer, arrivals }) ∧
        decodeAll (buffer ++ sent arrivals) = (packets, tail) ∧
        breaks reader.arrivals = breaks arrivals ∧
        interruptions reader.arrivals = interruptions arrivals + 1) ∨
      (packets = [] ∧ reader.step .look =
        (none, { buffer, arrivals, ending? := some (outcome (breaks reader.arrivals) tail) })) := by
  have hlooked := looked_readPacket reader.buffer reader.arrivals
  rcases hread : readPacket reader.buffer reader.arrivals with ⟨result, kept, later⟩
  rw [hread] at hlooked
  dsimp only at hlooked
  refine ⟨kept, later, ?_⟩
  simp only [step, hup, hread]
  cases hlooked with
  | @packet packet _ _ hdecode hbreaks hinterruptions =>
    rw [Forwarder.decodeAll_of_eq_ok hdecode] at hall
    obtain ⟨rfl, rfl⟩ := Prod.mk.inj hall
    exact .inl ⟨packet, _, rfl, rfl, rfl, hbreaks, hinterruptions⟩
  | pending hkept hbreaks hinterruptions =>
    rw [hkept] at hall
    exact .inr (.inl ⟨rfl, hall, hbreaks, hinterruptions⟩)
  | ended hdecode hresult =>
    rw [Forwarder.decodeAll_of_eq_error hdecode] at hall
    obtain ⟨rfl, rfl⟩ := Prod.mk.inj hall
    refine .inr (.inr ⟨rfl, ?_⟩)
    rw [hresult, outcome, ending]
    cases breaks reader.arrivals with
    | true => rfl
    | false =>
      by_cases htail : reader.buffer ++ sent reader.arrivals = []
      · simp only [if_pos htail, Bool.false_eq_true, if_false]
      · simp only [if_neg htail, Bool.false_eq_true, if_false]

theorem run_of_ended {reader : Reader} {ending : Ending} (h : reader.ending? = some ending)
    (rounds : List Round) : reader.run rounds = ([], reader) := by
  have hstep : ∀ round, reader.step round = (none, reader) := by
    intro round
    cases round with
    | look => simp [step, h]
    | stop =>
      obtain ⟨buffer, arrivals, ending?⟩ := reader
      simp_all [step]
  induction rounds with
  | nil => rfl
  | cons round rest ih => simp [run, hstep, ih]

theorem outcome_ne_stopped (breaks : Bool) (tail : Bytes) : outcome breaks tail ≠ .stopped := by
  unfold outcome
  split
  · simp
  · split <;> simp

/-- The rounds of a connection that is up give the packets that are left, one
after the other. They end with the stream when all of them were given, unless
the link is to stop. Induction on the rounds. -/
theorem run_cases {reader : Reader} (hup : reader.ending? = none) {packets : List Bytes}
    {tail : Bytes} (hall : decodeAll (reader.buffer ++ sent reader.arrivals) = (packets, tail))
    (rounds : List Round) :
    (reader.run rounds).1 <+: packets ∧
    (∀ ending, (reader.run rounds).2.ending? = some ending → ending ≠ .stopped →
      (reader.run rounds).1 = packets ∧ ending = outcome (breaks reader.arrivals) tail) ∧
    (.stop ∉ rounds → (reader.run rounds).2.ending? ≠ some .stopped ∧
      (packets.length + interruptions reader.arrivals < rounds.length →
        (reader.run rounds).2.ending? ≠ none)) := by
  -- Induction over the rounds: each leaves the packets that it did not take, or ends.
  induction rounds generalizing reader packets with
  | nil => exact ⟨List.nil_prefix, by simp [run, hup], by simp [run, hup]⟩
  | cons round rest ih =>
    cases round with
    | stop =>
      have hrun : reader.run (.stop :: rest) =
          ([], { reader with ending? := some .stopped }) := by
        simp [run, step, hup, run_of_ended]
      rw [hrun]
      refine ⟨List.nil_prefix, fun ending heq hne => ?_, fun hstop => by simp at hstop⟩
      exact absurd (Option.some.inj heq).symm hne
    | look =>
      obtain ⟨buffer, arrivals, ⟨packet, left, rfl, hstep, hleft, hbreaks, hcount⟩ |
        ⟨hstep, hleft, hbreaks, hcount⟩ | ⟨rfl, hstep⟩⟩ := step_look_cases hup hall
      · -- A packet was there, and the others are left.
        obtain ⟨hearly, hended, hgoes⟩ := @ih { reader with buffer, arrivals } hup left hleft
        simp only [run, hstep, Option.toList_some, List.singleton_append]
        refine ⟨(List.prefix_cons_inj packet).mpr hearly, fun ending heq hne => ?_, fun hstop => ?_⟩
        · obtain ⟨hpackets, hending⟩ := hended ending heq hne
          exact ⟨by rw [hpackets], hbreaks ▸ hending⟩
        · obtain ⟨hstopped, hlong⟩ := hgoes fun hmem => hstop (List.mem_cons_of_mem _ hmem)
          refine ⟨hstopped, fun hlt => hlong ?_⟩
          simp only [List.length_cons] at hlt ⊢
          omega
      · -- The look was interrupted, and all packets are left.
        obtain ⟨hearly, hended, hgoes⟩ := @ih { reader with buffer, arrivals } hup packets hleft
        simp only [run, hstep, Option.toList_none, List.nil_append]
        refine ⟨hearly, fun ending heq hne => ?_, fun hstop => ?_⟩
        · obtain ⟨hpackets, hending⟩ := hended ending heq hne
          exact ⟨hpackets, hbreaks ▸ hending⟩
        · obtain ⟨hstopped, hlong⟩ := hgoes fun hmem => hstop (List.mem_cons_of_mem _ hmem)
          refine ⟨hstopped, fun hlt => hlong ?_⟩
          simp only [List.length_cons] at hlt ⊢
          omega
      · -- No packet is left, and the connection has ended.
        have hrun : run ⟨buffer, arrivals, some (outcome (breaks reader.arrivals) tail)⟩ rest =
            ([], ⟨buffer, arrivals, some (outcome (breaks reader.arrivals) tail)⟩) :=
          run_of_ended rfl rest
        rw [run, hstep]
        simp only [hrun, Option.toList_none]
        refine ⟨List.nil_prefix, fun ending heq _ => ⟨rfl, (Option.some.inj heq).symm⟩,
          fun _ => ⟨?_, by simp⟩⟩
        exact fun heq => outcome_ne_stopped _ _ (Option.some.inj heq)

/-- To run out of patience is to be stopped after as many rounds. -/
theorem run_replicate {reader : Reader} (hup : reader.ending? = none) (patience : Nat) :
    let after := reader.run (List.replicate patience .look ++ [.stop])
    (after.1, after.2.ending?) =
      ((receive patience reader.buffer reader.arrivals).1,
        some (receive patience reader.buffer reader.arrivals).2) := by
  induction patience generalizing reader with
  | zero => simp [run, step, hup, receive]
  | succ patience ih =>
    rw [List.replicate_succ, List.cons_append]
    rcases hread : readPacket reader.buffer reader.arrivals with ⟨result, buffer, arrivals⟩
    cases result with
    | packet packet =>
      have hrest := @ih { reader with buffer, arrivals } hup
      simp only [run, step, hup, hread, receive]
      simpa [hup] using hrest
    | pending =>
      have hrest := @ih { reader with buffer, arrivals } hup
      simp only [run, step, hup, hread, receive]
      simpa [hup] using hrest
    | ended => simp [run, step, hup, hread, receive, run_of_ended]
    | error error => simp [run, step, hup, hread, receive, run_of_ended]

end Reader

/-! ### The bus -/

/-- A packet that was passed on, with all that went with it. -/
structure Passed where
  device : Option Int
  timestamp : Int
  packet : Bytes
  priority : Priority
  deriving Repr, DecidableEq

/-- How a link passes a packet on. -/
def Passed.of (settings : LinkSettings) (clock : Nat → Int) (index : Nat) (packet : Bytes) :
    Passed :=
  ⟨settings.deviceId.map Int32.toInt, clock index, packet, settings.priority⟩

/-- A connection, its bus, and the packets that were passed on so far. -/
structure Receiving (ι σ : Type) where
  reader : Reader
  world : Bus.World ι σ
  passed : List Passed := []

namespace Receiving

variable {ι σ : Type}

/-- One round. Before a packet is passed on, others may have changed the
world. -/
def step (bus : Bus) (environment : Bus.Environment ι σ) (settings : LinkSettings)
    (clock : Nat → Int) (meanwhile : Nat → Bus.World ι σ → Bus.World ι σ)
    (receiving : Receiving ι σ) (round : Round) : Receiving ι σ :=
  match receiving.reader.step round with
  | (none, reader) => { receiving with reader }
  | (some packet, reader) =>
    let index := receiving.passed.length
    let passed := Passed.of settings clock index packet
    let (_, world) := bus.dispatchPacket environment passed.device passed.timestamp
      passed.packet passed.priority (meanwhile index receiving.world)
    { reader, world, passed := receiving.passed ++ [passed] }

/-- One round after the other. -/
def run (bus : Bus) (environment : Bus.Environment ι σ) (settings : LinkSettings)
    (clock : Nat → Int) (meanwhile : Nat → Bus.World ι σ → Bus.World ι σ)
    (receiving : Receiving ι σ) (rounds : List Round) : Receiving ι σ :=
  rounds.foldl (step bus environment settings clock meanwhile) receiving

section

variable (bus : Bus) (environment : Bus.Environment ι σ) (settings : LinkSettings)
  (clock : Nat → Int) (meanwhile : Nat → Bus.World ι σ → Bus.World ι σ)

/-- The bus has no say in what is passed on, nor has the world. -/
theorem run_eq (receiving : Receiving ι σ) (rounds : List Round) :
    (receiving.run bus environment settings clock meanwhile rounds).reader =
      (receiving.reader.run rounds).2 ∧
    (receiving.run bus environment settings clock meanwhile rounds).passed = receiving.passed ++
      (receiving.reader.run rounds).1.mapIdx fun index packet =>
        Passed.of settings clock (receiving.passed.length + index) packet := by
  induction rounds generalizing receiving with
  | nil => simp [run, Reader.run]
  | cons round rest ih =>
    obtain ⟨hreader, hpassed⟩ :=
      ih (receiving.step bus environment settings clock meanwhile round)
    rw [run, List.foldl_cons, ← run, hreader, hpassed]
    rcases hstep : receiving.reader.step round with ⟨packet?, reader⟩
    cases packet? with
    | none => simp [step, Reader.run, hstep]
    | some packet => simp [step, Reader.run, hstep, Nat.add_assoc, Nat.add_comm 1]

/-- Without others, the packets are dispatched in a row. -/
theorem world_run (receiving : Receiving ι σ) (rounds : List Round)
    (halone : ∀ index world, meanwhile index world = world) :
    (receiving.run bus environment settings clock meanwhile rounds).world =
      dispatchAll bus environment settings clock receiving.passed.length
        (receiving.reader.run rounds).1 receiving.world := by
  induction rounds generalizing receiving with
  | nil => rfl
  | cons round rest ih =>
    rw [run, List.foldl_cons, ← run, ih]
    rcases hstep : receiving.reader.step round with ⟨packet?, reader⟩
    cases packet? with
    | none => simp [step, Reader.run, hstep]
    | some packet => simp [step, Reader.run, hstep, dispatchAll, halone, Passed.of]

/-- What a link passes on, for any stream, whatever becomes of its packets and
whatever others do meanwhile. It is a beginning of the packets that the bytes
make up, one after the other, each once, with the device and the priority of the
link and the time at which it came. Neither the bus nor the world has a say in
which packets these are, or in how the connection ends. If the stream ends the
connection, or breaks, all of them were passed on. A stream that ends closes the
connection if no bytes are left behind the last packet, and else fails it. A link
that is not to stop gets there. A link that runs out of patience, and one that
has its bus for itself, are cases of this. -/
theorem reception (arrivals : List Arrival) (world : Bus.World ι σ) (rounds : List Round) :
    let receiving := run bus environment settings clock meanwhile ⟨{ arrivals }, world, []⟩ rounds
    let taken := (Reader.run { arrivals } rounds).1
    let packets := (decodeAll (sent arrivals)).1
    let tail := (decodeAll (sent arrivals)).2
    receiving.passed = (taken.mapIdx fun index packet =>
      ⟨settings.deviceId.map Int32.toInt, clock index, packet, settings.priority⟩) ∧
    taken <+: packets ∧
    receiving.reader = (Reader.run { arrivals } rounds).2 ∧
    (∀ ending, receiving.reader.ending? = some ending → ending ≠ .stopped →
      taken = packets ∧
      (breaks arrivals = true → ending = .failed .io) ∧
      (breaks arrivals = false → (ending = .closed ↔ tail = []) ∧
        (tail ≠ [] → ending = .failed (.truncatedPacket tail.length)))) ∧
    (.stop ∉ rounds → receiving.reader.ending? ≠ some .stopped ∧
      (packets.length + interruptions arrivals < rounds.length →
        receiving.reader.ending? ≠ none)) ∧
    (∀ patience, rounds = List.replicate patience .look ++ [.stop] →
      (taken, receiving.reader.ending?) =
        ((receive patience [] arrivals).1, some (receive patience [] arrivals).2)) ∧
    ((∀ index world, meanwhile index world = world) →
      receiving.world = dispatchAll bus environment settings clock 0 taken world) := by
  intro receiving taken packets tail
  obtain ⟨hreader, hpassed⟩ :=
    run_eq bus environment settings clock meanwhile ⟨{ arrivals }, world, []⟩ rounds
  obtain ⟨hearly, hended, hgoes⟩ := @Reader.run_cases { arrivals } rfl packets tail rfl rounds
  refine ⟨?_, hearly, hreader, fun ending heq hne => ?_, fun hstop => ?_,
    fun patience heq => ?_, ?_⟩
  · simpa [Passed.of] using hpassed
  · have heq' : (Reader.run { arrivals } rounds).2.ending? = some ending := hreader ▸ heq
    obtain ⟨hall, houtcome⟩ := hended ending heq' hne
    refine ⟨hall, fun hbreaks => ?_, fun hbreaks => ?_⟩
    · rw [houtcome, Reader.outcome, if_pos hbreaks]
    · have hending : ending = if tail = [] then .closed
          else .failed (.truncatedPacket tail.length) := by
        rw [houtcome, Reader.outcome, if_neg (by simp [hbreaks])]
      rw [hending]
      by_cases htail : tail = [] <;> simp [htail]
  · obtain ⟨hstopped, hlong⟩ := hgoes hstop
    rw [hreader]
    exact ⟨hstopped, hlong⟩
  · subst heq
    rw [hreader]
    exact Reader.run_replicate rfl patience
  · exact world_run bus environment settings clock meanwhile ⟨{ arrivals }, world, []⟩ rounds

end

end Receiving

end Link

end SensorGateway
