import SensorGateway.Forwarder.Relay
import SensorGateway.Proofs.Forwarder.Underway
import SensorGateway.Proofs.Link.Reception

/-!
# `SensorGateway.Proofs.Forwarder.Relay`: packets of a client on their way to the device

The handler of a connection reads one packet after the other and passes each
on before it reads the next. Passing on means to look whether the header is
sound, to look for the first source, and to hand the packet to the transport
of that source, whatever the transport makes of it. The handler stops where
the stream ends, where the server tells it to, and where its writer stopped,
and then drops a packet that it holds. Meanwhile others use the server and the
transports.

* `relay_submitting`: what one packet comes to. Every call of a transport is
  written down with the bus it belongs to.
* `Intake` is a handler without server and transports, which have no say in
  it. `Intake.Sound` says which packets it has passed on and is left with.
* `relay_inbound`: for every stream and every course of events, what was handed
  to the transports is a beginning of the sound packets of the stream, and all
  of them when the stream came to its end.
-/

set_option autoImplicit false

namespace SensorGateway

/-- The header of a packet is sound. -/
def WireFormat.accepts (format : WireFormat) (packet : Bytes) : Bool :=
  (format.unwrap packet).isOk

namespace Forwarder

open Link (Reader Round Ending)
open Arrival (sent breaks interruptions)

variable {ι σ : Type}

/-! ### Calls of a transport -/

/-- A packet that was handed to the transport of a bus. -/
structure Submission where
  bus : Nat
  packet : Bytes
  priority : Priority
  deriving Repr, DecidableEq

/-- The environment of a bus that also writes down what is handed to its
transport. -/
def submitting (environments : Nat → Bus.Environment ι σ) (bus : Nat) :
    Bus.Environment ι (σ × List Submission) where
  react listener delivery world :=
    let (verdict, after) :=
      (environments bus).react listener delivery ⟨world.listeners, world.rest.1⟩
    (verdict, ⟨after.listeners, after.rest, world.rest.2⟩)
  send packet priority state :=
    let (reply, after) := (environments bus).send packet priority state.1
    (reply, after, state.2 ++ [⟨bus, packet, priority⟩])
  acknowledge device timestamp priority state :=
    let (reply, after) := (environments bus).acknowledge device timestamp priority state.1
    (reply, after, state.2)

theorem relayTarget?_eq (server : Server ι) (packet : Bytes) :
    server.relayTarget? packet =
      if server.settings.format.accepts packet then server.sources.head? else none := by
  unfold Server.relayTarget? WireFormat.accepts
  cases server.settings.format.unwrap packet <;> rfl

/-- What becomes of one packet: it is handed to the transport of the first
source, as it came, if its header is sound. To write this down changes nothing
else. -/
theorem relay_submitting (server : Server ι) (buses : Nat → Bus)
    (environments : Nat → Bus.Environment ι σ) (packet : Bytes) (rest : σ)
    (submissions : List Submission) :
    server.relay buses (submitting environments) packet (rest, submissions) =
      (server.relay buses environments packet rest,
        submissions ++ (server.relayTarget? packet).toList.map fun bus =>
          ⟨bus, packet, server.settings.relayPriority⟩) := by
  unfold Server.relay
  cases server.relayTarget? packet with
  | none =>
    show (rest, submissions) = (rest, submissions ++ [])
    rw [List.append_nil]
  | some bus => rfl

/-- What comes of packets that a server passes on one after the other. -/
def Server.submissions (server : Server ι) (packets : List Bytes) : List Submission :=
  packets.flatMap fun packet => (server.relayTarget? packet).toList.map fun bus =>
    ⟨bus, packet, server.settings.relayPriority⟩

namespace Server

/-- The first source takes all packets whose header is sound, in order and each
once. -/
theorem submissions_of_head? {server : Server ι} {first : Nat}
    (hfirst : server.sources.head? = some first) (packets : List Bytes) :
    server.submissions packets = (packets.filter server.settings.format.accepts).map
      fun packet => ⟨first, packet, server.settings.relayPriority⟩ := by
  induction packets with
  | nil => rfl
  | cons packet rest ih =>
    show (server.relayTarget? packet).toList.map _ ++ server.submissions rest = _
    rw [ih, relayTarget?_eq, hfirst]
    cases haccepts : server.settings.format.accepts packet with
    | true =>
      rw [List.filter_cons_of_pos haccepts]
      rfl
    | false =>
      rw [List.filter_cons_of_neg (by simp [haccepts])]
      rfl

/-- Without a source nothing comes of a packet. -/
theorem submissions_of_nil {server : Server ι} (hnone : server.sources = [])
    (packets : List Bytes) : server.submissions packets = [] := by
  refine List.flatMap_eq_nil_iff.mpr ?_
  intro packet _
  rw [relayTarget?_eq, hnone]
  simp

theorem submissions_concat (server : Server ι) (packets : List Bytes) (packet : Bytes) :
    server.submissions (packets ++ [packet]) = server.submissions packets ++
      (server.relayTarget? packet).toList.map fun bus =>
        ⟨bus, packet, server.settings.relayPriority⟩ := by
  unfold submissions
  rw [List.flatMap_append, List.flatMap_singleton]

end Server

/-! ### A handler by itself -/

/-- What happens to a handler, and around it. -/
inductive Motion (ι σ : Type) where
  /-- The handler looks for a packet. It does not while it holds one. -/
  | look
  /-- The handler passes on the packet that it holds. -/
  | relay
  /-- The handler notices that it is to stop, or that its writer stopped. -/
  | stop
  /-- Others use the server. -/
  | serve (turn : Turn ι)
  /-- Others use the transports. -/
  | others (change : σ → σ)

namespace Motion

/-- The handler itself does it. -/
def isOwn : Motion ι σ → Bool
  | .look | .relay | .stop => true
  | .serve _ | .others _ => false

/-- The handler looks for packets again and again and passes on what it
finds. -/
def rounds (count : Nat) : List (Motion ι σ) := (List.replicate count [.look, .relay]).flatten

end Motion

/-- A handler without server and transports. -/
structure Intake where
  reader : Reader
  /-- The packet that was read last, until it is passed on. -/
  held? : Option Bytes := none
  /-- The packets that were passed on, first one first. -/
  passed : List Bytes := []

namespace Intake

/-- What a move is for the handler. -/
def step (intake : Intake) : Motion ι σ → Intake
  | .look =>
    match intake.held? with
    | some _ => intake
    | none =>
      { intake with
        reader := (intake.reader.step .look).2
        held? := (intake.reader.step .look).1 }
  | .relay => { intake with
      held? := none
      passed := intake.passed ++ intake.held?.toList }
  | .stop => { intake with
      reader := (intake.reader.step .stop).2
      held? := none }
  | .serve _ | .others _ => intake

/-- One move after the other. -/
def run (intake : Intake) (moves : List (Motion ι σ)) : Intake := moves.foldl step intake

@[simp] theorem passed_look (intake : Intake) :
    (intake.step (.look : Motion ι σ)).passed = intake.passed := by
  unfold step
  cases intake.held? <;> rfl

@[simp] theorem passed_relay (intake : Intake) :
    (intake.step (.relay : Motion ι σ)).passed = intake.passed ++ intake.held?.toList := rfl

/-- What a handler has done and what it is left with, by the packets and the
tail that its whole stream comes to. While it is up, what it passed on, what it
holds and what is still to be read make up all of the packets. When it has ended
it holds nothing, and it has passed on all of them unless it was stopped. -/
structure Sound (packets : List Bytes) (tail : Bytes) (broken : Bool) (intake : Intake) :
    Prop where
  early : intake.passed <+: packets
  up : intake.reader.ending? = none → ∃ left,
    intake.passed ++ intake.held?.toList ++ left = packets ∧
    decodeAll (intake.reader.buffer ++ sent intake.reader.arrivals) = (left, tail) ∧
    breaks intake.reader.arrivals = broken
  ended : ∀ ending, intake.reader.ending? = some ending → intake.held? = none ∧
    (ending ≠ .stopped → intake.passed = packets ∧ ending = Reader.outcome broken tail)

variable {packets : List Bytes} {tail : Bytes} {broken : Bool} {intake : Intake}

theorem sound_start (arrivals : List Arrival) :
    Sound (decodeAll (sent arrivals)).1 (decodeAll (sent arrivals)).2 (breaks arrivals)
      { reader := { arrivals } } where
  early := List.nil_prefix
  up _ := ⟨_, rfl, rfl, rfl⟩
  ended ending h := by cases h

/-- A look finds the next packet, or none yet, or the end of the stream. -/
theorem Sound.look (h : intake.Sound packets tail broken) :
    (intake.step (.look : Motion ι σ)).Sound packets tail broken := by
  unfold step
  cases hheld : intake.held? with
  | some packet => exact h
  | none =>
    cases hending : intake.reader.ending? with
    | some ending =>
      -- Nothing comes after the end.
      have hstep : intake.reader.step .look = (none, intake.reader) := by
        simp [Reader.step, hending]
      simp only [hstep]
      exact ⟨h.early, fun hup => by simp [hending] at hup,
        fun other heq => ⟨rfl, (h.ended other heq).2⟩⟩
    | none =>
      obtain ⟨left, hsplit, hleft, hbroken⟩ := h.up hending
      rw [hheld, Option.toList_none, List.append_nil] at hsplit
      obtain ⟨buffer, arrivals, ⟨packet, rest, rfl, hstep, hrest, hbreaks, -⟩ |
        ⟨hstep, hrest, hbreaks, -⟩ | ⟨rfl, hstep⟩⟩ := Reader.step_look_cases hending hleft
      · simp only [hstep]
        refine ⟨h.early, fun _ => ⟨rest, ?_, hrest, hbreaks ▸ hbroken⟩, ?_⟩
        · show intake.passed ++ [packet] ++ rest = packets
          rw [List.append_assoc]
          exact hsplit
        · intro ending heq
          have hnone : intake.reader.ending? = some ending := heq
          simp [hending] at hnone
      · simp only [hstep]
        refine ⟨h.early, fun _ => ⟨left, ?_, hrest, hbreaks ▸ hbroken⟩, ?_⟩
        · show intake.passed ++ [] ++ left = packets
          rw [List.append_nil]
          exact hsplit
        · intro ending heq
          have hnone : intake.reader.ending? = some ending := heq
          simp [hending] at hnone
      · simp only [hstep]
        refine ⟨h.early, ?_, ?_⟩
        · intro hup
          cases hup
        · intro ending heq
          obtain rfl := Option.some.inj heq
          rw [List.append_nil] at hsplit
          exact ⟨rfl, fun _ => ⟨hsplit, by rw [hbroken]⟩⟩

/-- To pass a packet on makes room for the next one. -/
theorem Sound.relay (h : intake.Sound packets tail broken) :
    (intake.step (.relay : Motion ι σ)).Sound packets tail broken := by
  cases hending : intake.reader.ending? with
  | some ending =>
    obtain ⟨hheld, hall⟩ := h.ended ending hending
    have hsame : intake.step (.relay : Motion ι σ) = intake := by
      obtain ⟨reader, held?, passed⟩ := intake
      simp only at hheld
      subst hheld
      simp [step]
    rw [hsame]
    exact h
  | none =>
    obtain ⟨left, hsplit, hleft, hbroken⟩ := h.up hending
    refine ⟨⟨left, hsplit⟩, fun _ => ⟨left, ?_, hleft, hbroken⟩, ?_⟩
    · show intake.passed ++ intake.held?.toList ++ [] ++ left = packets
      rw [List.append_nil]
      exact hsplit
    · intro ending heq
      have hnone : intake.reader.ending? = some ending := heq
      simp [hending] at hnone

/-- A handler that stops drops what it holds. One that had ended before stays
as it is. -/
theorem Sound.stop (h : intake.Sound packets tail broken) :
    (intake.step (.stop : Motion ι σ)).Sound packets tail broken := by
  refine ⟨h.early, ?_, ?_⟩
  · intro hup
    cases hup
  · intro ending heq
    refine ⟨rfl, fun hne => ?_⟩
    have hgiven : intake.reader.ending?.getD .stopped = ending := Option.some.inj heq
    cases hending : intake.reader.ending? with
    | none =>
      rw [hending] at hgiven
      exact absurd hgiven.symm hne
    | some given =>
      rw [hending] at hgiven
      obtain rfl : given = ending := hgiven
      exact (h.ended given hending).2 hne

theorem Sound.step (h : intake.Sound packets tail broken) (move : Motion ι σ) :
    (intake.step move).Sound packets tail broken := by
  cases move with
  | look => exact h.look
  | relay => exact h.relay
  | stop => exact h.stop
  | serve turn => exact h
  | others change => exact h

theorem Sound.run (h : intake.Sound packets tail broken) (moves : List (Motion ι σ)) :
    (intake.run moves).Sound packets tail broken := by
  induction moves generalizing intake with
  | nil => exact h
  | cons move rest ih => exact ih (h.step move)

/-- What others do is nothing to the handler. -/
theorem run_filter (intake : Intake) (moves : List (Motion ι σ)) :
    intake.run (moves.filter Motion.isOwn) = intake.run moves := by
  induction moves generalizing intake with
  | nil => rfl
  | cons move rest ih =>
    cases move with
    | look | relay | stop => exact ih _
    | serve | others => exact ih intake

/-- A handler that goes round and round reads as fast as it can. -/
theorem reader_run_rounds (intake : Intake) (hheld : intake.held? = none) (count : Nat) :
    (intake.run (Motion.rounds count : List (Motion ι σ))).reader =
      (intake.reader.run (List.replicate count .look)).2 := by
  induction count generalizing intake with
  | zero => rfl
  | succ count ih =>
    have hround : ((intake.step (.look : Motion ι σ)).step (.relay : Motion ι σ)).reader =
        (intake.reader.step .look).2 := by
      simp [step, hheld]
    show (((intake.step .look).step .relay).run (Motion.rounds count)).reader = _
    rw [ih _ rfl, hround]
    rfl

/-- A look does not stop a handler. -/
theorem ending?_look_ne_stopped {reader : Reader} (h : reader.ending? ≠ some .stopped) :
    (reader.step .look).2.ending? ≠ some .stopped := by
  unfold Reader.step
  cases hending : reader.ending? with
  | some ending =>
    show reader.ending? ≠ some .stopped
    exact h
  | none =>
    rcases readPacket reader.buffer reader.arrivals with ⟨_ | _ | _ | _, buffer, arrivals⟩
    all_goals simp

/-- Only a handler that is to stop is stopped. -/
theorem ending?_run_ne_stopped {moves : List (Motion ι σ)} (hstop : .stop ∉ moves)
    (hstart : intake.reader.ending? ≠ some .stopped) :
    (intake.run moves).reader.ending? ≠ some .stopped := by
  induction moves generalizing intake with
  | nil => exact hstart
  | cons move rest ih =>
    refine ih (fun hmem => hstop (List.mem_cons_of_mem _ hmem)) ?_
    cases move with
    | stop => exact absurd List.mem_cons_self hstop
    | relay | serve | others => exact hstart
    | look =>
      cases hheld : intake.held? with
      | some packet =>
        simp only [step, hheld]
        exact hstart
      | none =>
        simp only [step, hheld]
        exact ending?_look_ne_stopped hstart

end Intake

/-! ### What others do to a server -/

/-- Others may add sources behind the ones that are there. They do not change
the settings. -/
def Server.Extends (later server : Server ι) : Prop :=
  later.settings = server.settings ∧ server.sources <+: later.sources

namespace Server.Extends

variable {first second third : Server ι}

theorem refl (server : Server ι) : server.Extends server := ⟨rfl, List.prefix_rfl⟩

theorem trans (h : second.Extends first) (h' : third.Extends second) : third.Extends first :=
  ⟨h'.1.trans h.1, h.2.trans h'.2⟩

/-- The first source stays the first. -/
theorem head?_eq (h : second.Extends first) {bus : Nat} (hfirst : first.sources.head? = some bus) :
    second.sources.head? = some bus := by
  obtain ⟨added, hadded⟩ := h.2
  rw [← hadded, List.head?_append, hfirst]
  rfl

end Server.Extends

namespace Underway

theorem extends_takeOut (state : Underway ι) (shutdown? : Option Nat) (id : Nat) :
    (state.takeOut shutdown? id).server.Extends state.server := by
  rcases state.takeOut_cases shutdown? id with ⟨-, heq⟩ | ⟨session, -, -, heq⟩
  · rw [heq]
    exact .refl _
  · rw [heq]
    exact ⟨rfl, List.prefix_rfl⟩

variable [DecidableEq ι]

theorem extends_clear (state : Underway ι) (index : Nat) :
    (state.clear index).server.Extends state.server := by
  rcases state.clear_cases index with heq | ⟨before, session, shutdown?, after, h⟩
  · rw [heq]
    exact .refl _
  · rcases h with ⟨bus, rest, -, heq⟩ | ⟨-, heq⟩
    · rw [heq]
      exact ⟨rfl, List.prefix_rfl⟩
    · rw [heq]
      exact ⟨rfl, List.prefix_rfl⟩

theorem extends_detach (state : Underway ι) (id : Nat) :
    (state.detach id).server.Extends state.server := by
  obtain ⟨tables, signalled, heq⟩ := state.server.exists_detach_eq id
  show (state.server.detach id).2.Extends state.server
  rw [heq]
  exact ⟨rfl, List.prefix_rfl⟩

theorem extends_part (state : Underway ι) (task : Nat) :
    (state.part task).server.Extends state.server := by
  rcases state.part_cases task with ⟨id, rest, -, heq⟩ | ⟨closing, phase, heq, -⟩
  · rw [heq]
    exact state.extends_takeOut (some task) id
  · rw [heq]
    exact ⟨rfl, List.prefix_rfl⟩

/-- A shutdown goes on by steps of detaches. -/
theorem extends_advance (state : Underway ι) (task : Nat) :
    (state.advance task).server.Extends state.server :=
  @advance_induction ι _ (fun after => after.server.Extends state.server) state task
    (state.extends_part task) fun other index h => h.trans (other.extends_clear index)

theorem extends_step (state : Underway ι) (turn : Turn ι) :
    (state.step turn).server.Extends state.server := by
  cases turn with
  | attach new =>
    show (state.server.attach _ _ _).2.Extends state.server
    unfold Server.attach
    split
    · exact .refl _
    · rw [Server.foldl_subscribe]
      exact ⟨rfl, List.prefix_rfl⟩
  | addSource bus =>
    show (state.server.addSource bus).Extends state.server
    rw [Server.addSource_eq]
    exact ⟨rfl, List.prefix_append _ _⟩
  | detach id | shutdown id => exact state.extends_detach id
  | takeOut id => exact state.extends_takeOut none id
  | clear index => exact state.extends_clear index
  | advance task =>
    show (if state.busy task then state else state.advance task).server.Extends state.server
    split
    · exact .refl _
    · exact state.extends_advance task
  | part task =>
    show (if state.busy task then state else state.part task).server.Extends state.server
    split
    · exact .refl _
    · exact state.extends_part task
  | register | deregister => exact ⟨rfl, List.prefix_rfl⟩

end Underway

variable [DecidableEq ι]

/-! ### A handler among others -/

/-- A handler, the server with all who use it, the world of the transports, and
what this handler handed to them. -/
structure Inbound (ι σ : Type) where
  intake : Intake
  around : Underway ι
  rest : σ
  submissions : List Submission := []

namespace Inbound

section

variable (buses : Nat → Bus) (environments : Nat → Bus.Environment ι σ)

/-- One move. A packet that is passed on is passed on by the server as it is by
then, to the transports as they are by then. -/
def step (inbound : Inbound ι σ) (move : Motion ι σ) : Inbound ι σ :=
  let moved := { inbound with intake := inbound.intake.step move }
  match move with
  | .look | .stop => moved
  | .relay =>
    match inbound.intake.held? with
    | none => moved
    | some packet =>
      let (rest, submissions) := inbound.around.server.relay buses (submitting environments) packet
        (inbound.rest, inbound.submissions)
      { moved with rest, submissions }
  | .serve turn => { moved with around := inbound.around.step turn }
  | .others change => { moved with rest := change inbound.rest }

/-- One move after the other. -/
def run (inbound : Inbound ι σ) (moves : List (Motion ι σ)) : Inbound ι σ :=
  moves.foldl (step buses environments) inbound

theorem intake_step (inbound : Inbound ι σ) (move : Motion ι σ) :
    (inbound.step buses environments move).intake = inbound.intake.step move := by
  unfold step
  cases move with
  | relay => cases inbound.intake.held? <;> rfl
  | look | stop | serve | others => rfl

/-- Neither the server nor a transport has a say in what the handler does. -/
theorem intake_run (inbound : Inbound ι σ) (moves : List (Motion ι σ)) :
    (inbound.run buses environments moves).intake = inbound.intake.run moves := by
  induction moves generalizing inbound with
  | nil => rfl
  | cons move rest ih =>
    show ((inbound.step buses environments move).run buses environments rest).intake = _
    rw [ih, intake_step]
    rfl

theorem step_relay_of_none {inbound : Inbound ι σ} (hheld : inbound.intake.held? = none) :
    inbound.step buses environments .relay =
      { inbound with intake := inbound.intake.step (.relay : Motion ι σ) } := by
  simp only [step, hheld]

/-- The packet that was held is what is passed on. -/
theorem step_relay_of_some {inbound : Inbound ι σ} {packet : Bytes}
    (hheld : inbound.intake.held? = some packet) :
    inbound.step buses environments .relay = { inbound with
      intake := inbound.intake.step (.relay : Motion ι σ)
      rest := inbound.around.server.relay buses environments packet inbound.rest
      submissions := inbound.submissions ++
        (inbound.around.server.relayTarget? packet).toList.map fun bus =>
          ⟨bus, packet, inbound.around.server.settings.relayPriority⟩ } := by
  simp only [step, hheld, relay_submitting]

/-- A handler that has server and transports for itself passes its packets on in
a row. -/
theorem rest_run_of_own (inbound : Inbound ι σ) {moves : List (Motion ι σ)}
    (hown : ∀ move ∈ moves, move.isOwn = true) :
    ∃ passed, (inbound.intake.run moves).passed = inbound.intake.passed ++ passed ∧
      (inbound.run buses environments moves).rest =
        inbound.around.server.relayAll buses environments passed inbound.rest := by
  induction moves generalizing inbound with
  | nil => exact ⟨[], (List.append_nil _).symm, rfl⟩
  | cons move rest ih =>
    obtain ⟨passed, hpassed, hrest⟩ := ih (inbound.step buses environments move)
      fun other hmem => hown other (List.mem_cons_of_mem _ hmem)
    have hmove := hown move List.mem_cons_self
    rw [intake_step] at hpassed
    -- Only handing over a packet touches the buses.
    cases move with
    | serve | others => cases hmove
    | stop => exact ⟨passed, hpassed, hrest⟩
    | look =>
      rw [Intake.passed_look] at hpassed
      exact ⟨passed, hpassed, hrest⟩
    | relay =>
      rw [Intake.passed_relay] at hpassed
      show ∃ passed, ((inbound.intake.step (.relay : Motion ι σ)).run rest).passed = _ ∧
        ((inbound.step buses environments .relay).run buses environments rest).rest = _
      cases hheld : inbound.intake.held? with
      | none =>
        rw [hheld, Option.toList_none, List.append_nil] at hpassed
        rw [step_relay_of_none buses environments hheld] at hrest ⊢
        exact ⟨passed, hpassed, hrest⟩
      | some packet =>
        rw [hheld, Option.toList_some, List.append_assoc] at hpassed
        rw [step_relay_of_some buses environments hheld] at hrest ⊢
        exact ⟨packet :: passed, hpassed, hrest⟩

end

/-- What the handler handed over, by the server at the start. Packets that were
passed on while there was no source are lost, and all later ones go to the same
source. -/
structure Faithful (server : Server ι) (inbound : Inbound ι σ) : Prop where
  later : inbound.around.server.Extends server
  relayed : ∃ lost relayed, inbound.intake.passed = lost ++ relayed ∧
    (server.sources ≠ [] → lost = []) ∧ (inbound.around.server.sources = [] → relayed = []) ∧
    inbound.submissions = inbound.around.server.submissions relayed

variable {server : Server ι} {inbound : Inbound ι σ}

/-- A packet goes to the source that all others before it went to. -/
theorem Faithful.relay (h : inbound.Faithful server) (buses : Nat → Bus)
    (environments : Nat → Bus.Environment ι σ) :
    (inbound.step buses environments .relay).Faithful server := by
  obtain ⟨lost, relayed, hpassed, hlost, hrelayed, hsubmissions⟩ := h.relayed
  cases hheld : inbound.intake.held? with
  | none =>
    rw [step_relay_of_none buses environments hheld]
    refine ⟨h.later, lost, relayed, ?_, hlost, hrelayed, hsubmissions⟩
    show (inbound.intake.step (.relay : Motion ι σ)).passed = lost ++ relayed
    rw [Intake.passed_relay, hheld, Option.toList_none, List.append_nil, hpassed]
  | some packet =>
    have hmore : (inbound.intake.step (.relay : Motion ι σ)).passed =
        lost ++ (relayed ++ [packet]) := by
      rw [Intake.passed_relay, hheld, Option.toList_some, hpassed, List.append_assoc]
    rw [step_relay_of_some buses environments hheld, hsubmissions, ← Server.submissions_concat]
    refine ⟨h.later, ?_⟩
    by_cases hnone : inbound.around.server.sources = []
    · -- The packet is lost like all packets before it.
      refine ⟨lost ++ (relayed ++ [packet]), [], by simp [hmore], ?_, fun _ => rfl, ?_⟩
      · intro hsome
        obtain ⟨added, hadded⟩ := h.later.2
        rw [hnone] at hadded
        exact absurd (List.append_eq_nil_iff.mp hadded).1 hsome
      · show inbound.around.server.submissions (relayed ++ [packet]) =
          inbound.around.server.submissions []
        rw [Server.submissions_of_nil hnone, Server.submissions_of_nil hnone]
    · exact ⟨lost, relayed ++ [packet], hmore, hlost, fun hnil => absurd hnil hnone, rfl⟩

/-- A source that is added first may be the first one. Then nothing was handed
over before. -/
theorem Faithful.serve (h : inbound.Faithful server) (buses : Nat → Bus)
    (environments : Nat → Bus.Environment ι σ) (turn : Turn ι) :
    (inbound.step buses environments (.serve turn)).Faithful server := by
  obtain ⟨lost, relayed, hpassed, hlost, hrelayed, hsubmissions⟩ := h.relayed
  have hextends := inbound.around.extends_step turn
  -- The submissions are the same by the server before and after.
  refine ⟨h.later.trans hextends, lost, relayed, hpassed, hlost, ?_, ?_⟩
  · intro hnone
    obtain ⟨added, hadded⟩ := hextends.2
    have hboth : inbound.around.server.sources ++ added = [] := hadded.trans hnone
    exact hrelayed (List.append_eq_nil_iff.mp hboth).1
  · show inbound.submissions = (inbound.around.step turn).server.submissions relayed
    rw [hsubmissions]
    cases hhead : inbound.around.server.sources.head? with
    | none =>
      rw [hrelayed (List.head?_eq_none_iff.mp hhead)]
      rfl
    | some first =>
      rw [Server.submissions_of_head? hhead, Server.submissions_of_head? (hextends.head?_eq hhead),
        hextends.1]

theorem Faithful.step (h : inbound.Faithful server) (buses : Nat → Bus)
    (environments : Nat → Bus.Environment ι σ) (move : Motion ι σ) :
    (inbound.step buses environments move).Faithful server := by
  cases move with
  | relay => exact h.relay buses environments
  | serve turn => exact h.serve buses environments turn
  | stop | others => exact ⟨h.later, h.relayed⟩
  | look =>
    obtain ⟨lost, relayed, hpassed, hall⟩ := h.relayed
    exact ⟨h.later, lost, relayed, (@Intake.passed_look ι σ inbound.intake).trans hpassed, hall⟩

theorem Faithful.run (h : inbound.Faithful server) (buses : Nat → Bus)
    (environments : Nat → Bus.Environment ι σ) (moves : List (Motion ι σ)) :
    (inbound.run buses environments moves).Faithful server := by
  induction moves generalizing inbound with
  | nil => exact h
  | cons move rest ih => exact ih (h.step buses environments move)

/-- What a handler relays, for every stream of a client, every list of sources,
every behaviour of the transports and whatever others do meanwhile.

The handler itself does not depend on any of that. What it passed on is a
beginning of the packets of the stream; it is all of them if the stream came to
its end, and a handler that is not to stop and goes round and round gets there.
If there is a source, what was handed to the transports is the packets passed on
whose header is sound, as they came, in order and each once, to the first source
and to no other, with the priority of the server. Without a source nothing is
handed over, and a source that is added later takes the packets from then on. -/
theorem relay_inbound (buses : Nat → Bus) (environments : Nat → Bus.Environment ι σ)
    (arrivals : List Arrival) (around : Underway ι) (rest : σ) (moves : List (Motion ι σ)) :
    let settings := around.server.settings
    let packets := (decodeAll (sent arrivals)).1
    let tail := (decodeAll (sent arrivals)).2
    let intake := Intake.run { reader := { arrivals } } moves
    let inbound := run buses environments ⟨{ reader := { arrivals } }, around, rest, []⟩ moves
    let relayed := intake.passed.filter settings.format.accepts
    inbound.intake = intake ∧
    intake.passed <+: packets ∧
    relayed <+: packets.filter settings.format.accepts ∧
    (∀ ending, intake.reader.ending? = some ending → ending ≠ .stopped →
      intake.passed = packets ∧ relayed = packets.filter settings.format.accepts ∧
      ending = Reader.outcome (breaks arrivals) tail) ∧
    (.stop ∉ moves → intake.reader.ending? ≠ some .stopped) ∧
    (∀ count, packets.length + interruptions arrivals < count →
      moves.filter Motion.isOwn = Motion.rounds count → intake.reader.ending? ≠ none) ∧
    (∀ first, around.server.sources.head? = some first →
      inbound.submissions = relayed.map fun packet => ⟨first, packet, settings.relayPriority⟩) ∧
    (inbound.around.server.sources = [] → inbound.submissions = []) ∧
    (∃ lost later, intake.passed = lost ++ later ∧
      inbound.submissions = inbound.around.server.submissions later) ∧
    ((∀ move ∈ moves, move.isOwn = true) →
      inbound.rest = around.server.relayAll buses environments intake.passed rest) := by
  intro settings packets tail intake inbound relayed
  have hintake : inbound.intake = intake := intake_run buses environments _ moves
  have hsound : intake.Sound packets tail (breaks arrivals) :=
    (Intake.sound_start arrivals).run moves
  have hstart : Faithful around.server
      (⟨{ reader := { arrivals } }, around, rest, []⟩ : Inbound ι σ) :=
    ⟨.refl _, [], [], rfl, fun _ => rfl, fun _ => rfl, rfl⟩
  have hfaithful : inbound.Faithful around.server := hstart.run buses environments moves
  obtain ⟨lost, later, hpassed, hlost, hlater, hsubmissions⟩ := hfaithful.relayed
  rw [hintake] at hpassed
  refine ⟨hintake, hsound.early, hsound.early.filter _, ?_, ?_, ?_, ?_, ?_,
    ⟨lost, later, hpassed, hsubmissions⟩, ?_⟩
  · intro ending hending hne
    obtain ⟨hall, houtcome⟩ := (hsound.ended ending hending).2 hne
    exact ⟨hall, congrArg (List.filter _) hall, houtcome⟩
  · intro hstop
    exact Intake.ending?_run_ne_stopped hstop (by simp)
  · -- What others do does not change what the handler reads, so it is enough to
    -- count its own rounds.
    intro count hcount hrounds
    have hreader : intake.reader =
        (Reader.run { arrivals } (List.replicate count .look)).2 := by
      show (Intake.run { reader := { arrivals } } moves).reader = _
      rw [← Intake.run_filter, hrounds]
      exact Intake.reader_run_rounds _ rfl count
    obtain ⟨-, -, hgoes⟩ := @Reader.run_cases { arrivals } rfl packets tail rfl
      (List.replicate count .look)
    have hlook : Round.stop ∉ List.replicate count Round.look := by
      intro hmem
      cases List.eq_of_mem_replicate hmem
    rw [hreader]
    exact (hgoes hlook).2 (by rw [List.length_replicate]; exact hcount)
  · -- With a source from the start nothing is lost, and the first source stays the
    -- first one.
    intro first hfirst
    have hsome : around.server.sources ≠ [] := by
      intro hnone
      rw [hnone] at hfirst
      cases hfirst
    rw [hsubmissions, Server.submissions_of_head? (hfaithful.later.head?_eq hfirst),
      hfaithful.later.1]
    show _ = (intake.passed.filter _).map _
    rw [hpassed, hlost hsome, List.nil_append]
  · intro hnone
    rw [hsubmissions, Server.submissions_of_nil hnone]
  · intro hown
    obtain ⟨passed, hall, hrest⟩ := rest_run_of_own buses environments
      ⟨{ reader := { arrivals } }, around, rest, []⟩ hown
    rw [show intake.passed = passed from hall]
    exact hrest

end Inbound

end Forwarder

end SensorGateway
