import Mathlib.Algebra.Order.BigOperators.Group.List
import SensorGateway.Bus.Dispatch
import SensorGateway.Proofs.Command.Denotation
import SensorGateway.Proofs.Link.Desk
import SensorGateway.Proofs.Record.Words
import SensorGateway.Proofs.Wrapping

/-!
# `SensorGateway.Proofs.Link.Acknowledgement`: which message is acknowledged

A message is acknowledged by a packet to the device it came from that carries
the time of its arrival. `Identifies` says of a packet, taken apart, that it
names both.

* `identifies_of_acknowledgementPacket_eq_ok`: the packet that is built does,
  and so packets with different times are different
  (`Identifies.timestamp_eq`).
* `TakesIn`: between two states of an outbox one packet came into the queue.
  `acknowledges_of_room`: where there is room an acknowledgement is counted and,
  if acknowledgements have a message type, one such packet taken in.
* `await_eq_accepted`: whoever has to wait is either taken in once, when a reader
  makes room, or not at all.
* `dispatch_acknowledging`: so is what a bus reports as acknowledged.
* `acknowledge_identifies`: all of it.
-/

set_option autoImplicit false

namespace SensorGateway

namespace Link

/-! ### Packets -/

/-- The destination for a device: its own number if that is an address, else the
address of every device. -/
structure Addresses (device : Option Int) (destination : UInt16) : Prop where
  of_address : ∀ id, device = some id → 0 ≤ id → id ≤ 65535 → (destination.toNat : Int) = id
  of_none : (∀ id, device = some id → id < 0 ∨ 65535 < id) → destination = 0xFFFF

/-- Taken apart, the packet has the type of acknowledgements and the device for
its destination, and its payload is the time as a signed 64-bit integer. -/
def Identifies (format : WireFormat) (type : MessageType) (device : Option Int)
    (timestamp : Int) (packet : Bytes) : Prop :=
  ∃ message, format.unwrap packet = .ok message ∧ message.messageType = type ∧
    Addresses device message.destination ∧ message.payload.length = 8 ∧
    (Frame.ofBytes message.payload).readSigned 0 64 = .ok timestamp

theorem addresses_acknowledgementTarget (device : Option Int) :
    Addresses device (acknowledgementTarget device) := by
  cases device with
  | none =>
    refine ⟨?_, fun _ => rfl⟩
    intro _ h
    cases h
  | some id =>
    by_cases hid : 0 ≤ id ∧ id < 2 ^ 16
    · have htarget : acknowledgementTarget (some id) = UInt16.ofNat id.toNat := if_pos hid
      have hlt : id.toNat < 2 ^ 16 := by omega
      rw [htarget]
      refine ⟨?_, fun h => ?_⟩
      · rintro _ ⟨⟩ - -
        rw [UInt16.toNat_ofNat', Nat.mod_eq_of_lt hlt]
        omega
      · have hout := h id rfl
        omega
    · have htarget : acknowledgementTarget (some id) = 0xFFFF := if_neg hid
      rw [htarget]
      refine ⟨?_, fun _ => rfl⟩
      rintro _ ⟨⟩ hge hle
      omega

/-- Eight bytes hold a signed 64-bit integer, whatever its sign. -/
theorem readSigned_timestampBytes {timestamp : Int} (h : InInt64 timestamp) :
    (Frame.ofBytes (timestampBytes timestamp)).readSigned 0 64 = .ok timestamp := by
  have hlength : (timestampBytes timestamp).length = 8 := Bytes.length_ofNat 8 _
  have hbits : (Frame.ofBytes (timestampBytes timestamp)).bitLength = 64 := by
    show 8 * (timestampBytes timestamp).length = 64
    rw [hlength]
  have hnumber : (timestampBytes timestamp).number 0 64 = twosComplement 64 timestamp := by
    have hlt := Element.twosComplement_lt 64 timestamp
    have hwhole := @Bytes.number_eq_toNat (timestampBytes timestamp) 0 8 (by rw [hlength])
    rw [List.drop_zero, List.take_of_length_le (by rw [hlength])] at hwhole
    show (timestampBytes timestamp).number (8 * 0) (8 * 8) = _
    rw [hwhole, timestampBytes, Bytes.toNat_ofNat]
    exact Nat.mod_eq_of_lt hlt
  have hrange : -2 ^ (64 - 1) ≤ timestamp ∧ timestamp < 2 ^ (64 - 1) := by
    unfold InInt64 minInt64 maxInt64 at h
    omega
  rw [Frame.readSigned, Frame.read_eq _ (by decide) (by decide) (by rw [hbits]),
    Frame.bytes_ofBytes, hnumber]
  exact congrArg _ (Element.signed_twosComplement (by decide) hrange)

/-- Eight bytes are never too many for a header. -/
theorem exists_acknowledgementPacket (format : WireFormat) (type : MessageType)
    (device : Option Int) (timestamp : Int) :
    ∃ packet, acknowledgementPacket format type device timestamp = .ok packet := by
  have hlength : (timestampBytes timestamp).length = 8 := Bytes.length_ofNat 8 _
  exact ⟨_, (format.wrap_eq_ok_iff ..).mpr ⟨by rw [hlength]; decide, rfl⟩⟩

/-- The packet that is built for a message identifies it. -/
theorem identifies_of_acknowledgementPacket_eq_ok {format : WireFormat} {type : MessageType}
    {device : Option Int} {timestamp : Int} {packet : Bytes} (hrange : InInt64 timestamp)
    (h : acknowledgementPacket format type device timestamp = .ok packet) :
    Identifies format type device timestamp packet := by
  have hunwrap := WireFormat.unwrap_append_of_wrap_eq_ok h []
  rw [List.append_nil] at hunwrap
  exact ⟨_, hunwrap, rfl, addresses_acknowledgementTarget device, Bytes.length_ofNat 8 _,
    readSigned_timestampBytes hrange⟩

/-- A packet carries one time only. -/
theorem Identifies.timestamp_eq {format : WireFormat} {type type' : MessageType}
    {device device' : Option Int} {timestamp timestamp' : Int} {packet : Bytes}
    (h : Identifies format type device timestamp packet)
    (h' : Identifies format type' device' timestamp' packet) : timestamp = timestamp' := by
  obtain ⟨message, hmessage, -, -, -, htime⟩ := h
  obtain ⟨message', hmessage', -, -, -, htime'⟩ := h'
  obtain rfl : message = message' := Except.ok.inj (hmessage.symm.trans hmessage')
  exact Except.ok.inj (htime.symm.trans htime')

/-! ### What an outbox takes in -/

namespace Outbox

/-- The queue takes packets. -/
def HasRoom (outbox : Outbox) : Prop :=
  outbox.queue.isClosed = false ∧ outbox.queue.size < outbox.queue.capacity

/-- One acknowledgement more is counted. -/
def counted (outbox : Outbox) : Outbox := { outbox with acknowledged := outbox.acknowledged + 1 }

/-- One packet more is in the queue, before anyone who waits gets a turn. -/
def withPacket (outbox : Outbox) (packet : Bytes) (priority : Priority) : Outbox :=
  { outbox with queue := outbox.queue.accept packet priority }

/-- One sender more waits for room. -/
def withSender (outbox : Outbox) (sender : Sender) : Outbox :=
  { outbox with senders := outbox.senders ++ [sender] }

/-- From one state of an outbox to another one packet came into the queue, with
its priority. If a packet also went out, a reader was given it. -/
structure TakesIn (outbox : Outbox) (packet : Bytes) (priority : Priority)
    (finished : Finished) (after : Outbox) : Prop where
  accepted_eq : after.queue.accepted = outbox.queue.accepted + 1
  perm : ∃ taken : Option Queued,
    (taken.toList ++ after.queue.entries).Perm
      (⟨priority, outbox.queue.accepted, packet⟩ :: outbox.queue.entries) ∧
    ∀ entry, taken = some entry → ∃ reader, (reader, .packet (some entry.packet)) ∈ finished

variable {outbox : Outbox}

/-- A reader who waits is served at once. -/
theorem takesIn_serveReader (outbox : Outbox) (task : Nat) (packet : Bytes)
    (priority : Priority) :
    outbox.TakesIn packet priority
      (inOrder ((task, .accepted) :: (outbox.withPacket packet priority).serveReader.1))
      (outbox.withPacket packet priority).serveReader.2 := by
  have hplace := Queue.perm_place (outbox.queue.ticket packet priority) outbox.queue.entries
  obtain ⟨-, hserve⟩ | ⟨reader, readers, entry, rest, -, hentries, hserve⟩ :=
    (outbox.withPacket packet priority).serveReader_cases
  · rw [hserve]
    refine ⟨rfl, none, hplace, ?_⟩
    intro _ h
    cases h
  · rw [hserve]
    -- The entry that went out stands before the others that are there now.
    have hentries' : Queue.place (outbox.queue.ticket packet priority) outbox.queue.entries =
        entry :: rest := hentries
    rw [hentries'] at hplace
    refine ⟨rfl, some entry, hplace, ?_⟩
    rintro _ ⟨⟩
    exact ⟨reader, mem_inOrder.mpr (List.mem_cons_of_mem _ List.mem_cons_self)⟩

/-- All that may become of a packet that is sent: it is refused, it has to wait,
or it is in the queue before a reader gets his turn. -/
theorem send_cases (outbox : Outbox) (task : Nat) (packet : Bytes) (priority : Priority) :
    outbox.queue.isClosed = true ∧
      outbox.send task packet priority = ([(task, .failed .closed)], outbox) ∨
    ¬ outbox.HasRoom ∧
      outbox.send task packet priority = ([], outbox.withSender ⟨task, packet, priority⟩) ∨
    outbox.send task packet priority =
      (inOrder ((task, .accepted) :: (outbox.withPacket packet priority).serveReader.1),
        (outbox.withPacket packet priority).serveReader.2) := by
  unfold send
  obtain ⟨hclosed, hattempt⟩ | ⟨-, hfull, hattempt⟩ | ⟨-, -, hattempt⟩ :=
    outbox.queue.attempt_cases packet priority
  · exact .inl ⟨hclosed, by rw [hattempt]⟩
  · exact .inr (.inl ⟨fun hroom => Nat.not_lt.mpr hfull hroom.2, by rw [hattempt]; rfl⟩)
  · exact .inr (.inr (by rw [hattempt]; rfl))

theorem acknowledge_of_none (h : outbox.ackType = none) (task : Nat) (device : Option Int)
    (timestamp : Int) (priority : Priority) :
    outbox.acknowledge task device timestamp priority = ([(task, .accepted)], outbox.counted) := by
  unfold acknowledge
  split
  case h_1 => rfl
  case h_2 _ htype =>
    rw [h] at htype
    cases htype

theorem acknowledge_of_some {type : MessageType} (h : outbox.ackType = some type)
    {device : Option Int} {timestamp : Int} {packet : Bytes}
    (hpacket : acknowledgementPacket outbox.format type device timestamp = .ok packet)
    (task : Nat) (priority : Priority) :
    outbox.acknowledge task device timestamp priority =
      outbox.counted.send task packet priority := by
  unfold acknowledge
  split
  case h_1 htype =>
    rw [h] at htype
    cases htype
  case h_2 _ htype =>
    obtain rfl := Option.some.inj (h.symm.trans htype)
    rw [hpacket]
    rfl

/-! ### One acknowledgement -/

/-- An acknowledgement at a queue that takes packets. -/
structure Acknowledges (outbox : Outbox) (device : Option Int) (timestamp : Int)
    (priority : Priority) (finished : Finished) (after : Outbox) : Prop where
  of_none : outbox.ackType = none → after = outbox.counted
  /-- One packet that identifies the message is taken in. -/
  of_some : ∀ type, outbox.ackType = some type → ∃ packet,
    Identifies outbox.format type device timestamp packet ∧
    outbox.TakesIn packet priority finished after ∧
    (outbox.readers = [] → after = outbox.counted.withPacket packet priority)

@[simp]
theorem acknowledged_serveReader (outbox : Outbox) :
    outbox.serveReader.2.acknowledged = outbox.acknowledged := by
  obtain ⟨-, hserve⟩ | ⟨_, _, _, _, -, -, hserve⟩ := outbox.serveReader_cases <;> rw [hserve]

@[simp]
theorem acknowledged_send (outbox : Outbox) (task : Nat) (packet : Bytes) (priority : Priority) :
    (outbox.send task packet priority).2.acknowledged = outbox.acknowledged := by
  obtain ⟨-, hsend⟩ | ⟨-, hsend⟩ | hsend := outbox.send_cases task packet priority
  · rw [hsend]
  · rw [hsend]
    rfl
  · rw [hsend]
    exact acknowledged_serveReader _

/-- Every acknowledgement is counted, whatever becomes of its packet. -/
theorem acknowledged_acknowledge (outbox : Outbox) (task : Nat) (device : Option Int)
    (timestamp : Int) (priority : Priority) :
    (outbox.acknowledge task device timestamp priority).2.acknowledged =
      outbox.acknowledged + 1 := by
  cases htype : outbox.ackType with
  | none =>
    rw [acknowledge_of_none htype]
    rfl
  | some type =>
    obtain ⟨packet, hpacket⟩ := exists_acknowledgementPacket outbox.format type device timestamp
    rw [acknowledge_of_some htype hpacket, acknowledged_send]
    rfl

theorem acknowledges_of_room (hroom : outbox.HasRoom) (task : Nat) (device : Option Int)
    {timestamp : Int} (hrange : InInt64 timestamp) (priority : Priority) :
    (task, .accepted) ∈ (outbox.acknowledge task device timestamp priority).1 ∧
    outbox.Acknowledges device timestamp priority
      (outbox.acknowledge task device timestamp priority).1
      (outbox.acknowledge task device timestamp priority).2 := by
  cases htype : outbox.ackType with
  | none =>
    rw [acknowledge_of_none htype]
    refine ⟨List.mem_cons_self, fun _ => rfl, ?_⟩
    intro type h
    rw [htype] at h
    cases h
  | some type =>
    obtain ⟨packet, hpacket⟩ := exists_acknowledgementPacket outbox.format type device timestamp
    rw [acknowledge_of_some htype hpacket]
    have hroom' : outbox.counted.HasRoom := hroom
    obtain ⟨hclosed, -⟩ | ⟨hfull, -⟩ | hsend := outbox.counted.send_cases task packet priority
    -- With room the queue is neither closed nor full.
    · exact absurd (hclosed.symm.trans hroom.1) (by decide)
    · exact absurd hroom' hfull
    · rw [hsend]
      refine ⟨mem_inOrder.mpr List.mem_cons_self, ?_, ?_⟩
      · intro h
        rw [htype] at h
        cases h
      · intro _ h
        obtain rfl := Option.some.inj (htype.symm.trans h)
        have htakes := outbox.counted.takesIn_serveReader task packet priority
        refine ⟨packet, identifies_of_acknowledgementPacket_eq_ok hrange hpacket,
          ⟨htakes.accepted_eq, htakes.perm⟩, fun hreaders => ?_⟩
        have hreaders' : (outbox.counted.withPacket packet priority).readers = [] := hreaders
        rw [serveReader, hreaders']

/-! ### Any requests, with what they finish -/

/-- What becomes of a request, with the tasks it finished. -/
def respond (outbox : Outbox) (task : Nat) : Request → Finished × Outbox
  | .send packet priority => outbox.send task packet priority
  | .acknowledge device timestamp priority => outbox.acknowledge task device timestamp priority
  | .next => outbox.next task
  | .close => outbox.close
  | .cancel other => ([], outbox.cancel other)

theorem serve_eq_respond (outbox : Outbox) (task : Nat) (request : Request) :
    outbox.serve task request = (outbox.respond task request).2 := by
  cases request <;> rfl

/-- An outcome that a request of a task may bring about. A task that is not the
one who asks is accepted only when a reader makes room. -/
inductive MayFinish (task : Nat) (request : Request) : Nat × Outcome → Prop where
  | refused (other : Nat) : MayFinish task request (other, .failed .closed)
  | given (reader : Nat) (packet : Option Bytes) : MayFinish task request (reader, .packet packet)
  | own : MayFinish task request (task, .accepted)
  | room (other : Nat) (hrequest : request = .next) : MayFinish task request (other, .accepted)

variable {task : Nat} {request : Request}

/-- A transport has no other reason to fail than that it is closed. -/
theorem MayFinish.ne_io {entry : Nat × Outcome} (h : MayFinish task request entry)
    (text : String) : entry.2 ≠ .failed (.io text) := by
  cases h <;> simp

theorem mayFinish_serveReader (outbox : Outbox) :
    ∀ entry ∈ outbox.serveReader.1, MayFinish task request entry := by
  obtain ⟨-, hserve⟩ | ⟨reader, _, entry, _, -, -, hserve⟩ := outbox.serveReader_cases
  · rw [hserve]
    intro _ hmem
    cases hmem
  · rw [hserve]
    intro _ hmem
    rw [List.mem_singleton.mp hmem]
    exact .given reader (some entry.packet)

theorem mayFinish_send (outbox : Outbox) (packet : Bytes) (priority : Priority) :
    ∀ entry ∈ (outbox.send task packet priority).1, MayFinish task request entry := by
  obtain ⟨-, hsend⟩ | ⟨-, hsend⟩ | hsend := outbox.send_cases task packet priority
  · rw [hsend]
    intro _ hmem
    rw [List.mem_singleton.mp hmem]
    exact .refused task
  · rw [hsend]
    intro _ hmem
    cases hmem
  · rw [hsend]
    intro entry hmem
    cases List.mem_cons.mp (mem_inOrder.mp hmem) with
    | inl hown => exact hown ▸ .own
    | inr hserved => exact mayFinish_serveReader _ entry hserved

theorem mayFinish_acknowledge (outbox : Outbox) (device : Option Int) (timestamp : Int)
    (priority : Priority) :
    ∀ entry ∈ (outbox.acknowledge task device timestamp priority).1,
      MayFinish task request entry := by
  cases htype : outbox.ackType with
  | none =>
    rw [acknowledge_of_none htype]
    intro _ hmem
    rw [List.mem_singleton.mp hmem]
    exact .own
  | some type =>
    obtain ⟨packet, hpacket⟩ := exists_acknowledgementPacket outbox.format type device timestamp
    rw [acknowledge_of_some htype hpacket]
    exact mayFinish_send outbox.counted packet priority

/-- A reader makes room for at most one sender, the first who waits. -/
theorem next_cases (outbox : Outbox) (task : Nat) :
    (∀ entry ∈ (outbox.next task).1, ∃ packet, entry = (task, .packet packet)) ∧
      (outbox.next task).2.senders = outbox.senders ∨
    ∃ sender, outbox.senders = sender :: (outbox.next task).2.senders ∧
      (∀ entry ∈ (outbox.next task).1,
        entry = (sender.task, .accepted) ∨ ∃ packet, entry = (task, .packet packet)) ∧
      outbox.TakesIn sender.packet sender.priority (outbox.next task).1 (outbox.next task).2 := by
  unfold next Queue.pop
  cases hentries : outbox.queue.entries with
  | nil =>
    refine .inl ?_
    simp only
    split
    · exact ⟨fun entry hmem => ⟨none, List.mem_singleton.mp hmem⟩, rfl⟩
    · exact ⟨fun _ hmem => absurd hmem List.not_mem_nil, rfl⟩
  | cons first rest =>
    simp only
    obtain hserve | ⟨sender, senders, hsenders, -, -, hserve⟩ :=
      Outbox.serveSender_cases { outbox with queue := { outbox.queue with entries := rest } }
    · rw [hserve]
      refine .inl ⟨fun entry hmem => ⟨some first.packet, ?_⟩, rfl⟩
      exact List.mem_singleton.mp (mem_inOrder.mp hmem)
    · rw [hserve]
      have hplace := Queue.perm_place (outbox.queue.ticket sender.packet sender.priority) rest
      refine .inr ⟨sender, hsenders, fun entry hmem => ?_, rfl, some first, ?_, ?_⟩
      · cases List.mem_cons.mp (mem_inOrder.mp hmem) with
        | inl hown => exact .inr ⟨_, hown⟩
        | inr hserved => exact .inl (List.mem_singleton.mp hserved)
      -- The first packet went out, the sender's came in behind it.
      · rw [hentries]
        exact (hplace.cons first).trans (List.Perm.swap _ first rest)
      · rintro _ ⟨⟩
        exact ⟨task, mem_inOrder.mpr List.mem_cons_self⟩

theorem mayFinish_respond (outbox : Outbox) (task : Nat) (request : Request) :
    ∀ entry ∈ (outbox.respond task request).1, MayFinish task request entry := by
  intro entry hmem
  cases request with
  | send packet priority => exact mayFinish_send outbox packet priority entry hmem
  | acknowledge device timestamp priority =>
    exact mayFinish_acknowledge outbox device timestamp priority entry hmem
  | next =>
    obtain ⟨hgiven, -⟩ | ⟨sender, -, hfinished, -⟩ := outbox.next_cases task
    · obtain ⟨packet, rfl⟩ := hgiven entry hmem
      exact .given task packet
    · obtain rfl | ⟨packet, rfl⟩ := hfinished entry hmem
      · exact .room sender.task rfl
      · exact .given task packet
  | close =>
    obtain ⟨sender, -, rfl⟩ | ⟨reader, -, rfl⟩ := mem_close.mp hmem
    · exact .refused sender.task
    · exact .given reader none
  | cancel other => cases hmem

/-! ### Waiting for an outcome -/

/-- No sender waits under the number of a send but that send itself, and it only
once. -/
def Reserves (outbox : Outbox) (own : Sender) : Prop :=
  (outbox.senders.filter fun sender => sender.task == own.task).Sublist [own]

variable {own : Sender}

theorem Reserves.of_sublist (h : outbox.Reserves own) {after : Outbox}
    (hsenders : after.senders.Sublist outbox.senders) : after.Reserves own :=
  (hsenders.filter _).trans h

theorem Reserves.withSender (h : outbox.Reserves own) {sender : Sender}
    (hne : sender.task ≠ own.task) : (outbox.withSender sender).Reserves own := by
  have hother : (sender.task == own.task) = false := beq_eq_false_iff_ne.mpr hne
  show ((outbox.senders ++ [sender]).filter fun sender => sender.task == own.task).Sublist [own]
  rw [List.filter_append, List.filter_cons_of_neg (by rw [hother]; decide), List.filter_nil,
    List.append_nil]
  exact h

@[simp]
theorem senders_serveReader (outbox : Outbox) :
    outbox.serveReader.2.senders = outbox.senders := by
  obtain ⟨-, hserve⟩ | ⟨_, _, _, _, -, -, hserve⟩ := outbox.serveReader_cases <;> rw [hserve]

theorem Reserves.send (h : outbox.Reserves own) (hne : task ≠ own.task) (packet : Bytes)
    (priority : Priority) : (outbox.send task packet priority).2.Reserves own := by
  obtain ⟨-, hsend⟩ | ⟨-, hsend⟩ | hsend := outbox.send_cases task packet priority
  · rw [hsend]
    exact h
  · rw [hsend]
    exact h.withSender hne
  · rw [hsend]
    exact h.of_sublist (by rw [senders_serveReader]; exact List.Sublist.refl _)

/-- Whatever others ask for, the number stays reserved. -/
theorem Reserves.respond (h : outbox.Reserves own) (hne : task ≠ own.task) (request : Request) :
    (outbox.respond task request).2.Reserves own := by
  cases request with
  | send packet priority => exact h.send hne packet priority
  | acknowledge device timestamp priority =>
    have hcounted : outbox.counted.Reserves own := h
    show (outbox.acknowledge task device timestamp priority).2.Reserves own
    cases htype : outbox.ackType with
    | none =>
      rw [acknowledge_of_none htype]
      exact hcounted
    | some type =>
      obtain ⟨packet, hpacket⟩ :=
        exists_acknowledgementPacket outbox.format type device timestamp
      rw [acknowledge_of_some htype hpacket]
      exact hcounted.send hne packet priority
  | next =>
    obtain ⟨-, hsenders⟩ | ⟨sender, hsenders, -⟩ := outbox.next_cases task
    · exact h.of_sublist (hsenders ▸ List.Sublist.refl _)
    · exact h.of_sublist (hsenders ▸ List.sublist_cons_self _ _)
  | close => exact List.nil_sublist _
  | cancel other => exact h.of_sublist List.filter_sublist

/-- Between two states of an outbox a send that waited was accepted. -/
structure Admits (outbox : Outbox) (own : Sender) (finished : Finished) (after : Outbox) :
    Prop where
  mem : own ∈ outbox.senders
  takesIn : outbox.TakesIn own.packet own.priority finished after
  /-- It does not wait any longer. -/
  ne_task : ∀ sender ∈ after.senders, sender.task ≠ own.task

/-- A send that is accepted upon the request of another was the first to wait, and
the other makes room for it. -/
theorem Reserves.admits (h : outbox.Reserves own) (hne : task ≠ own.task)
    (haccepted : (own.task, .accepted) ∈ (outbox.respond task request).1) :
    request = .next ∧
      outbox.Admits own (outbox.respond task request).1 (outbox.respond task request).2 := by
  -- Nothing else makes room.
  have hrequest : request = .next := by
    cases mayFinish_respond outbox task request _ haccepted with
    | own => exact absurd rfl hne
    | room _ hrequest => exact hrequest
  subst hrequest
  refine ⟨rfl, ?_⟩
  obtain ⟨hgiven, -⟩ | ⟨sender, hsenders, hfinished, htakes⟩ := outbox.next_cases task
  · obtain ⟨packet, heq⟩ := hgiven _ haccepted
    cases heq
  · have htask : own.task = sender.task := by
      obtain heq | ⟨packet, heq⟩ := hfinished _ haccepted
      · exact congrArg Prod.fst heq
      · cases heq
    -- Of those with the number there is only one, which stands in front.
    have hfilter := h
    have hpos : (sender.task == own.task) = true := beq_iff_eq.mpr htask.symm
    rw [Reserves, hsenders, List.filter_cons, if_pos hpos] at hfilter
    have hsingle := (List.sublist_singleton.mp hfilter).resolve_left (List.cons_ne_nil _ _)
    obtain ⟨rfl, hnone⟩ := List.cons.inj hsingle
    refine ⟨hsenders ▸ List.mem_cons_self, htakes, fun other hmem => ?_⟩
    exact fun heq => List.filter_eq_nil_iff.mp hnone other hmem (beq_iff_eq.mpr heq)

/-- A task that asked for something waits for its outcome while others, numbered
from `first`, ask for this and that. In the end it gives up. -/
def await (task first : Nat) : Finished × Outbox → List Request → Option Outcome × Outbox
  | (finished, outbox), [] =>
    match finished.lookup task with
    | some outcome => (some outcome, outbox)
    | none => (none, outbox.cancel task)
  | (finished, outbox), request :: rest =>
    match finished.lookup task with
    | some outcome => (some outcome, outbox)
    | none => await task (first + 1) (outbox.respond first request) rest

theorem await_of_lookup {first : Nat} {finished : Finished} {outcome : Outcome}
    (h : finished.lookup task = some outcome) (outbox : Outbox) (others : List Request) :
    await task first (finished, outbox) others = (some outcome, outbox) := by
  cases others <;> rw [await, h]

theorem mem_of_lookup {finished : Finished} {outcome : Outcome}
    (h : finished.lookup task = some outcome) : (task, outcome) ∈ finished := by
  obtain ⟨before, after, rfl, -⟩ := List.lookup_eq_some_iff.mp h
  exact List.mem_append_right _ List.mem_cons_self

/-- A send that had no outcome at first, and was accepted in the end, was admitted
at one of the requests of the others. -/
theorem await_eq_accepted {first : Nat} {finished : Finished} {others : List Request}
    {after : Outbox} (hown : outbox.Reserves own) (hfirst : own.task < first)
    (hnone : finished.lookup own.task = none)
    (h : await own.task first (finished, outbox) others = (some .accepted, after)) :
    ∃ earlier later finished', others = earlier ++ Request.next :: later ∧
      (outbox.serveAll first earlier).Admits own finished' after := by
  -- Induction over what the others ask for: up to the request at which the send is
  -- admitted it has no outcome, and from then on nothing more is asked.
  induction others generalizing first finished outbox with
  | nil =>
    rw [await, hnone] at h
    cases h
  | cons request rest ih =>
    have hne : first ≠ own.task := Nat.ne_of_gt hfirst
    rw [await, hnone] at h
    cases hlookup : (outbox.respond first request).1.lookup own.task with
    | none =>
      obtain ⟨earlier, later, finished', rfl, hadmits⟩ :=
        ih (hown.respond hne request) (Nat.lt_succ_of_lt hfirst) hlookup h
      rw [← serve_eq_respond] at hadmits
      exact ⟨request :: earlier, later, finished', rfl, hadmits⟩
    | some outcome =>
      have hend := (await_of_lookup hlookup (outbox.respond first request).2 rest).symm.trans h
      obtain ⟨houtcome, rfl⟩ := Prod.mk.inj hend
      obtain rfl := Option.some.inj houtcome
      obtain ⟨rfl, hadmits⟩ := hown.admits hne (mem_of_lookup hlookup)
      exact ⟨[], rest, _, rfl, hadmits⟩

/-! ### Acknowledgements that may have to wait -/

/-- A number that no one has who waits. -/
def newTask (outbox : Outbox) : Nat := (outbox.senders.map Sender.task).sum + outbox.readers.sum + 1

theorem task_lt_newTask {sender : Sender} (hmem : sender ∈ outbox.senders) :
    sender.task < outbox.newTask := by
  have hle := List.le_sum_of_mem (List.mem_map_of_mem (f := Sender.task) hmem)
  unfold newTask
  omega

/-- An acknowledgement is asked for, and its outcome waited for while others ask
for this and that. -/
def acknowledgeAmong (outbox : Outbox) (others : List Request) (device : Option Int)
    (timestamp : Int) (priority : Priority) : Option Outcome × Outbox :=
  await outbox.newTask (outbox.newTask + 1)
    (outbox.acknowledge outbox.newTask device timestamp priority) others

/-- The packet of a new task came into the queue once: at once, or when a reader
made room. -/
inductive Admitted (outbox : Outbox) (others : List Request) (packet : Bytes)
    (priority : Priority) (after : Outbox) : Prop where
  | at_once {finished : Finished} (htakes : outbox.TakesIn packet priority finished after)
    (hsenders : after.senders = outbox.senders)
  | later {earlier later : List Request} {finished : Finished}
    (hothers : others = earlier ++ .next :: later)
    (hadmits : ((outbox.withSender ⟨outbox.newTask, packet, priority⟩).serveAll
      (outbox.newTask + 1) earlier).Admits ⟨outbox.newTask, packet, priority⟩ finished after)

/-- An acknowledgement that was waited for. -/
structure AcknowledgesAmong (outbox : Outbox) (others : List Request) (device : Option Int)
    (timestamp : Int) (priority : Priority) (after : Outbox) : Prop where
  of_none : outbox.ackType = none → after = outbox.counted
  of_some : ∀ type, outbox.ackType = some type → ∃ packet,
    Identifies outbox.format type device timestamp packet ∧
    outbox.counted.Admitted others packet priority after

theorem reserves_withSender (outbox : Outbox) (packet : Bytes) (priority : Priority) :
    (outbox.withSender ⟨outbox.newTask, packet, priority⟩).Reserves
      ⟨outbox.newTask, packet, priority⟩ := by
  have hnone : outbox.senders.filter (fun sender => sender.task == outbox.newTask) = [] := by
    refine List.filter_eq_nil_iff.mpr fun sender hmem heq => ?_
    exact absurd (beq_iff_eq.mp heq) (Nat.ne_of_lt (task_lt_newTask hmem))
  show (List.filter (fun sender => sender.task == outbox.newTask)
    (outbox.senders ++ [⟨outbox.newTask, packet, priority⟩])).Sublist _
  rw [List.filter_append, hnone]
  exact List.filter_sublist

theorem acknowledgesAmong_of_accepted {others : List Request} {device : Option Int}
    {timestamp : Int} (hrange : InInt64 timestamp) {priority : Priority} {after : Outbox}
    (h : outbox.acknowledgeAmong others device timestamp priority = (some .accepted, after)) :
    outbox.AcknowledgesAmong others device timestamp priority after := by
  unfold acknowledgeAmong at h
  cases htype : outbox.ackType with
  | none =>
    rw [acknowledge_of_none htype, await_of_lookup List.lookup_cons_self] at h
    refine ⟨fun _ => (congrArg Prod.snd h).symm, ?_⟩
    intro type h
    rw [htype] at h
    cases h
  | some type =>
    obtain ⟨packet, hpacket⟩ := exists_acknowledgementPacket outbox.format type device timestamp
    have hidentifies := identifies_of_acknowledgementPacket_eq_ok hrange hpacket
    rw [acknowledge_of_some htype hpacket] at h
    -- The packet is the same whether or not its sender has to wait.
    refine ⟨fun h => ?_, fun type' h' => ⟨packet, ?_, ?_⟩⟩
    · rw [htype] at h
      cases h
    · exact Option.some.inj (htype.symm.trans h') ▸ hidentifies
    · obtain ⟨-, hsend⟩ | ⟨-, hsend⟩ | hsend :=
        outbox.counted.send_cases outbox.newTask packet priority
      -- The queue is closed: this is not an outcome of one who is accepted.
      · rw [hsend, await_of_lookup List.lookup_cons_self] at h
        cases h
      -- The queue is full: the sender waits behind those who came before.
      · rw [hsend] at h
        obtain ⟨earlier, later, finished, hothers, hadmits⟩ := await_eq_accepted
          (outbox.counted.reserves_withSender packet priority) (Nat.lt_succ_self _) rfl h
        exact .later hothers hadmits
      -- There is room: the sender has its outcome at once.
      · rw [hsend] at h
        have htakes := outbox.counted.takesIn_serveReader outbox.newTask packet priority
        cases hlookup : (inOrder ((outbox.newTask, .accepted) ::
            (outbox.counted.withPacket packet priority).serveReader.1)).lookup outbox.newTask with
        | none =>
          have hne := List.lookup_eq_none_iff.mp hlookup _ (mem_inOrder.mpr List.mem_cons_self)
          simp at hne
        | some outcome =>
          rw [await_of_lookup hlookup] at h
          obtain rfl := congrArg Prod.snd h
          exact .at_once htakes (senders_serveReader _)

end Outbox

end Link

namespace Bus

/-! ### Through a bus -/

variable {ι σ : Type} {bus : Bus} {environment : Environment ι σ}

theorem Reply.within_eq_ok {reply : Reply Unit} {limit : Nat} (h : reply.within limit = .ok ()) :
    ∃ delay, reply = .after delay (.ok ()) := by
  cases reply with
  | never => cases h
  | after delay result =>
    rw [Reply.within] at h
    split at h
    · exact ⟨delay, by rw [h]⟩
    · cases h

/-- An acknowledgement succeeds when the transport says so in time. -/
theorem acknowledge_eq_ok {device : Option Int} {timestamp : Int} {priority : Priority}
    {world after : World ι σ}
    (h : bus.acknowledge environment device timestamp priority world = (.ok true, after)) :
    ∃ delay, environment.acknowledge device timestamp priority world.rest =
      (.after delay (.ok ()), after.rest) := by
  obtain ⟨hreply, rfl⟩ := Prod.mk.inj h
  cases hwithin : (environment.acknowledge device timestamp priority world.rest).1.within
      bus.sendTimeout with
  | error error =>
    rw [hwithin] at hreply
    cases hreply
  | ok =>
    obtain ⟨delay, hdelay⟩ := Reply.within_eq_ok hwithin
    exact ⟨delay, Prod.ext hdelay rfl⟩

/-- A message that is reported as acknowledged was handed to the transport, which
accepted it, after the last listener had it. -/
theorem dispatch_eq_acknowledged {type : MessageType} {device : Option Int} {timestamp : Int}
    {frame : Frame} {priority : Priority} {world after : World ι σ}
    (h : bus.dispatch environment type device timestamp frame priority world = (.ok true, after)) :
    ∃ record left delay,
      left = (deliver environment ⟨type, device, timestamp, frame.buffer, record⟩
        (world.listeners.list type) world).2 ∧
      environment.acknowledge device timestamp priority left.rest =
        (.after delay (.ok ()), after.rest) := by
  unfold dispatch at h
  cases hlookup : bus.registry.lookup type with
  | error error =>
    rw [hlookup] at h
    cases h
  | ok schema =>
    rw [hlookup] at h
    cases hdecode : schema.decode frame timestamp device with
    | error error =>
      simp only [hdecode] at h
      cases h
    | ok record =>
      simp only [hdecode, distribute] at h
      cases hlist : world.listeners.list type with
      | nil =>
        simp only [hlist] at h
        cases h
      | cons first rest =>
        simp only [hlist] at h
        split at h
        case isFalse => cases h
        case isTrue =>
          -- All of them handled it, so the transport decides.
          obtain ⟨delay, hacknowledge⟩ := acknowledge_eq_ok h
          exact ⟨record, _, delay, rfl, hacknowledge⟩

end Bus

namespace Link

/-- What a bus hears of an acknowledgement that it waited for. -/
def reply : Option Outcome → Bus.Reply Unit
  | some .accepted => .now (.ok ())
  | some (.failed error) => .now (.error error)
  | _ => .never

theorem reply_eq_ok {outcome : Option Outcome} {delay : Nat}
    (h : reply outcome = .after delay (.ok ())) : outcome = some .accepted := by
  match outcome, h with
  | some .accepted, _ => rfl

variable {ι τ : Type}

/-- Listeners do what they do, and messages are acknowledged through the outbox.
While that takes its time others ask for this and that. -/
def acknowledging (environment : Bus.Environment ι (Outbox × τ))
    (others : τ → List Outbox.Request) : Bus.Environment ι (Outbox × τ) :=
  { environment with
    acknowledge := fun device timestamp priority state =>
      let (outcome, outbox) :=
        state.1.acknowledgeAmong (others state.2) device timestamp priority
      (reply outcome, outbox, state.2) }

/-- Listeners do not notice how messages are acknowledged. -/
theorem deliver_acknowledging (environment : Bus.Environment ι (Outbox × τ))
    (others : τ → List Outbox.Request) (delivery : Bus.Delivery) (listeners : List ι)
    (world : Bus.World ι (Outbox × τ)) :
    Bus.deliver (acknowledging environment others) delivery listeners world =
      Bus.deliver environment delivery listeners world := by
  induction listeners generalizing world with
  | nil => rfl
  | cons first rest ih =>
    have hfirst : (acknowledging environment others).react first delivery world =
        environment.react first delivery world := rfl
    rw [Bus.deliver, Bus.deliver, hfirst]
    simp only [ih]

/-- What a bus reports as acknowledged was acknowledged once, for the device and the
time of the message. -/
theorem dispatch_acknowledging {bus : Bus} {environment : Bus.Environment ι (Outbox × τ)}
    {others : τ → List Outbox.Request} {type : MessageType} {device : Option Int}
    {timestamp : Int} (hrange : InInt64 timestamp) {frame : Frame} {priority : Priority}
    {world after : Bus.World ι (Outbox × τ)}
    (h : bus.dispatch (acknowledging environment others) type device timestamp frame priority
      world = (.ok true, after)) :
    ∃ record left,
      left = (Bus.deliver environment ⟨type, device, timestamp, frame.buffer, record⟩
        (world.listeners.list type) world).2 ∧
      left.rest.1.AcknowledgesAmong (others left.rest.2) device timestamp priority
        after.rest.1 := by
  obtain ⟨record, left, delay, hleft, hacknowledge⟩ := Bus.dispatch_eq_acknowledged h
  rw [deliver_acknowledging] at hleft
  refine ⟨record, left, hleft, Outbox.acknowledgesAmong_of_accepted hrange ?_⟩
  obtain ⟨hreply, hafter⟩ := Prod.mk.inj hacknowledge
  exact Prod.ext (reply_eq_ok hreply) (congrArg Prod.fst hafter)

/-- Acknowledgements identify the message. Every one is counted, and none fails but
at a closed queue. Where there is room one packet that identifies the message is
taken in, if acknowledgements have a type. Packets for different times differ. And
what a bus reports as acknowledged led to one such packet, for the device and the
time of the message that was dispatched. -/
theorem acknowledge_identifies (outbox : Outbox) (task : Nat) (device : Option Int)
    {timestamp : Int} (hrange : InInt64 timestamp) (priority : Priority) :
    (outbox.acknowledge task device timestamp priority).2.acknowledged =
      outbox.acknowledged + 1 ∧
    (∀ request, ∀ entry ∈ (outbox.respond task request).1, ∀ text,
      entry.2 ≠ .failed (.io text)) ∧
    (outbox.HasRoom →
      (task, .accepted) ∈ (outbox.acknowledge task device timestamp priority).1 ∧
      outbox.Acknowledges device timestamp priority
        (outbox.acknowledge task device timestamp priority).1
        (outbox.acknowledge task device timestamp priority).2) ∧
    (∀ format type device' timestamp', InInt64 timestamp' →
      acknowledgementPacket format type device timestamp =
        acknowledgementPacket format type device' timestamp' → timestamp = timestamp') ∧
    ∀ (bus : Bus) (environment : Bus.Environment ι (Outbox × τ))
      (others : τ → List Outbox.Request) (type : MessageType) (frame : Frame)
      (world after : Bus.World ι (Outbox × τ)),
      bus.dispatch (acknowledging environment others) type device timestamp frame priority
        world = (.ok true, after) →
      ∃ record left,
        left = (Bus.deliver environment ⟨type, device, timestamp, frame.buffer, record⟩
          (world.listeners.list type) world).2 ∧
        left.rest.1.AcknowledgesAmong (others left.rest.2) device timestamp priority
          after.rest.1 := by
  refine ⟨outbox.acknowledged_acknowledge task device timestamp priority, ?_, ?_, ?_, ?_⟩
  · intro request entry hmem
    exact (outbox.mayFinish_respond task request entry hmem).ne_io
  · intro hroom
    exact Outbox.acknowledges_of_room hroom task device hrange priority
  · -- A timestamp can be taken from its packet.
    intro format type device' timestamp' hrange' heq
    obtain ⟨packet, hpacket⟩ := exists_acknowledgementPacket format type device timestamp
    have hidentifies := identifies_of_acknowledgementPacket_eq_ok hrange hpacket
    exact hidentifies.timestamp_eq
      (identifies_of_acknowledgementPacket_eq_ok hrange' (heq ▸ hpacket))
  · intro bus environment others type frame world after h
    exact dispatch_acknowledging hrange h

/-- The packet that acknowledges a message from before the epoch, of a device that
has no address. -/
def unaddressedPacket : Bytes :=
  [0, 0xFF, 0xFF, 0x51, 8, 0xFF, 0xFF, 0xFF, 0xFF, 0xFF, 0xFF, 0xFF, 0xFE]

/-- An outbox with room for another packet, and as it is when that was taken in. -/
def idle : Outbox where
  ackType := some 0x51
  queue := .ofCapacity 4

/-- An outbox that is full. -/
def busy : Outbox where
  ackType := some 0x51
  queue := { capacity := 1, entries := [⟨7, 0, [0xAA]⟩], accepted := 1 }

/-- It has taken in the packet behind the one that a reader got. -/
def relieved : Outbox where
  ackType := some 0x51
  queue := { capacity := 1, entries := [⟨10, 1, unaddressedPacket⟩], accepted := 2 }
  acknowledged := 1

theorem acknowledgeAmong_busy :
    busy.acknowledgeAmong [.next] (some 70000) (-2) 10 = (some .accepted, relieved) := by
  have hwait : busy.acknowledge 1 (some 70000) (-2) 10 =
      ([], busy.counted.withSender ⟨1, unaddressedPacket, 10⟩) := by decide
  have hnext : (busy.counted.withSender ⟨1, unaddressedPacket, 10⟩).next 2 =
      ([(1, .accepted), (2, .packet (some [0xAA]))], relieved) := by
    refine Prod.ext ?_ (by decide)
    show Outbox.inOrder [(2, .packet (some [0xAA])), (1, .accepted)] = _
    simp [Outbox.inOrder, List.mergeSort, List.MergeSort.Internal.splitInTwo]
  show Outbox.await 1 2 (busy.acknowledge 1 (some 70000) (-2) 10) [.next] = _
  rw [hwait, Outbox.await, List.lookup_nil]
  show Outbox.await 1 3 ((busy.counted.withSender ⟨1, unaddressedPacket, 10⟩).next 2) [] = _
  rw [hnext]
  rfl

/-- A bus that knows one message, which has no fields. -/
def heartbeats : Bus where
  registry := Registry.empty.insert
    { type := 0x21, name := "heartbeat", fields := [], size := 0, format := .current
      accepted := by decide +kernel }

/-- Someone listens and handles everything. -/
def watching : Bus.Environment Unit (Outbox × Unit) where
  react _ _ world := (.handled, world)
  send _ _ state := (.never, state)
  acknowledge _ _ _ state := (.never, state)

def watched : Bus.World Unit (Outbox × Unit) where
  listeners := Bus.Listeners.empty.update 0x21 [()] (List.nodup_singleton _)
  rest := (busy, ())

theorem dispatch_watched :
    heartbeats.dispatch (acknowledging watching fun _ => [.next]) 0x21 (some 70000) (-2)
      (Frame.ofBytes []) 10 watched = (.ok true, { watched with rest := (relieved, ()) }) := by
  have hacknowledge : (acknowledging watching fun _ => [.next]).acknowledge (some 70000) (-2) 10
      (busy, ()) = (.now (.ok ()), relieved, ()) := by
    show (reply (busy.acknowledgeAmong [.next] (some 70000) (-2) 10).1,
      (busy.acknowledgeAmong [.next] (some 70000) (-2) 10).2, ()) = _
    rw [acknowledgeAmong_busy]
    rfl
  show heartbeats.acknowledge (acknowledging watching fun _ => [.next]) (some 70000) (-2) 10
    watched = _
  rw [Bus.acknowledge, watched, hacknowledge]
  rfl

/-- The packet is taken in when a reader makes room, and where there is room at
once. -/
theorem acknowledge_identifies_unaddressed :
    InInt64 (-2) ∧ idle.HasRoom ∧
    idle.Acknowledges (some 70000) (-2) 10 (idle.acknowledge 0 (some 70000) (-2) 10).1
      (idle.acknowledge 0 (some 70000) (-2) 10).2 ∧
    (idle.acknowledge 0 (some 70000) (-2) 10).2.queue.entries = [⟨10, 0, unaddressedPacket⟩] ∧
    ∃ record left,
      left = (Bus.deliver watching ⟨0x21, some 70000, -2, [], record⟩ [()] watched).2 ∧
      left.rest.1.AcknowledgesAmong [.next] (some 70000) (-2) 10 relieved := by
  have hrange : InInt64 (-2) := by decide
  have hroom : idle.HasRoom := ⟨rfl, by decide⟩
  obtain ⟨-, -, hacknowledges, -, hdispatch⟩ :=
    @acknowledge_identifies Unit Unit idle 0 (some 70000) (-2) hrange 10
  obtain ⟨record, left, hleft, hamong⟩ := hdispatch heartbeats watching (fun _ => [.next]) 0x21
    (Frame.ofBytes []) watched _ dispatch_watched
  exact ⟨hrange, hroom, (hacknowledges hroom).2, by decide, record, left, hleft, hamong⟩

end Link

end SensorGateway
