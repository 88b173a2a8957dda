import Mathlib.Data.List.Perm.Basic
import SensorGateway.Forwarder.Stream
import SensorGateway.Proofs.Link.Traffic
import SensorGateway.Proofs.Outcome

/-!
# `SensorGateway.Proofs.Link.Connections`: at most one packet a connection

A link has one connection after the other, each with a writer of its own. A
writer takes a packet from the queue, writes it, and takes the next one. Taking
and writing are two steps. Before, between and after them others send packets
and give up, someone closes the queue, the stream breaks, or the writer is told
to stop, which it hears only while it has no packet in hand. Nothing is said
about the order of all this. Only the next connection has to wait until the
writer of the one before is over.

* `Writer.Sound`: what a writer took, it wrote in that order, but for the last
  packet, which may still be in hand or have been lost by a write that failed.
* `Moves`: what an act takes out of the queue is what its writer took. It is so
  of every act (`moves_act`).
* `Outgoing.Sound`: both of these for all connections together, after any steps
  (`Sound.run`). `Keeps` says that a packet leaves the queue only for a writer
  that takes it.
* `carried_once`: over all connections every accepted packet was written once,
  was lost with its connection, is in hand, or waits.
-/

set_option autoImplicit false

namespace SensorGateway.Link

open Forwarder (Stream StreamError encodePacket greeting)

/-! ### Writers -/

/-- What a writer is at. -/
inductive Phase where
  /-- It waits for a packet, and for word that it is to stop. -/
  | waiting
  /-- It took a packet, which is still to be written. -/
  | writing (entry : Queued)
  | ended
  deriving Repr, DecidableEq

/-- The packet in hand. -/
def Phase.hand : Phase → List Queued
  | .writing entry => [entry]
  | .waiting | .ended => []

/-- The writer of a connection, and what it did so far. -/
structure Writer where
  stream : Stream
  phase : Phase := .waiting
  /-- It is to stop. -/
  isTold : Bool := false
  /-- The packets that it took from the queue, first one first. -/
  taken : List Queued := []
  /-- Those whose write succeeded, in the order of the writes. -/
  written : List Queued := []
  /-- Those whose write failed, each with what was wrong. -/
  lost : List (Queued × StreamError) := []
  deriving Repr, DecidableEq

namespace Writer

/-- The writer of a new connection, on which nothing but the greeting was
written. -/
def connected : Writer := { stream := { written := greeting } }

/-- The stream takes nothing more. -/
def breakOff (writer : Writer) : Writer :=
  { writer with stream := { writer.stream with writable := false } }

/-- The connection is to end. -/
def tell (writer : Writer) : Writer := { writer with isTold := true }

/-- Hears that it is to stop. -/
def stop (writer : Writer) : Writer :=
  if writer.phase = .waiting ∧ writer.isTold = true then { writer with phase := .ended }
  else writer

/-- Asks the queue for the next packet. It is over if none will follow. -/
def take (writer : Writer) (traffic : Traffic) : Writer × Traffic :=
  match writer.phase with
  | .writing _ | .ended => (writer, traffic)
  | .waiting =>
    match traffic.queue.pop with
    | (some entry, _) =>
      ({ writer with phase := .writing entry, taken := writer.taken ++ [entry] }, traffic.next)
    | (none, queue) =>
      (if queue.isClosed then { writer with phase := .ended } else writer, traffic.next)

/-- Writes the packet in hand to its stream. It is over if that fails. -/
def write (writer : Writer) : Writer :=
  match writer.phase with
  | .waiting | .ended => writer
  | .writing entry =>
    match writer.stream.writePacket entry.packet with
    | (.ok (), stream) =>
      { writer with stream, phase := .waiting, written := writer.written ++ [entry] }
    | (.error error, stream) =>
      { writer with stream, phase := .ended, lost := writer.lost ++ [(entry, error)] }

end Writer

/-- What may happen to a writer. -/
inductive Act where
  | breakOff
  | tell
  | stop
  | take
  | write
  deriving Repr, DecidableEq

/-- Carries out what happens to a writer and, through it, to the queue. -/
def Writer.act (writer : Writer) (traffic : Traffic) : Act → Writer × Traffic
  | .breakOff => (writer.breakOff, traffic)
  | .tell => (writer.tell, traffic)
  | .stop => (writer.stop, traffic)
  | .take => writer.take traffic
  | .write => (writer.write, traffic)

/-! ### Links -/

/-- What those do who send. -/
inductive Use where
  | come (sender : Sender)
  | attempt (task : Nat)
  | abandon (task : Nat)
  | close
  deriving Repr, DecidableEq

/-- The turn at the queue that this is. -/
def Use.turn : Use → Turn
  | .come sender => .come sender
  | .attempt task => .attempt task
  | .abandon task => .abandon task
  | .close => .close

/-- The queue of a link, and the writers of all its connections. -/
structure Outgoing where
  traffic : Traffic
  /-- Latest one first. -/
  writers : List Writer := []
  deriving Repr, DecidableEq

/-- One step of anyone. -/
inductive Step where
  | use (use : Use)
  /-- A connection comes up. -/
  | connect
  /-- Something happens to the latest writer. -/
  | act (act : Act)
  deriving Repr, DecidableEq

namespace Outgoing

/-- A link that had no connection yet. -/
def opened (capacity : Nat) : Outgoing := { traffic := .opened capacity }

/-- No writer is at work. -/
def IsIdle (outgoing : Outgoing) : Prop := ∀ writer ∈ outgoing.writers, writer.phase = .ended

instance (outgoing : Outgoing) : Decidable outgoing.IsIdle :=
  inferInstanceAs (Decidable (∀ writer ∈ outgoing.writers, writer.phase = .ended))

/-- The next connection comes up, once the writer of the last one is over. -/
def connect (outgoing : Outgoing) : Outgoing :=
  if outgoing.IsIdle then { outgoing with writers := .connected :: outgoing.writers }
  else outgoing

/-- Something happens to the latest writer, unless it is over. -/
def act (outgoing : Outgoing) (act : Act) : Outgoing :=
  match outgoing.writers with
  | [] => outgoing
  | writer :: earlier =>
    if writer.phase = .ended then outgoing
    else
      { traffic := (writer.act outgoing.traffic act).2
        writers := (writer.act outgoing.traffic act).1 :: earlier }

/-- Handles a step. -/
def handle (outgoing : Outgoing) : Step → Outgoing
  | .use use => { outgoing with traffic := outgoing.traffic.handle use.turn }
  | .connect => outgoing.connect
  | .act act => outgoing.act act

/-- Handles steps one after the other. -/
def run (outgoing : Outgoing) (steps : List Step) : Outgoing := steps.foldl handle outgoing

@[simp] theorem run_nil (outgoing : Outgoing) : outgoing.run [] = outgoing := rfl

@[simp] theorem run_cons (outgoing : Outgoing) (step : Step) (rest : List Step) :
    outgoing.run (step :: rest) = (outgoing.handle step).run rest := rfl

theorem run_append (outgoing : Outgoing) (first rest : List Step) :
    outgoing.run (first ++ rest) = (outgoing.run first).run rest := List.foldl_append

/-- Something of every connection, first connection first. -/
def collect {α : Type} (part : Writer → List α) (writers : List Writer) : List α :=
  writers.reverse.flatMap part

theorem collect_cons {α : Type} (part : Writer → List α) (writer : Writer)
    (earlier : List Writer) :
    collect part (writer :: earlier) = collect part earlier ++ part writer := by
  rw [collect, List.reverse_cons, List.flatMap_append, List.flatMap_singleton, collect]

/-- The packets that the writers took. -/
def taken (outgoing : Outgoing) : List Queued := collect Writer.taken outgoing.writers

end Outgoing

/-! ### What holds of a writer -/

/-- A stream takes the frame of a packet, or fails and stays as it was. -/
theorem writePacket_cases (stream : Stream) (packet : Bytes) :
    (∃ frame, encodePacket packet = .ok frame ∧
      stream.writePacket packet = (.ok (), { stream with written := stream.written ++ frame })) ∨
    ∃ error, stream.writePacket packet = (.error error, stream) := by
  unfold Stream.writePacket Stream.write
  cases encodePacket packet with
  | error error => exact .inr ⟨_, rfl⟩
  | ok frame =>
    by_cases hwritable : stream.writable = true
    · exact .inl ⟨frame, rfl, if_pos hwritable⟩
    · exact .inr ⟨_, if_neg hwritable⟩

namespace Writer

/-- What always holds of a writer. -/
structure Sound (writer : Writer) : Prop where
  /-- What it took it wrote, in that order. Only behind that may be a packet
  that was lost, or one in hand. -/
  taken_eq : writer.taken = writer.written ++ writer.lost.map Prod.fst ++ writer.phase.hand
  lost_length_le : writer.lost.length ≤ 1
  /-- With a packet the connection is lost. -/
  lost_eq_nil : writer.phase ≠ .ended → writer.lost = []
  /-- A packet is lost by its own write, which fails with that error. -/
  lost_fails : ∀ loss ∈ writer.lost,
    writer.stream.writePacket loss.1.packet = (.error loss.2, writer.stream)
  /-- On the stream are the frames of what was written, each once. -/
  frames : ∃ frames, (writer.written.map Queued.packet).mapM encodePacket = .ok frames ∧
    writer.stream.written = greeting ++ frames.flatten

theorem sound_connected : connected.Sound where
  taken_eq := rfl
  lost_length_le := Nat.zero_le 1
  lost_eq_nil _ := rfl
  lost_fails loss hmem := by cases hmem
  frames := ⟨[], rfl, rfl⟩

variable {capacity : Nat} {writer : Writer} {traffic : Traffic}

/-- What becomes of a writer that waits and asks for a packet: it gets the
first one, or is told that none will follow, or goes on waiting. -/
theorem take_cases (hwaiting : writer.phase = .waiting) (traffic : Traffic) :
    (∃ entry rest, traffic.queue.entries = entry :: rest ∧ writer.take traffic =
      ({ writer with phase := .writing entry, taken := writer.taken ++ [entry] }, traffic.take)) ∨
    traffic.queue.entries = [] ∧ traffic.queue.isClosed = true ∧
      writer.take traffic = ({ writer with phase := .ended }, traffic.next) ∨
    traffic.queue.entries = [] ∧ traffic.queue.isClosed = false ∧
      writer.take traffic = (writer, traffic) := by
  unfold take
  rw [hwaiting, Queue.pop]
  cases hentries : traffic.queue.entries with
  | cons entry rest =>
    rw [← Traffic.next_of_cons hentries]
    exact .inl ⟨entry, rest, rfl, rfl⟩
  | nil =>
    by_cases hclosed : traffic.queue.isClosed = true
    · exact .inr (.inl ⟨rfl, hclosed, by simp only [if_pos hclosed]⟩)
    · have hnext := Traffic.next_of_nil hentries
      rw [if_neg hclosed] at hnext
      exact .inr (.inr ⟨rfl, Bool.eq_false_iff.mpr hclosed, by simp only [if_neg hclosed, hnext]⟩)

/-- The packets that an act moves from the queue to the writer: they were the
first ones, and came out in the order in which they stood. -/
def Moves (writer : Writer) (traffic : Traffic) (after : Writer × Traffic) : Prop :=
  ∃ moved, after.1.taken = writer.taken ++ moved ∧ after.2.popped = traffic.popped ++ moved ∧
    traffic.queue.entries = moved ++ after.2.queue.entries

/-- An act that leaves the queue alone, and what was taken, moves nothing. -/
theorem moves_of_taken_eq {after : Writer} (htaken : after.taken = writer.taken) :
    writer.Moves traffic (after, traffic) :=
  ⟨[], by rw [htaken, List.append_nil], (List.append_nil _).symm, rfl⟩

theorem moves_take (writer : Writer) (traffic : Traffic) :
    writer.Moves traffic (writer.take traffic) := by
  cases hphase : writer.phase with
  | writing entry =>
    rw [take, hphase]
    exact moves_of_taken_eq rfl
  | ended =>
    rw [take, hphase]
    exact moves_of_taken_eq rfl
  | waiting =>
    obtain ⟨entry, rest, hentries, htake⟩ | ⟨hentries, hclosed, htake⟩ | ⟨-, -, htake⟩ :=
      take_cases hphase traffic
    · rw [htake, Traffic.take_of_cons hentries]
      exact ⟨[entry], rfl, by simp [Traffic.popped], hentries⟩
    · -- Word that no packet will follow is given, but no packet.
      rw [htake, Traffic.next_of_nil hentries, if_pos hclosed]
      exact ⟨[], (List.append_nil _).symm, by simp [Traffic.popped], rfl⟩
    · rw [htake]
      exact moves_of_taken_eq rfl

theorem taken_stop (writer : Writer) : writer.stop.taken = writer.taken := by
  unfold stop
  split <;> rfl

theorem taken_write (writer : Writer) : writer.write.taken = writer.taken := by
  unfold write
  split
  · rfl
  · rfl
  · split <;> rfl

theorem moves_act (writer : Writer) (traffic : Traffic) (act : Act) :
    writer.Moves traffic (writer.act traffic act) := by
  cases act with
  | breakOff => exact moves_of_taken_eq rfl
  | tell => exact moves_of_taken_eq rfl
  | stop => exact moves_of_taken_eq writer.taken_stop
  | take => exact moves_take writer traffic
  | write => exact moves_of_taken_eq writer.taken_write

theorem Sound.stop (h : writer.Sound) : writer.stop.Sound := by
  unfold Writer.stop
  split
  case isFalse => exact h
  case isTrue hstop =>
    -- A writer that waits has nothing in hand, before and after.
    have htaken := h.taken_eq
    rw [hstop.1] at htaken
    exact { h with
      taken_eq := htaken
      lost_eq_nil := fun hended => absurd rfl hended }

theorem Sound.take (h : writer.Sound) (traffic : Traffic) : (writer.take traffic).1.Sound := by
  cases hphase : writer.phase with
  | writing entry =>
    rw [Writer.take, hphase]
    exact h
  | ended =>
    rw [Writer.take, hphase]
    exact h
  | waiting =>
    have htaken := h.taken_eq
    rw [hphase] at htaken
    obtain ⟨entry, rest, -, htake⟩ | ⟨-, -, htake⟩ | ⟨-, -, htake⟩ := take_cases hphase traffic
    · rw [htake]
      exact { h with
        taken_eq := by
          show writer.taken ++ [entry] = writer.written ++ writer.lost.map Prod.fst ++ [entry]
          rw [htaken, Phase.hand, List.append_nil]
        lost_eq_nil := fun _ => h.lost_eq_nil (by rw [hphase]; decide) }
    · rw [htake]
      exact { h with
        taken_eq := htaken
        lost_eq_nil := fun hended => absurd rfl hended }
    · rw [htake]
      exact h

/-- A packet in hand is written behind the others, or lost, and nothing was
lost before. -/
theorem Sound.write (h : writer.Sound) : writer.write.Sound := by
  cases hphase : writer.phase with
  | waiting =>
    rw [Writer.write, hphase]
    exact h
  | ended =>
    rw [Writer.write, hphase]
    exact h
  | writing entry =>
    have hlost : writer.lost = [] := h.lost_eq_nil (by rw [hphase]; nofun)
    have htaken : writer.taken = writer.written ++ [entry] := by
      rw [h.taken_eq, hphase, hlost, List.map_nil, List.append_nil, Phase.hand]
    obtain ⟨frames, hframes, hstream⟩ := h.frames
    obtain ⟨frame, hframe, hwrite⟩ | ⟨error, hwrite⟩ :=
      writePacket_cases writer.stream entry.packet
    · simp only [Writer.write, hphase, hwrite]
      exact {
        taken_eq := by simp [htaken, hlost, Phase.hand]
        lost_length_le := h.lost_length_le
        lost_eq_nil := fun _ => hlost
        lost_fails := fun loss hmem => absurd (hlost ▸ hmem) List.not_mem_nil
        frames := ⟨frames ++ [frame],
          by simp [List.map_append, List.mapM_append, hframes, hframe, bind, Except.bind, pure,
            Except.pure],
          by simp [hstream]⟩ }
    · -- This is the packet that the connection loses.
      simp only [Writer.write, hphase, hwrite]
      exact {
        taken_eq := by simp [htaken, hlost, Phase.hand]
        lost_length_le := by simp [hlost]
        lost_eq_nil := fun hended => absurd rfl hended
        lost_fails := by simp [hlost, hwrite]
        frames := ⟨frames, hframes, hstream⟩ }

theorem Sound.act (h : writer.Sound) (hwork : writer.phase ≠ .ended) (traffic : Traffic)
    (act : Act) : (writer.act traffic act).1.Sound := by
  cases act with
  | breakOff =>
    -- A writer at work has lost nothing that a stream in order might have taken.
    have hlost := h.lost_eq_nil hwork
    exact { h with lost_fails := fun loss hmem => absurd (hlost ▸ hmem) List.not_mem_nil }
  | tell => exact { h with }
  | stop => exact h.stop
  | take => exact h.take traffic
  | write => exact h.write

/-- An act leaves the traffic as it is, or is a reader that asks. -/
theorem act_snd_cases (writer : Writer) (traffic : Traffic) (act : Act) :
    (writer.act traffic act).2 = traffic ∨ (writer.act traffic act).2 = traffic.handle .next := by
  cases act with
  | breakOff => exact .inl rfl
  | tell => exact .inl rfl
  | stop => exact .inl rfl
  | write => exact .inl rfl
  | take =>
    show (writer.take traffic).2 = traffic ∨ (writer.take traffic).2 = traffic.next
    unfold take
    split
    · exact .inl rfl
    · exact .inl rfl
    · split <;> exact .inr rfl

end Writer

/-! ### What holds of a link -/

namespace Traffic

/-- Those who send take nothing out of the queue. All that they do to it is to
close it, or to attempt to put a packet into it. -/
theorem use_cases (traffic : Traffic) (use : Use) :
    (traffic.handle use.turn).given = traffic.given ∧
    ((traffic.handle use.turn).queue = traffic.queue ∨
      (traffic.handle use.turn).queue = traffic.queue.close ∨
      ∃ packet priority,
        (traffic.handle use.turn).queue = (traffic.queue.attempt packet priority).2) := by
  cases use with
  | come sender =>
    rw [Use.turn, handle]
    split <;> exact ⟨rfl, .inl rfl⟩
  | abandon task =>
    rw [Use.turn, handle]
    split <;> exact ⟨rfl, .inl rfl⟩
  | close => exact ⟨rfl, .inr (.inl rfl)⟩
  | attempt task =>
    rw [Use.turn, handle]
    split
    case h_2 => exact ⟨rfl, .inl rfl⟩
    case h_1 sender _ =>
      rw [attempt]
      cases hattempt : traffic.queue.attempt sender.packet sender.priority with
      | mk result queue =>
        have hqueue : queue = (traffic.queue.attempt sender.packet sender.priority).2 := by
          rw [hattempt]
        cases result <;> exact ⟨rfl, .inr (.inr ⟨_, _, hqueue⟩)⟩

/-- Whatever they do, what waits goes on to wait. -/
theorem mem_entries_use {traffic : Traffic} {entry : Queued}
    (hmem : entry ∈ traffic.queue.entries) (use : Use) :
    entry ∈ (traffic.handle use.turn).queue.entries := by
  obtain hqueue | hqueue | ⟨packet, priority, hqueue⟩ := (traffic.use_cases use).2
  · rw [hqueue]
    exact hmem
  · rw [hqueue]
    exact hmem
  · rw [hqueue]
    obtain ⟨-, hattempt⟩ | ⟨-, -, hattempt⟩ | ⟨-, -, hattempt⟩ :=
      traffic.queue.attempt_cases packet priority
    · rw [hattempt]
      exact hmem
    · rw [hattempt]
      exact hmem
    · rw [hattempt]
      exact (Queue.perm_place _ _).mem_iff.mpr (List.mem_cons_of_mem _ hmem)

/-- No two accepted packets have one number. -/
theorem nodup_tickets (traffic : Traffic) : (traffic.tickets.map Queued.sequence).Nodup := by
  have hsequence : traffic.tickets.map Queued.sequence = List.range traffic.accepted.length :=
    List.ext_getElem (by simp [tickets]) (by simp [tickets])
  rw [hsequence]
  exact List.nodup_range

end Traffic

namespace Outgoing

variable {capacity : Nat} {outgoing : Outgoing}

/-- What becomes of a link when something happens to its latest writer. -/
theorem act_cases (outgoing : Outgoing) (act : Act) :
    outgoing.act act = outgoing ∨
    ∃ writer earlier, outgoing.writers = writer :: earlier ∧ writer.phase ≠ .ended ∧
      outgoing.act act = ⟨(writer.act outgoing.traffic act).2,
        (writer.act outgoing.traffic act).1 :: earlier⟩ := by
  unfold Outgoing.act
  cases hwriters : outgoing.writers with
  | nil => exact .inl rfl
  | cons writer earlier =>
    by_cases hended : writer.phase = .ended
    · exact .inl (if_pos hended)
    · exact .inr ⟨writer, earlier, rfl, hended, if_neg hended⟩

/-- What always holds of a link. -/
structure Sound (capacity : Nat) (outgoing : Outgoing) : Prop where
  traffic : outgoing.traffic.Sound capacity
  writers : ∀ writer ∈ outgoing.writers, writer.Sound
  /-- Only the latest writer may be at work. -/
  earlier_ended : ∀ writer ∈ outgoing.writers.tail, writer.phase = .ended
  /-- What the writers took is what came out of the queue, in that order. -/
  taken_eq : outgoing.taken = outgoing.traffic.popped

theorem sound_opened (capacity : Nat) : (opened capacity).Sound capacity where
  traffic := Traffic.sound_opened capacity
  writers writer hmem := by cases hmem
  earlier_ended writer hmem := by cases hmem
  taken_eq := rfl

theorem Sound.use (h : outgoing.Sound capacity) (use : Use) :
    (outgoing.handle (.use use)).Sound capacity where
  traffic := h.traffic.handle use.turn
  writers := h.writers
  earlier_ended := h.earlier_ended
  taken_eq := by
    show outgoing.taken = (outgoing.traffic.handle use.turn).popped
    rw [Traffic.popped, (outgoing.traffic.use_cases use).1, h.taken_eq, Traffic.popped]

theorem Sound.connect (h : outgoing.Sound capacity) : outgoing.connect.Sound capacity := by
  unfold Outgoing.connect
  split
  case isFalse => exact h
  case isTrue hidle => exact {
    traffic := h.traffic
    writers := by
      intro writer hmem
      cases hmem with
      | head => exact Writer.sound_connected
      | tail _ hmem => exact h.writers writer hmem
    earlier_ended := hidle
    taken_eq := by
      rw [taken, collect_cons]
      exact (List.append_nil _).trans h.taken_eq }

theorem Sound.act (h : outgoing.Sound capacity) (act : Act) :
    (outgoing.act act).Sound capacity := by
  obtain hact | ⟨writer, earlier, hwriters, hwork, hact⟩ := outgoing.act_cases act
  · rw [hact]
    exact h
  · -- What was taken and what came out of the queue grow by the same packets.
    obtain ⟨moved, htaken, hpopped, -⟩ := writer.moves_act outgoing.traffic act
    have hbefore := h.taken_eq
    have hended := h.earlier_ended
    have hsound := h.writers
    rw [taken, hwriters, collect_cons] at hbefore
    rw [hwriters] at hended hsound
    rw [hact]
    exact {
      traffic := by
        obtain htraffic | htraffic := writer.act_snd_cases outgoing.traffic act
        · rw [htraffic]
          exact h.traffic
        · rw [htraffic]
          exact h.traffic.handle .next
      writers := by
        intro other hmem
        cases hmem with
        | head => exact (hsound writer List.mem_cons_self).act hwork outgoing.traffic act
        | tail _ hmem => exact hsound other (List.mem_cons_of_mem _ hmem)
      earlier_ended := hended
      taken_eq := by
        rw [taken, collect_cons, htaken, hpopped, ← hbefore, List.append_assoc] }

/-- Every step keeps what always holds. -/
theorem Sound.handle (h : outgoing.Sound capacity) (step : Step) :
    (outgoing.handle step).Sound capacity := by
  cases step with
  | use use => exact h.use use
  | connect => exact h.connect
  | act act => exact h.act act

/-- It holds after any steps. -/
theorem Sound.run (h : outgoing.Sound capacity) (steps : List Step) :
    (outgoing.run steps).Sound capacity := by
  induction steps generalizing outgoing with
  | nil => exact h
  | cons step rest ih => exact ih (h.handle step)

/-! ### What leaves the queue -/

/-- Between these states writers took some packets, and what waited and is not
among them still waits. -/
def Keeps (before after : Outgoing) : Prop :=
  ∃ moved, after.taken = before.taken ++ moved ∧
    ∀ entry ∈ before.traffic.queue.entries, entry ∈ moved ∨ entry ∈ after.traffic.queue.entries

theorem keeps_refl (outgoing : Outgoing) : outgoing.Keeps outgoing :=
  ⟨[], (List.append_nil _).symm, fun _ hmem => .inr hmem⟩

theorem Keeps.trans {before between after : Outgoing} (h : before.Keeps between)
    (h' : between.Keeps after) : before.Keeps after := by
  obtain ⟨moved, htaken, hentries⟩ := h
  obtain ⟨moved', htaken', hentries'⟩ := h'
  refine ⟨moved ++ moved', by rw [htaken', htaken, List.append_assoc], ?_⟩
  intro entry hmem
  cases hentries entry hmem with
  | inl hmoved => exact .inl (List.mem_append_left _ hmoved)
  | inr hmem =>
    cases hentries' entry hmem with
    | inl hmoved => exact .inl (List.mem_append_right _ hmoved)
    | inr hmem => exact .inr hmem

theorem keeps_handle (outgoing : Outgoing) (step : Step) :
    outgoing.Keeps (outgoing.handle step) := by
  cases step with
  | use use =>
    exact ⟨[], (List.append_nil _).symm, fun entry hmem => .inr (Traffic.mem_entries_use hmem use)⟩
  | connect =>
    show outgoing.Keeps outgoing.connect
    unfold connect
    split
    · exact ⟨[], collect_cons _ _ _, fun entry hmem => .inr hmem⟩
    · exact outgoing.keeps_refl
  | act act =>
    show outgoing.Keeps (outgoing.act act)
    obtain hact | ⟨writer, earlier, hwriters, -, hact⟩ := outgoing.act_cases act
    · rw [hact]
      exact outgoing.keeps_refl
    · obtain ⟨moved, htaken, -, hentries⟩ := writer.moves_act outgoing.traffic act
      rw [hact]
      refine ⟨moved, ?_, ?_⟩
      · rw [taken, taken, hwriters, collect_cons, collect_cons, htaken, List.append_assoc]
      · intro entry hmem
        rw [hentries] at hmem
        exact List.mem_append.mp hmem

theorem keeps_run (outgoing : Outgoing) (steps : List Step) :
    outgoing.Keeps (outgoing.run steps) := by
  induction steps generalizing outgoing with
  | nil => exact outgoing.keeps_refl
  | cons step rest ih => exact (outgoing.keeps_handle step).trans (ih _)

/-- Between two connections nothing is taken. -/
theorem writers_run (hidle : outgoing.IsIdle) {steps : List Step} (hsteps : .connect ∉ steps) :
    (outgoing.run steps).writers = outgoing.writers := by
  induction steps generalizing outgoing with
  | nil => rfl
  | cons step rest ih =>
    obtain ⟨hstep, hrest⟩ := not_or.mp (mt List.mem_cons.mpr hsteps)
    have hwriters : (outgoing.handle step).writers = outgoing.writers := by
      cases step with
      | use use => rfl
      | connect => exact absurd rfl hstep
      | act act =>
        show (outgoing.act act).writers = outgoing.writers
        obtain hact | ⟨writer, earlier, hwriters, hwork, -⟩ := outgoing.act_cases act
        · rw [hact]
        · exact absurd (hidle writer (hwriters ▸ List.mem_cons_self)) hwork
    have hidle' : (outgoing.handle step).IsIdle := by
      rw [IsIdle, hwriters]
      exact hidle
    rw [run_cons, ih hidle' hrest, hwriters]

/-! ### Every packet at most once -/

/-- What became of the packets that the writers took: they were written, or
lost, or are in hand. -/
def handled (outgoing : Outgoing) : List Queued :=
  collect Writer.written outgoing.writers ++
    collect (fun writer => writer.lost.map Prod.fst) outgoing.writers ++
    collect (fun writer => writer.phase.hand) outgoing.writers

/-- What a link owes to those who send. -/
structure Faithful (outgoing : Outgoing) : Prop where
  /-- The packets that the writers took, connection after connection, are those
  that came out of the queue, in the order in which they did. -/
  taken_eq : outgoing.taken = outgoing.traffic.popped
  /-- While packets wait, a writer that asks takes the next of them. -/
  take_next : ∀ writer earlier, outgoing.writers = writer :: earlier → writer.phase = .waiting →
    outgoing.traffic.queue.entries ≠ [] → ∃ entry, outgoing.traffic.queue.IsNext entry ∧
      outgoing.handle (.act .take) = {
        traffic := { outgoing.traffic with
          queue := { outgoing.traffic.queue with
            entries := outgoing.traffic.queue.entries.erase entry }
          given := outgoing.traffic.given ++ [some entry] }
        writers := { writer with
          phase := .writing entry
          taken := writer.taken ++ [entry] } :: earlier }
  /-- Every accepted packet is in one place, and there once: no packet is written
  twice, and none is both written and lost, or still waits. -/
  perm_tickets :
    (outgoing.handled ++ outgoing.traffic.queue.entries).Perm outgoing.traffic.tickets
  nodup : ((outgoing.handled ++ outgoing.traffic.queue.entries).map Queued.sequence).Nodup
  /-- Each connection has lost one packet at most, by the write of that packet. -/
  writers : ∀ writer ∈ outgoing.writers, writer.Sound
  /-- A packet leaves the queue only for a writer that takes it. -/
  keeps : ∀ later, outgoing.Keeps (outgoing.run later)
  /-- When a connection is over, whatever waits is left for the next one. -/
  left : outgoing.IsIdle → ∀ later, .connect ∉ later →
    (outgoing.run later).writers = outgoing.writers ∧
    ∀ entry ∈ outgoing.traffic.queue.entries, entry ∈ (outgoing.run later).traffic.queue.entries

theorem Sound.take_next (h : outgoing.Sound capacity) {writer : Writer} {earlier : List Writer}
    (hwriters : outgoing.writers = writer :: earlier) (hwaiting : writer.phase = .waiting)
    (hne : outgoing.traffic.queue.entries ≠ []) :
    ∃ entry, outgoing.traffic.queue.IsNext entry ∧ outgoing.act .take = {
      traffic := { outgoing.traffic with
        queue := { outgoing.traffic.queue with
          entries := outgoing.traffic.queue.entries.erase entry }
        given := outgoing.traffic.given ++ [some entry] }
      writers := { writer with
        phase := .writing entry
        taken := writer.taken ++ [entry] } :: earlier } := by
  have hwork : writer.phase ≠ .ended := by rw [hwaiting]; decide
  obtain ⟨entry, rest, hentries, htake⟩ | ⟨hnil, -⟩ | ⟨hnil, -⟩ :=
    Writer.take_cases hwaiting outgoing.traffic
  · refine ⟨entry, h.traffic.queue.isNext hentries, ?_⟩
    simp only [Outgoing.act, hwriters, if_neg hwork, Writer.act, htake,
      Traffic.take_of_cons hentries, hentries, List.erase_cons_head]
  · exact absurd hnil hne
  · exact absurd hnil hne

/-- What the writers took is what they wrote, lost or have in hand. -/
theorem Sound.perm_taken (h : outgoing.Sound capacity) :
    outgoing.handled.Perm outgoing.taken := by
  have htaken : outgoing.taken = collect (fun writer =>
      writer.written ++ writer.lost.map Prod.fst ++ writer.phase.hand) outgoing.writers := by
    apply List.flatMap_congr
    intro writer hmem
    exact (h.writers writer (List.mem_reverse.mp hmem)).taken_eq
  rw [htaken]
  -- `handled` has first what all writers wrote, then what they lost, then what is in hand.
  exact ((List.flatMap_append_perm _ _ _).append_right _).trans (List.flatMap_append_perm _ _ _)

theorem Sound.perm_tickets (h : outgoing.Sound capacity) :
    (outgoing.handled ++ outgoing.traffic.queue.entries).Perm outgoing.traffic.tickets := by
  have htaken := h.perm_taken
  rw [h.taken_eq] at htaken
  exact (htaken.append_right _).trans h.traffic.perm_tickets

theorem Sound.left (hidle : outgoing.IsIdle) {later : List Step} (hlater : .connect ∉ later)
    {entry : Queued} (hmem : entry ∈ outgoing.traffic.queue.entries) :
    entry ∈ (outgoing.run later).traffic.queue.entries := by
  obtain ⟨moved, htaken, hentries⟩ := outgoing.keeps_run later
  -- No writer came or did anything, so nothing was taken.
  rw [taken, taken, writers_run hidle hlater] at htaken
  obtain rfl : moved = [] := List.self_eq_append_right.mp htaken
  exact (hentries entry hmem).resolve_left List.not_mem_nil

/-- Whatever those who send do, and however many connections come up, break and
end, at whatever point: over all connections the packets are taken in the order
in which they come out of the queue, none is written twice, a connection loses
at most the packet whose write failed, and what it did not take waits for the
next one. -/
theorem carried_once (capacity : Nat) (steps : List Step) :
    ((opened capacity).run steps).Faithful := by
  have h := (sound_opened capacity).run steps
  exact {
    taken_eq := h.taken_eq
    take_next := fun writer earlier hwriters hwaiting hne =>
      h.take_next hwriters hwaiting hne
    perm_tickets := h.perm_tickets
    nodup := (h.perm_tickets.map Queued.sequence).nodup_iff.mpr (Traffic.nodup_tickets _)
    writers := h.writers
    keeps := keeps_run _
    left := fun hidle later hlater =>
      ⟨writers_run hidle hlater, fun entry hmem => Sound.left hidle hlater hmem⟩ }

end Outgoing

end SensorGateway.Link
