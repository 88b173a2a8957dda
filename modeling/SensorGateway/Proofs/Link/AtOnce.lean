import Mathlib.Data.List.Induction
import SensorGateway.Link.Connections
import SensorGateway.Proofs.Link.Connections

/-!
# `SensorGateway.Proofs.Link.AtOnce`: taking and writing at once

A `Line` takes a packet and writes it in one event. A link takes it, and writes
it later, and what becomes of the write may depend on what happens in between.
For a line to get as far, the outcome has to be foreseen when the packet is
taken.

* `Outgoing.line`: the line that a link is, with an outcome foreseen for the
  packet in hand.
* `Writer.exists_line_act`, `Sound.exists_line`: events for a single step.
* `exists_line_run`: events for any steps.
-/

set_option autoImplicit false

namespace SensorGateway.Link

/-! ### Events of a line -/

namespace Line

@[simp] theorem run_nil (line : Line) : line.run [] = line := rfl

@[simp] theorem run_cons (line : Line) (event : LineEvent) (rest : List LineEvent) :
    line.run (event :: rest) = (line.handle event).run rest := rfl

theorem run_append (line : Line) (first rest : List LineEvent) :
    line.run (first ++ rest) = (line.run first).run rest := List.foldl_append

/-- What is taken is recorded for the latest connection. -/
theorem recordTaken_concat (taken : Taken) (earlier : List (List Taken)) (latest : List Taken) :
    recordTaken taken (earlier ++ [latest]) = earlier ++ [latest ++ [taken]] := by
  induction earlier with
  | nil => rfl
  | cons first rest ih =>
    -- Something follows the first connection, so it is not the latest one.
    obtain ⟨second, more, hrest⟩ :=
      List.exists_cons_of_ne_nil (show rest ++ [latest] ≠ [] by simp)
    rw [List.cons_append, hrest, recordTaken, ← hrest, ih, List.cons_append]
    · intro heq
      cases heq

end Line

/-- A line learns of those who send only by what becomes of the queue. -/
theorem Traffic.exists_line_use (traffic : Traffic) (use : Use) :
    ∃ events, ∀ line : Line, line.queue = traffic.queue →
      line.run events = { line with queue := (traffic.handle use.turn).queue } := by
  obtain hqueue | hqueue | ⟨packet, priority, hqueue⟩ := (traffic.use_cases use).2
  · refine ⟨[], ?_⟩
    intro line hline
    rw [hqueue, ← hline]
    rfl
  · refine ⟨[.close], ?_⟩
    intro line hline
    rw [hqueue, ← hline]
    rfl
  · refine ⟨[.send packet priority], ?_⟩
    intro line hline
    rw [hqueue, ← hline]
    rfl

/-! ### The line of a writer -/

namespace Writer

/-- What a writer took, if this is what becomes of the packet in hand. -/
def record (writer : Writer) (outcome : Bool) : List Taken :=
  writer.written.map (fun entry => ⟨entry, true⟩) ++
    writer.lost.map (fun loss => ⟨loss.1, false⟩) ++
    writer.phase.hand.map fun entry => ⟨entry, outcome⟩

/-- Whether the connection is up, likewise. -/
def isUp (writer : Writer) (outcome : Bool) : Bool :=
  match writer.phase with
  | .waiting => true
  | .writing _ => outcome
  | .ended => false

/-- The line of a writer with those before it, if this is what becomes of the
packet in hand. -/
def line (writer : Writer) (queue : Queue) (earlier : List (List Taken)) (outcome : Bool) :
    Line where
  queue := queue
  isUp := writer.isUp outcome
  connections := earlier ++ [writer.record outcome]

theorem record_of_ended {writer : Writer} (hended : writer.phase = .ended) (outcome other : Bool) :
    writer.record outcome = writer.record other := by
  rw [record, record, hended]
  rfl

/-- Whether a writer that waits is told to stop or that no packet follows, its
connection ends. -/
theorem line_ended {writer : Writer} (hwaiting : writer.phase = .waiting) (queue : Queue)
    (earlier : List (List Taken)) (outcome : Bool) :
    (writer.line queue earlier outcome).run [.hangUp] =
      line { writer with phase := .ended } queue earlier outcome := by
  have hrecord : writer.record outcome = record { writer with phase := .ended } outcome := by
    rw [record, record, hwaiting]
    rfl
  rw [Line.run_cons, Line.run_nil, Line.handle, line, line, hrecord]
  rfl

/-- To the line, a writer takes a packet and writes it as soon as it takes it,
and when it writes it, nothing happens any more. -/
theorem exists_line_act {writer : Writer} (h : writer.Sound) (traffic : Traffic) (act : Act)
    (earlier : List (List Taken)) (outcome : Bool) :
    ∃ events foreseen, (writer.line traffic.queue earlier foreseen).run events =
      (writer.act traffic act).1.line (writer.act traffic act).2.queue earlier outcome := by
  cases act with
  | breakOff => exact ⟨[], outcome, rfl⟩
  | tell => exact ⟨[], outcome, rfl⟩
  | stop =>
    show ∃ events foreseen, _ = writer.stop.line traffic.queue earlier outcome
    unfold stop
    split
    case isFalse => exact ⟨[], outcome, rfl⟩
    case isTrue hstop => exact ⟨[.hangUp], outcome, line_ended hstop.1 _ _ _⟩
  | take =>
    show ∃ events foreseen, _ =
      (writer.take traffic).1.line (writer.take traffic).2.queue earlier outcome
    cases hphase : writer.phase with
    | writing entry => exact ⟨[], outcome, by rw [take, hphase]; rfl⟩
    | ended => exact ⟨[], outcome, by rw [take, hphase]; rfl⟩
    | waiting =>
      obtain ⟨entry, rest, hentries, htake⟩ | ⟨hentries, hclosed, htake⟩ | ⟨-, -, htake⟩ :=
        take_cases hphase traffic
      · -- The line writes the packet here already, with the outcome that is foreseen.
        have hup : (writer.line traffic.queue earlier outcome).isUp = true := by
          rw [line, isUp, hphase]
        refine ⟨[.write outcome], outcome, ?_⟩
        rw [htake, Traffic.take_of_cons hentries, Line.run_cons, Line.run_nil, Line.handle,
          if_pos hup, line, Queue.pop, hentries]
        simp only [Line.recordTaken_concat, line, isUp, record, hphase, Phase.hand, List.map_nil,
          List.append_nil, List.map_cons]
      · rw [htake, Traffic.next_of_nil hentries, if_pos hclosed]
        exact ⟨[.hangUp], outcome, line_ended hphase _ _ _⟩
      · rw [htake]
        exact ⟨[], outcome, rfl⟩
  | write =>
    show ∃ events foreseen, _ = writer.write.line traffic.queue earlier outcome
    cases hphase : writer.phase with
    | waiting => exact ⟨[], outcome, by rw [write, hphase]; rfl⟩
    | ended => exact ⟨[], outcome, by rw [write, hphase]; rfl⟩
    | writing entry =>
      have hwork : writer.phase ≠ .ended := by
        intro hended
        cases hphase.symm.trans hended
      have hlost : writer.lost = [] := h.lost_eq_nil hwork
      -- What the write comes to now is what had to be foreseen before.
      obtain ⟨frame, -, hwrite⟩ | ⟨error, hwrite⟩ :=
        writePacket_cases writer.stream entry.packet
      · refine ⟨[], true, ?_⟩
        simp [line, record, isUp, write, hphase, hwrite, hlost, Phase.hand]
      · refine ⟨[], false, ?_⟩
        simp [line, record, isUp, write, hphase, hwrite, hlost, Phase.hand]

end Writer

/-! ### The line of a link -/

namespace Outgoing

/-- The line that a link is, if this is what becomes of the packet in hand. -/
def line (outgoing : Outgoing) (outcome : Bool) : Line where
  queue := outgoing.traffic.queue
  isUp := outgoing.writers.head?.any fun writer => writer.isUp outcome
  connections := (outgoing.writers.map fun writer => writer.record outcome).reverse

variable {capacity : Nat} {outgoing : Outgoing}

theorem line_of_isIdle (hidle : outgoing.IsIdle) (outcome : Bool) :
    (outgoing.line outcome).isUp = false := by
  show (outgoing.writers.head?.any fun writer => writer.isUp outcome) = false
  cases hwriters : outgoing.writers with
  | nil => rfl
  | cons writer earlier =>
    have hended := hidle writer (hwriters ▸ List.mem_cons_self)
    rw [List.head?_cons, Option.any_some, Writer.isUp, hended]

theorem line_of_writers {writer : Writer} {earlier : List Writer}
    (hwriters : outgoing.writers = writer :: earlier) (outcome : Bool) :
    outgoing.line outcome = writer.line outgoing.traffic.queue
      (earlier.map fun other => other.record outcome).reverse outcome := by
  rw [line, hwriters, List.map_cons, List.reverse_cons, List.head?_cons, Option.any_some,
    Writer.line]

/-- What a line foresees of the packet in hand says nothing of the connections
before. -/
theorem record_earlier {earlier : List Writer} (hended : ∀ writer ∈ earlier, writer.phase = .ended)
    (outcome other : Bool) :
    earlier.map (fun writer => writer.record outcome) =
      earlier.map fun writer => writer.record other :=
  List.map_congr_left fun writer hmem => Writer.record_of_ended (hended writer hmem) outcome other

theorem Sound.exists_line (h : outgoing.Sound capacity) (step : Step) (outcome : Bool) :
    ∃ events foreseen,
      (outgoing.line foreseen).run events = (outgoing.handle step).line outcome := by
  cases step with
  | use use =>
    obtain ⟨events, hevents⟩ := outgoing.traffic.exists_line_use use
    exact ⟨events, outcome, hevents (outgoing.line outcome) rfl⟩
  | connect =>
    show ∃ events foreseen, _ = outgoing.connect.line outcome
    unfold Outgoing.connect
    split
    case isFalse => exact ⟨[], outcome, rfl⟩
    case isTrue hidle =>
      refine ⟨[.connect], outcome, ?_⟩
      rw [Line.run_cons, Line.run_nil, Line.handle, line_of_isIdle hidle, if_neg (by decide)]
      simp [line, Writer.isUp, Writer.record, Writer.connected, Phase.hand]
  | act act =>
    show ∃ events foreseen, _ = (outgoing.act act).line outcome
    obtain hact | ⟨writer, earlier, hwriters, -, hact⟩ := outgoing.act_cases act
    · rw [hact]
      exact ⟨[], outcome, rfl⟩
    · have hsound := h.writers writer (hwriters ▸ List.mem_cons_self)
      have hended : ∀ other ∈ earlier, other.phase = .ended := by
        intro other hmem
        exact h.earlier_ended other (hwriters ▸ hmem)
      obtain ⟨events, foreseen, hline⟩ := Writer.exists_line_act hsound outgoing.traffic act
        (earlier.map fun other => other.record outcome).reverse outcome
      refine ⟨events, foreseen, ?_⟩
      rw [line_of_writers hwriters, record_earlier hended foreseen outcome, hline, hact]
      rw [line, List.map_cons, List.reverse_cons]
      rfl

/-- A line, on which writers take packets and write them at once, gets as far as
a link, whatever becomes of the packet in hand. -/
theorem exists_line_run (capacity : Nat) (steps : List Step) (outcome : Bool) :
    ∃ events, Line.run { queue := .ofCapacity capacity } events =
      ((opened capacity).run steps).line outcome := by
  -- Induction on the last step: what is foreseen before it depends on what follows.
  induction steps using List.reverseRecOn generalizing outcome with
  | nil => exact ⟨[], rfl⟩
  | append_singleton steps step ih =>
    have h := (sound_opened capacity).run steps
    obtain ⟨events, foreseen, hstep⟩ := h.exists_line step outcome
    obtain ⟨before, hbefore⟩ := ih foreseen
    refine ⟨before ++ events, ?_⟩
    rw [Line.run_append, hbefore, hstep, run_append]
    rfl

end Outgoing

end SensorGateway.Link
