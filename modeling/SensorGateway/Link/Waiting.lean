import SensorGateway.Link.Queue

/-!
# `SensorGateway.Link.Waiting`: who waits at the queue

A sender that finds the queue full waits for room, a reader that finds it
empty waits for a packet. Both are served in the order in which they
came. Closing the queue turns everyone away. Whoever waits may also give
up, and then it is as if he had never come.

Tasks are known by numbers. Each operation says which tasks it finished,
in the order of their numbers.
-/

set_option autoImplicit false

namespace SensorGateway.Link

/-- A sender that waits for room. -/
structure Sender where
  task : Nat
  packet : Bytes
  priority : Priority
  deriving Repr, DecidableEq

/-- How a task ended. -/
inductive Outcome where
  /-- The packet is in the queue, or there was nothing to be queued. -/
  | accepted
  | failed (error : Bus.TransportError)
  /-- A packet for a reader; none if the queue is closed and empty. -/
  | packet (packet : Option Bytes)
  deriving Repr, DecidableEq

/-- Tasks that ended, with their outcomes. -/
abbrev Finished := List (Nat × Outcome)

/-- The queue and those who wait at it, first come first. -/
structure Outbox where
  format : WireFormat := .current
  /-- The message type of acknowledgement packets. -/
  ackType : Option MessageType := none
  queue : Queue
  senders : List Sender := []
  readers : List Nat := []
  /-- How many acknowledgements were asked for. -/
  acknowledged : Nat := 0
  deriving Repr, DecidableEq

namespace Outbox

/-- The first reader takes the next packet, if both are there. -/
def serveReader (outbox : Outbox) : Finished × Outbox :=
  match outbox.readers, outbox.queue.pop with
  | reader :: readers, (some entry, queue) =>
    ([(reader, .packet (some entry.packet))], { outbox with readers, queue })
  | _, _ => ([], outbox)

/-- The first sender puts its packet into the queue, if there is room. -/
def serveSender (outbox : Outbox) : Finished × Outbox :=
  match outbox.senders with
  | [] => ([], outbox)
  | sender :: senders =>
    match outbox.queue.attempt sender.packet sender.priority with
    | (.accepted, queue) => ([(sender.task, .accepted)], { outbox with senders, queue })
    | _ => ([], outbox)

/-- Tasks in the order of their numbers. -/
def inOrder (finished : Finished) : Finished := finished.mergeSort fun a b => a.1 ≤ b.1

/-- A task sends a packet. -/
def send (outbox : Outbox) (task : Nat) (packet : Bytes) (priority : Priority) :
    Finished × Outbox :=
  match outbox.queue.attempt packet priority with
  | (.closed, _) => ([(task, .failed .closed)], outbox)
  | (.full, _) => ([], { outbox with senders := outbox.senders ++ [⟨task, packet, priority⟩] })
  | (.accepted, queue) =>
    let (served, outbox) := { outbox with queue }.serveReader
    (inOrder ((task, .accepted) :: served), outbox)

/-- A task acknowledges a message. Without a type for acknowledgement
packets they are only counted. -/
def acknowledge (outbox : Outbox) (task : Nat) (device : Option Int) (timestamp : Int)
    (priority : Priority) : Finished × Outbox :=
  let counted := { outbox with acknowledged := outbox.acknowledged + 1 }
  match outbox.ackType with
  | none => ([(task, .accepted)], counted)
  | some type =>
    match acknowledgementPacket outbox.format type device timestamp with
    | .ok packet => counted.send task packet priority
    | .error error => ([(task, .failed (.io error.message))], counted)

/-- A task asks for the next packet. -/
def next (outbox : Outbox) (task : Nat) : Finished × Outbox :=
  match outbox.queue.pop with
  | (some entry, queue) =>
    let (served, outbox) := { outbox with queue }.serveSender
    (inOrder ((task, .packet (some entry.packet)) :: served), outbox)
  | (none, _) =>
    if outbox.queue.isClosed then ([(task, .packet none)], outbox)
    else ([], { outbox with readers := outbox.readers ++ [task] })

/-- Closes the queue. -/
def close (outbox : Outbox) : Finished × Outbox :=
  let turned := outbox.senders.map fun sender => (sender.task, Outcome.failed .closed)
  let ended := outbox.readers.map fun reader => (reader, Outcome.packet none)
  (inOrder (turned ++ ended),
    { outbox with queue := outbox.queue.close, senders := [], readers := [] })

/-- A task gives up. -/
def cancel (outbox : Outbox) (task : Nat) : Outbox :=
  { outbox with
    senders := outbox.senders.filter fun sender => sender.task != task
    readers := outbox.readers.filter fun reader => reader != task }

/-- The tasks that wait, in the order of their numbers. -/
def waiting (outbox : Outbox) : List Nat :=
  (outbox.senders.map Sender.task ++ outbox.readers).mergeSort fun a b => a ≤ b

end Outbox

end SensorGateway.Link
