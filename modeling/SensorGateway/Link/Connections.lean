import SensorGateway.Link.Queue

/-!
# `SensorGateway.Link.Connections`: the queue across connections

The link to the base station is made again after every failure. While a
connection is up its writer takes packets from the queue and writes them,
one after the other. A packet whose write fails is lost, and the
connection with it; everything that still waits stays in the queue for
the next connection.
-/

set_option autoImplicit false

namespace SensorGateway.Link

/-- A packet that a writer took, and whether it was written. -/
structure Taken where
  entry : Queued
  isWritten : Bool
  deriving Repr, DecidableEq

/-- The queue, and what the writers of all connections took. -/
structure Line where
  queue : Queue
  /-- A connection is up. -/
  isUp : Bool := false
  /-- What the writer of each connection took, first connection first. -/
  connections : List (List Taken) := []
  deriving Repr, DecidableEq

/-- What may happen to a line. -/
inductive LineEvent where
  /-- Someone sends a packet. -/
  | send (packet : Bytes) (priority : Priority)
  | connect
  /-- The writer takes the next packet and writes it. -/
  | write (succeeds : Bool)
  /-- The connection ends for another reason than a write. -/
  | hangUp
  | close
  deriving Repr, DecidableEq

namespace Line

/-- Puts a packet behind what the present connection took. -/
def recordTaken (taken : Taken) : List (List Taken) → List (List Taken)
  | [] => [[taken]]
  | [last] => [last ++ [taken]]
  | first :: rest => first :: recordTaken taken rest

/-- Handles an event. -/
def handle (line : Line) : LineEvent → Line
  | .send packet priority => { line with queue := (line.queue.attempt packet priority).2 }
  | .connect =>
    if line.isUp then line
    else { line with isUp := true, connections := line.connections ++ [[]] }
  | .write succeeds =>
    if line.isUp then
      match line.queue.pop with
      | (none, _) => line
      | (some entry, queue) =>
        { queue
          isUp := succeeds
          connections := recordTaken ⟨entry, succeeds⟩ line.connections }
    else line
  | .hangUp => { line with isUp := false }
  | .close => { line with queue := line.queue.close }

/-- Handles events one after the other. -/
def run (line : Line) (events : List LineEvent) : Line := events.foldl handle line

/-- Everything that was taken, over all connections. -/
def taken (line : Line) : List Taken := line.connections.flatten

end Line

end SensorGateway.Link
