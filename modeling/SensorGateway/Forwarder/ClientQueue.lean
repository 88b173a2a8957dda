import SensorGateway.Bus.Dispatch

/-!
# `SensorGateway.Forwarder.ClientQueue`: packets that wait for a client

Packets for a client wait in a queue of limited capacity until they are
written. The queue never makes anyone wait: a packet that finds it full
or closed is turned away. Closing it drops what still waits.

A client's listener puts every message it sees into the queue as it was
received, and fails if there is no room.
-/

set_option autoImplicit false

namespace SensorGateway.Forwarder

/-- Packets that wait for one client, next one first. -/
structure ClientQueue where
  capacity : Nat
  packets : List Bytes := []
  isOpen : Bool := true
  deriving Repr, DecidableEq

namespace ClientQueue

/-- Another packet is taken. -/
def hasRoom (queue : ClientQueue) : Bool :=
  queue.isOpen && queue.packets.length < queue.capacity

/-- Puts a packet behind the others if there is room. Says whether there
was. -/
def offer (queue : ClientQueue) (packet : Bytes) : Bool × ClientQueue :=
  if queue.hasRoom then (true, { queue with packets := queue.packets ++ [packet] })
  else (false, queue)

/-- Takes a message in, as it was received. -/
def deliver (queue : ClientQueue) (delivery : Bus.Delivery) : Bus.Verdict × ClientQueue :=
  let (accepted, queue) := queue.offer delivery.raw
  (if accepted then .handled else .failed, queue)

/-- Takes the next packet. -/
def next (queue : ClientQueue) : Option Bytes × ClientQueue :=
  match queue.packets with
  | [] => (none, queue)
  | packet :: rest => (some packet, { queue with packets := rest })

/-- Closes the queue. Says whether it was open. -/
def close (queue : ClientQueue) : Bool × ClientQueue :=
  (queue.isOpen, { queue with packets := [], isOpen := false })

end ClientQueue

end SensorGateway.Forwarder
