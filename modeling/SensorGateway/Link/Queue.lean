import SensorGateway.Bus.Transport
import SensorGateway.Packet

/-!
# `SensorGateway.Link.Queue`: packets that wait for the base station

Packets for the base station wait in a queue of limited capacity, the
most urgent first and, of equally urgent ones, the one that was accepted
first. A packet that finds the queue full is not taken. A closed queue
takes nothing more, but what it holds still comes out in order.
-/

set_option autoImplicit false

namespace SensorGateway.Link

/-- A packet that waits. -/
structure Queued where
  priority : Priority
  /-- How many packets were accepted before this one. -/
  sequence : Nat
  packet : Bytes
  deriving Repr, DecidableEq

/-- Goes out before another packet. -/
def Queued.before (a b : Queued) : Bool :=
  a.priority < b.priority || (a.priority == b.priority && a.sequence < b.sequence)

/-- Packets that wait, next one first. -/
structure Queue where
  capacity : Nat
  entries : List Queued := []
  /-- How many packets were accepted so far. -/
  accepted : Nat := 0
  isClosed : Bool := false
  deriving Repr, DecidableEq

/-- What becomes of an attempt to send. -/
inductive Attempt where
  | accepted
  /-- The queue is full; the attempt may be repeated. -/
  | full
  | closed
  deriving Repr, DecidableEq

namespace Queue

/-- A queue that holds up to `capacity` packets, and at least one. -/
def ofCapacity (capacity : Nat) : Queue := { capacity := max capacity 1 }

/-- How many packets wait. -/
def size (queue : Queue) : Nat := queue.entries.length

/-- Puts a packet in front of the first one it goes out before. -/
def place (entry : Queued) : List Queued → List Queued
  | [] => [entry]
  | first :: rest =>
    if entry.before first then entry :: first :: rest else first :: place entry rest

/-- Tries to put a packet into the queue. -/
def attempt (queue : Queue) (packet : Bytes) (priority : Priority) : Attempt × Queue :=
  if queue.isClosed then (.closed, queue)
  else if queue.capacity ≤ queue.size then (.full, queue)
  else (.accepted, { queue with
    entries := place ⟨priority, queue.accepted, packet⟩ queue.entries
    accepted := queue.accepted + 1 })

/-- Takes the next packet. -/
def pop (queue : Queue) : Option Queued × Queue :=
  match queue.entries with
  | [] => (none, queue)
  | entry :: rest => (some entry, { queue with entries := rest })

/-- Nothing more is taken from now on. -/
def close (queue : Queue) : Queue := { queue with isClosed := true }

end Queue

/-! ### Acknowledgements -/

/-- Where the acknowledgement of a message goes: to the device it came
from if that has an address, else to every device. -/
def acknowledgementTarget : Option Int → UInt16
  | some id => if 0 ≤ id ∧ id < 2 ^ 16 then UInt16.ofNat id.toNat else WireFormat.broadcast
  | none => WireFormat.broadcast

/-- A signed 64-bit integer as eight bytes, most significant byte
first. -/
def timestampBytes (timestamp : Int) : Bytes := Bytes.ofNat 8 (timestamp % 2 ^ 64).toNat

/-- The packet that acknowledges a message: it carries the time at which
the message arrived. -/
def acknowledgementPacket (format : WireFormat) (type : MessageType) (device : Option Int)
    (timestamp : Int) : Except PacketError Bytes :=
  format.wrap (acknowledgementTarget device) type (timestampBytes timestamp)

end SensorGateway.Link
