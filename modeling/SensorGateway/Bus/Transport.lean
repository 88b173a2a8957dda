import SensorGateway.Bytes
import SensorGateway.Text.Duration

/-!
# `SensorGateway.Bus.Transport`: calls on the way to a device

A transport takes packets and acknowledgements. It may take its time, or
never answer at all; whoever calls it waits for a limited time only.
Times are in milliseconds.
-/

set_option autoImplicit false

namespace SensorGateway

/-- How urgent a packet is; the lowest value goes first. -/
abbrev Priority := UInt8

/-- The priority of commands and acknowledgements unless something else
is said. -/
def defaultPriority : Priority := 10

namespace Bus

/-- Why a call failed. -/
inductive TransportError where
  /-- No answer came within the limit. -/
  | timeout (limit : Nat)
  | closed
  | io (text : String)
  deriving Repr, DecidableEq

/-- The text an operator sees. -/
def TransportError.message : TransportError → String
  | .timeout limit => s!"transport did not respond within {Text.duration limit}"
  | .closed => "transport closed"
  | .io text => s!"transport I/O error: {text}"

/-- How a transport answers a call. -/
inductive Reply (α : Type) where
  | never
  /-- An answer after some time. -/
  | after (delay : Nat) (result : Except TransportError α)

namespace Reply

variable {α : Type}

/-- An answer without delay. -/
def now (result : Except TransportError α) : Reply α := .after 0 result

/-- What a caller gets who waits for `limit` milliseconds. An answer that
comes just in time counts. -/
def within (limit : Nat) : Reply α → Except TransportError α
  | .never => .error (.timeout limit)
  | .after delay result => if delay ≤ limit then result else .error (.timeout limit)

end Reply

end Bus

end SensorGateway
