import SensorGateway.Address

/-!
# `SensorGateway.Forwarder.Connection`: the life of a client connection

A connection is made, greeted and then streams; it can be closed at any
time. Connections are numbered in the order in which they are accepted,
from one on.
-/

set_option autoImplicit false

namespace SensorGateway.Forwarder

/-- Where a connection is in its life. -/
inductive ConnectionState where
  /-- Accepted; greetings are not exchanged yet. -/
  | connecting
  /-- Greeted; not subscribed yet. -/
  | isOpen
  /-- Packets go in both directions. -/
  | streaming
  | closed
  deriving Repr, DecidableEq

namespace ConnectionState

def label : ConnectionState → String
  | .connecting => "connecting"
  | .isOpen => "open"
  | .streaming => "streaming"
  | .closed => "closed"

/-- The four states. -/
def all : List ConnectionState := [.connecting, .isOpen, .streaming, .closed]

/-- A connection may go from one state to another: step by step, or to its
end. -/
def canAdvanceTo : ConnectionState → ConnectionState → Bool
  | .connecting, .isOpen | .isOpen, .streaming => true
  | .connecting, .closed | .isOpen, .closed | .streaming, .closed => true
  | _, _ => false

end ConnectionState

/-- A client connection. -/
structure Connection where
  /-- Its number in the order of acceptance. -/
  ordinal : Nat
  peer : SocketAddress
  state : ConnectionState
  deriving Repr, DecidableEq

/-- The name of a connection in diagnostics. -/
def Connection.label (connection : Connection) : String :=
  s!"sf client #{connection.ordinal} ({connection.peer.text})"

end SensorGateway.Forwarder
