import SensorGateway.Forwarder.Server

/-!
# `SensorGateway.Forwarder.Client`: what happens to one connection

A connection is served in four steps: greetings are exchanged, the
connection is attached to the server, packets go back and forth until
something ends that, and the connection is detached. What ends it may be
the client, a failed read or write, or the server, which detaches the
connection itself. A connection whose greeting failed, or which the
server does not take, is closed at once.

The handler remembers every state the connection was in.
-/

set_option autoImplicit false

namespace SensorGateway.Forwarder

/-- What the handler of a connection may notice. -/
inductive ClientEvent where
  /-- The exchange of greetings is over. -/
  | greeted (welcome : Bool)
  /-- The turn to be attached has come. -/
  | attached
  /-- The stream ended, a read or write failed, or the server said to
  stop. -/
  | ended
  deriving Repr, DecidableEq

/-- The handler of one connection. -/
structure Handler where
  id : Nat
  connection : Connection
  /-- The states the connection was in, first one first. -/
  history : List ConnectionState
  deriving Repr, DecidableEq

namespace Handler

variable {ι : Type} [DecidableEq ι]

/-- The handler of a connection just accepted. -/
def start (id ordinal : Nat) (peer : SocketAddress) : Handler where
  id := id
  connection := ⟨ordinal, peer, .connecting⟩
  history := [.connecting]

/-- The connection enters a state. -/
def enter (handler : Handler) (state : ConnectionState) : Handler where
  id := handler.id
  connection := { handler.connection with state }
  history := handler.history ++ [state]

/-- Handles an event. An event that has no place in the present state
changes nothing. -/
def handle (handler : Handler) (listener : ι) (server : Server ι) (event : ClientEvent) :
    Handler × Server ι :=
  match handler.connection.state, event with
  | .connecting, .greeted true => (handler.enter .isOpen, server)
  | .connecting, .greeted false => (handler.enter .closed, server)
  | .isOpen, .attached =>
    match server.attach handler.id handler.connection listener with
    | (some _, server) => (handler.enter .streaming, server)
    | (none, server) => (handler.enter .closed, server)
  | .streaming, .ended => (handler.enter .closed, (server.detach handler.id).2)
  | _, _ => (handler, server)

end Handler

end SensorGateway.Forwarder
