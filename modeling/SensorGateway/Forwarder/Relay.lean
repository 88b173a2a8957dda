import SensorGateway.Bus.Dispatch
import SensorGateway.Forwarder.Server

/-!
# `SensorGateway.Forwarder.Relay`: packets of clients on the way to the device

What a client sends goes to the first source with the priority of the
server, unless its header is unsound. Whatever becomes of a packet, the
connection goes on.
-/

set_option autoImplicit false

namespace SensorGateway.Forwarder

variable {ι σ : Type} [DecidableEq ι]

/-- Passes a packet of a client on to the device. -/
def Server.relay (server : Server ι) (buses : Nat → Bus)
    (environments : Nat → Bus.Environment ι σ) (packet : Bytes) (rest : σ) : σ :=
  match server.relayTarget? packet with
  | none => rest
  | some bus =>
    ((buses bus).sendPacket (environments bus) packet server.settings.relayPriority
      ⟨server.tables bus, rest⟩).2.rest

/-- Passes packets on, one after the other. -/
def Server.relayAll (server : Server ι) (buses : Nat → Bus)
    (environments : Nat → Bus.Environment ι σ) (packets : List Bytes) (rest : σ) : σ :=
  packets.foldl (fun rest packet => server.relay buses environments packet rest) rest

end SensorGateway.Forwarder
