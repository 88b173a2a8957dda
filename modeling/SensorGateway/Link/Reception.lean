import SensorGateway.Bus.Dispatch
import SensorGateway.Forwarder.Stream
import SensorGateway.Settings.Basic

/-!
# `SensorGateway.Link.Reception`: packets of the base station on the bus

While a connection is up, every packet that arrives is dispatched on the
bus, in order, with the device and the priority of the link. Whatever
becomes of one packet, the next one follows.

A connection ends where its stream ends, where it is told to stop, or
where its writer stops. `receive` says what was dispatched by then.
-/

set_option autoImplicit false

namespace SensorGateway.Link

open Forwarder (Arrival PacketResult StreamError readPacket)

/-- Why a connection ended. -/
inductive Ending where
  /-- The stream ended between two packets. -/
  | closed
  | failed (error : StreamError)
  /-- The link was told to stop, or its writer stopped. -/
  | stopped
  deriving Repr, DecidableEq

/-- The packets that are read from a stream before `patience` runs out.
Every packet and every moment without one takes from it; a link that is
told to stop, or whose writer stops, loses all of it. -/
def receive : Nat → Bytes → List Arrival → List Bytes × Ending
  | 0, _, _ => ([], .stopped)
  | patience + 1, buffer, arrivals =>
    match readPacket buffer arrivals with
    | (.packet packet, buffer, arrivals) =>
      let (packets, ending) := receive patience buffer arrivals
      (packet :: packets, ending)
    | (.ended, _, _) => ([], .closed)
    | (.error error, _, _) => ([], .failed error)
    | (.pending, buffer, arrivals) => receive patience buffer arrivals

variable {ι σ : Type}

/-- Dispatches packets one after the other; `clock` gives the time at
which each of them arrives. -/
def dispatchAll (bus : Bus) (environment : Bus.Environment ι σ) (settings : LinkSettings)
    (clock : Nat → Int) : Nat → List Bytes → Bus.World ι σ → Bus.World ι σ
  | _, [], world => world
  | index, packet :: rest, world =>
    let (_, world) := bus.dispatchPacket environment (settings.deviceId.map Int32.toInt)
      (clock index) packet settings.priority world
    dispatchAll bus environment settings clock (index + 1) rest world

end SensorGateway.Link
