import SensorGateway.Forwarder.Client
import SensorGateway.Forwarder.ClientQueue
import SensorGateway.Forwarder.Relay
import SensorGateway.Startup

/-!
# `SensorGateway.Gateway`: the running gateway

A gateway has one bus. On it listen the recorders of the settings and,
for the message type offered to clients, one listener for every live
connection. `Gateway.receive` takes a packet of the base station and
`Gateway.relay` one of a client. Both say in `Effects` what is to be done,
and the outside carries it out.
-/

set_option autoImplicit false

namespace SensorGateway

/-- Who listens on the bus of a gateway. -/
inductive Subscriber where
  /-- The recorder at a place of the list of recorders. -/
  | recorder (index : Nat)
  /-- The listener of a connection. -/
  | client (id : Nat)
  deriving Repr, DecidableEq

/-- The acknowledgement of a message. -/
structure Acknowledgement where
  device : Option Int
  timestamp : Int
  priority : Priority
  deriving Repr, DecidableEq

/-- Packets that wait, for each live connection. -/
abbrev Queues := List (Nat × Forwarder.ClientQueue)

namespace Queues

/-- The queue of a connection. A connection that is not live takes
nothing. -/
def queue (queues : Queues) (id : Nat) : Forwarder.ClientQueue :=
  (queues.lookup id).getD { capacity := 0, isOpen := false }

/-- Drops the queue of a connection and all that waits in it. -/
def remove (queues : Queues) (id : Nat) : Queues := queues.filter fun entry => entry.1 != id

/-- Gives a connection another queue. -/
def set (queues : Queues) (id : Nat) (queue : Forwarder.ClientQueue) : Queues :=
  (id, queue) :: queues.remove id

end Queues

/-- What a packet brings about, oldest first. -/
structure Effects where
  queues : Queues := []
  /-- Records can be kept. -/
  keeps : Bool := true
  /-- Records to be kept, with their sources. -/
  records : List (String × Record) := []
  acknowledgements : List Acknowledgement := []
  /-- Packets for the base station. -/
  packets : List (Bytes × Priority) := []

/-- How the listeners and the link of a gateway react. -/
def Effects.environment (recorders : List Recorder) : Bus.Environment Subscriber Effects where
  react subscriber delivery world :=
    match subscriber with
    | .recorder index =>
      let source := ((recorders[index]?).map Recorder.name).getD ""
      (if world.rest.keeps then .handled else .failed, { world with rest := { world.rest with
        records := world.rest.records ++ [(source, delivery.record)] } })
    | .client id =>
      let (verdict, queue) := (world.rest.queues.queue id).deliver delivery
      (verdict, { world with rest := { world.rest with
        queues := world.rest.queues.set id queue } })
  send packet priority effects :=
    (.now (.ok true), { effects with packets := effects.packets ++ [(packet, priority)] })
  acknowledge device timestamp priority effects :=
    (.now (.ok ()), { effects with
      acknowledgements := effects.acknowledgements ++ [⟨device, timestamp, priority⟩] })

/-- A gateway at work. -/
structure Gateway where
  startup : Startup
  server : Forwarder.Server Subscriber
  queues : Queues := []

namespace Gateway

/-- The bus. -/
def bus (gateway : Gateway) : Bus where
  name := gateway.startup.link.name
  registry := gateway.startup.registry
  format := gateway.startup.link.format
  sendTimeout := gateway.startup.settings.device.sendTimeout

/-- How listeners and link react. -/
def environment (gateway : Gateway) : Bus.Environment Subscriber Effects :=
  Effects.environment gateway.startup.recorders

/-- The recorders on the bus, in order, numbered from `index` on. -/
def registerRecorders : Nat → List Recorder → Bus.Listeners Subscriber → Bus.Listeners Subscriber
  | _, [], listeners => listeners
  | index, recorder :: rest, listeners =>
    registerRecorders (index + 1) rest (listeners.register recorder.type (.recorder index)).2

/-- The number of the only bus. -/
def theBus : Nat := 0

/-- A gateway without connections. -/
def ofStartup (startup : Startup) : Gateway :=
  let server : Forwarder.Server Subscriber :=
    { settings := startup.server
      tables := fun _ => registerRecorders 0 startup.recorders Bus.Listeners.empty }
  { startup, server := server.addSource theBus }

/-! ### Packets -/

/-- Takes a packet of the base station that arrived at a time, in a world
in which records can be kept or not. The message is acknowledged if all
its listeners handled it. -/
def receive (gateway : Gateway) (keeps : Bool) (timestamp : Int) (packet : Bytes) :
    Effects × Gateway :=
  let link := gateway.startup.link
  let (_, world) := gateway.bus.dispatchPacket gateway.environment
    (link.deviceId.map Int32.toInt) timestamp packet link.priority
    ⟨gateway.server.tables theBus, { queues := gateway.queues, keeps }⟩
  (world.rest, { gateway with queues := world.rest.queues })

/-- Takes a packet of a client. -/
def relay (gateway : Gateway) (packet : Bytes) : Effects :=
  gateway.server.relay (fun _ => gateway.bus) (fun _ => gateway.environment) packet
    { queues := gateway.queues }

/-! ### Connections -/

/-- Numbers a connection that was accepted. -/
def accept (gateway : Gateway) : Nat × Gateway :=
  let (ordinal, server) := gateway.server.accept
  (ordinal, { gateway with server })

/-- Handles an event of a connection. A connection that becomes live gets
a queue, and one that ends loses it. -/
def handle (gateway : Gateway) (handler : Forwarder.Handler) (event : Forwarder.ClientEvent) :
    Forwarder.Handler × Gateway :=
  let (handled, server) := handler.handle (Subscriber.client handler.id) gateway.server event
  let queues : Queues := match handler.connection.state, handled.connection.state with
    | .isOpen, .streaming =>
      gateway.queues.set handler.id { capacity := gateway.startup.server.outboundBuffer }
    | .streaming, .closed => gateway.queues.remove handler.id
    | _, _ => gateway.queues
  (handled, { gateway with server, queues })

/-- The connection is live and was not told to stop. -/
def isLive (gateway : Gateway) (id : Nat) : Bool := gateway.server.liveIds.contains id

/-- The writer of a connection need not wait: there is a packet, or there
will be none any more. -/
def hasNews (gateway : Gateway) (id : Nat) : Bool :=
  !gateway.isLive id || (gateway.queues.queue id).packets != []

/-- Takes the packet that a live connection writes next. -/
def nextFor (gateway : Gateway) (id : Nat) : Option Bytes × Gateway :=
  match (gateway.queues.queue id).next with
  | (some packet, queue) =>
    if gateway.isLive id then
      (some packet, { gateway with queues := gateway.queues.set id queue })
    else (none, gateway)
  | (none, _) => (none, gateway)

/-- Ends all connections and attaches no other one. -/
def shutdownAll (gateway : Gateway) : Gateway :=
  { gateway with server := gateway.server.shutdownAll }

end Gateway

end SensorGateway
