import SensorGateway.Bus.Listeners
import SensorGateway.Bus.Plugin
import SensorGateway.Record.Decode
import SensorGateway.Schema.Registry

/-!
# `SensorGateway.Bus.Dispatch`: messages in, commands out

A bus hands every message of a device to the listeners of its type and
sends commands to the device.

Inbound, a message is decoded and delivered to the listeners registered
at that time, in order of registration. A listener that fails does not
keep the message from the others. If there are listeners and all of them
handled the message, it is acknowledged.

Outbound, a command is encoded, wrapped for every device and handed to
the transport. Nothing reaches the transport if that fails.

What listeners and transport do is left open: they react to a state of
which only the table of listeners is known. A listener may change that
table, which the delivery under way does not notice.
-/

set_option autoImplicit false

namespace SensorGateway

namespace Bus

/-- A message as listeners see it. -/
structure Delivery where
  type : MessageType
  device : Option Int
  /-- When the message arrived, in milliseconds. -/
  timestamp : Int
  /-- Everything that was received, the header included. -/
  raw : Bytes
  record : Record
  deriving Repr, DecidableEq

/-- What becomes of a delivery. -/
inductive Verdict where
  | handled
  | failed
  /-- The listener broke down. -/
  | crashed
  deriving Repr, DecidableEq

/-- What a bus reports. -/
inductive BusError where
  | schema (error : SchemaError)
  | decode (error : DecodeError)
  | encode (error : EncodeError)
  | packet (error : PacketError)
  | transport (error : TransportError)
  | plugin (error : PluginError)
  deriving Repr, DecidableEq

/-- The text an operator sees. -/
def BusError.message : BusError → String
  | .schema error => error.message
  | .decode error => error.message
  | .encode error => error.message
  | .packet error => error.message
  | .transport error => error.message
  | .plugin error => error.message

/-- The table of listeners, and the rest of the world. -/
structure World (ι σ : Type) where
  listeners : Listeners ι
  rest : σ

/-- How listeners take messages and the transport takes calls. -/
structure Environment (ι σ : Type) where
  /-- What a listener does with a delivery. -/
  react : ι → Delivery → World ι σ → Verdict × World ι σ
  /-- What the transport does with a packet; it may refuse it. -/
  send : Bytes → Priority → σ → Reply Bool × σ
  /-- What the transport does with the acknowledgement of a message of a
  device that arrived at a time. -/
  acknowledge : Option Int → Int → Priority → σ → Reply Unit × σ

end Bus

/-- What is fixed about a bus. -/
structure Bus where
  name : String := "bus"
  registry : Registry
  format : WireFormat := .current
  /-- How long a call of the transport may take, in milliseconds. -/
  sendTimeout : Nat := 5000

namespace Bus

variable {ι σ : Type}

/-! ### Inbound -/

/-- Delivers a message to listeners one after the other. -/
def deliver (environment : Environment ι σ) (delivery : Delivery) :
    List ι → World ι σ → List Verdict × World ι σ
  | [], world => ([], world)
  | listener :: rest, world =>
    let (verdict, world) := environment.react listener delivery world
    let (verdicts, world) := deliver environment delivery rest world
    (verdict :: verdicts, world)

/-- Acknowledges a message, and waits for that as long as the bus may. -/
def acknowledge (bus : Bus) (environment : Environment ι σ) (device : Option Int)
    (timestamp : Int) (priority : Priority) (world : World ι σ) :
    Except BusError Bool × World ι σ :=
  let (reply, rest) := environment.acknowledge device timestamp priority world.rest
  (((reply.within bus.sendTimeout).map fun _ => true).mapError .transport,
    { world with rest })

/-- Delivers a message to its listeners and acknowledges it if all of them
handled it. Without listeners nothing happens. -/
def distribute (bus : Bus) (environment : Environment ι σ) (delivery : Delivery)
    (priority : Priority) (world : World ι σ) : Except BusError Bool × World ι σ :=
  match world.listeners.list delivery.type with
  | [] => (.ok false, world)
  | listeners =>
    let (verdicts, world) := deliver environment delivery listeners world
    if verdicts.all (· == .handled) then
      bus.acknowledge environment delivery.device delivery.timestamp priority world
    else (.ok false, world)

/-- Decodes a frame as a message of a type and distributes it. Says whether
the message was acknowledged. -/
def dispatch (bus : Bus) (environment : Environment ι σ) (type : MessageType)
    (device : Option Int) (timestamp : Int) (frame : Frame) (priority : Priority)
    (world : World ι σ) : Except BusError Bool × World ι σ :=
  match bus.registry.lookup type with
  | .error error => (.error (.schema error), world)
  | .ok schema =>
    match schema.decode frame timestamp device with
    | .error error => (.error (.decode error), world)
    | .ok record =>
      bus.distribute environment ⟨type, device, timestamp, frame.buffer, record⟩ priority world

/-- Takes a packet apart and dispatches its payload. Listeners see the
whole packet. -/
def dispatchPacket (bus : Bus) (environment : Environment ι σ) (device : Option Int)
    (timestamp : Int) (packet : Bytes) (priority : Priority) (world : World ι σ) :
    Except BusError Bool × World ι σ :=
  match bus.format.payloadFrame packet with
  | .error error => (.error (.packet error), world)
  | .ok (type, frame) => bus.dispatch environment type device timestamp frame priority world

/-! ### Outbound -/

/-- Hands a packet to the transport. Says whether it was accepted. -/
def sendPacket (bus : Bus) (environment : Environment ι σ) (packet : Bytes)
    (priority : Priority) (world : World ι σ) : Except BusError Bool × World ι σ :=
  let (reply, rest) := environment.send packet priority world.rest
  ((reply.within bus.sendTimeout).mapError .transport, { world with rest })

/-- The packet that parameters make up with the schema of a type,
addressed to every device. -/
def commandPacket (bus : Bus) (type : MessageType) (params : Parameters) :
    Except BusError Bytes := do
  let schema ← (bus.registry.lookup type).mapError .schema
  (schema.encodePacket params WireFormat.broadcast bus.format).mapError .encode

/-- Encodes parameters and sends the packet. -/
def sendCommand (bus : Bus) (environment : Environment ι σ) (type : MessageType)
    (params : Parameters) (priority : Priority) (world : World ι σ) :
    Except BusError Bool × World ι σ :=
  match bus.commandPacket type params with
  | .error error => (.error error, world)
  | .ok packet => bus.sendPacket environment packet priority world

/-- Sends what a command says. -/
def execute (bus : Bus) (environment : Environment ι σ) (command : Command)
    (priority : Priority) (world : World ι σ) : Except BusError Bool × World ι σ :=
  match command with
  | .encode type params => bus.sendCommand environment type params priority world
  | .packet packet => bus.sendPacket environment packet priority world

/-- Sends what a plugin makes of an action, with the plugin's priority. -/
def upload (bus : Bus) (environment : Environment ι σ) (plugin : Plugin) (action : String)
    (names values : List String) (world : World ι σ) : Except BusError Bool × World ι σ :=
  match plugin.command action names values with
  | .error error => (.error (.plugin error), world)
  | .ok command => bus.execute environment command plugin.priority world

end Bus

end SensorGateway
