import Std.Sync.Mutex
import Std.Time.DateTime.Timestamp
import SensorGateway.Gateway
import SensorGateway.Link.Desk
import SensorGateway.Record.Lines
import SensorGateway.Sockets

/-!
# `SensorGateway.Running`: the threads of a gateway

One thread keeps up the link to the base station, one accepts clients,
and every connection has a thread that reads and one that writes. They
share a `Gateway` and a `Link.Desk`, each under a lock. What happens to
these two is said where they are defined; the threads only carry packets
to and fro and wait.
-/

set_option autoImplicit false

namespace SensorGateway

open Sockets (Moment Socket)

/-- What the threads of a gateway share. -/
structure Running where
  gateway : Std.Mutex Gateway
  /-- Signalled after every change of the gateway. -/
  changed : Std.Condvar
  desk : Std.Mutex Link.Desk
  /-- The gateway was not told to stop. -/
  proceeds : IO.Ref Bool
  /-- Keeps a record. Says whether that went well. -/
  keep : String → Record → IO Bool
  startup : Startup

namespace Running

/-- A gateway before anything has happened. -/
def ofStartup (startup : Startup) (keep : String → Record → IO Bool) : IO Running := do
  let outbox : Link.Outbox :=
    { format := startup.link.format
      ackType := startup.link.ackType
      queue := Link.Queue.ofCapacity startup.link.queueCapacity }
  return {
    gateway := ← Std.Mutex.new (Gateway.ofStartup startup)
    changed := ← Std.Condvar.new
    desk := ← Std.Mutex.new { outbox }
    proceeds := ← IO.mkRef true
    keep
    startup }

/-- Asks the gateway. -/
def ask {α : Type} (running : Running) (question : Gateway → α) : IO α :=
  running.gateway.atomically do return question (← get)

/-- Changes the gateway. -/
def change {α : Type} (running : Running) (step : Gateway → α × Gateway) : IO α := do
  let result ← running.gateway.atomically (modifyGet step)
  running.changed.notifyAll
  return result

/-! ### At the queue of the link -/

/-- How long those who wait sleep before they look again, in
milliseconds. -/
def nap : UInt32 := 5

/-- Waits for the outcome of a task for as long as `patient` says so. -/
partial def await (running : Running) (patient : IO Bool) (task : Nat) :
    IO (Option Link.Outcome) := do
  match ← running.desk.atomically (modifyGet fun desk => desk.pickUp task) with
  | some outcome => return some outcome
  | none =>
    if ← patient then
      IO.sleep nap
      running.await patient task
    else running.desk.atomically (modifyGet fun desk => desk.giveUp task)

/-- Does something at the queue. -/
def perform (running : Running) (patient : IO Bool)
    (operation : Link.Outbox → Nat → Link.Finished × Link.Outbox) : IO (Option Link.Outcome) := do
  running.await patient
    (← running.desk.atomically (modifyGet fun desk => desk.start operation))

/-- The time for one call of the link is not over, and `willing` agrees. -/
def patience (running : Running) (willing : IO Bool) : IO (IO Bool) := do
  let deadline : Moment := (← IO.monoMsNow) + running.startup.settings.device.sendTimeout
  return do
    if deadline ≤ (← IO.monoMsNow) then return false
    willing

/-- Carries out what a packet brought about. -/
def carryOut (running : Running) (willing : IO Bool) (effects : Effects) : IO Unit := do
  for acknowledgement in effects.acknowledgements do
    let patient ← running.patience willing
    discard <| running.perform patient fun outbox task =>
      outbox.acknowledge task acknowledgement.device acknowledgement.timestamp
        acknowledgement.priority
  for (packet, priority) in effects.packets do
    let patient ← running.patience willing
    discard <| running.perform patient fun outbox task => outbox.send task packet priority

/-! ### The base station -/

/-- Takes a packet of the base station. Its records are kept while nobody
else sees the gateway; if that fails, the packet is taken once more in a
world in which records cannot be kept. -/
def receive (running : Running) (packet : Bytes) : IO Unit := do
  let now := (← Std.Time.Timestamp.now).toMillisecondsSinceUnixEpoch.toInt
  let effects ← running.gateway.atomically do
    let before ← get
    let (effects, after) := before.receive true now packet
    let kept ← effects.records.mapM fun (source, record) => running.keep source record
    let (effects, after) :=
      if kept.all id then (effects, after) else before.receive false now packet
    set after
    return effects
  running.changed.notifyAll
  running.carryOut (return true) effects

/-- Writes what waits to the base station until the connection is over. -/
partial def writeToDevice (running : Running) (socket : Socket) (isOver : IO.Ref Bool) :
    IO Unit := do
  match ← running.perform (return !(← isOver.get)) Link.Outbox.next with
  | some (.packet (some packet)) =>
    if ← Sockets.sendPacket socket packet then running.writeToDevice socket isOver
    else isOver.set true
  | _ => isOver.set true

/-- Reads packets of the base station until the connection is over. -/
partial def readFromDevice (running : Running) (socket : Socket) (isOver : IO.Ref Bool)
    (buffer : Bytes) : IO Unit := do
  let proceeds : IO Bool := do
    if ← isOver.get then return false
    running.proceeds.get
  unless ← proceeds do return
  match ← Sockets.nextPacket socket proceeds buffer with
  | (.packet packet, rest) =>
    running.receive packet
    running.readFromDevice socket isOver rest
  | _ => return

/-- One connection to the base station. -/
def serveDevice (running : Running) : IO Unit := do
  let link := running.startup.link
  let socket ← Sockets.connect link.address
  match ← Sockets.greet socket running.proceeds.get link.handshakeTimeout with
  | .error _ => return
  | .ok () =>
    let isOver ← IO.mkRef false
    let writer ← IO.asTask (do
      running.writeToDevice socket isOver
      Sockets.finish socket) .dedicated
    running.readFromDevice socket isOver []
    isOver.set true
    discard <| IO.wait writer

/-- Connects to the base station again and again. -/
partial def keepLink (running : Running) : IO Unit := do
  unless ← running.proceeds.get do return
  try running.serveDevice catch _ => pure ()
  unless ← running.proceeds.get do return
  IO.sleep (min running.startup.link.reconnectInterval (2 ^ 32 - 1)).toUInt32
  running.keepLink

/-! ### Clients -/

/-- Waits for a packet for a client while it is live. -/
def nextFor (running : Running) (id : Nat) : IO (Option Bytes) :=
  running.gateway.atomicallyOnce running.changed
    (do return (← get).hasNews id)
    (modifyGet fun gateway => gateway.nextFor id)

/-- Writes what waits for a client while it is live. -/
partial def writeToClient (running : Running) (id : Nat) (socket : Socket)
    (isOver : IO.Ref Bool) : IO Unit := do
  match ← running.nextFor id with
  | none => return
  | some packet =>
    if ← Sockets.sendPacket socket packet then running.writeToClient id socket isOver
    else isOver.set true

/-- Reads packets of a client while it is live. -/
partial def readFromClient (running : Running) (id : Nat) (socket : Socket)
    (isOver : IO.Ref Bool) (buffer : Bytes) : IO Unit := do
  let proceeds : IO Bool := do
    if ← isOver.get then return false
    running.ask (·.isLive id)
  unless ← proceeds do return
  match ← Sockets.nextPacket socket proceeds buffer with
  | (.packet packet, rest) =>
    running.carryOut proceeds (← running.ask (·.relay packet))
    running.readFromClient id socket isOver rest
  | _ => return

/-- One connection of a client. -/
def serveClient (running : Running) (socket : Socket) : IO Unit := do
  let peer := Sockets.ofNativeAddress (← socket.getPeerName)
  let id ← running.change Gateway.accept
  let handle (handler : Forwarder.Handler) (event : Forwarder.ClientEvent) :=
    running.change fun gateway => gateway.handle handler event
  let greeted ← Sockets.greet socket running.proceeds.get
    running.startup.server.handshakeTimeout
  let handler ← handle (.start id id peer) (.greeted greeted.isOk)
  let handler ← handle handler .attached
  if handler.connection.state = .streaming then
    let isOver ← IO.mkRef false
    let writer ← IO.asTask (do
      running.writeToClient id socket isOver
      Sockets.finish socket) .dedicated
    try running.readFromClient id socket isOver [] catch _ => pure ()
    discard <| handle handler .ended
    discard <| IO.wait writer

/-- The thread of a connection. -/
abbrev ClientThread := Task (Except IO.Error Unit)

/-- Accepts clients until the gateway is told to stop. Gives the threads
that may still run. -/
partial def acceptClients (running : Running) (server : Std.Async.TCP.Socket.Server)
    (threads : List ClientThread) : IO (List ClientThread) := do
  unless ← running.proceeds.get do return threads
  match ← (try server.tryAccept catch _ => return none) with
  | none =>
    IO.sleep nap
    running.acceptClients server threads
  | some socket =>
    try socket.noDelay catch _ => pure ()
    let thread ← IO.asTask (running.serveClient socket) .dedicated
    let others ← threads.filterM fun other => return !(← IO.hasFinished other)
    running.acceptClients server (thread :: others)

/-- Serves clients until the gateway is told to stop, and waits until all
connections have ended. -/
def serveClients (running : Running) : IO Unit := do
  let server ← Sockets.listenAt running.startup.server.bindAddress
  let threads ← running.acceptClients server []
  running.change fun gateway => ((), gateway.shutdownAll)
  for thread in threads do
    discard <| IO.wait thread

/-! ### The whole -/

/-- Runs until the gateway is told to stop. Says whether clients could be
served. -/
def run (running : Running) : IO Bool := do
  let link ← IO.asTask running.keepLink .dedicated
  let served ← try
      running.serveClients
      pure true
    catch _ => pure false
  running.proceeds.set false
  running.desk.atomically (modify Link.Desk.close)
  discard <| IO.wait link
  return served

end Running

end SensorGateway
