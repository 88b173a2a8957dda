import Std.Async.DNS
import Std.Async.TCP
import Std.Async.Timer
import SensorGateway.Forwarder.Stream
import SensorGateway.Link.Endpoint

/-!
# `SensorGateway.Sockets`: byte streams of the operating system

Everything here acts on the outside world and decides nothing. Bytes are
handed on as they come; what they mean is said by
`SensorGateway.Forwarder.Framing` and `SensorGateway.Forwarder.Stream`.
-/

set_option autoImplicit false

namespace SensorGateway.Sockets

open Std.Async (Selectable Selector)
open Forwarder (PacketResult ReadResult StreamError)

/-- One end of a connection. -/
abbrev Socket := Std.Async.TCP.Socket.Client

/-- An address in the form of the operating system. -/
def nativeAddress (address : SocketAddress) : Std.Net.SocketAddress :=
  match address.host with
  | .v4 first second third fourth =>
    .v4 ⟨.ofParts first second third fourth, address.port⟩
  | .v6 groups _ => .v6 ⟨⟨Vector.ofFn fun i => groups.getD i.val 0⟩, address.port⟩

/-- The address of a partner. -/
def ofNativeAddress : Std.Net.SocketAddress → SocketAddress
  | .v4 native =>
    let octets := native.addr.octets
    ⟨.v4 octets[0] octets[1] octets[2] octets[3], native.port⟩
  | .v6 native => ⟨.v6 native.addr.segments.toList 0, native.port⟩

/-- The addresses to be tried for an endpoint. -/
def addressesOf : Link.Endpoint → IO (List Std.Net.SocketAddress)
  | .address address => return [nativeAddress address]
  | .named host port => do
    let found ← (Std.Async.DNS.getAddrInfo host (toString port.toNat)).block
    return found.toList.map fun
      | .v4 address => .v4 ⟨address, port⟩
      | .v6 address => .v6 ⟨address, port⟩

/-- Connects to the first address that answers. -/
def connectFirst : List Std.Net.SocketAddress → IO Socket
  | [] => throw (.userError "no address to connect to")
  | address :: rest => do
    try
      let socket ← Std.Async.TCP.Socket.Client.mk
      (socket.connect address).block
      return socket
    catch error => if rest.isEmpty then throw error else connectFirst rest

/-- Connects to an endpoint given as text. -/
def connect (endpoint : String) : IO Socket := do
  match Link.Endpoint.parse? endpoint with
  | none => throw (.userError "invalid socket address")
  | some endpoint => connectFirst (← addressesOf endpoint)

/-- Sends bytes. -/
def send (socket : Socket) (bytes : Bytes) : IO Unit := (socket.send ⟨bytes.toArray⟩).block

/-- Sends a packet behind its length. Says whether that went well. -/
def sendPacket (socket : Socket) (packet : Bytes) : IO Bool := do
  match Forwarder.encodePacket packet with
  | .error _ => return false
  | .ok bytes =>
    try
      send socket bytes
      return true
    catch _ => return false

/-- Waits a number of milliseconds for up to `size` bytes. -/
def receive (socket : Socket) (size milliseconds : Nat) : IO ReadResult := do
  try
    let pause ← (Selector.sleep (.ofNat milliseconds)).block
    (Selectable.one #[
      .case (socket.recvSelector size.toUInt64) fun
        | some bytes => return .bytes bytes.data.toList
        | none => return .ended,
      .case pause fun _ => return .pending]).block
  catch _ => return .failed

/-- Milliseconds on a clock that never goes back. -/
abbrev Moment := Nat

/-- How long a reader waits before it looks around, in milliseconds. -/
def glance : Nat := 200

/-- Waits for `missing` more bytes behind those that are there, until a
moment or until `proceeds` says to give up. -/
partial def gatherUntil (socket : Socket) (proceeds : IO Bool) (deadline : Moment)
    (missing : Nat) (bytes : Bytes) : IO Forwarder.Stream.Gathered := do
  if missing = 0 then return .all bytes
  let left := deadline - (← IO.monoMsNow)
  match ← receive socket missing (min glance left) with
  | .bytes chunk =>
    gatherUntil socket proceeds deadline (missing - chunk.length) (bytes ++ chunk)
  | .pending =>
    if glance < left && (← proceeds) then gatherUntil socket proceeds deadline missing bytes
    else return .pending missing bytes
  | .ended | .failed => return .broken

/-- Exchanges greetings within a number of milliseconds. -/
def greet (socket : Socket) (proceeds : IO Bool) (limit : Nat) :
    IO (Except StreamError Unit) := do
  try
    send socket Forwarder.greeting
    let deadline := (← IO.monoMsNow) + limit
    return Forwarder.Stream.judge limit
      (← gatherUntil socket proceeds deadline Forwarder.greeting.length [])
  catch _ => return .error .io

/-- The next packet of a socket, with the bytes received behind it. Gives
up, with `pending`, when `proceeds` says so. -/
partial def nextPacket (socket : Socket) (proceeds : IO Bool) (buffer : Bytes) :
    IO (PacketResult × Bytes) := do
  match Forwarder.decodePacket buffer with
  | .ok (packet, rest) => return (.packet packet, rest)
  | .error _ =>
    unless ← proceeds do return (.pending, buffer)
    match ← receive socket Forwarder.chunkLimit glance with
    | .bytes chunk => nextPacket socket proceeds (buffer ++ chunk)
    | .pending => nextPacket socket proceeds buffer
    | .failed => return (.error .io, buffer)
    | .ended =>
      return (if buffer.isEmpty then .ended else .error (.truncatedPacket buffer.length), buffer)

/-- Says that nothing more will be sent. -/
def finish (socket : Socket) : IO Unit := do
  try socket.shutdown.block catch _ => return

/-- A socket that takes connections at an address. -/
def listenAt (address : SocketAddress) : IO Std.Async.TCP.Socket.Server := do
  let server ← Std.Async.TCP.Socket.Server.mk
  server.bind (nativeAddress address)
  server.listen 1024
  return server

end SensorGateway.Sockets
