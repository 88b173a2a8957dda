import SensorGateway.Address
import SensorGateway.Bus.Transport
import SensorGateway.Packet
import SensorGateway.Text.Blank

/-!
# `SensorGateway.Settings.Basic`: what an operator can set

Settings come in three sections: the port offered to clients, the base
station, and diagnostics. Everything has a default. `Settings.server` and
`Settings.link` check the settings that the two halves of the gateway
need and hand them over.
-/

set_option autoImplicit false

namespace SensorGateway

/-- The port offered to clients. -/
structure GatewaySettings where
  bindAddress : String := "0.0.0.0"
  port : UInt16 := 9002
  /-- Messages of this type go to every client. -/
  messageType : MessageType := 0
  /-- The priority of what clients send to the base station. -/
  relayPriority : Priority := 20
  /-- How many packets wait for one client at most. -/
  outboundBuffer : Nat := 64
  handshakeTimeout : Nat := 5000
  deriving Repr, DecidableEq

/-- The base station. -/
structure DeviceSettings where
  name : String := "base-station"
  /-- Host and port of the base station. -/
  address : String := "127.0.0.1:9001"
  format : WireFormat := .current
  deviceId : Option Int32 := none
  /-- The priority of commands and acknowledgements. -/
  priority : Priority := defaultPriority
  sendTimeout : Nat := 5000
  reconnectInterval : Nat := 2000
  queueCapacity : Nat := 256
  /-- The message type of acknowledgement packets; without one none are
  sent. -/
  ackType : Option MessageType := none
  /-- The messages whose records are kept. -/
  recordTypes : List MessageType := []
  /-- The file records are appended to; without one they are printed. -/
  recordFile : Option String := none
  deriving Repr, DecidableEq

/-- Diagnostics. -/
structure LoggingSettings where
  level : String := "info"
  deriving Repr, DecidableEq

/-- Everything an operator can set. Time spans are in milliseconds. -/
structure Settings where
  /-- The file with the schema descriptions. -/
  schemas : String := "schemas.toml"
  gateway : GatewaySettings := {}
  device : DeviceSettings := {}
  logging : LoggingSettings := {}
  deriving Repr, DecidableEq

/-- Why settings cannot be read, written or used. -/
inductive SettingsError where
  /-- The file is there but cannot be read. -/
  | unreadable
  /-- The text is no well-formed document of the right shape. -/
  | malformed
  /-- A number is too large for a document. -/
  | unwritable
  | invalidAddress (address : String)
  | invalidValue (key reason : String)
  deriving Repr, DecidableEq

/-- The text an operator sees. -/
def SettingsError.message : SettingsError → String
  | .unreadable => "cannot read config"
  | .malformed => "failed to parse config"
  | .unwritable => "failed to serialize config"
  | .invalidAddress address =>
    s!"invalid address '{address}': invalid socket address syntax"
  | .invalidValue key reason => s!"invalid value for '{key}': {reason}"

/-- What the server for clients needs. -/
structure ServerSettings where
  bindAddress : SocketAddress
  messageType : MessageType
  format : WireFormat
  relayPriority : Priority
  outboundBuffer : Nat
  handshakeTimeout : Nat
  deriving Repr, DecidableEq

/-- What the link to the base station needs. -/
structure LinkSettings where
  name : String
  address : String
  format : WireFormat := .current
  deviceId : Option Int32 := none
  priority : Priority := defaultPriority
  ackType : Option MessageType := none
  queueCapacity : Nat
  reconnectInterval : Nat
  handshakeTimeout : Nat
  deriving Repr, DecidableEq

namespace Settings

/-- What the server needs. The address is checked before the buffer. -/
def server (settings : Settings) : Except SettingsError ServerSettings := do
  let gateway := settings.gateway
  let address := s!"{gateway.bindAddress}:{gateway.port.toNat}"
  match SocketAddress.parse? address with
  | none => throw (.invalidAddress address)
  | some bindAddress =>
    if gateway.outboundBuffer = 0 then
      throw (.invalidValue "gateway.outbound_buffer" "must be at least 1")
    return {
      bindAddress
      messageType := gateway.messageType
      format := settings.device.format
      relayPriority := gateway.relayPriority
      outboundBuffer := gateway.outboundBuffer
      handshakeTimeout := gateway.handshakeTimeout }

/-- What the link needs. The capacity is checked before the address. -/
def link (settings : Settings) : Except SettingsError LinkSettings := do
  let device := settings.device
  if device.queueCapacity = 0 then
    throw (.invalidValue "device.queue_capacity" "must be at least 1")
  if (Text.trim device.address).isEmpty then
    throw (.invalidValue "device.address" "must not be empty")
  return {
    name := device.name
    address := device.address
    format := device.format
    deviceId := device.deviceId
    priority := device.priority
    ackType := device.ackType
    queueCapacity := device.queueCapacity
    reconnectInterval := device.reconnectInterval
    handshakeTimeout := settings.gateway.handshakeTimeout }

end Settings

end SensorGateway
