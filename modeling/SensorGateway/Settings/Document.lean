import SensorGateway.Settings.Basic
import SensorGateway.Schema.Description
import SensorGateway.Toml.Writer

/-!
# `SensorGateway.Settings.Document`: settings as a document

Settings are read from a document in which every key may be left out, and
written to one that shows every setting except those that have no value.
Numbers above `2 ^ 63 - 1` cannot be written.
-/

set_option autoImplicit false

namespace SensorGateway

/-! ### Reading -/

namespace Toml

def asUInt16? (value : Toml) : Option UInt16 := (value.asNat? 16).map UInt16.ofNat

def asInt32? (value : Toml) : Option Int32 :=
  (value.asInt? (-2 ^ 31) (2 ^ 31 - 1)).map Int32.ofInt

/-- A setting that may have no value. -/
def orNone {α : Type} (read : Toml → Option α) : Option Toml → Option (Option α) :=
  optional (fun value => (read value).map some) none

end Toml

namespace GatewaySettings

/-- The members in the order in which a list gives them. -/
def memberNames : List String :=
  ["bind_address", "sf_port", "message_type", "relay_priority", "outbound_buffer",
    "handshake_timeout_ms"]

/-- Reads the section. -/
def ofToml? (value : Toml) : Option GatewaySettings := do
  guard value.isRecord
  let member := value.member? memberNames
  let fallback : GatewaySettings := {}
  return {
    bindAddress := ← Toml.optional Toml.asString? fallback.bindAddress (member "bind_address")
    port := ← Toml.optional Toml.asUInt16? fallback.port (member "sf_port")
    messageType := ← Toml.optional Toml.asUInt8? fallback.messageType (member "message_type")
    relayPriority := ← Toml.optional Toml.asUInt8? fallback.relayPriority
      (member "relay_priority")
    outboundBuffer := ← Toml.optional Toml.asCount? fallback.outboundBuffer
      (member "outbound_buffer")
    handshakeTimeout := ← Toml.optional Toml.asCount? fallback.handshakeTimeout
      (member "handshake_timeout_ms") }

end GatewaySettings

namespace DeviceSettings

/-- The members in the order in which a list gives them. -/
def memberNames : List String :=
  ["name", "address", "wire_format", "device_id", "priority", "send_timeout_ms",
    "reconnect_interval_ms", "queue_capacity", "ack_type", "record_types", "record_file"]

/-- Reads the section. -/
def ofToml? (value : Toml) : Option DeviceSettings := do
  guard value.isRecord
  let member := value.member? memberNames
  let fallback : DeviceSettings := {}
  return {
    name := ← Toml.optional Toml.asString? fallback.name (member "name")
    address := ← Toml.optional Toml.asString? fallback.address (member "address")
    format := ← Toml.optional Toml.asFormat? fallback.format (member "wire_format")
    deviceId := ← Toml.orNone Toml.asInt32? (member "device_id")
    priority := ← Toml.optional Toml.asUInt8? fallback.priority (member "priority")
    sendTimeout := ← Toml.optional Toml.asCount? fallback.sendTimeout
      (member "send_timeout_ms")
    reconnectInterval := ← Toml.optional Toml.asCount? fallback.reconnectInterval
      (member "reconnect_interval_ms")
    queueCapacity := ← Toml.optional Toml.asCount? fallback.queueCapacity
      (member "queue_capacity")
    ackType := ← Toml.orNone Toml.asUInt8? (member "ack_type")
    recordTypes := ← Toml.optional (Toml.asList? Toml.asUInt8?) fallback.recordTypes
      (member "record_types")
    recordFile := ← Toml.orNone Toml.asString? (member "record_file") }

end DeviceSettings

/-- Reads the section. -/
def LoggingSettings.ofToml? (value : Toml) : Option LoggingSettings := do
  guard value.isRecord
  let fallback : LoggingSettings := {}
  return {
    level := ← Toml.optional Toml.asString? fallback.level (value.member? ["level"] "level") }

namespace Settings

/-- Reads a document. -/
def ofToml? (value : Toml) : Option Settings := do
  let member := value.member? ["schemas", "gateway", "device", "logging"]
  let fallback : Settings := {}
  return {
    schemas := ← Toml.optional Toml.asString? fallback.schemas (member "schemas")
    gateway := ← Toml.optional GatewaySettings.ofToml? fallback.gateway (member "gateway")
    device := ← Toml.optional DeviceSettings.ofToml? fallback.device (member "device")
    logging := ← Toml.optional LoggingSettings.ofToml? fallback.logging (member "logging") }

/-- Reads the text of a document. -/
def ofText (text : String) : Except SettingsError Settings :=
  match (Toml.parse? text).bind ofToml? with
  | some settings => .ok settings
  | none => .error .malformed

end Settings

/-! ### Writing -/

namespace Toml

/-- A natural number as a setting. -/
def Setting.count (n : Nat) : Setting := .integer n

/-- A setting under its key; nothing if it has no value. -/
def assignment? (key : String) (setting : Option Setting) : Section :=
  (setting.map fun value => (key, value)).toList

end Toml

/-- The section as it is written. -/
def GatewaySettings.toSection (settings : GatewaySettings) : Toml.Section :=
  [("bind_address", .text settings.bindAddress),
    ("sf_port", .count settings.port.toNat),
    ("message_type", .count settings.messageType.toNat),
    ("relay_priority", .count settings.relayPriority.toNat),
    ("outbound_buffer", .count settings.outboundBuffer),
    ("handshake_timeout_ms", .count settings.handshakeTimeout)]

/-- The section as it is written. -/
def DeviceSettings.toSection (settings : DeviceSettings) : Toml.Section :=
  [("name", .text settings.name),
    ("address", .text settings.address),
    ("wire_format", .text settings.format.label)] ++
  Toml.assignment? "device_id" (settings.deviceId.map fun id => .integer id.toInt) ++
  [("priority", .count settings.priority.toNat),
    ("send_timeout_ms", .count settings.sendTimeout),
    ("reconnect_interval_ms", .count settings.reconnectInterval),
    ("queue_capacity", .count settings.queueCapacity)] ++
  Toml.assignment? "ack_type" (settings.ackType.map fun type => .count type.toNat) ++
  [("record_types", .integers (settings.recordTypes.map fun type => (type.toNat : Int)))] ++
  Toml.assignment? "record_file" (settings.recordFile.map .text)

/-- The section as it is written. -/
def LoggingSettings.toSection (settings : LoggingSettings) : Toml.Section :=
  [("level", .text settings.level)]

namespace Settings

/-- The numbers that may be too large for a document. -/
def counts (settings : Settings) : List Nat :=
  [settings.gateway.outboundBuffer, settings.gateway.handshakeTimeout,
    settings.device.sendTimeout, settings.device.reconnectInterval,
    settings.device.queueCapacity]

/-- The largest number of a document. -/
def maxCount : Nat := 2 ^ 63 - 1

/-- Writes a document. -/
def toText (settings : Settings) : Except SettingsError String :=
  if settings.counts.all (· ≤ maxCount) then
    .ok (Toml.writeDocument [("schemas", .text settings.schemas)]
      [("gateway", settings.gateway.toSection),
        ("device", settings.device.toSection),
        ("logging", settings.logging.toSection)])
  else .error .unwritable

end Settings

end SensorGateway
