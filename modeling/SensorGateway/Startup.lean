import SensorGateway.CommandLine
import SensorGateway.Settings.Document

/-!
# `SensorGateway.Startup`: from options to a gateway ready to run

Startup reads the settings and the schemas, checks what the two halves
of the gateway need, opens the record file and says which messages are
recorded. The first step that fails ends it.
-/

set_option autoImplicit false

namespace SensorGateway

/-- What is found under a path. -/
inductive FileContent where
  | missing
  /-- Something is there, but it cannot be read as text. -/
  | unreadable
  | text (content : String)
  deriving Repr, DecidableEq

/-- The files a gateway sees. -/
structure FileView where
  read : String → FileContent
  /-- The file can be opened at its end for writing, or be created. -/
  appendable : String → Bool

/-- Why a gateway does not start. -/
inductive StartupError where
  | config (path : String) (cause : SettingsError)
  | schemas (path : String) (cause : SchemaError)
  | settings (cause : SettingsError)
  | recordFile (path : String)
  deriving Repr, DecidableEq

/-- The text an operator sees. -/
def StartupError.message : StartupError → String
  | .config path _ => s!"failed to load config from {path}"
  | .schemas path _ => s!"failed to load schemas from {path}"
  | .settings cause => cause.message
  | .recordFile path => s!"failed to open record file {path}"

/-- Reads settings from a file. A missing file stands for the defaults. -/
def Settings.ofFile : FileContent → Except SettingsError Settings
  | .missing => .ok {}
  | .unreadable => .error .unreadable
  | .text content => Settings.ofText content

/-- Reads a registry from a file. -/
def Registry.ofFile : FileContent → Except SchemaError Registry
  | .text content => Registry.ofText content
  | _ => .error .unreadable

/-- A listener that records messages: its name and the type of the
messages. -/
structure Recorder where
  name : String
  type : MessageType
  deriving Repr, DecidableEq

/-- What a gateway runs with. -/
structure Startup where
  settings : Settings
  registry : Registry
  link : LinkSettings
  server : ServerSettings
  /-- One listener for every entry of the settings that has a schema. -/
  recorders : List Recorder

namespace Startup

/-- The listeners that record messages, in the order of the settings. -/
def recordersOf (registry : Registry) (name : String) (types : List MessageType) :
    List Recorder :=
  (types.filter registry.contains).map fun type => ⟨s!"{name}/0x{Text.hexByte type}", type⟩

/-- Goes through the steps of startup. -/
def run (files : FileView) (options : CommandLine.Options) : Except StartupError Startup := do
  let read ← (Settings.ofFile (files.read options.config)).mapError (.config options.config)
  let settings := options.apply read
  let registry ← (Registry.ofFile (files.read settings.schemas)).mapError
    (.schemas settings.schemas)
  let link ← settings.link.mapError .settings
  let server ← settings.server.mapError .settings
  match settings.device.recordFile with
  | some path => unless files.appendable path do throw (.recordFile path)
  | none => pure ()
  return {
    settings, registry, link, server
    recorders := recordersOf registry link.name settings.device.recordTypes }

end Startup

end SensorGateway
