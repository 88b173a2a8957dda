import SensorGateway.Bus.Transport
import SensorGateway.Command.Encode

/-!
# `SensorGateway.Bus.Plugin`: actions of an operator as commands

An operator names an action and gives it parameters. A plugin turns both
into a command: parameters to be encoded with the schema of a message
type, or a packet ready to be sent.

`MessagePlugin` serves the messages of one type. It knows three actions
and accepts them only where it runs for an access node, whatever else may
be wrong with them.
-/

set_option autoImplicit false

namespace SensorGateway.Bus

/-- What is to be sent. -/
inductive Command where
  /-- Parameters for the schema of a message type. -/
  | encode (type : MessageType) (params : Parameters)
  /-- A packet with its header. -/
  | packet (bytes : Bytes)
  deriving Repr, DecidableEq

/-- Why a plugin refuses an action. -/
inductive PluginError where
  | unsupportedAction (action : String)
  | missingParameter (name : String)
  | invalidParameter (name value : String)
  /-- The device is unknown or no access node. -/
  | notAccessNode (device : Option Int)
  | encode (error : EncodeError)
  | packet (error : PacketError)
  deriving Repr, DecidableEq

/-- A device as diagnostics show it. -/
def deviceText : Option Int → String
  | some id => s!"Some({id})"
  | none => "None"

/-- The text an operator sees. -/
def PluginError.message : PluginError → String
  | .unsupportedAction action => s!"unsupported action '{action}'"
  | .missingParameter name => s!"missing parameter '{name}'"
  | .invalidParameter name value => s!"invalid value '{value}' for parameter '{name}'"
  | .notAccessNode device => s!"device {deviceText device} is not an access node"
  | .encode error => error.message
  | .packet error => error.message

/-- Turns actions into commands. -/
structure Plugin where
  priority : Priority := defaultPriority
  /-- The command for an action with the names and the values of its
  parameters. -/
  command : String → List String → List String → Except PluginError Command

/-- The highest device that is an access node. -/
def accessNodeBoundary : Int := 1024

/-- A device that is known and low enough. -/
def isAccessNode : Option Int → Bool
  | some id => id ≤ accessNodeBoundary
  | none => false

/-- Serves the messages of one type. -/
structure MessagePlugin where
  name : String
  type : MessageType
  format : WireFormat
  device : Option Int
  priority : Priority
  deriving Repr, DecidableEq

namespace MessagePlugin

/-! ### Parameters -/

/-- The text of a parameter that has to be there. -/
def required (params : Parameters) (name : String) : Except PluginError String :=
  match params.get? name with
  | some text => .ok text
  | none => .error (.missingParameter name)

/-- The number of `width` bits that a text denotes, blanks at its ends
left aside. -/
def number (width : Nat) (name text : String) : Except PluginError Nat :=
  match Text.parseUnsigned width (Text.trim text) with
  | .ok n => .ok n
  | .error _ => .error (.invalidParameter name text)

/-! ### Actions -/

/-- Bytes for one mote: `destination`, `am_type` and `data`. -/
def payload (plugin : MessagePlugin) (names values : List String) :
    Except PluginError Command := do
  if names.length ≠ 3 ∨ values.length ≠ 3 then
    throw (.missingParameter "payload needs exactly 'destination', 'am_type' and 'data'")
  let params ← (Parameters.ofLists names values).mapError .encode
  let destination ← number 16 "destination" (← required params "destination")
  let type ← number 8 "am_type" (← required params "am_type")
  let data := Text.utf8 (← required params "data")
  let packet ← (plugin.format.wrap (UInt16.ofNat destination) (UInt8.ofNat type) data).mapError
    .packet
  return .packet packet

/-- The name of the only parameter of a ready packet. -/
def packetParameter : String := "binary packet"

/-- A packet as it is: its bytes are those of the first value. -/
def readyPacket (names values : List String) : Except PluginError Command :=
  match names, values with
  | name :: _, value :: _ =>
    if ¬ Text.sameIgnoringAsciiCase name packetParameter then
      .error (.missingParameter packetParameter)
    else if value = "" then .error (.invalidParameter packetParameter "")
    else .ok (.packet (Text.utf8 value))
  | _, _ => .error (.missingParameter packetParameter)

/-- The command for an action. Names of actions match whatever the case of
their ASCII letters. -/
def command (plugin : MessagePlugin) (action : String) (names values : List String) :
    Except PluginError Command :=
  if ¬ isAccessNode plugin.device then .error (.notAccessNode plugin.device)
  else if Text.sameIgnoringAsciiCase action "tosmsg" then
    ((Parameters.ofLists names values).mapError .encode).map (.encode plugin.type)
  else if Text.sameIgnoringAsciiCase action "payload" then plugin.payload names values
  else if Text.sameIgnoringAsciiCase action "binary_packet" then readyPacket names values
  else .error (.unsupportedAction action)

/-- The plugin. -/
def toPlugin (plugin : MessagePlugin) : Plugin := ⟨plugin.priority, plugin.command⟩

end MessagePlugin

end SensorGateway.Bus
