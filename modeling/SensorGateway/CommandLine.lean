import SensorGateway.Settings.Basic
import SensorGateway.Text.Numeral

/-!
# `SensorGateway.CommandLine`: what an invocation asks for

An invocation asks for the version, for help, or to run with options. An
option is given as `--name value` or `--name=value`, at most once; one
that is not given is taken from an environment variable. Arguments are
looked at from left to right, and the first that makes no sense makes the
invocation a misuse, unless the version or help was asked for before.
-/

set_option autoImplicit false

namespace SensorGateway.CommandLine

/-- The options of a run. -/
inductive OptionName where
  | config
  | schemas
  | port
  | deviceAddress
  | logLevel
  deriving Repr, DecidableEq

namespace OptionName

/-- All options, in the order in which help lists them. -/
def all : List OptionName := [.config, .schemas, .port, .deviceAddress, .logLevel]

/-- The name behind two dashes. -/
def label : OptionName → String
  | .config => "config"
  | .schemas => "schemas"
  | .port => "sf-port"
  | .deviceAddress => "device-addr"
  | .logLevel => "log-level"

/-- The environment variable that stands in for the option. -/
def environmentVariable : OptionName → String
  | .config => "MOTE_GATEWAY_CONFIG"
  | .schemas => "MOTE_SCHEMAS"
  | .port => "MOTE_SF_PORT"
  | .deviceAddress => "MOTE_DEVICE_ADDR"
  | .logLevel => "MOTE_LOG_LEVEL"

/-- A port number. -/
def port? (text : String) : Option UInt16 :=
  match Text.parseSigned 64 text with
  | .ok n => if 0 ≤ n ∧ n < 2 ^ 16 then some (UInt16.ofNat n.toNat) else none
  | .error _ => none

/-- The option may have the value. Paths are not empty. -/
def accepts (name : OptionName) (value : String) : Bool :=
  match name with
  | .config | .schemas => value != ""
  | .port => (port? value).isSome
  | .deviceAddress | .logLevel => true

end OptionName

/-- The values of options. -/
abbrev Assignments := List (OptionName × String)

/-- Gives an option a value, unless it has one or may not have this
one. -/
def assign? (given : Assignments) (name : OptionName) (value : String) : Option Assignments :=
  if (given.lookup name).isNone ∧ name.accepts value then some (given ++ [(name, value)]) else none

/-- The options of a run. -/
structure Options where
  config : String := "gateway.toml"
  schemas : Option String := none
  port : Option UInt16 := none
  deviceAddress : Option String := none
  logLevel : Option String := none
  deriving Repr, DecidableEq

/-- What an invocation asks for. -/
inductive Invocation where
  | version
  | help
  | run (options : Options)
  deriving Repr, DecidableEq

/-! ### Arguments -/

/-- What an argument is. -/
inductive Argument where
  /-- The end of the options. -/
  | terminator
  /-- A name behind two dashes, and the value behind an equals sign. -/
  | long (name : String) (value : Option String)
  /-- The first letter behind a single dash. -/
  | short (letter : Char)
  | plain
  deriving Repr, DecidableEq

/-- What an argument is, by the dashes in front. -/
def Argument.ofText (text : String) : Argument :=
  match text.toList with
  | ['-', '-'] => .terminator
  | '-' :: '-' :: chars =>
    let name := chars.takeWhile (· != '=')
    let value := match chars.drop name.length with
      | [] => none
      | _ :: value => some (String.ofList value)
    .long (String.ofList name) value
  | '-' :: letter :: _ => .short letter
  | _ => .plain

/-- What the arguments ask for. -/
inductive Parsed where
  | version
  | help
  | assignments (given : Assignments)
  deriving Repr, DecidableEq

/-- Goes through the arguments from left to right; `pending` is an option
that still waits for its value. -/
def parseArguments (given : Assignments) (pending : Option OptionName) :
    List String → Option Parsed
  | [] => if pending.isNone then some (.assignments given) else none
  | text :: rest =>
    match Argument.ofText text, pending with
    | .plain, some name => do parseArguments (← assign? given name text) none rest
    | .long label none, none =>
      if label = "version" then some .version
      else if label = "help" then some .help
      else do
        let name ← OptionName.all.find? fun name => name.label == label
        parseArguments given (some name) rest
    | .long label (some value), none => do
      let name ← OptionName.all.find? fun name => name.label == label
      parseArguments (← assign? given name value) none rest
    | .short letter, none =>
      if letter = 'V' then some .version else if letter = 'h' then some .help else none
    | .terminator, none => if rest = [] then some (.assignments given) else none
    | _, _ => none

/-- Takes options that were not given from the environment. -/
def completeFrom (environment : String → Option String) (given : Assignments) :
    Option Assignments :=
  OptionName.all.foldlM (fun given name =>
    if (given.lookup name).isSome then some given
    else match environment name.environmentVariable with
      | none => some given
      | some value => assign? given name value) given

/-- The options that the values stand for. -/
def Options.ofAssignments (given : Assignments) : Options :=
  { config := (given.lookup .config).getD "gateway.toml"
    schemas := given.lookup .schemas
    port := (given.lookup .port).bind OptionName.port?
    deviceAddress := given.lookup .deviceAddress
    logLevel := given.lookup .logLevel }

/-- What an invocation asks for; `none` if it makes no sense. -/
def parse? (arguments : List String) (environment : String → Option String) :
    Option Invocation := do
  match ← parseArguments [] none arguments with
  | .version => some .version
  | .help => some .help
  | .assignments given =>
    some (.run (Options.ofAssignments (← completeFrom environment given)))

/-- Options win over settings. -/
def Options.apply (options : Options) (settings : Settings) : Settings :=
  { schemas := options.schemas.getD settings.schemas
    gateway := { settings.gateway with port := options.port.getD settings.gateway.port }
    device := { settings.device with
      address := options.deviceAddress.getD settings.device.address }
    logging := ⟨options.logLevel.getD settings.logging.level⟩ }

/-! ### Texts -/

def versionText : String := "mote-gateway 0.1.0"

/-- What help shows. -/
def helpText : String :=
  "Serial-forwarder gateway for a mote network\n\n" ++
  "Usage: mote-gateway [OPTIONS]\n\n" ++
  "Options:\n" ++
  "      --config <CONFIG>            Gateway configuration file [default: gateway.toml]\n" ++
  "      --schemas <SCHEMAS>          Schema description file\n" ++
  "      --sf-port <SF_PORT>          TCP port offered to serial-forwarder clients\n" ++
  "      --device-addr <DEVICE_ADDR>  Host and port of the base station\n" ++
  "      --log-level <LOG_LEVEL>      Log level\n" ++
  "  -h, --help                       Print help\n" ++
  "  -V, --version                    Print version\n"

end SensorGateway.CommandLine
