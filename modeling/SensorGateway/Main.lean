import Std.Async.Signal
import SensorGateway.Running

/-!
# `SensorGateway.Main`: the program

The program reads its settings and schemas, opens the record file, and
runs a gateway until it is interrupted. Nothing that goes wrong before the
gateway runs is passed over: it is reported and ends the program.
-/

set_option autoImplicit false

namespace SensorGateway.Program

/-- What is found under a path. -/
def contentOf (path : String) : IO FileContent := do
  try return .text (← IO.FS.readFile path)
  catch
    | .noFileOrDirectory .. => return .missing
    | _ => return .unreadable

/-- The two files that startup reads. Opening the record file is put off
until everything else went well. -/
def filesFor (options : CommandLine.Options) : IO FileView := do
  let config ← contentOf options.config
  let schemas := match Settings.ofFile config with
    | .ok settings => (options.apply settings).schemas
    | .error _ => options.config
  let description ← contentOf schemas
  return {
    read := fun path => if path = options.config then config else description
    appendable := fun _ => true }

/-- Where records go. -/
def openRecords : Option String → IO (Except StartupError IO.FS.Stream)
  | none => return .ok (← IO.getStdout)
  | some path => do
    try return .ok (IO.FS.Stream.ofHandle (← IO.FS.Handle.mk path .append))
    catch _ => return .error (.recordFile path)

/-- Keeps a record as a line. Says whether that went well. -/
def keepOn (stream : IO.FS.Stream) (source : String) (record : Record) : IO Bool := do
  try
    stream.putStr (String.ofList (Json.line source record))
    stream.flush
    return true
  catch _ => return false

/-- Reports an error and gives the exit code for it. -/
def fail (code : UInt32) (message : String) : IO UInt32 := do
  IO.eprintln message
  return code

/-- Runs a gateway until it is interrupted. -/
def serve (startup : Startup) (records : IO.FS.Stream) : IO UInt32 := do
  let running ← Running.ofStartup startup (keepOn records)
  let interrupt ← Std.Async.Signal.Waiter.mk .sigint false
  discard <| IO.mapTask (fun _ => running.proceeds.set false) (← interrupt.wait)
  let served ← running.run
  interrupt.stop
  if served then return 0
  fail 1 s!"Error: failed to bind serial forwarder on {startup.server.bindAddress.text}"

/-- Goes through startup and runs. -/
def launch (options : CommandLine.Options) : IO UInt32 := do
  match Startup.run (← filesFor options) options with
  | .error error => fail 1 s!"Error: {error.message}"
  | .ok startup =>
    match ← openRecords startup.settings.device.recordFile with
    | .error error => fail 1 s!"Error: {error.message}"
    | .ok records => serve startup records

/-- The environment variables that stand in for options. -/
def environment : IO (String → Option String) := do
  let found ← CommandLine.OptionName.all.mapM fun name => do
    return (name.environmentVariable, ← IO.getEnv name.environmentVariable)
  return fun name => (found.lookup name).bind id

end SensorGateway.Program

/-- Does what the arguments ask for. -/
def main (arguments : List String) : IO UInt32 := do
  match SensorGateway.CommandLine.parse? arguments (← SensorGateway.Program.environment) with
  | none =>
    SensorGateway.Program.fail 2
      "error: invalid arguments\n\nFor more information, try '--help'."
  | some .version =>
    IO.println SensorGateway.CommandLine.versionText
    return 0
  | some .help =>
    IO.print SensorGateway.CommandLine.helpText
    return 0
  | some (.run options) => SensorGateway.Program.launch options
