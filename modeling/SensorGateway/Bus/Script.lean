import SensorGateway.Forwarder.ClientQueue

/-!
# `SensorGateway.Bus.Script`: a bus whose surroundings follow a script

A script says beforehand what everything around a bus does: how the
transport answers each call, and how each listener takes its messages.
What happens is written to a log. Scripts show how a bus behaves without
a device, clients or a disk.
-/

set_option autoImplicit false

namespace SensorGateway.Bus.Script

/-- How the transport answers one call. -/
inductive Answer where
  | accept
  | refuse
  | closed
  | io (text : String)
  /-- No answer at all. -/
  | stall
  /-- Accepts after some milliseconds. -/
  | delay (milliseconds : Nat)
  deriving Repr, DecidableEq

/-- The answer to a packet. -/
def Answer.toSend : Answer → Reply Bool
  | .accept => .now (.ok true)
  | .refuse => .now (.ok false)
  | .closed => .now (.error .closed)
  | .io text => .now (.error (.io text))
  | .stall => .never
  | .delay milliseconds => .after milliseconds (.ok true)

/-- The answer to an acknowledgement, which cannot be refused. -/
def Answer.toAcknowledge : Answer → Reply Unit
  | .accept | .refuse => .now (.ok ())
  | .closed => .now (.error .closed)
  | .io text => .now (.error (.io text))
  | .stall => .never
  | .delay milliseconds => .after milliseconds (.ok ())

/-- A change of the table of listeners, for the type of the message under
delivery. -/
inductive Change where
  | add (listener : String)
  | remove (listener : String)
  deriving Repr, DecidableEq

/-- What a listener does with its messages. -/
inductive Actor where
  /-- Logs the delivery, changes the table and comes to a verdict. -/
  | logger (changes : List Change) (verdict : Verdict)
  /-- Stores records under the name of a plugin, with the same result every
  time. -/
  | recorder (plugin : MessagePlugin) (stores : Bool)
  /-- Queues what was received for a client. -/
  | relay
  /-- Does nothing. -/
  | silent

/-- What happened. -/
inductive Event where
  | sent (packet : Bytes) (priority : Priority)
  | acknowledged (device : Option Int) (timestamp : Int) (priority : Priority)
  | delivered (listener : String) (delivery : Delivery)
  | stored (source : String) (record : Record)
  deriving Repr, DecidableEq

/-- Everything around the bus. Calls behind the end of a script are
accepted. -/
structure Stage where
  /-- The answers to packets still to come. -/
  sends : List Answer := []
  /-- The answers to acknowledgements still to come. -/
  acknowledgements : List Answer := []
  /-- The queues of relaying listeners. -/
  queues : String → Forwarder.ClientQueue := fun _ => ⟨0, [], false⟩
  /-- What happened, oldest first. -/
  log : List Event := []

namespace Stage

/-- Writes to the log. -/
def note (stage : Stage) (event : Event) : Stage := { stage with log := stage.log ++ [event] }

/-- Replaces the queue of a listener. -/
def setQueue (stage : Stage) (listener : String) (queue : Forwarder.ClientQueue) : Stage :=
  { stage with queues := fun name => if name = listener then queue else stage.queues name }

/-- Answers a packet. -/
def send (packet : Bytes) (priority : Priority) (stage : Stage) : Reply Bool × Stage :=
  ((stage.sends.headD .accept).toSend,
    { stage.note (.sent packet priority) with sends := stage.sends.tail })

/-- Answers an acknowledgement. -/
def acknowledge (device : Option Int) (timestamp : Int) (priority : Priority) (stage : Stage) :
    Reply Unit × Stage :=
  ((stage.acknowledgements.headD .accept).toAcknowledge,
    { stage.note (.acknowledged device timestamp priority) with
      acknowledgements := stage.acknowledgements.tail })

end Stage

/-- Makes a change of the table for a type. -/
def Change.apply (type : MessageType) (listeners : Listeners String) : Change → Listeners String
  | .add listener => (listeners.register type listener).2
  | .remove listener => (listeners.deregister type listener).2

/-- What an actor does with a delivery. -/
def Actor.react (name : String) (delivery : Delivery) (world : World String Stage) :
    Actor → Verdict × World String Stage
  | .logger changes verdict =>
    (verdict, {
      listeners := changes.foldl (Change.apply delivery.type) world.listeners
      rest := world.rest.note (.delivered name delivery) })
  | .recorder plugin stores =>
    (if stores then .handled else .failed,
      { world with rest := world.rest.note (.stored plugin.name delivery.record) })
  | .relay =>
    let (verdict, queue) := (world.rest.queues name).deliver delivery
    (verdict, { world with rest := world.rest.setQueue name queue })
  | .silent => (.handled, world)

/-- The surroundings in which listeners are played by actors. -/
def environment (actor : String → Actor) : Environment String Stage where
  react name delivery world := (actor name).react name delivery world
  send := Stage.send
  acknowledge := Stage.acknowledge

/-- The plugin that an actor stands for. One without rules of its own
sends the bytes of the first value. -/
def Actor.plugin : Actor → Plugin
  | .recorder plugin _ => plugin.toPlugin
  | _ => {
      command := fun action _ values => match values with
        | value :: _ => .ok (.packet (Text.utf8 value))
        | [] => .error (.unsupportedAction action) }

/-- Takes the log. -/
def takeLog (world : World String Stage) : List Event × World String Stage :=
  (world.rest.log, { world with rest := { world.rest with log := [] } })

end SensorGateway.Bus.Script
