import SensorGateway.Bus.Listeners
import SensorGateway.Forwarder.Connection
import SensorGateway.Settings.Basic

/-!
# `SensorGateway.Forwarder.Server`: live connections and their listeners

The server knows the buses it draws messages from, its sources, and the
connections that stream. Each live connection has one listener, which is
registered on every source for the message type of the server.

Attaching a connection and detaching it are single steps. A source that
is added later gets the listeners of all live connections. Shutting the
server down takes several steps between which others may come: from the
first one on no connection is attached any more, and then those that are
live are detached one by one.
-/

set_option autoImplicit false

namespace SensorGateway.Forwarder

/-- A live connection. -/
structure Session (ι : Type) where
  id : Nat
  connection : Connection
  listener : ι

/-- The server and the tables of all buses. Buses are known by numbers. -/
structure Server (ι : Type) where
  settings : ServerSettings
  /-- The listeners of every bus. -/
  tables : Nat → Bus.Listeners ι := fun _ => Bus.Listeners.empty
  /-- The buses messages are drawn from. The first one also takes what
  clients send. -/
  sources : List Nat := []
  /-- The live connections, in the order in which they were attached. -/
  sessions : List (Session ι) := []
  /-- How many connections were accepted so far. -/
  accepted : Nat := 0
  /-- No connection is attached any more. -/
  closing : Bool := false
  /-- The connections that were told to stop, first one first. -/
  signalled : List Nat := []

namespace Server

variable {ι : Type}

/-- The live connections in the order of acceptance. -/
def activeConnections (server : Server ι) : List Connection :=
  (server.sessions.map Session.connection).mergeSort fun a b => a.ordinal ≤ b.ordinal

/-- The live connections by their ids. -/
def liveIds (server : Server ι) : List Nat := server.sessions.map Session.id

/-- Numbers the next connection. -/
def accept (server : Server ι) : Nat × Server ι :=
  (server.accepted + 1, { server with accepted := server.accepted + 1 })

/-- How many listeners of the server's type a bus has. -/
def listenerCount (server : Server ι) (bus : Nat) : Nat :=
  (server.tables bus).count server.settings.messageType

variable [DecidableEq ι]

/-- Registers a listener on a bus. -/
def subscribe (server : Server ι) (listener : ι) (bus : Nat) : Server ι :=
  let table := ((server.tables bus).register server.settings.messageType listener).2
  { server with tables := fun b => if b = bus then table else server.tables b }

/-- Takes a listener off a bus. -/
def unsubscribe (server : Server ι) (listener : ι) (bus : Nat) : Server ι :=
  let table := ((server.tables bus).deregister server.settings.messageType listener).2
  { server with tables := fun b => if b = bus then table else server.tables b }

/-- Adds a source and registers the listeners of all live connections on
it. -/
def addSource (server : Server ι) (bus : Nat) : Server ι :=
  let subscribed := (server.sessions.map Session.listener).foldl
    (fun server listener => server.subscribe listener bus) server
  { subscribed with sources := subscribed.sources ++ [bus] }

/-- Makes a connection live: its listener goes onto every source and it
streams. Nothing happens once the server is closing. -/
def attach (server : Server ι) (id : Nat) (connection : Connection) (listener : ι) :
    Option Connection × Server ι :=
  if server.closing then (none, server)
  else
    let subscribed := server.sources.foldl (fun server bus => server.subscribe listener bus) server
    let streaming := { connection with state := .streaming }
    let others := subscribed.sessions.filter fun session => session.id != id
    (some streaming, { subscribed with sessions := others ++ [⟨id, streaming, listener⟩] })

/-- Ends a live connection: its listener is taken off every source, and it
is told to stop. A connection that is not live stays as it is. -/
def detach (server : Server ι) (id : Nat) : Option Connection × Server ι :=
  match server.sessions.find? fun session => session.id == id with
  | none => (none, server)
  | some session =>
    let unsubscribed := server.sources.foldl
      (fun server bus => server.unsubscribe session.listener bus) server
    (some { session.connection with state := .closed }, { unsubscribed with
      sessions := unsubscribed.sessions.filter fun session => session.id != id
      signalled := unsubscribed.signalled ++ [id] })

/-- Closes one connection. Says whether it was live. -/
def shutdown (server : Server ι) (id : Nat) : Bool × Server ι :=
  let (connection, server) := server.detach id
  (connection.isSome, server)

/-! ### Shutting down -/

/-- From now on no connection is attached. -/
def markClosing (server : Server ι) : Server ι := { server with closing := true }

/-- How far a shutdown of the server is. -/
inductive ShutdownPhase where
  | requested
  /-- No connection is attached any more. -/
  | marked
  /-- These connections are still to be detached. -/
  | detaching (ids : List Nat)
  | finished
  deriving Repr, DecidableEq

/-- The next step of a shutdown. -/
def advanceShutdown (server : Server ι) : ShutdownPhase → ShutdownPhase × Server ι
  | .requested => (.marked, server.markClosing)
  | .marked => (.detaching server.liveIds, server)
  | .detaching [] => (.finished, server)
  | .detaching (id :: rest) => (.detaching rest, (server.detach id).2)
  | .finished => (.finished, server)

/-- All steps of a shutdown without anything in between. -/
def shutdownAll (server : Server ι) : Server ι :=
  let marked := server.markClosing
  marked.liveIds.foldl (fun server id => (server.detach id).2) marked

/-! ### What clients send -/

/-- The bus that takes a packet of a client: the first source, if the
packet has a sound header. -/
def relayTarget? (server : Server ι) (packet : Bytes) : Option Nat :=
  match server.settings.format.unwrap packet with
  | .ok _ => server.sources.head?
  | .error _ => none

end Server

end SensorGateway.Forwarder
