import Mathlib.Data.List.Induction
import Mathlib.Data.List.Nodup
import SensorGateway.Forwarder.Server
import SensorGateway.Proofs.Bus.Listeners

/-!
# `SensorGateway.Proofs.Forwarder.Operations`: what is done to a server

Sources are added, connections come and go, and the server shuts down, in
any order and any number of times. Meanwhile others use the same tables of
listeners for themselves. An `Operation` is one of these steps, and
`Server.run` takes one after the other.

* `addSource_eq`, `attach_eq_of_open`, `detach_eq_of_mem` and
  `exists_shutdownAll_eq` say what the server is like afterwards: which
  tables changed and how, and which connections are left.
* `apply_frame` and `mem_sessions_apply` say the same of any operation.
* `Live` says which connections are live by what was done, without the
  server.
* `pairwise_drawn`: the numbers of connections go up.
-/

set_option autoImplicit false

namespace SensorGateway.Forwarder

variable {ι : Type}

/-! ### Operations -/

/-- A connection that was made live. -/
def Session.streaming (session : Session ι) : Session ι :=
  { session with connection := { session.connection with state := .streaming } }

/-- What is done to a server, and what others do to the tables of the buses
meanwhile. -/
inductive Operation (ι : Type) where
  /-- Numbers the next connection. -/
  | accept
  | addSource (bus : Nat)
  | attach (session : Session ι)
  | detach (id : Nat)
  | shutdown (id : Nat)
  /-- The first step of a shutdown. Its other steps detach connections. -/
  | close
  | shutdownAll
  /-- Others register a listener. -/
  | register (bus : Nat) (type : MessageType) (listener : ι)
  /-- Others take a listener off. -/
  | deregister (bus : Nat) (type : MessageType) (listener : ι)

namespace Operation

def source? : Operation ι → Option Nat
  | .addSource bus => some bus
  | _ => none

def attached? : Operation ι → Option (Session ι)
  | .attach session => some session
  | _ => none

/-- No connection is attached after this. -/
def closes : Operation ι → Bool
  | .close | .shutdownAll => true
  | _ => false

/-- The connection is not live after this. -/
def ends (id : Nat) : Operation ι → Bool
  | .detach other | .shutdown other => id == other
  | .shutdownAll => true
  | _ => false

/-- The number that is drawn for the next connection, if one is. -/
def number? (server : Server ι) : Operation ι → Option Nat
  | .accept => some server.accept.1
  | _ => none

end Operation

/-- The connections that were to be attached. -/
def attached (operations : List (Operation ι)) : List (Session ι) :=
  operations.filterMap Operation.attached?

/-- A connection that was attached before the server began to close, and
that was not ended since. -/
def Live (operations : List (Operation ι)) (session : Session ι) : Prop :=
  ∃ before new after, operations = before ++ .attach new :: after ∧ session = new.streaming ∧
    (∀ operation ∈ before, operation.closes = false) ∧
    ∀ operation ∈ after, operation.ends new.id = false

/-- What was done last decides, or else what was done before. -/
theorem live_concat_iff (operations : List (Operation ι)) (operation : Operation ι)
    (session : Session ι) :
    Live (operations ++ [operation]) session ↔
      (Live operations session ∧ operation.ends session.id = false) ∨
      ∃ new, operation = .attach new ∧ session = new.streaming ∧
        ∀ earlier ∈ operations, earlier.closes = false := by
  constructor
  · rintro ⟨before, new, after, heq, rfl, hbefore, hafter⟩
    rcases List.eq_nil_or_concat after with rfl | ⟨after, last, rfl⟩
    · -- Nothing came after it was attached, so that was done last.
      obtain ⟨rfl, hlast⟩ := List.append_inj' heq rfl
      exact .inr ⟨new, by simpa using hlast, rfl, hbefore⟩
    · rw [List.concat_eq_append] at heq hafter
      rw [← List.cons_append, ← List.append_assoc] at heq
      obtain ⟨rfl, hlast⟩ := List.append_inj' heq rfl
      obtain rfl : operation = last := by simpa using hlast
      refine .inl ⟨⟨before, new, after, rfl, rfl, hbefore, ?_⟩, hafter operation (by simp)⟩
      intro later hmem
      exact hafter later (List.mem_append_left _ hmem)
  · rintro (⟨⟨before, new, after, rfl, rfl, hbefore, hafter⟩, hlast⟩ | ⟨new, rfl, rfl, hbefore⟩)
    · refine ⟨before, new, after ++ [operation], by simp, rfl, hbefore, ?_⟩
      intro later hmem
      rcases List.mem_append.mp hmem with hmem | hmem
      · exact hafter later hmem
      · rw [List.mem_singleton.mp hmem]
        exact hlast
    · exact ⟨operations, new, [], rfl, rfl, hbefore, by simp⟩

theorem exists_attached_of_live {operations : List (Operation ι)} {session : Session ι}
    (h : Live operations session) : ∃ new ∈ attached operations, session = new.streaming := by
  obtain ⟨before, new, after, rfl, rfl, -, -⟩ := h
  exact ⟨new, List.mem_filterMap.mpr ⟨.attach new, by simp, rfl⟩, rfl⟩

/-! ### Runs of operations -/

variable [DecidableEq ι]

/-- What others make of the tables. -/
def Operation.outside : Operation ι → (Nat → Bus.Listeners ι) → Nat → Bus.Listeners ι
  | .register bus type listener, tables => fun b =>
    if b = bus then ((tables bus).register type listener).2 else tables b
  | .deregister bus type listener, tables => fun b =>
    if b = bus then ((tables bus).deregister type listener).2 else tables b
  | _, tables => tables

/-- What others alone would have made of the tables. -/
def outsideAll (operations : List (Operation ι)) (tables : Nat → Bus.Listeners ι) :
    Nat → Bus.Listeners ι :=
  operations.foldl (fun tables operation => operation.outside tables) tables

namespace Server

/-- Does what an operation says. -/
def apply (server : Server ι) : Operation ι → Server ι
  | .accept => server.accept.2
  | .addSource bus => server.addSource bus
  | .attach new => (server.attach new.id new.connection new.listener).2
  | .detach id => (server.detach id).2
  | .shutdown id => (server.shutdown id).2
  | .close => server.markClosing
  | .shutdownAll => server.shutdownAll
  | .register bus type listener =>
    { server with tables := (Operation.register bus type listener).outside server.tables }
  | .deregister bus type listener =>
    { server with tables := (Operation.deregister bus type listener).outside server.tables }

/-- Does one operation after the other. -/
def run (server : Server ι) (operations : List (Operation ι)) : Server ι :=
  operations.foldl apply server

@[simp] theorem run_concat (server : Server ι) (operations : List (Operation ι))
    (operation : Operation ι) :
    server.run (operations ++ [operation]) = (server.run operations).apply operation := by
  simp [run]

/-- The numbers that are drawn for connections. -/
def drawn (server : Server ι) : List (Operation ι) → List Nat
  | [] => []
  | operation :: rest =>
    (operation.number? server).toList ++ (server.apply operation).drawn rest

/-! ### The effect of an operation -/

omit [DecidableEq ι] in
/-- A change that is made twice to a bus is made once. -/
theorem foldl_change (f : MessageType → Bus.Listeners ι → Bus.Listeners ι)
    (hf : ∀ type table, f type (f type table) = f type table) (buses : List Nat)
    (server : Server ι) :
    buses.foldl (fun server bus => { server with
        tables := fun b => if b = bus then f server.settings.messageType (server.tables bus)
          else server.tables b }) server =
      { server with tables := fun b =>
          if b ∈ buses then f server.settings.messageType (server.tables b)
          else server.tables b } := by
  induction buses generalizing server with
  | nil => simp
  | cons bus rest ih =>
    rw [List.foldl_cons, ih]
    congr 1
    funext b
    by_cases hbus : b = bus
    · -- The bus comes once, or again later, and then once is enough.
      subst hbus
      by_cases hrest : b ∈ rest <;> simp [hrest, hf]
    · simp [hbus]

theorem foldl_subscribe (server : Server ι) (listener : ι) (buses : List Nat) :
    buses.foldl (fun server bus => server.subscribe listener bus) server =
      { server with tables := fun b =>
          if b ∈ buses then ((server.tables b).register server.settings.messageType listener).2
          else server.tables b } :=
  foldl_change (fun type table => (table.register type listener).2)
    (fun type table => table.register_register type listener) buses server

theorem foldl_unsubscribe (server : Server ι) (listener : ι) (buses : List Nat) :
    buses.foldl (fun server bus => server.unsubscribe listener bus) server =
      { server with tables := fun b =>
          if b ∈ buses then ((server.tables b).deregister server.settings.messageType listener).2
          else server.tables b } :=
  foldl_change (fun type table => (table.deregister type listener).2)
    (fun type table => table.deregister_deregister type listener) buses server

theorem foldl_subscribe_listeners (server : Server ι) (bus : Nat) (listeners : List ι) :
    listeners.foldl (fun server listener => server.subscribe listener bus) server =
      { server with tables := fun b =>
          if b = bus then (server.tables b).registerAll server.settings.messageType listeners
          else server.tables b } := by
  induction listeners generalizing server with
  | nil => simp [Bus.Listeners.registerAll]
  | cons listener rest ih =>
    rw [List.foldl_cons, ih]
    simp only [subscribe]
    congr 1
    funext b
    by_cases hbus : b = bus
    · subst hbus
      simp [Bus.Listeners.registerAll]
    · simp [hbus]

/-- Adding a source changes the table of its bus only. -/
theorem addSource_eq (server : Server ι) (bus : Nat) :
    server.addSource bus = { server with
      sources := server.sources ++ [bus]
      tables := fun b =>
        if b = bus then
          (server.tables b).registerAll server.settings.messageType
            (server.sessions.map Session.listener)
        else server.tables b } := by
  rw [addSource, foldl_subscribe_listeners]

/-- Attaching a connection whose id is new. -/
theorem attach_eq_of_open {server : Server ι} (hopen : server.closing = false) {new : Session ι}
    (hid : new.id ∉ server.liveIds) :
    (server.attach new.id new.connection new.listener).2 = { server with
      sessions := server.sessions ++ [new.streaming]
      tables := fun b =>
        if b ∈ server.sources then
          ((server.tables b).register server.settings.messageType new.listener).2
        else server.tables b } := by
  have hothers : server.sessions.filter (fun session => session.id != new.id) =
      server.sessions := by
    rw [List.filter_eq_self]
    intro session hmem
    have hne : session.id ≠ new.id := fun h => hid (h ▸ List.mem_map_of_mem hmem)
    simpa using hne
  rw [attach, if_neg (by simp [hopen]), foldl_subscribe]
  simp only [hothers]
  rfl

theorem attach_eq_of_closing {server : Server ι} (hclosing : server.closing = true) (id : Nat)
    (connection : Connection) (listener : ι) :
    (server.attach id connection listener).2 = server := by
  rw [attach, if_pos hclosing]

/-- Detaching a connection that is live. -/
theorem detach_eq_of_mem {server : Server ι} (hnodup : server.liveIds.Nodup) {session : Session ι}
    (hmem : session ∈ server.sessions) :
    (server.detach session.id).2 = { server with
      sessions := server.sessions.filter fun other => other.id != session.id
      signalled := server.signalled ++ [session.id]
      tables := fun b =>
        if b ∈ server.sources then
          ((server.tables b).deregister server.settings.messageType session.listener).2
        else server.tables b } := by
  have hfind : server.sessions.find? (fun other => other.id == session.id) = some session := by
    cases hfound : server.sessions.find? fun other => other.id == session.id with
    | none =>
      rw [List.find?_eq_none] at hfound
      exact absurd (by simp) (hfound session hmem)
    | some other =>
      -- No other connection has this id.
      have hid : other.id = session.id := by simpa using List.find?_some hfound
      rw [List.inj_on_of_nodup_map hnodup (List.mem_of_find?_eq_some hfound) hmem hid]
  rw [detach, hfind]
  simp only [foldl_unsubscribe]

/-- Nothing happens to a connection that is not live. -/
theorem detach_eq_of_notMem {server : Server ι} {id : Nat} (h : id ∉ server.liveIds) :
    (server.detach id).2 = server := by
  have hfind : server.sessions.find? (fun other => other.id == id) = none := by
    rw [List.find?_eq_none]
    intro session hmem hid
    exact h (List.mem_map.mpr ⟨session, hmem, by simpa using hid⟩)
  rw [detach, hfind]

/-- What is detached, and what stays as it is. -/
theorem exists_detach_eq (server : Server ι) (id : Nat) :
    ∃ tables signalled, (server.detach id).2 = { server with
      tables, signalled, sessions := server.sessions.filter fun session => session.id != id } := by
  rw [detach]
  split
  · next hnone =>
    have hall : server.sessions.filter (fun session => session.id != id) = server.sessions := by
      rw [List.filter_eq_self]
      intro session hmem
      simpa using List.find?_eq_none.mp hnone session hmem
    exact ⟨server.tables, server.signalled, by rw [hall]⟩
  · rw [foldl_unsubscribe]
    exact ⟨_, _, rfl⟩

theorem exists_foldl_detach_eq (ids : List Nat) (server : Server ι) :
    ∃ tables signalled, ids.foldl (fun server id => (server.detach id).2) server = { server with
      tables, signalled
      sessions := server.sessions.filter fun session => !ids.contains session.id } := by
  induction ids generalizing server with
  | nil => exact ⟨server.tables, server.signalled, by simp⟩
  | cons id rest ih =>
    obtain ⟨tables, signalled, hfirst⟩ := server.exists_detach_eq id
    obtain ⟨tables', signalled', hrest⟩ := ih (server.detach id).2
    refine ⟨tables', signalled', ?_⟩
    rw [List.foldl_cons, hrest, hfirst]
    simp only [List.filter_filter, List.contains_cons, Bool.not_or, bne, Bool.and_comm]

/-- A server that was shut down has no live connection. -/
theorem exists_shutdownAll_eq (server : Server ι) :
    ∃ tables signalled, server.shutdownAll =
      { server with tables, signalled, sessions := [], closing := true } := by
  obtain ⟨tables, signalled, heq⟩ :=
    exists_foldl_detach_eq server.markClosing.liveIds server.markClosing
  -- All of them were live when the server began to close.
  have hnone :
      server.sessions.filter (fun session => !server.liveIds.contains session.id) = [] := by
    rw [List.filter_eq_nil_iff]
    intro session hmem
    have hlive : session.id ∈ server.liveIds := List.mem_map_of_mem hmem
    simpa using hlive
  refine ⟨tables, signalled, ?_⟩
  rw [shutdownAll, heq]
  show ({ server with
    tables, signalled, closing := true
    sessions := server.sessions.filter fun session => !server.liveIds.contains session.id } :
      Server ι) = _
  rw [hnone]

/-- What an operation does besides what becomes of tables and
connections. -/
theorem apply_frame (server : Server ι) (operation : Operation ι) :
    (server.apply operation).settings = server.settings ∧
    (server.apply operation).sources = server.sources ++ operation.source?.toList ∧
    (server.apply operation).accepted =
      server.accepted + (operation.number? server).toList.length ∧
    (server.apply operation).closing = (server.closing || operation.closes) := by
  cases operation with
  | addSource bus =>
    simp [apply, addSource_eq, Operation.source?, Operation.number?, Operation.closes]
  | attach new =>
    rw [apply, attach]
    split <;> simp [foldl_subscribe, Operation.source?, Operation.number?, Operation.closes]
  | detach id =>
    obtain ⟨tables, signalled, heq⟩ := server.exists_detach_eq id
    simp [apply, heq, Operation.source?, Operation.number?, Operation.closes]
  | shutdown id =>
    obtain ⟨tables, signalled, heq⟩ := server.exists_detach_eq id
    simp [apply, shutdown, heq, Operation.source?, Operation.number?, Operation.closes]
  | shutdownAll =>
    obtain ⟨tables, signalled, heq⟩ := server.exists_shutdownAll_eq
    simp [apply, heq, Operation.source?, Operation.number?, Operation.closes]
  | accept => simp [apply, accept, Operation.source?, Operation.number?, Operation.closes]
  | close => simp [apply, markClosing, Operation.source?, Operation.number?, Operation.closes]
  | register | deregister => simp [apply, Operation.source?, Operation.number?, Operation.closes]

/-- The connections that are live after an operation were live before and not
ended by it, or are attached by it. -/
theorem mem_sessions_apply {server : Server ι} {operation : Operation ι}
    (hnew : ∀ new, operation = .attach new → new.id ∉ server.liveIds) (session : Session ι) :
    session ∈ (server.apply operation).sessions ↔
      session ∈ server.sessions ∧ operation.ends session.id = false ∨
      ∃ new, operation = .attach new ∧ server.closing = false ∧ session = new.streaming := by
  cases operation with
  | addSource bus => simp [apply, addSource_eq, Operation.ends]
  | attach new =>
    cases hclosing : server.closing with
    | true => simp [apply, attach_eq_of_closing hclosing, Operation.ends]
    | false => simp [apply, attach_eq_of_open hclosing (hnew new rfl), Operation.ends]
  | detach id =>
    obtain ⟨tables, signalled, heq⟩ := server.exists_detach_eq id
    simp [apply, heq, Operation.ends]
  | shutdown id =>
    obtain ⟨tables, signalled, heq⟩ := server.exists_detach_eq id
    simp [apply, shutdown, heq, Operation.ends]
  | shutdownAll =>
    obtain ⟨tables, signalled, heq⟩ := server.exists_shutdownAll_eq
    simp [apply, heq, Operation.ends]
  | accept => simp [apply, accept, Operation.ends]
  | close => simp [apply, markClosing, Operation.ends]
  | register | deregister => simp [apply, Operation.ends]

theorem run_frame (server : Server ι) (operations : List (Operation ι)) :
    (server.run operations).settings = server.settings ∧
    (server.run operations).sources = server.sources ++ operations.filterMap Operation.source? ∧
    (server.run operations).closing = (server.closing || operations.any Operation.closes) := by
  induction operations using List.reverseRecOn with
  | nil => simp [run]
  | append_singleton operations operation ih =>
    obtain ⟨hsettings, hsources, hclosing⟩ := ih
    obtain ⟨hsettings', hsources', -, hclosing'⟩ :=
      (server.run operations).apply_frame operation
    rw [run_concat, hsettings', hsources', hclosing', hsettings, hsources, hclosing]
    refine ⟨rfl, ?_, ?_⟩
    · cases hsource : operation.source? <;> simp [hsource]
    · simp [Bool.or_assoc]

/-- Every number that is drawn is higher than all that were drawn before. -/
theorem pairwise_drawn (server : Server ι) (operations : List (Operation ι)) :
    (∀ number ∈ server.drawn operations, server.accepted < number) ∧
    (server.drawn operations).Pairwise (· < ·) := by
  induction operations generalizing server with
  | nil => simp [drawn]
  | cons operation rest ih =>
    obtain ⟨hlater, hrest⟩ := ih (server.apply operation)
    obtain ⟨-, -, haccepted, -⟩ := server.apply_frame operation
    rw [haccepted] at hlater
    rw [drawn]
    cases hnumber : operation.number? server with
    | none =>
      rw [hnumber] at hlater
      exact ⟨hlater, hrest⟩
    | some number =>
      -- The number is the next one, and all later ones are higher.
      have hnext : number = server.accepted + 1 := by
        cases operation <;> simp_all [Operation.number?, accept]
      rw [hnumber] at hlater
      refine ⟨?_, ?_⟩
      · intro n hmem
        rcases List.mem_cons.mp hmem with rfl | hmem
        · omega
        · have := hlater n hmem
          omega
      · refine List.pairwise_cons.mpr ⟨fun n hmem => ?_, hrest⟩
        rw [hnext]
        exact hlater n hmem

end Server

end SensorGateway.Forwarder
