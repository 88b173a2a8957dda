import Mathlib.Data.List.Basic
import Mathlib.Logic.Function.Basic
import SensorGateway.Proofs.Forwarder.Operations

/-!
# `SensorGateway.Proofs.Forwarder.Underway`: a server that several tasks use at once

Connections are attached, sources are added and any number of shutdowns go
on, all of it in turns. A detach may be a single turn or several: first the
connection is taken out, then its listener is taken off one source after the
other, and then the connection is told to stop. Anything may come in between,
also another detach or a shutdown. A `Turn` is one of these steps.

* `detach_induction` and `advance_induction`: a detach in a single turn does
  what the steps of it do in a row, so whatever the steps keep is kept.
* `run_advance`: a shutdown whose steps nothing comes in between of.
* `Consistent` says what holds between turns of connections that are live,
  being detached or gone, and of their listeners. `Consistent.step` says that
  every turn keeps it.
-/

set_option autoImplicit false

open scoped List

namespace SensorGateway.Forwarder

variable {ι : Type}

/-! ### Turns -/

/-- A detach under way: the connection is not live any more, and its listener
is still on some of the sources. -/
structure Leaving (ι : Type) where
  session : Session ι
  /-- The sources that come next. -/
  buses : List Nat
  /-- The shutdown that detaches it, if one does. -/
  shutdown? : Option Nat

/-- A server between two turns. Shutdowns are known by numbers. -/
structure Underway (ι : Type) where
  server : Server ι
  /-- The detaches under way. -/
  leaving : List (Leaving ι) := []
  phases : Nat → Server.ShutdownPhase := fun _ => .requested
  /-- What each detach answers, and for which id, from when on it is
  settled. -/
  answers : List (Nat × Option Connection) := []

/-- One step of anyone who uses the server, or the tables of its sources. -/
inductive Turn (ι : Type) where
  | attach (new : Session ι)
  | addSource (bus : Nat)
  /-- A detach from begin to end. -/
  | detach (id : Nat)
  /-- Closes one connection from begin to end. -/
  | shutdown (id : Nat)
  /-- A detach begins. -/
  | takeOut (id : Nat)
  /-- The next step of a detach under way. -/
  | clear (index : Nat)
  /-- The next step of a shutdown. If that is a detach, it is done from begin
  to end. -/
  | advance (task : Nat)
  /-- The next step of a shutdown. If that is a detach, it begins. -/
  | part (task : Nat)
  /-- Others register a listener. -/
  | register (bus : Nat) (type : MessageType) (listener : ι)
  /-- Others take a listener off. -/
  | deregister (bus : Nat) (type : MessageType) (listener : ι)

namespace Turn

def attached? : Turn ι → Option (Session ι)
  | .attach new => some new
  | _ => none

/-- No detach is left unfinished by this turn. -/
def isWhole : Turn ι → Bool
  | .takeOut _ | .clear _ | .part _ => false
  | _ => true

end Turn

namespace Server.ShutdownPhase

/-- The connection that is detached next. -/
def next? : ShutdownPhase → Option Nat
  | .detaching (id :: _) => some id
  | _ => none

end Server.ShutdownPhase

namespace Underway

/-- The connections whose detach is under way. -/
def departing (state : Underway ι) : List Nat :=
  state.leaving.map fun leaving => leaving.session.id

/-- The connections that were live and are not any more, one entry for every
detach that answered so. -/
def taken (state : Underway ι) : List Nat :=
  state.answers.filterMap fun answer => answer.2.map fun _ => answer.1

/-- The connections that are live or were. -/
def known (state : Underway ι) : List Nat := state.server.liveIds ++ state.taken

/-- A detach of this shutdown is under way. The shutdown waits for it. -/
def busy (state : Underway ι) (task : Nat) : Bool :=
  state.leaving.any fun leaving => leaving.shutdown? == some task

/-- The first step of a detach. -/
def takeOut (state : Underway ι) (shutdown? : Option Nat) (id : Nat) : Underway ι :=
  match state.server.sessions.find? fun session => session.id == id with
  | none => { state with answers := state.answers ++ [(id, none)] }
  | some session =>
    { state with
      server := { state.server with
        sessions := state.server.sessions.filter fun session => session.id != id }
      leaving := state.leaving ++ [⟨session, state.server.sources, shutdown?⟩]
      answers := state.answers ++ [(id, some { session.connection with state := .closed })] }

variable [DecidableEq ι]

/-- Any other step of a detach: the listener is taken off the next source, or
the connection is told to stop. -/
def clear (state : Underway ι) (index : Nat) : Underway ι :=
  match state.leaving[index]? with
  | none => state
  | some ⟨session, bus :: rest, shutdown?⟩ =>
    { state with
      server := state.server.unsubscribe session.listener bus
      leaving := state.leaving.set index ⟨session, rest, shutdown?⟩ }
  | some ⟨session, [], _⟩ =>
    { state with
      server := { state.server with signalled := state.server.signalled ++ [session.id] }
      leaving := state.leaving.eraseIdx index }

/-- A detach from begin to end. -/
def detach (state : Underway ι) (id : Nat) : Underway ι :=
  { state with
    server := (state.server.detach id).2
    answers := state.answers ++ [(id, (state.server.detach id).1)] }

/-- The next step of a shutdown. -/
def advance (state : Underway ι) (task : Nat) : Underway ι :=
  let (phase, server) := state.server.advanceShutdown (state.phases task)
  { state with
    server
    phases := Function.update state.phases task phase
    answers := state.answers ++
      (state.phases task).next?.toList.map fun id => (id, (state.server.detach id).1) }

/-- The next step of a shutdown, or the first step of its next detach. -/
def part (state : Underway ι) (task : Nat) : Underway ι :=
  match state.phases task with
  | .detaching (id :: rest) =>
    { state.takeOut (some task) id with
      phases := Function.update state.phases task (.detaching rest) }
  | _ => state.advance task

/-- Takes a turn. -/
def step (state : Underway ι) : Turn ι → Underway ι
  | .attach new =>
    { state with server := (state.server.attach new.id new.connection new.listener).2 }
  | .addSource bus => { state with server := state.server.addSource bus }
  | .detach id => state.detach id
  | .shutdown id =>
    { state with
      server := (state.server.shutdown id).2
      answers := state.answers ++ [(id, (state.server.detach id).1)] }
  | .takeOut id => state.takeOut none id
  | .clear index => state.clear index
  | .advance task => if state.busy task then state else state.advance task
  | .part task => if state.busy task then state else state.part task
  | .register bus type listener =>
    { state with server := { state.server with
        tables := (Operation.register bus type listener).outside state.server.tables } }
  | .deregister bus type listener =>
    { state with server := { state.server with
        tables := (Operation.deregister bus type listener).outside state.server.tables } }

/-- To close a connection is to detach it. -/
@[simp] theorem step_shutdown (state : Underway ι) (id : Nat) :
    state.step (.shutdown id) = state.detach id := rfl

/-- Takes one turn after the other. -/
def run (state : Underway ι) (turns : List (Turn ι)) : Underway ι := turns.foldl step state

@[simp] theorem run_nil (state : Underway ι) : state.run [] = state := rfl

theorem run_append (state : Underway ι) (before after : List (Turn ι)) :
    state.run (before ++ after) = (state.run before).run after := by
  simp [run]

@[simp] theorem run_concat (state : Underway ι) (turns : List (Turn ι)) (turn : Turn ι) :
    state.run (turns ++ [turn]) = (state.run turns).step turn := by
  simp [run]

/-! ### The steps of a detach -/

omit [DecidableEq ι] in
/-- A connection that is not live stays as it is. -/
theorem takeOut_cases (state : Underway ι) (shutdown? : Option Nat) (id : Nat) :
    (id ∉ state.server.liveIds ∧
      state.takeOut shutdown? id = { state with answers := state.answers ++ [(id, none)] }) ∨
    ∃ session ∈ state.server.sessions, session.id = id ∧
      state.takeOut shutdown? id = { state with
        server := { state.server with
          sessions := state.server.sessions.filter fun session => session.id != id }
        leaving := state.leaving ++ [⟨session, state.server.sources, shutdown?⟩]
        answers := state.answers ++
          [(id, some { session.connection with state := .closed })] } := by
  cases hfound : state.server.sessions.find? fun session => session.id == id with
  | none =>
    refine .inl ⟨?_, by simp [takeOut, hfound]⟩
    intro hmem
    obtain ⟨session, hsession, hid⟩ := List.mem_map.mp hmem
    exact List.find?_eq_none.mp hfound session hsession (by simpa using hid)
  | some session =>
    exact .inr ⟨session, List.mem_of_find?_eq_some hfound, by simpa using List.find?_some hfound,
      by simp [takeOut, hfound]⟩

omit [DecidableEq ι] in
theorem sessions_takeOut (state : Underway ι) (shutdown? : Option Nat) (id : Nat) :
    (state.takeOut shutdown? id).server.sessions =
      state.server.sessions.filter fun session => session.id != id := by
  rcases state.takeOut_cases shutdown? id with ⟨hnone, heq⟩ | ⟨session, -, -, heq⟩
  · rw [heq, eq_comm, List.filter_eq_self]
    intro session hmem
    have hne : session.id ≠ id := fun h => hnone (h ▸ List.mem_map_of_mem hmem)
    simpa using hne
  · rw [heq]

omit [DecidableEq ι] in
/-- What the first step of a detach does besides. -/
theorem takeOut_frame (state : Underway ι) (shutdown? : Option Nat) (id : Nat) :
    (state.takeOut shutdown? id).server.closing = state.server.closing ∧
    (state.takeOut shutdown? id).phases = state.phases ∧
    (∀ leaving ∈ (state.takeOut shutdown? id).leaving,
      leaving ∈ state.leaving ∨ leaving.shutdown? = shutdown?) := by
  rcases state.takeOut_cases shutdown? id with ⟨-, heq⟩ | ⟨session, -, -, heq⟩
  · rw [heq]
    exact ⟨rfl, rfl, fun leaving hmem => .inl hmem⟩
  · rw [heq]
    refine ⟨rfl, rfl, fun leaving hmem => ?_⟩
    rcases List.mem_append.mp hmem with hmem | hmem
    · exact .inl hmem
    · rw [List.mem_singleton.mp hmem]
      exact .inr rfl

theorem clear_cases (state : Underway ι) (index : Nat) :
    state.clear index = state ∨
    ∃ before session shutdown? after,
      (∃ bus rest, state.leaving = before ++ ⟨session, bus :: rest, shutdown?⟩ :: after ∧
        state.clear index = { state with
          server := state.server.unsubscribe session.listener bus
          leaving := before ++ ⟨session, rest, shutdown?⟩ :: after }) ∨
      (state.leaving = before ++ ⟨session, [], shutdown?⟩ :: after ∧
        state.clear index = { state with
          server := { state.server with
            signalled := state.server.signalled ++ [session.id] }
          leaving := before ++ after }) := by
  cases hfound : state.leaving[index]? with
  | none => exact .inl (by simp [clear, hfound])
  | some leaving =>
    obtain ⟨before, after, hsplit, rfl⟩ : ∃ before after,
        state.leaving = before ++ leaving :: after ∧ before.length = index := by
      obtain ⟨hlt, rfl⟩ := List.getElem?_eq_some_iff.mp hfound
      refine ⟨state.leaving.take index, state.leaving.drop (index + 1), ?_, ?_⟩
      · rw [← List.drop_eq_getElem_cons hlt, List.take_append_drop]
      · exact List.length_take_of_le (Nat.le_of_lt hlt)
    obtain ⟨session, buses, shutdown?⟩ := leaving
    refine .inr ⟨before, session, shutdown?, after, ?_⟩
    cases buses with
    | nil => exact .inr ⟨hsplit, by simp [clear, hsplit, List.eraseIdx_append_of_length_le]⟩
    | cons bus rest => exact .inl ⟨bus, rest, hsplit, by simp [clear, hsplit]⟩

/-- The next step of a shutdown is the first one of a detach, or leaves the
connections as they are. -/
theorem part_cases (state : Underway ι) (task : Nat) :
    (∃ id rest, state.phases task = .detaching (id :: rest) ∧
      state.part task = { state.takeOut (some task) id with
        phases := Function.update state.phases task (.detaching rest) }) ∨
    ∃ closing phase,
      state.part task = { state with
        server := { state.server with closing }
        phases := Function.update state.phases task phase } ∧
      (state.phases task = .requested ∧ closing = true ∧ phase = .marked ∨
        state.phases task = .marked ∧ closing = state.server.closing ∧
          phase = .detaching state.server.liveIds ∨
        (state.phases task = .detaching [] ∨ state.phases task = .finished) ∧
          closing = state.server.closing ∧ phase = .finished) := by
  unfold part
  split
  · next id rest hphase => exact .inl ⟨id, rest, hphase, rfl⟩
  · next hnext =>
    right
    unfold advance
    cases hphase : state.phases task with
    | requested =>
      exact ⟨true, .marked, by simp [Server.advanceShutdown, Server.ShutdownPhase.next?,
        Server.markClosing], by simp⟩
    | marked =>
      exact ⟨state.server.closing, .detaching state.server.liveIds,
        by simp [Server.advanceShutdown, Server.ShutdownPhase.next?], by simp⟩
    | detaching ids =>
      cases ids with
      | cons id rest => exact absurd hphase (hnext id rest)
      | nil =>
        exact ⟨state.server.closing, .finished,
          by simp [Server.advanceShutdown, Server.ShutdownPhase.next?], by simp⟩
    | finished =>
      exact ⟨state.server.closing, .finished,
        by simp [Server.advanceShutdown, Server.ShutdownPhase.next?], by simp⟩

/-! ### A detach in one turn and in several -/

/-- The steps of a detach in a row, the first one apart. -/
theorem exists_run_clear_eq (state : Underway ι) (leaving : List (Leaving ι))
    (session : Session ι) (buses : List Nat) (shutdown? : Option Nat) :
    ∃ count,
      run { state with leaving := leaving ++ [⟨session, buses, shutdown?⟩] }
        (List.replicate count (.clear leaving.length)) =
      { state with
        leaving
        server := { buses.foldl (fun server bus => server.unsubscribe session.listener bus)
            state.server with
          signalled := state.server.signalled ++ [session.id] } } := by
  induction buses generalizing state with
  | nil =>
    refine ⟨1, ?_⟩
    simp [run, step, clear, List.eraseIdx_append_of_length_le]
  | cons bus rest ih =>
    obtain ⟨count, hcount⟩ :=
      ih { state with server := state.server.unsubscribe session.listener bus }
    have hfirst :
        step { state with leaving := leaving ++ [⟨session, bus :: rest, shutdown?⟩] }
          (.clear leaving.length) =
        { state with
          server := state.server.unsubscribe session.listener bus
          leaving := leaving ++ [⟨session, rest, shutdown?⟩] } := by
      simp [step, clear]
    refine ⟨count + 1, ?_⟩
    rw [List.replicate_succ, run, List.foldl_cons, hfirst]
    exact hcount

/-- A detach is its first step and then the others, if there are any. -/
theorem exists_run_takeOut_eq (state : Underway ι) (shutdown? : Option Nat) (id : Nat) :
    ∃ count, (state.takeOut shutdown? id).run
      (List.replicate count (.clear state.leaving.length)) = state.detach id := by
  rw [takeOut, detach, Server.detach]
  cases hfound : state.server.sessions.find? fun session => session.id == id with
  | none => exact ⟨0, rfl⟩
  | some session =>
    have hid : session.id = id := by simpa using List.find?_some hfound
    obtain ⟨count, hcount⟩ := exists_run_clear_eq
      { state with
        server := { state.server with
          sessions := state.server.sessions.filter fun session => session.id != id }
        answers := state.answers ++ [(id, some { session.connection with state := .closed })] }
      state.leaving session state.server.sources shutdown?
    refine ⟨count, hcount.trans ?_⟩
    simp only [Server.foldl_unsubscribe, hid]

/-- What the steps of a detach keep, the detach keeps. -/
theorem detach_induction {p : Underway ι → Prop} {state : Underway ι} {shutdown? : Option Nat}
    {id : Nat} (hfirst : p (state.takeOut shutdown? id))
    (hclear : ∀ state index, p state → p (state.clear index)) : p (state.detach id) := by
  obtain ⟨count, hcount⟩ := state.exists_run_takeOut_eq shutdown? id
  rw [← hcount]
  generalize state.takeOut shutdown? id = first at hfirst
  clear hcount
  induction count generalizing first with
  | zero => exact hfirst
  | succ count ih => exact ih _ (hclear first _ hfirst)

omit [DecidableEq ι] in
/-- Where a shutdown is does not matter to a detach. -/
theorem takeOut_phases (state : Underway ι) (phases : Nat → Server.ShutdownPhase)
    (shutdown? : Option Nat) (id : Nat) :
    takeOut { state with phases } shutdown? id = { state.takeOut shutdown? id with phases } := by
  cases hfound : state.server.sessions.find? fun session => session.id == id <;>
    simp [takeOut, hfound]

/-- The same of a shutdown, whose steps may be detaches. -/
theorem advance_induction {p : Underway ι → Prop} {state : Underway ι} {task : Nat}
    (hfirst : p (state.part task))
    (hclear : ∀ state index, p state → p (state.clear index)) : p (state.advance task) := by
  unfold part at hfirst
  split at hfirst
  · next id rest hphase =>
    rw [← takeOut_phases] at hfirst
    have hadvance : state.advance task =
        detach { state with phases := Function.update state.phases task (.detaching rest) } id := by
      simp [advance, detach, hphase, Server.advanceShutdown, Server.ShutdownPhase.next?]
    rw [hadvance]
    exact detach_induction hfirst hclear
  · exact hfirst

/-! ### A shutdown that nothing comes in between of -/

theorem step_advance {state : Underway ι} {task : Nat} (hbusy : state.busy task = false) :
    state.step (.advance task) = state.advance task := by
  simp [step, hbusy]

theorem run_advance_detaching (ids : List Nat) {state : Underway ι} {task : Nat}
    (hbusy : state.busy task = false) (hphase : state.phases task = .detaching ids) :
    let after := state.run (List.replicate (ids.length + 1) (.advance task))
    after.server = ids.foldl (fun server id => (server.detach id).2) state.server ∧
    after.phases task = .finished := by
  induction ids generalizing state with
  | nil =>
    simp [run, step_advance hbusy, advance, hphase, Server.advanceShutdown]
  | cons id rest ih =>
    have hfirst := @ih (state.advance task) hbusy (by
      simp [advance, hphase, Server.advanceShutdown])
    have hserver : (state.advance task).server = (state.server.detach id).2 := by
      simp [advance, hphase, Server.advanceShutdown]
    rw [hserver] at hfirst
    rw [List.length_cons, List.replicate_succ, run, List.foldl_cons, step_advance hbusy]
    exact hfirst

/-- The steps of a shutdown in a row are the whole of it. -/
theorem run_advance {state : Underway ι} {task : Nat} (hbusy : state.busy task = false)
    (hphase : state.phases task = .requested) :
    let after := state.run (List.replicate (state.server.liveIds.length + 3) (.advance task))
    after.server = state.server.shutdownAll ∧ after.phases task = .finished := by
  have hmarked : (state.advance task).advance task = { state with
      server := state.server.markClosing
      phases := Function.update state.phases task (.detaching state.server.liveIds) } := by
    simp [advance, hphase, Server.advanceShutdown, Server.ShutdownPhase.next?,
      Server.liveIds, Server.markClosing]
  have hbusy' : (state.advance task).busy task = false := hbusy
  have hasked : ((state.advance task).advance task).phases task =
      .detaching state.server.liveIds := by
    rw [hmarked]
    simp
  have hrest := run_advance_detaching state.server.liveIds
    (show ((state.advance task).advance task).busy task = false from hbusy) hasked
  rw [List.replicate_succ, List.replicate_succ, run, List.foldl_cons, List.foldl_cons,
    step_advance hbusy, step_advance hbusy']
  rw [hmarked] at hrest ⊢
  exact hrest

/-! ### What holds between turns -/

/-- The connections that are live, or are being detached, are members, and
`own` are listeners that only members have. No id is used twice. Every connection that was taken out
was told to stop or is going to be, and a listener is found only where one that
is live is or one that is being detached still is. -/
structure Consistent (member : Session ι → Prop) (own : ι → Prop) (state : Underway ι) : Prop where
  nodup : state.known.Nodup
  balance : state.taken ~ state.server.signalled ++ state.departing
  placed : ∀ bus type listener, own listener → listener ∈ (state.server.tables bus).list type →
    type = state.server.settings.messageType ∧
    ((bus ∈ state.server.sources ∧ ∃ session ∈ state.server.sessions,
        session.listener = listener) ∨
      ∃ leaving ∈ state.leaving, leaving.session.listener = listener ∧ bus ∈ leaving.buses)
  sessions : ∀ session ∈ state.server.sessions, member session
  leaving : ∀ leaving ∈ state.leaving, member leaving.session
  answers : ∀ id connection, (id, some connection) ∈ state.answers → ∃ session, member session ∧
    session.id = id ∧ connection = { session.connection with state := .closed }

/-- What is asked of a turn. A connection that is attached is a member and
brings a new id, and others do not register listeners of the server. -/
def Fits (member : Session ι → Prop) (own : ι → Prop) (state : Underway ι) : Turn ι → Prop
  | .attach new => new.id ∉ state.known ∧ member new.streaming
  | .register _ _ listener => ¬own listener
  | _ => True

namespace Consistent

variable {member : Session ι → Prop} {own : ι → Prop} {state : Underway ι}

omit [DecidableEq ι] in
/-- A server without connections, before any of its listeners are known. -/
theorem start (settings : ServerSettings) {tables : Nat → Bus.Listeners ι}
    (h : ∀ bus type listener, own listener → listener ∉ (tables bus).list type) :
    Consistent member own { server := { settings, tables } } where
  nodup := List.nodup_nil
  balance := List.Perm.refl _
  placed bus type listener hown hmem := absurd hmem (h bus type listener hown)
  sessions := by simp
  leaving := by simp
  answers := by simp

theorem attach (h : Consistent member own state) {new : Session ι}
    (hnew : new.id ∉ state.known) (hmember : member new.streaming) :
    Consistent member own (state.step (.attach new)) := by
  have hlive : new.id ∉ state.server.liveIds := fun hmem => hnew (List.mem_append_left _ hmem)
  cases hclosing : state.server.closing with
  | true =>
    rw [step, Server.attach_eq_of_closing hclosing]
    exact h
  | false =>
    rw [step, Server.attach_eq_of_open hclosing hlive]
    refine ⟨?_, h.balance, ?_, ?_, h.leaving, h.answers⟩
    · -- Its id comes between those that are live and those that were.
      have hperm : new.id :: state.known ~
          state.server.liveIds ++ [new.id] ++ state.taken := by
        simpa [known] using List.perm_middle.symm
      have hall := hperm.nodup_iff.mp (List.nodup_cons.mpr ⟨hnew, h.nodup⟩)
      simpa [known, Server.liveIds, taken, Session.streaming] using hall
    · -- A listener in a table was there before or is the new one on a source.
      intro bus type listener hown hmem
      dsimp only at hmem ⊢
      have hold : listener ∈ (state.server.tables bus).list type ∨
          bus ∈ state.server.sources ∧ type = state.server.settings.messageType ∧
            listener = new.listener := by
        split at hmem
        · next hbus =>
          rcases (Bus.Listeners.mem_register ..).mp hmem with hsame | hmem
          · exact .inr ⟨hbus, hsame⟩
          · exact .inl hmem
        · exact .inl hmem
      rcases hold with hold | ⟨hbus, htype, rfl⟩
      · obtain ⟨htype, ⟨hbus, session, hsession, hlistener⟩ | hleaving⟩ :=
          h.placed bus type listener hown hold
        · exact ⟨htype, .inl ⟨hbus, session, List.mem_append_left _ hsession, hlistener⟩⟩
        · exact ⟨htype, .inr hleaving⟩
      · exact ⟨htype, .inl ⟨hbus, new.streaming, by simp, rfl⟩⟩
    · intro session hmem
      rcases List.mem_append.mp hmem with hmem | hmem
      · exact h.sessions session hmem
      · rw [List.mem_singleton.mp hmem]
        exact hmember

theorem addSource (h : Consistent member own state) (bus : Nat) :
    Consistent member own (state.step (.addSource bus)) := by
  rw [step, Server.addSource_eq]
  refine ⟨h.nodup, h.balance, ?_, h.sessions, h.leaving, h.answers⟩
  intro b type listener hown hmem
  dsimp only at hmem ⊢
  have hold : listener ∈ (state.server.tables b).list type ∨
      b = bus ∧ type = state.server.settings.messageType ∧
        listener ∈ state.server.sessions.map Session.listener := by
    split at hmem
    · next hbus =>
      rcases (Bus.Listeners.mem_registerAll ..).mp hmem with hsame | hmem
      · exact .inr ⟨hbus, hsame⟩
      · exact .inl hmem
    · exact .inl hmem
  rcases hold with hold | ⟨rfl, htype, hlistener⟩
  · obtain ⟨htype, ⟨hbus, hsession⟩ | hleaving⟩ := h.placed b type listener hown hold
    · exact ⟨htype, .inl ⟨List.mem_append_left _ hbus, hsession⟩⟩
    · exact ⟨htype, .inr hleaving⟩
  · exact ⟨htype, .inl ⟨by simp, List.mem_map.mp hlistener⟩⟩

omit [DecidableEq ι] in
theorem takeOut (h : Consistent member own state) (shutdown? : Option Nat) (id : Nat) :
    Consistent member own (state.takeOut shutdown? id) := by
  rcases state.takeOut_cases shutdown? id with ⟨-, heq⟩ | ⟨session, hsession, rfl, heq⟩
  · rw [heq]
    refine ⟨?_, ?_, h.placed, h.sessions, h.leaving, ?_⟩
    · simpa [known, taken] using h.nodup
    · simpa [taken, departing] using h.balance
    · intro id connection hmem
      rw [List.mem_append] at hmem
      exact h.answers id connection (hmem.resolve_right (by simp))
  · rw [heq]
    constructor
    case nodup =>
      -- The id goes from those that are live to those that were.
      have hnodup : state.server.liveIds.Nodup := (List.nodup_append.mp h.nodup).1
      have hrest : (state.server.sessions.filter fun other => other.id != session.id).map
          Session.id = state.server.liveIds.erase session.id := by
        rw [hnodup.erase_eq_filter, Server.liveIds, List.filter_map]
        rfl
      have hperm : state.known ~
          state.server.liveIds.erase session.id ++ (state.taken ++ [session.id]) := by
        have hlive : session.id ∈ state.server.liveIds := List.mem_map_of_mem hsession
        have hfirst := List.perm_cons_erase hlive
        refine (hfirst.append_right _).trans ?_
        rw [← List.append_assoc]
        exact (List.perm_append_singleton _ _).symm
      have hall := hperm.nodup_iff.mp h.nodup
      simpa [known, Server.liveIds, taken, hrest] using hall
    case balance =>
      have hbalance := h.balance.append_right [session.id]
      simpa [taken, departing] using hbalance
    case placed =>
      intro bus type listener hown hmem
      obtain ⟨htype, hplace⟩ := h.placed bus type listener hown hmem
      refine ⟨htype, ?_⟩
      rcases hplace with ⟨hbus, other, hother, rfl⟩ | ⟨leaving, hleaving, hplace⟩
      · by_cases hid : other.id = session.id
        · -- It is the one that is taken out.
          obtain rfl : other = session :=
            List.inj_on_of_nodup_map (List.nodup_append.mp h.nodup).1 hother hsession hid
          exact .inr ⟨⟨other, state.server.sources, shutdown?⟩, by simp, rfl, hbus⟩
        · exact .inl ⟨hbus, other, List.mem_filter.mpr ⟨hother, by simpa using hid⟩, rfl⟩
      · exact .inr ⟨leaving, List.mem_append_left _ hleaving, hplace⟩
    case sessions =>
      intro other hother
      exact h.sessions other (List.mem_of_mem_filter hother)
    case leaving =>
      intro leaving hmem
      rcases List.mem_append.mp hmem with hmem | hmem
      · exact h.leaving leaving hmem
      · rw [List.mem_singleton.mp hmem]
        exact h.sessions session hsession
    case answers =>
      intro id connection hmem
      rcases List.mem_append.mp hmem with hmem | hmem
      · exact h.answers id connection hmem
      · obtain ⟨rfl, rfl⟩ : id = session.id ∧
            connection = { session.connection with state := .closed } := by
          simpa using hmem
        exact ⟨session, h.sessions session hsession, rfl, rfl⟩

/-- A detach under way takes its listener off the next source. -/
theorem unsubscribe (h : Consistent member own state) {before after : List (Leaving ι)}
    {session : Session ι} {bus : Nat} {rest : List Nat} {shutdown? : Option Nat}
    (hsplit : state.leaving = before ++ ⟨session, bus :: rest, shutdown?⟩ :: after) :
    Consistent member own { state with
      server := state.server.unsubscribe session.listener bus
      leaving := before ++ ⟨session, rest, shutdown?⟩ :: after } := by
  have hmember := h.leaving
  have hbalance := h.balance
  have hplaced := h.placed
  simp only [departing, hsplit] at hmember hbalance hplaced
  refine ⟨h.nodup, ?_, ?_, h.sessions, ?_, h.answers⟩
  · simpa [taken, departing, Server.unsubscribe] using hbalance
  · -- A listener in a table was there before, and is not the one that got off.
    intro b type listener hown hmem
    have hold : listener ∈ (state.server.tables b).list type ∧
        (b = bus → ¬(type = state.server.settings.messageType ∧
          listener = session.listener)) := by
      dsimp only [Server.unsubscribe] at hmem
      split at hmem
      · next hbus =>
        obtain ⟨hne, hmem⟩ := (Bus.Listeners.mem_deregister ..).mp hmem
        exact ⟨hbus ▸ hmem, fun _ => hne⟩
      · next hbus => exact ⟨hmem, fun h => absurd h hbus⟩
    obtain ⟨htype, hplace⟩ := hplaced b type listener hown hold.1
    refine ⟨htype, hplace.imp_right ?_⟩
    rintro ⟨leaving, hleaving, hlistener, hleft⟩
    rw [List.mem_append, List.mem_cons] at hleaving
    rcases hleaving with hleaving | rfl | hleaving
    · exact ⟨leaving, by simp [hleaving], hlistener, hleft⟩
    · -- From this bus it is gone now.
      have hne : b ≠ bus := fun hbus => hold.2 hbus ⟨htype, hlistener.symm⟩
      exact ⟨_, List.mem_append_right _ List.mem_cons_self, hlistener,
        (List.mem_cons.mp hleft).resolve_left hne⟩
    · exact ⟨leaving, by simp [hleaving], hlistener, hleft⟩
  · intro leaving hmem
    rw [List.mem_append, List.mem_cons] at hmem
    rcases hmem with hmem | rfl | hmem
    · exact hmember leaving (by simp [hmem])
    · exact hmember ⟨session, bus :: rest, shutdown?⟩ (by simp)
    · exact hmember leaving (by simp [hmem])

omit [DecidableEq ι] in
/-- A detach that took its listener off all sources comes to its end. -/
theorem signal (h : Consistent member own state) {before after : List (Leaving ι)}
    {session : Session ι} {shutdown? : Option Nat}
    (hsplit : state.leaving = before ++ ⟨session, [], shutdown?⟩ :: after) :
    Consistent member own { state with
      server := { state.server with signalled := state.server.signalled ++ [session.id] }
      leaving := before ++ after } := by
  have hmember := h.leaving
  have hbalance := h.balance
  have hplaced := h.placed
  simp only [departing, hsplit] at hmember hbalance hplaced
  refine ⟨h.nodup, ?_, ?_, h.sessions, ?_, h.answers⟩
  · refine hbalance.trans ?_
    simp only [departing, List.map_append, List.map_cons, List.append_assoc]
    exact List.perm_middle.append_left _
  · intro b type listener hown hmem
    obtain ⟨htype, hplace⟩ := hplaced b type listener hown hmem
    refine ⟨htype, hplace.imp_right ?_⟩
    rintro ⟨leaving, hleaving, hlistener, hleft⟩
    rw [List.mem_append, List.mem_cons] at hleaving
    rcases hleaving with hleaving | rfl | hleaving
    · exact ⟨leaving, by simp [hleaving], hlistener, hleft⟩
    · exact absurd hleft List.not_mem_nil
    · exact ⟨leaving, by simp [hleaving], hlistener, hleft⟩
  · intro leaving hmem
    refine hmember leaving ?_
    rcases List.mem_append.mp hmem with hmem | hmem <;> simp [hmem]

theorem clear (h : Consistent member own state) (index : Nat) :
    Consistent member own (state.clear index) := by
  rcases state.clear_cases index with heq | ⟨before, session, shutdown?, after,
    ⟨bus, rest, hsplit, heq⟩ | ⟨hsplit, heq⟩⟩
  · rw [heq]
    exact h
  · rw [heq]
    exact h.unsubscribe hsplit
  · rw [heq]
    exact h.signal hsplit

theorem part (h : Consistent member own state) (task : Nat) :
    Consistent member own (state.part task) := by
  rcases state.part_cases task with ⟨id, rest, -, heq⟩ | ⟨closing, phase, heq, -⟩
  · have htaken := h.takeOut (some task) id
    rw [heq]
    exact ⟨htaken.nodup, htaken.balance, htaken.placed, htaken.sessions, htaken.leaving,
      htaken.answers⟩
  · rw [heq]
    exact ⟨h.nodup, h.balance, h.placed, h.sessions, h.leaving, h.answers⟩

theorem register (h : Consistent member own state) {listener : ι} (hother : ¬own listener)
    (bus : Nat) (type : MessageType) :
    Consistent member own (state.step (.register bus type listener)) := by
  refine ⟨h.nodup, h.balance, ?_, h.sessions, h.leaving, h.answers⟩
  intro b other l hown hmem
  refine h.placed b other l hown ?_
  dsimp only [step, Operation.outside] at hmem
  split at hmem
  · next hbus =>
    rcases (Bus.Listeners.mem_register ..).mp hmem with ⟨-, rfl⟩ | hmem
    · exact absurd hown hother
    · exact hbus ▸ hmem
  · exact hmem

theorem deregister (h : Consistent member own state) (bus : Nat) (type : MessageType)
    (listener : ι) : Consistent member own (state.step (.deregister bus type listener)) := by
  refine ⟨h.nodup, h.balance, ?_, h.sessions, h.leaving, h.answers⟩
  intro b other l hown hmem
  refine h.placed b other l hown ?_
  dsimp only [step, Operation.outside] at hmem
  split at hmem
  · next hbus => exact hbus ▸ ((Bus.Listeners.mem_deregister ..).mp hmem).2
  · exact hmem

theorem step (h : Consistent member own state) (turn : Turn ι)
    (hfits : Fits member own state turn) :
    Consistent member own (state.step turn) := by
  have hdetach : ∀ id, Consistent member own (state.detach id) := fun id =>
    detach_induction (h.takeOut none id) fun _ index hstate => hstate.clear index
  cases turn with
  | attach new => exact h.attach hfits.1 hfits.2
  | addSource bus => exact h.addSource bus
  | detach id => exact hdetach id
  | shutdown id => exact hdetach id
  | takeOut id => exact h.takeOut none id
  | clear index => exact h.clear index
  | advance task =>
    show Consistent member own (if state.busy task then state else state.advance task)
    split
    · exact h
    · exact advance_induction (h.part task) fun _ index hstate => hstate.clear index
  | part task =>
    show Consistent member own (if state.busy task then state else state.part task)
    split
    · exact h
    · exact h.part task
  | register bus type listener => exact h.register hfits bus type
  | deregister bus type listener => exact h.deregister bus type listener

end Consistent

/-! ### What is never undone -/

omit [DecidableEq ι] in
/-- Only one connection goes when the sessions of an id do. -/
theorem mem_map_id_filter (sessions : List (Session ι)) {id x : Nat} (hne : x ≠ id) :
    x ∈ (sessions.filter fun session => session.id != id).map Session.id ↔
      x ∈ sessions.map Session.id := by
  simp only [List.mem_map, List.mem_filter, bne_iff_ne]
  constructor
  · rintro ⟨session, ⟨hmem, -⟩, rfl⟩
    exact ⟨session, hmem, rfl⟩
  · rintro ⟨session, hmem, rfl⟩
    exact ⟨session, ⟨hmem, hne⟩, rfl⟩

omit [DecidableEq ι] in
theorem mem_known_takeOut (state : Underway ι) (shutdown? : Option Nat) (id x : Nat) :
    x ∈ (state.takeOut shutdown? id).known ↔ x ∈ state.known := by
  rcases state.takeOut_cases shutdown? id with ⟨-, heq⟩ | ⟨session, hsession, rfl, heq⟩
  · rw [heq]
    simp [known, taken]
  · have hlive : session.id ∈ state.server.liveIds := List.mem_map_of_mem hsession
    rw [heq]
    by_cases hx : x = session.id
    · simp [hx, known, taken, hlive]
    · have hkept := mem_map_id_filter state.server.sessions hx
      simp only [known, taken, Server.liveIds, List.mem_append, hkept, List.filterMap_append]
      simp [hx]

theorem mem_known_clear (state : Underway ι) (index x : Nat) :
    x ∈ (state.clear index).known ↔ x ∈ state.known := by
  rcases state.clear_cases index with heq | ⟨before, session, shutdown?, after,
    ⟨bus, rest, -, heq⟩ | ⟨-, heq⟩⟩ <;> rw [heq] <;> rfl

theorem mem_known_part (state : Underway ι) (task x : Nat) :
    x ∈ (state.part task).known ↔ x ∈ state.known := by
  rcases state.part_cases task with ⟨id, rest, -, heq⟩ | ⟨closing, phase, heq, -⟩
  · rw [heq]
    exact mem_known_takeOut state (some task) id x
  · rw [heq]
    rfl

theorem mem_known_attach (state : Underway ι) (new : Session ι) (x : Nat) :
    x ∈ (state.step (.attach new)).known ↔
      x ∈ state.known ∨ state.server.closing = false ∧ x = new.id := by
  cases hclosing : state.server.closing with
  | true =>
    rw [step, Server.attach_eq_of_closing hclosing]
    simp [known, taken]
  | false =>
    have hlive : (state.step (.attach new)).server.liveIds =
        (state.server.sessions.filter fun session => session.id != new.id).map Session.id ++
          [new.id] := by
      simp [step, Server.attach, hclosing, Server.foldl_subscribe, Server.liveIds]
    have htaken : (state.step (.attach new)).taken = state.taken := rfl
    rw [known, hlive, htaken]
    by_cases hx : x = new.id
    · simp [hx]
    · have hkept := mem_map_id_filter state.server.sessions hx
      simp only [known, Server.liveIds, List.mem_append, hkept]
      simp [hx]

/-- Nobody is forgotten, and a connection gets known by being attached. -/
theorem mem_known_step (state : Underway ι) (turn : Turn ι) (x : Nat) :
    x ∈ (state.step turn).known ↔ x ∈ state.known ∨
      state.server.closing = false ∧ ∃ new, turn = .attach new ∧ x = new.id := by
  have hclear : ∀ (later : Underway ι) (index : Nat),
      (x ∈ later.known ↔ x ∈ state.known) →
        (x ∈ (later.clear index).known ↔ x ∈ state.known) :=
    fun later index h => (later.mem_known_clear index x).trans h
  have hdetach : ∀ id, x ∈ (state.detach id).known ↔ x ∈ state.known := fun id =>
    detach_induction (p := fun later => x ∈ later.known ↔ x ∈ state.known)
      (state.mem_known_takeOut none id x) hclear
  cases turn with
  | attach new => simpa using state.mem_known_attach new x
  | addSource bus => simp [step, known, taken, Server.addSource_eq, Server.liveIds]
  | detach id => simpa [step] using hdetach id
  | shutdown id => simpa using hdetach id
  | takeOut id => simpa [step] using state.mem_known_takeOut none id x
  | clear index => simpa [step] using state.mem_known_clear index x
  | advance task =>
    have hadvance : x ∈ (state.advance task).known ↔ x ∈ state.known :=
      advance_induction (p := fun later => x ∈ later.known ↔ x ∈ state.known)
        (state.mem_known_part task x) hclear
    cases hbusy : state.busy task <;> simp [step, hbusy, hadvance]
  | part task =>
    cases hbusy : state.busy task <;> simp [step, hbusy, state.mem_known_part task x]
  | register bus type listener => simp [step, known, taken, Server.liveIds]
  | deregister bus type listener => simp [step, known, taken, Server.liveIds]

theorem mem_known_run_of_mem {state : Underway ι} {x : Nat} (h : x ∈ state.known)
    (turns : List (Turn ι)) : x ∈ (state.run turns).known := by
  induction turns using List.reverseRecOn with
  | nil => exact h
  | append_singleton earlier turn ih =>
    rw [run_concat]
    exact ((state.run earlier).mem_known_step turn x).mpr (.inl ih)

omit [DecidableEq ι] in
theorem answers_takeOut (state : Underway ι) (shutdown? : Option Nat) (id : Nat) :
    state.answers <+: (state.takeOut shutdown? id).answers := by
  rcases state.takeOut_cases shutdown? id with ⟨-, heq⟩ | ⟨session, -, -, heq⟩ <;> rw [heq] <;>
    exact List.prefix_append _ _

/-- What a detach answered stays answered. -/
theorem answers_step (state : Underway ι) (turn : Turn ι) :
    state.answers <+: (state.step turn).answers := by
  cases turn with
  | detach id => exact List.prefix_append _ _
  | shutdown id => exact List.prefix_append _ _
  | takeOut id => exact state.answers_takeOut none id
  | clear index =>
    rcases state.clear_cases index with heq | ⟨before, session, shutdown?, after,
      ⟨bus, rest, -, heq⟩ | ⟨-, heq⟩⟩ <;> simp [step, heq]
  | advance task =>
    cases hbusy : state.busy task <;> simp [step, hbusy, advance]
  | part task =>
    cases hbusy : state.busy task with
    | true => simp [step, hbusy]
    | false =>
      rcases state.part_cases task with ⟨id, rest, -, heq⟩ | ⟨closing, phase, heq, -⟩
      · simpa [step, hbusy, heq] using state.answers_takeOut (some task) id
      · simp [step, hbusy, heq]
  | _ => exact List.prefix_refl _

theorem mem_taken_step {state : Underway ι} {id : Nat} (h : id ∈ state.taken) (turn : Turn ι) :
    id ∈ (state.step turn).taken :=
  ((state.answers_step turn).sublist.filterMap _).subset h

/-- Whoever was live is gone after a detach. -/
theorem mem_taken_detach {state : Underway ι} {id : Nat} (h : id ∈ state.known) :
    id ∈ (state.step (.detach id)).taken := by
  have hknown := (mem_known_step state (.detach id) id).mpr (.inl h)
  refine (List.mem_append.mp hknown).resolve_left ?_
  obtain ⟨tables, signalled, heq⟩ := state.server.exists_detach_eq id
  simp [step, detach, Server.liveIds, heq]

/-- A shutdown that is finished stays so. -/
theorem phases_step_of_finished {state : Underway ι} {task : Nat}
    (h : state.phases task = .finished) (turn : Turn ι) :
    (state.step turn).phases task = .finished := by
  cases turn with
  | takeOut id =>
    rw [step, (state.takeOut_frame none id).2.1]
    exact h
  | clear index =>
    rcases state.clear_cases index with heq | ⟨before, session, shutdown?, after,
      ⟨bus, rest, -, heq⟩ | ⟨-, heq⟩⟩ <;> rw [step, heq] <;> exact h
  | advance other =>
    by_cases hsame : other = task
    · cases hbusy : state.busy task <;>
        simp [step, hsame, hbusy, advance, h, Server.advanceShutdown]
    · cases hbusy : state.busy other <;>
        simp [step, hbusy, advance, Function.update_of_ne (Ne.symm hsame), h]
  | part other =>
    by_cases hsame : other = task
    · cases hbusy : state.busy task <;>
        simp [step, hsame, hbusy, part, advance, h, Server.advanceShutdown]
    · cases hbusy : state.busy other with
      | true => simpa [step, hbusy] using h
      | false =>
        rcases state.part_cases other with ⟨id, rest, -, heq⟩ | ⟨closing, phase, heq, -⟩ <;>
          simp [step, hbusy, heq, Function.update_of_ne (Ne.symm hsame), h]
  | _ => exact h

/-- No detach is left unfinished by turns that finish theirs. -/
theorem leaving_step_of_isWhole {state : Underway ι} (h : state.leaving = []) {turn : Turn ι}
    (hwhole : turn.isWhole = true) : (state.step turn).leaving = [] := by
  cases turn with
  | takeOut id => cases hwhole
  | clear index => cases hwhole
  | part task => cases hwhole
  | advance task => cases hbusy : state.busy task <;> simp [step, hbusy, advance, h]
  | _ => exact h

/-! ### Runs from the start -/

/-- A server without connections, sources and shutdowns. -/
def start (settings : ServerSettings) (tables : Nat → Bus.Listeners ι) : Underway ι :=
  { server := { settings, tables } }

/-- The connections that were to be attached. -/
def newcomers (turns : List (Turn ι)) : List (Session ι) := turns.filterMap Turn.attached?

omit [DecidableEq ι] in
theorem newcomers_append_cons (before : List (Turn ι)) (turn : Turn ι) (after : List (Turn ι)) :
    newcomers (before ++ turn :: after) =
      newcomers before ++ turn.attached?.toList ++ newcomers after := by
  cases hturn : turn.attached? <;> simp [newcomers, hturn]

/-- What is asked of a run. Connections that are attached have ids of their
own. Their listeners are not those that others have, before the run or during
it. -/
structure Fresh (tables : Nat → Bus.Listeners ι) (turns : List (Turn ι)) : Prop where
  ids : ((newcomers turns).map Session.id).Nodup
  tables : ∀ new ∈ newcomers turns, ∀ bus type, new.listener ∉ (tables bus).list type
  others : ∀ bus type listener, .register bus type listener ∈ turns →
    ∀ new ∈ newcomers turns, new.listener ≠ listener

/-- A connection that was to be attached, once it streams. -/
def Member (turns : List (Turn ι)) (session : Session ι) : Prop :=
  ∃ new ∈ newcomers turns, session = new.streaming

/-- The listener of a connection that was to be attached. -/
def Own (turns : List (Turn ι)) (listener : ι) : Prop :=
  ∃ new ∈ newcomers turns, new.listener = listener

/-- The invariant holds at any time of a run. -/
theorem consistent_run_prefix (settings : ServerSettings) {tables : Nat → Bus.Listeners ι}
    {turns : List (Turn ι)} (h : Fresh tables turns) {before : List (Turn ι)}
    (hbefore : before <+: turns) :
    Consistent (Member turns) (Own turns) ((start settings tables).run before) ∧
    ∀ id ∈ ((start settings tables).run before).known, id ∈ (newcomers before).map Session.id := by
  induction before using List.reverseRecOn with
  | nil =>
    refine ⟨Consistent.start settings ?_, fun id hmem => absurd hmem List.not_mem_nil⟩
    rintro bus type listener ⟨new, hnew, rfl⟩
    exact h.tables new hnew bus type
  | append_singleton earlier turn ih =>
    obtain ⟨hconsistent, hknown⟩ := ih ((List.prefix_append _ _).trans hbefore)
    obtain ⟨later, rfl⟩ := hbefore
    rw [run_concat]
    simp only [List.append_assoc, List.singleton_append] at h hconsistent ⊢
    refine ⟨hconsistent.step turn ?_, fun id hmem => ?_⟩
    · cases turn with
      | attach new =>
        refine ⟨fun hmem => ?_, new, ?_, rfl⟩
        · -- An id that is known was used before.
          have hids := h.ids
          rw [newcomers_append_cons, List.append_assoc, List.map_append,
            List.nodup_append] at hids
          exact hids.2.2 _ (hknown _ hmem) new.id (by simp [Turn.attached?]) rfl
        · rw [newcomers_append_cons]
          simp [Turn.attached?]
      | register bus type listener =>
        rintro ⟨new, hnew, heq⟩
        exact h.others bus type listener (by simp) new hnew heq
      | _ => trivial
    · rcases (mem_known_step _ turn id).mp hmem with hmem | ⟨-, new, rfl, rfl⟩
      · rw [newcomers, List.filterMap_append, List.map_append]
        exact List.mem_append_left _ (hknown id hmem)
      · simp [newcomers, Turn.attached?]

end Underway

end SensorGateway.Forwarder
