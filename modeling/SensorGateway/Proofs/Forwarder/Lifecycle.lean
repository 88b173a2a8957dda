import Mathlib.Data.List.Chain
import SensorGateway.Forwarder.Client
import SensorGateway.Forwarder.Stream
import SensorGateway.Proofs.Forwarder.Shutdown

/-!
# `SensorGateway.Proofs.Forwarder.Lifecycle`: one connection from begin to end

The handler of a connection exchanges greetings, has the connection attached,
and reads until the stream ends or fails, its writer stops, or it is told to
stop; then it has the connection detached. All the while other tasks use the
server, and they may detach this connection, too. A `Happening` is anything
that happens to the connection or around it, and nothing is said about the
order in which it does.

* `Sound` ties what the handler has been through to what the server knows of
  the connection. `Sound.step` says that every happening keeps it.
* `Over` says what ends a connection, and `step_closed_iff` that nothing else
  does.
* `lifecycle`: the way of every connection, and what becomes of its listener,
  of the detaches of it, and of the signal to stop.
-/

set_option autoImplicit false

open scoped List

namespace SensorGateway.Forwarder

open Underway (Consistent Fresh start newcomers)

variable {ι : Type}

/-! ### The states of a handler -/

namespace Handler

/-- The states so far are a way through the life of a connection, from its
begin to where it is. -/
structure OnWay (handler : Handler) : Prop where
  first : handler.history.head? = some .connecting
  last : handler.history.getLast? = some handler.connection.state
  path : handler.history.IsChain fun before after => before.canAdvanceTo after = true

theorem OnWay.start (id ordinal : Nat) (peer : SocketAddress) : (start id ordinal peer).OnWay :=
  ⟨rfl, rfl, List.isChain_singleton _⟩

/-- The next state lies on the way. -/
theorem OnWay.enter {handler : Handler} (h : handler.OnWay) {state : ConnectionState}
    (hstate : handler.connection.state.canAdvanceTo state = true) :
    (handler.enter state).OnWay := by
  refine ⟨?_, ?_, ?_⟩
  · simp [Handler.enter, h.first]
  · simp [Handler.enter]
  · rw [Handler.enter, List.isChain_append]
    refine ⟨h.path, List.isChain_singleton _, ?_⟩
    intro before hbefore after hafter
    rw [h.last] at hbefore
    obtain rfl : handler.connection.state = before := by simpa using hbefore
    obtain rfl : state = after := by simpa using hafter
    exact hstate

/-- The connection a handler has detached when it is told of an event. -/
def detached? (handler : Handler) : ClientEvent → Option Nat
  | .ended => if handler.connection.state = .streaming then some handler.id else none
  | _ => none

end Handler

/-! ### What happens -/

/-- A connection and those around it, between two happenings. -/
structure Serving (ι : Type) where
  handler : Handler
  listener : ι
  stream : Stream
  /-- The writer of the connection is at work. -/
  writing : Bool := false
  around : Underway ι

/-- What may happen next. -/
inductive Happening (ι : Type) where
  /-- Greetings are exchanged. -/
  | greet
  /-- The turn to be attached comes. -/
  | attach
  /-- The handler looks for the next packet of the client. -/
  | read
  /-- The writer writes a packet. It stops if that fails. -/
  | write (packet : Bytes)
  /-- The writer notices that it is to stop. -/
  | stop
  /-- The handler notices that it is to stop, or that its writer has. -/
  | heed
  /-- The client takes nothing any more. -/
  | hangUp
  /-- Others take a turn. -/
  | around (turn : Turn ι)

def Happening.turn? : Happening ι → Option (Turn ι)
  | .around turn => some turn
  | _ => none

/-- The turns that others take. -/
def turns (happenings : List (Happening ι)) : List (Turn ι) :=
  happenings.filterMap Happening.turn?

theorem turns_append_around (before : List (Happening ι)) (turn : Turn ι)
    (after : List (Happening ι)) :
    turns (before ++ .around turn :: after) = turns before ++ turn :: turns after := by
  simp [turns, Happening.turn?]

namespace Serving

/-- The connection is in this state. -/
def state (serving : Serving ι) : ConnectionState := serving.handler.connection.state

/-- The connection was told to stop. -/
def signalled (serving : Serving ι) : Bool :=
  serving.around.server.signalled.contains serving.handler.id

variable [DecidableEq ι]

/-- The handler handles an event. -/
def tell (serving : Serving ι) (event : ClientEvent) : Serving ι :=
  let (handler, server) :=
    serving.handler.handle serving.listener serving.around.server event
  { serving with
    handler
    around := { serving.around with
      server
      answers := serving.around.answers ++ (serving.handler.detached? event).toList.map fun id =>
        (id, (serving.around.server.detach id).1) } }

/-- The connection after a happening. -/
def step (serving : Serving ι) : Happening ι → Serving ι
  | .greet =>
    if serving.state = .connecting then
      let (result, stream) :=
        serving.stream.handshake serving.around.server.settings.handshakeTimeout
      { serving.tell (.greeted result.isOk) with stream }
    else serving
  | .attach =>
    if serving.state = .isOpen then
      { serving.tell .attached with writing := !serving.around.server.closing }
    else serving
  | .read =>
    if serving.state = .streaming then
      match serving.stream.nextPacket with
      | (.packet _, stream) | (.pending, stream) => { serving with stream }
      | (.ended, stream) | (.error _, stream) => { serving.tell .ended with stream }
    else serving
  | .write packet =>
    if serving.writing then
      let (result, stream) := serving.stream.writePacket packet
      { serving with stream, writing := result.isOk }
    else serving
  | .stop => { serving with writing := serving.writing && !serving.signalled }
  | .heed =>
    if serving.state = .streaming ∧ (serving.signalled ∨ serving.writing = false) then
      serving.tell .ended
    else serving
  | .hangUp => { serving with stream := { serving.stream with writable := false } }
  | .around turn => { serving with around := serving.around.step turn }

/-- One thing happens after the other. -/
def run (serving : Serving ι) (happenings : List (Happening ι)) : Serving ι :=
  happenings.foldl step serving

@[simp] theorem run_concat (serving : Serving ι) (happenings : List (Happening ι))
    (happening : Happening ι) :
    serving.run (happenings ++ [happening]) = (serving.run happenings).step happening := by
  simp [run]

/-! ### What the handler is told -/

theorem tell_greeted {serving : Serving ι} (h : serving.state = .connecting) (welcome : Bool) :
    serving.tell (.greeted welcome) = { serving with
      handler := serving.handler.enter (if welcome then .isOpen else .closed) } := by
  have hstate : serving.handler.connection.state = .connecting := h
  cases welcome <;> simp [tell, Handler.handle, Handler.detached?, hstate]

/-- The connection that is attached has the id and the listener of the
handler. -/
theorem tell_attached_of_open {serving : Serving ι} (h : serving.state = .isOpen)
    (hopen : serving.around.server.closing = false) :
    serving.tell .attached = { serving with
      handler := serving.handler.enter .streaming
      around := serving.around.step
        (.attach ⟨serving.handler.id, serving.handler.connection, serving.listener⟩) } := by
  have hstate : serving.handler.connection.state = .isOpen := h
  simp [tell, Handler.handle, Handler.detached?, hstate, Underway.step, Server.attach, hopen]

theorem tell_attached_of_closing {serving : Serving ι} (h : serving.state = .isOpen)
    (hclosing : serving.around.server.closing = true) :
    serving.tell .attached = { serving with handler := serving.handler.enter .closed } := by
  have hstate : serving.handler.connection.state = .isOpen := h
  simp [tell, Handler.handle, Handler.detached?, hstate, Server.attach, hclosing]

theorem tell_ended {serving : Serving ι} (h : serving.state = .streaming) :
    serving.tell .ended = { serving with
      handler := serving.handler.enter .closed
      around := serving.around.step (.detach serving.handler.id) } := by
  have hstate : serving.handler.connection.state = .streaming := h
  simp [tell, Handler.handle, Handler.detached?, hstate, Underway.step, Underway.detach]

/-- All that a happening may do besides bytes and the writer. -/
theorem step_cases (serving : Serving ι) (happening : Happening ι) :
    ∃ next stream writing, serving.step happening = { next with stream, writing } ∧
      (next = serving ∨
        (serving.state = .connecting ∧ ∃ welcome, next = serving.tell (.greeted welcome)) ∨
        (serving.state = .isOpen ∧ next = serving.tell .attached) ∨
        (serving.state = .streaming ∧ next = serving.tell .ended) ∨
        ∃ turn, happening = .around turn ∧
          next = { serving with around := serving.around.step turn }) := by
  cases happening with
  | greet =>
    by_cases hstate : serving.state = .connecting
    · exact ⟨_, _, _, if_pos hstate, .inr (.inl ⟨hstate, _, rfl⟩)⟩
    · exact ⟨serving, _, _, if_neg hstate, .inl rfl⟩
  | attach =>
    by_cases hstate : serving.state = .isOpen
    · exact ⟨_, _, _, if_pos hstate, .inr (.inr (.inl ⟨hstate, rfl⟩))⟩
    · exact ⟨serving, _, _, if_neg hstate, .inl rfl⟩
  | read =>
    by_cases hstate : serving.state = .streaming
    · simp only [step, if_pos hstate]
      split
      · exact ⟨serving, _, _, rfl, .inl rfl⟩
      · exact ⟨serving, _, _, rfl, .inl rfl⟩
      · exact ⟨_, _, _, rfl, .inr (.inr (.inr (.inl ⟨hstate, rfl⟩)))⟩
      · exact ⟨_, _, _, rfl, .inr (.inr (.inr (.inl ⟨hstate, rfl⟩)))⟩
    · exact ⟨serving, _, _, if_neg hstate, .inl rfl⟩
  | write packet =>
    by_cases hwriting : serving.writing = true
    · exact ⟨serving, _, _, if_pos hwriting, .inl rfl⟩
    · exact ⟨serving, _, _, if_neg hwriting, .inl rfl⟩
  | stop => exact ⟨serving, _, _, rfl, .inl rfl⟩
  | heed =>
    by_cases hheed : serving.state = .streaming ∧
        (serving.signalled = true ∨ serving.writing = false)
    · exact ⟨serving.tell .ended, _, _, if_pos hheed, .inr (.inr (.inr (.inl ⟨hheed.1, rfl⟩)))⟩
    · exact ⟨serving, _, _, if_neg hheed, .inl rfl⟩
  | hangUp => exact ⟨serving, _, _, rfl, .inl rfl⟩
  | around turn => exact ⟨_, _, _, rfl, .inr (.inr (.inr (.inr ⟨turn, rfl, rfl⟩)))⟩

/-- What ends a connection. -/
def Over (serving : Serving ι) : Happening ι → Prop
  | .greet => serving.state = .connecting ∧
    (serving.stream.handshake serving.around.server.settings.handshakeTimeout).1.isOk = false
  | .attach => serving.state = .isOpen ∧ serving.around.server.closing = true
  | .read => serving.state = .streaming ∧
    (serving.stream.nextPacket.1 = .ended ∨ ∃ error, serving.stream.nextPacket.1 = .error error)
  | .heed => serving.state = .streaming ∧ (serving.signalled = true ∨ serving.writing = false)
  | _ => False

/-- Nothing else does, and a connection that is closed stays so. -/
theorem step_closed_iff (serving : Serving ι) (happening : Happening ι) :
    (serving.step happening).state = .closed ↔
      serving.state = .closed ∨ serving.Over happening := by
  -- A happening changes the state in one state only, if at all.
  cases happening with
  | greet =>
    by_cases hstate : serving.state = .connecting
    · simp only [step, tell_greeted hstate, Over, hstate]
      cases (serving.stream.handshake serving.around.server.settings.handshakeTimeout).1.isOk <;>
        simp [state, Handler.enter]
    · simp [step, Over, hstate]
  | attach =>
    by_cases hstate : serving.state = .isOpen
    · cases hclosing : serving.around.server.closing with
      | true =>
        simp only [step, tell_attached_of_closing hstate hclosing, Over, hstate, hclosing]
        simp [state, Handler.enter]
      | false =>
        simp only [step, tell_attached_of_open hstate hclosing, Over, hstate, hclosing]
        simp [state, Handler.enter]
    · simp [step, Over, hstate]
  | read =>
    by_cases hstate : serving.state = .streaming
    · have hcurrent : serving.handler.connection.state = .streaming := hstate
      rcases hnext : serving.stream.nextPacket with ⟨result, stream⟩
      simp only [step, tell_ended hstate, Over, hstate, hnext]
      cases result <;> simp [state, Handler.enter, hcurrent]
    · simp [step, Over, hstate]
  | write packet => cases hwriting : serving.writing <;> simp [step, Over, hwriting, state]
  | heed =>
    by_cases hheed : serving.state = .streaming ∧
        (serving.signalled = true ∨ serving.writing = false)
    · have hover : serving.Over .heed := hheed
      simp only [step, if_pos hheed, tell_ended hheed.1, hover, or_true, iff_true]
      rfl
    · simp [step, Over, hheed]
  | _ => simp [step, Over, state]

theorem handler_step_of_closed {serving : Serving ι} (h : serving.state = .closed)
    (happening : Happening ι) : (serving.step happening).handler = serving.handler := by
  obtain ⟨next, stream, writing, heq, rfl | ⟨hstate, -⟩ | ⟨hstate, -⟩ | ⟨hstate, -⟩ |
    ⟨turn, -, rfl⟩⟩ := serving.step_cases happening
  · rw [heq]
  · rw [h] at hstate
    cases hstate
  · rw [h] at hstate
    cases hstate
  · rw [h] at hstate
    cases hstate
  · rw [heq]

/-- A client that takes nothing any more is closed with the next packet for it,
wherever its connection is. -/
theorem run_hangUp_closed (serving : Serving ι) (packet : Bytes) :
    (serving.run [.greet, .attach, .hangUp, .write packet, .heed]).state = .closed := by
  have hgreet : (serving.step .greet).state ≠ .connecting := by
    by_cases hstate : serving.state = .connecting
    · simp only [step, hstate, tell_greeted hstate]
      cases (serving.stream.handshake serving.around.server.settings.handshakeTimeout).1.isOk <;>
        simp [state, Handler.enter]
    · simp [step, hstate]
  generalize hgreeted : serving.step .greet = greeted at hgreet
  -- Greeted or not, it streams or is closed once its turn to be attached came.
  have hattach : (greeted.step .attach).state = .streaming ∨
      (greeted.step .attach).state = .closed := by
    by_cases hstate : greeted.state = .isOpen
    · cases hclosing : greeted.around.server.closing with
      | true =>
        simp only [step, hstate, tell_attached_of_closing hstate hclosing]
        simp [state, Handler.enter]
      | false =>
        simp only [step, hstate, tell_attached_of_open hstate hclosing]
        simp [state, Handler.enter]
    · simp only [step, if_neg hstate]
      cases hcurrent : greeted.state <;> simp_all
  generalize hattached : greeted.step .attach = attached at hattach
  have hwrite : ((attached.step .hangUp).step (.write packet)).writing = false := by
    cases hwriting : attached.writing
    · simp [step, hwriting]
    · simp only [step, hwriting, Stream.writePacket, Stream.write, if_true]
      cases encodePacket packet <;> rfl
  have hstate : ((attached.step .hangUp).step (.write packet)).state = attached.state := by
    cases hwriting : attached.writing <;> simp [step, hwriting, state]
  show ((((serving.step .greet).step .attach).step .hangUp).step (.write packet) |>.step
    .heed).state = .closed
  rw [hgreeted, hattached, step_closed_iff, hstate]
  rcases hattach with hstreaming | hclosed
  · exact .inr ⟨hstate.trans hstreaming, .inr hwrite⟩
  · exact .inl hclosed

/-! ### What holds between happenings -/

/-- A connection that has the id or the listener of this one is this one. -/
def Only (own session : Session ι) : Prop :=
  session.id = own.id ∨ session.listener = own.listener → session = own.streaming

/-- The server knows a connection once it streams, and a connection that was
closed after that was detached. -/
structure Sound (own : Session ι) (serving : Serving ι) : Prop where
  id : serving.handler.id = own.id
  listener : serving.listener = own.listener
  ordinal : serving.handler.connection.ordinal = own.connection.ordinal
  peer : serving.handler.connection.peer = own.connection.peer
  way : serving.handler.OnWay
  known : own.id ∈ serving.around.known ↔ .streaming ∈ serving.handler.history
  streamed : .streaming ∈ serving.handler.history →
    serving.state = .streaming ∨ serving.state = .closed ∧ own.id ∈ serving.around.taken
  consistent : Consistent (Only own) (· = own.listener) serving.around

namespace Sound

variable {own : Session ι} {serving : Serving ι}

omit [DecidableEq ι] in
/-- Bytes and the writer are left out of this. -/
theorem of_eq (h : Sound own serving) {other : Serving ι}
    (hhandler : other.handler = serving.handler) (hlistener : other.listener = serving.listener)
    (haround : other.around = serving.around) : Sound own other := by
  have hstate : other.state = serving.state := by rw [state, hhandler, state]
  refine ⟨?_, ?_, ?_, ?_, ?_, ?_, ?_, ?_⟩ <;>
    simp only [hhandler, hlistener, haround, hstate]
  exacts [h.id, h.listener, h.ordinal, h.peer, h.way, h.known, h.streamed, h.consistent]

omit [DecidableEq ι] in
/-- A connection that does not stream goes to a state in which it does not. -/
theorem enter (h : Sound own serving) {next : ConnectionState}
    (hway : serving.state.canAdvanceTo next = true) (hcurrent : serving.state ≠ .streaming)
    (hnext : next ≠ .streaming) :
    Sound own { serving with handler := serving.handler.enter next } := by
  have hnever : .streaming ∉ serving.handler.history := by
    intro hmem
    rcases h.streamed hmem with hstate | ⟨hstate, -⟩
    · exact hcurrent hstate
    · rw [hstate] at hway
      cases next <;> cases hway
  have hnever' : .streaming ∉ (serving.handler.enter next).history := by
    simp [Handler.enter, hnever, hnext.symm]
  refine ⟨h.id, h.listener, h.ordinal, h.peer, h.way.enter hway, ?_,
    fun hmem => absurd hmem hnever', h.consistent⟩
  rw [h.known]
  exact iff_of_false hnever hnever'

/-- A connection is attached. -/
theorem attach (h : Sound own serving) (hstate : serving.state = .isOpen) :
    Sound own (serving.tell .attached) := by
  have hnever : .streaming ∉ serving.handler.history := by
    intro hmem
    rcases h.streamed hmem with hstate' | ⟨hstate', -⟩ <;>
      · rw [hstate] at hstate'
        cases hstate'
  cases hclosing : serving.around.server.closing with
  | true =>
    rw [tell_attached_of_closing hstate hclosing]
    exact h.enter (by rw [hstate]; rfl) (by simp [hstate]) (by simp)
  | false =>
    have hnew : own.id ∉ serving.around.known := fun hmem => hnever (h.known.mp hmem)
    have hsession : (⟨serving.handler.id, serving.handler.connection, serving.listener⟩ :
        Session ι).streaming = own.streaming := by
      simp [Session.streaming, h.id, h.listener, h.ordinal, h.peer]
    rw [tell_attached_of_open hstate hclosing]
    refine ⟨h.id, h.listener, h.ordinal, h.peer, h.way.enter ?_, ?_, fun _ => .inl rfl,
      h.consistent.step (.attach _) ⟨?_, ?_⟩⟩
    · rw [← state, hstate]
      rfl
    · rw [Underway.mem_known_step]
      simp [Handler.enter, hclosing, h.id]
    · rw [h.id]
      exact hnew
    · rw [hsession]
      exact fun _ => rfl

/-- A connection is closed by its handler. -/
theorem finish (h : Sound own serving) (hstate : serving.state = .streaming) :
    Sound own (serving.tell .ended) := by
  have hstreamed : .streaming ∈ serving.handler.history :=
    List.mem_of_getLast? (hstate ▸ h.way.last)
  rw [tell_ended hstate]
  refine ⟨h.id, h.listener, h.ordinal, h.peer, h.way.enter ?_, ?_, fun _ => .inr ⟨rfl, ?_⟩,
    h.consistent.step (.detach _) trivial⟩
  · rw [← state, hstate]
    rfl
  · rw [Underway.mem_known_step, h.known]
    simp [Handler.enter]
  · rw [h.id]
    exact Underway.mem_taken_detach (h.known.mpr hstreamed)

/-- Others take a turn. -/
theorem around (h : Sound own serving) {turn : Turn ι}
    (hfits : Underway.Fits (Only own) (· = own.listener) serving.around turn)
    (hother : ∀ new, turn = .attach new → new.id ≠ own.id) :
    Sound own (serving.step (.around turn)) := by
  refine ⟨h.id, h.listener, h.ordinal, h.peer, h.way, ?_, fun hmem => ?_,
    h.consistent.step turn hfits⟩
  · rw [step, Underway.mem_known_step, h.known]
    refine or_iff_left ?_
    rintro ⟨-, new, rfl, heq⟩
    exact hother new rfl heq.symm
  · exact (h.streamed hmem).imp_right fun ⟨hclosed, htaken⟩ =>
      ⟨hclosed, Underway.mem_taken_step htaken turn⟩

/-- Whatever happens, as long as what others do fits. -/
theorem step (h : Sound own serving) {happening : Happening ι}
    (hfits : ∀ turn, happening = .around turn →
      Underway.Fits (Only own) (· = own.listener) serving.around turn ∧
      ∀ new, turn = .attach new → new.id ≠ own.id) :
    Sound own (serving.step happening) := by
  obtain ⟨next, stream, writing, heq, hcases⟩ := serving.step_cases happening
  have hnext : Sound own next := by
    rcases hcases with rfl | ⟨hstate, welcome, rfl⟩ | ⟨hstate, rfl⟩ | ⟨hstate, rfl⟩ |
      ⟨turn, hturn, rfl⟩
    · exact h
    · rw [tell_greeted hstate]
      refine h.enter ?_ (by simp [hstate]) ?_ <;> cases welcome <;> simp [hstate] <;> rfl
    · exact h.attach hstate
    · exact h.finish hstate
    · exact h.around (hfits turn hturn).1 (hfits turn hturn).2
  rw [heq]
  exact hnext.of_eq rfl rfl rfl

omit [DecidableEq ι] in
/-- A live connection streams: none is both live and taken out. -/
theorem streaming_of_live (h : Sound own serving)
    (hlive : own.id ∈ serving.around.server.liveIds) :
    .streaming ∈ serving.handler.history ∧ serving.state = .streaming := by
  have hstreamed := h.known.mp (List.mem_append_left _ hlive)
  refine ⟨hstreamed, (h.streamed hstreamed).resolve_right fun hgone => ?_⟩
  exact (List.nodup_append.mp h.consistent.nodup).2.2 _ hlive _ hgone.2 rfl

omit [DecidableEq ι] in
/-- The listener is on a source while the connection is live, or while a detach
of it is still to take it off. -/
theorem placed (h : Sound own serving) (bus : Nat) (type : MessageType)
    (hmem : own.listener ∈ (serving.around.server.tables bus).list type) :
    .streaming ∈ serving.handler.history ∧
      (serving.state = .streaming ∧ own.id ∈ serving.around.server.liveIds ∨
        ∃ leaving ∈ serving.around.leaving, leaving.session = own.streaming) := by
  obtain ⟨-, ⟨-, session, hsession, hlistener⟩ | ⟨leaving, hleaving, hlistener, -⟩⟩ :=
    h.consistent.placed bus type own.listener rfl hmem
  · obtain rfl := h.consistent.sessions session hsession (.inr hlistener)
    have hid : own.id ∈ serving.around.server.liveIds :=
      List.mem_map.mpr ⟨own.streaming, hsession, rfl⟩
    obtain ⟨hstreamed, hstate⟩ := h.streaming_of_live hid
    exact ⟨hstreamed, .inl ⟨hstate, hid⟩⟩
  · have hsession := h.consistent.leaving leaving hleaving (.inr hlistener)
    have hid : own.id ∈ serving.around.departing :=
      List.mem_map.mpr ⟨leaving, hleaving, by rw [hsession]; rfl⟩
    have htaken := h.consistent.balance.mem_iff.mpr (List.mem_append_right _ hid)
    exact ⟨h.known.mp (List.mem_append_right _ htaken), .inr ⟨leaving, hleaving, hsession⟩⟩

end Sound

/-! ### Runs -/

/-- A connection that was just accepted. -/
def begin (settings : ServerSettings) (tables : Nat → Bus.Listeners ι) (own : Session ι)
    (stream : Stream) : Serving ι where
  handler := .start own.id own.connection.ordinal own.connection.peer
  listener := own.listener
  stream := stream
  around := start settings tables

/-- A connection gets known by being attached, by its handler or by others. -/
theorem mem_known_step {serving : Serving ι} {happening : Happening ι} {id : Nat}
    (h : id ∈ (serving.step happening).around.known) :
    id ∈ serving.around.known ∨ id = serving.handler.id ∨
      ∃ new, happening = .around (.attach new) ∧ id = new.id := by
  obtain ⟨next, stream, writing, heq, hcases⟩ := serving.step_cases happening
  rw [heq] at h
  rcases hcases with rfl | ⟨hstate, welcome, rfl⟩ | ⟨hstate, rfl⟩ | ⟨hstate, rfl⟩ |
    ⟨turn, rfl, rfl⟩
  · exact .inl h
  · rw [tell_greeted hstate] at h
    exact .inl h
  · cases hclosing : serving.around.server.closing with
    | true =>
      rw [tell_attached_of_closing hstate hclosing] at h
      exact .inl h
    | false =>
      rw [tell_attached_of_open hstate hclosing, Underway.mem_known_step] at h
      rcases h with h | ⟨-, new, hnew, rfl⟩
      · exact .inl h
      · cases hnew
        exact .inr (.inl rfl)
  · rw [tell_ended hstate, Underway.mem_known_step] at h
    exact .inl (h.resolve_right (by simp))
  · rw [Underway.mem_known_step] at h
    rcases h with h | ⟨-, new, rfl, rfl⟩
    · exact .inl h
    · exact .inr (.inr ⟨new, rfl, rfl⟩)

/-- The invariant holds at any time of a run. -/
theorem sound_run_prefix (settings : ServerSettings) {tables : Nat → Bus.Listeners ι}
    {own : Session ι} {happenings : List (Happening ι)}
    (hfresh : Fresh tables (.attach own :: turns happenings))
    (hown : ∀ new ∈ newcomers (turns happenings), new.listener ≠ own.listener) (stream : Stream)
    {before : List (Happening ι)} (hbefore : before <+: happenings) :
    Sound own ((begin settings tables own stream).run before) ∧
    ∀ id ∈ ((begin settings tables own stream).run before).around.known,
      id = own.id ∨ id ∈ (newcomers (turns before)).map Session.id := by
  induction before using List.reverseRecOn with
  | nil =>
    refine ⟨⟨rfl, rfl, rfl, rfl, .start .., ?_, ?_, Consistent.start settings ?_⟩, ?_⟩
    · exact iff_of_false List.not_mem_nil (by simp [run, begin, Handler.start])
    · intro hmem
      exact absurd hmem (by simp [run, begin, Handler.start])
    · rintro bus type listener rfl
      exact hfresh.tables own (by simp [newcomers, Turn.attached?]) bus type
    · exact fun id hmem => absurd hmem List.not_mem_nil
  | append_singleton earlier happening ih =>
    obtain ⟨hsound, hknown⟩ := ih ((List.prefix_append _ _).trans hbefore)
    obtain ⟨later, rfl⟩ := hbefore
    rw [run_concat]
    rw [List.append_assoc, List.singleton_append] at hfresh hown
    refine ⟨hsound.step ?_, fun id hmem => ?_⟩
    · rintro turn rfl
      rw [turns_append_around] at hfresh hown
      have hnew : ∀ new, turn = .attach new → new.id ≠ own.id ∧
          new.id ∉ (newcomers (turns earlier)).map Session.id := by
        rintro new rfl
        -- The id of the newcomer stands behind all those that were used before.
        have hids := hfresh.ids
        rw [← List.cons_append, Underway.newcomers_append_cons, List.append_assoc,
          List.map_append, List.nodup_append] at hids
        have hdistinct := fun id hmem => hids.2.2 id hmem new.id (by simp [Turn.attached?])
        refine ⟨fun heq => ?_, fun hmem => ?_⟩
        · exact hdistinct own.id List.mem_cons_self heq.symm
        · exact hdistinct new.id (List.mem_cons_of_mem _ hmem) rfl
      refine ⟨?_, fun new hturn => (hnew new hturn).1⟩
      -- Only what is attached or registered could be taken for this connection.
      cases turn with
      | attach new =>
        obtain ⟨hne, hnot⟩ := hnew new rfl
        refine ⟨fun hmem => (hknown new.id hmem).elim hne hnot, ?_⟩
        rintro (heq | heq)
        · exact absurd heq hne
        · exact absurd heq (hown new (by simp [Underway.newcomers_append_cons, Turn.attached?]))
      | register bus type listener =>
        rintro rfl
        exact hfresh.others bus type own.listener (by simp) own
          (by simp [newcomers, Turn.attached?]) rfl
      | _ => trivial
    · rcases mem_known_step hmem with hmem | heq | ⟨new, rfl, rfl⟩
      · refine (hknown id hmem).imp_right fun hold => ?_
        rw [turns, List.filterMap_append, newcomers, List.filterMap_append, List.map_append]
        exact List.mem_append_left _ hold
      · exact .inl (heq.trans hsound.id)
      · exact .inr (by simp [turns, Happening.turn?, newcomers, Turn.attached?])

theorem leaving_step {serving : Serving ι} (h : serving.around.leaving = [])
    {happening : Happening ι}
    (hwhole : ∀ turn, happening = .around turn → turn.isWhole = true) :
    (serving.step happening).around.leaving = [] := by
  obtain ⟨next, stream, writing, heq, hcases⟩ := serving.step_cases happening
  rw [heq]
  rcases hcases with rfl | ⟨hstate, welcome, rfl⟩ | ⟨hstate, rfl⟩ | ⟨hstate, rfl⟩ |
    ⟨turn, hturn, rfl⟩
  · exact h
  · rw [tell_greeted hstate]
    exact h
  · cases hclosing : serving.around.server.closing with
    | true =>
      rw [tell_attached_of_closing hstate hclosing]
      exact h
    | false =>
      rw [tell_attached_of_open hstate hclosing]
      exact h
  · rw [tell_ended hstate]
    exact h
  · exact Underway.leaving_step_of_isWhole h (hwhole turn hturn)

theorem leaving_run {serving : Serving ι} (h : serving.around.leaving = [])
    {happenings : List (Happening ι)} (hwhole : ∀ turn ∈ turns happenings, turn.isWhole = true) :
    (serving.run happenings).around.leaving = [] := by
  induction happenings using List.reverseRecOn with
  | nil => exact h
  | append_singleton earlier happening ih =>
    rw [run_concat]
    refine leaving_step (ih fun turn hmem => ?_) ?_
    · refine hwhole turn ?_
      rw [turns, List.filterMap_append]
      exact List.mem_append_left _ hmem
    · rintro turn rfl
      exact hwhole turn (by simp [turns, Happening.turn?])

/-! ### The whole of it -/

/-- What holds of a connection at any time, whatever the client sends and
whatever else happens. Its states so far are a way from its begin to where it
is. It gets closed by a bad greeting, by being refused, by the end or a failure
of its stream, by its writer or by being told to stop, and by nothing else, and
then it stays closed. It also gets there with the next packet for a client that
takes nothing any more. Its listener is only on a source while it streams and is
live, or while a detach of it is still to take it off, and never if it did not
get to stream. A detach of it gives the connection as closed, which happens at
most once, never if it did not get to stream, and once if it did and is closed.
It is told to stop at most once, and was told so when a detach of it, by anyone,
is done. Once it is closed it is not live, and if every detach is a single step,
its listener is on no source either. -/
theorem lifecycle (settings : ServerSettings) {tables : Nat → Bus.Listeners ι} {own : Session ι}
    {happenings : List (Happening ι)}
    (hfresh : Fresh tables (.attach own :: turns happenings))
    (hown : ∀ new ∈ newcomers (turns happenings), new.listener ≠ own.listener)
    (stream : Stream) :
    let serving := (begin settings tables own stream).run happenings
    let server := serving.around.server
    let streamed := .streaming ∈ serving.handler.history
    serving.handler.OnWay ∧
    (∀ happening, (serving.step happening).state = .closed ↔
      serving.state = .closed ∨ serving.Over happening) ∧
    (serving.state = .closed → ∀ happening, (serving.step happening).handler = serving.handler) ∧
    (∀ packet, (serving.run [.greet, .attach, .hangUp, .write packet, .heed]).state = .closed) ∧
    (∀ bus type, own.listener ∈ (server.tables bus).list type →
      streamed ∧ (serving.state = .streaming ∧ own.id ∈ server.liveIds ∨
        ∃ leaving ∈ serving.around.leaving, leaving.session = own.streaming)) ∧
    (∀ connection, (own.id, some connection) ∈ serving.around.answers →
      connection = { own.connection with state := .closed }) ∧
    serving.around.taken.count own.id ≤ 1 ∧
    (¬streamed → serving.around.taken.count own.id = 0) ∧
    (streamed → serving.state = .closed → serving.around.taken.count own.id = 1) ∧
    server.signalled.count own.id ≤ 1 ∧
    (own.id ∈ serving.around.taken → own.id ∉ serving.around.departing →
      serving.signalled = true) ∧
    (serving.state = .closed → own.id ∉ server.liveIds) ∧
    ((∀ turn ∈ turns happenings, turn.isWhole = true) → ∀ bus type,
      own.listener ∈ (server.tables bus).list type → serving.state = .streaming) := by
  intro serving server streamed
  obtain ⟨hsound, -⟩ :=
    sound_run_prefix settings hfresh hown stream (List.prefix_refl happenings)
  have hconsistent := hsound.consistent
  have hcount : serving.around.taken.count own.id ≤ 1 :=
    List.nodup_iff_count_le_one.mp (List.nodup_append.mp hconsistent.nodup).2.1 own.id
  refine ⟨hsound.way, serving.step_closed_iff, handler_step_of_closed, serving.run_hangUp_closed,
    hsound.placed, ?_, hcount, ?_, ?_, ?_, ?_, ?_, ?_⟩
  · intro connection hmem
    obtain ⟨session, hsession, hid, rfl⟩ := hconsistent.answers own.id connection hmem
    obtain rfl := hsession (.inl hid)
    rfl
  · -- Whoever was taken out is known, and only who has streamed is.
    intro hnever
    refine List.count_eq_zero.mpr fun hmem => hnever ?_
    exact hsound.known.mp (List.mem_append_right _ hmem)
  · -- It is streaming still or was taken out, and it is closed.
    intro hstreamed hclosed
    have hmem : own.id ∈ serving.around.taken := by
      rcases hsound.streamed hstreamed with hstate | ⟨-, hmem⟩
      · rw [show serving.state = .streaming from hstate] at hclosed
        cases hclosed
      · exact hmem
    exact Nat.le_antisymm hcount (List.one_le_count_iff.mpr hmem)
  · -- Those that were taken out are signalled or about to be.
    calc server.signalled.count own.id
        ≤ server.signalled.count own.id + serving.around.departing.count own.id :=
          Nat.le_add_right _ _
      _ = serving.around.taken.count own.id := by
          rw [← List.count_append]
          exact (hconsistent.balance.count_eq own.id).symm
      _ ≤ 1 := hcount
  · intro htaken hdeparting
    have hsignalled : own.id ∈ server.signalled :=
      (List.mem_append.mp (hconsistent.balance.mem_iff.mp htaken)).resolve_right hdeparting
    rw [signalled, show serving.handler.id = own.id from hsound.id]
    simpa using hsignalled
  · intro hclosed hmem
    rw [show serving.state = .streaming from (hsound.streaming_of_live hmem).2] at hclosed
    cases hclosed
  · -- Where every detach is done in one turn, nobody is on the way out.
    intro hwhole bus type hmem
    have hleaving : serving.around.leaving = [] := leaving_run rfl hwhole
    rcases (hsound.placed bus type hmem).2 with ⟨hstate, -⟩ | ⟨leaving, hmem, -⟩
    · exact hstate
    · rw [hleaving] at hmem
      exact absurd hmem List.not_mem_nil

/-! A client hangs up while an operator closes its connection and the server
begins to shut down. The greeting of the client comes in two pieces. -/

def hungUp : List (Happening Nat) :=
  [.around (.addSource 0), .greet, .attach, .around (.attach (Server.client 2)), .hangUp,
    .write [7], .around (.shutdown 101), .around (.advance 0), .stop, .heed,
    .around (.detach 101)]

def halves : Stream := { arrivals := [.bytes [0x55], .pending, .bytes [0x21]] }

theorem lifecycle_hungUp :
    let serving :=
      (begin Server.sharedSettings Server.sharedTables (Server.client 1) halves).run hungUp
    serving.handler.OnWay ∧
    serving.handler.history = [.connecting, .isOpen, .streaming, .closed] ∧
    serving.around.taken.count 101 = 1 ∧
    serving.around.answers.map Prod.fst = [101, 101, 101] ∧
    serving.around.server.signalled.count 101 ≤ 1 ∧
    101 ∉ serving.around.server.liveIds ∧
    ∀ bus type, 11 ∉ (serving.around.server.tables bus).list type := by
  have hfresh : Fresh Server.sharedTables (.attach (Server.client 1) :: turns hungUp) := by
    refine ⟨by decide, ?_, ?_⟩
    · have hothers : ∀ listener ∈
          (newcomers (.attach (Server.client 1) :: turns hungUp)).map Session.listener,
          listener ≠ 1 := by
        decide
      exact fun new hnew => Underway.notMem_sharedTables (hothers _ (List.mem_map_of_mem hnew))
    · intro bus type listener hmem
      exact absurd hmem (by simp [turns, hungUp, Happening.turn?])
  have hown : ∀ new ∈ newcomers (turns hungUp), new.listener ≠ (Server.client 1).listener := by
    have hothers : ∀ listener ∈ (newcomers (turns hungUp)).map Session.listener,
        listener ≠ (Server.client 1).listener := by
      decide
    exact fun new hnew => hothers new.listener (List.mem_map_of_mem hnew)
  obtain ⟨hway, -, -, -, -, -, -, -, hcount, hsignal, -, hgone, hclear⟩ :=
    lifecycle Server.sharedSettings hfresh hown halves
  have hhistory : ((begin Server.sharedSettings Server.sharedTables (Server.client 1) halves).run
      hungUp).handler.history = [.connecting, .isOpen, .streaming, .closed] := by
    rfl
  have hclosed : ((begin Server.sharedSettings Server.sharedTables (Server.client 1) halves).run
      hungUp).state = .closed := by
    rfl
  refine ⟨hway, hhistory, hcount ?_ hclosed, by rfl, hsignal, hgone hclosed,
    fun bus type hmem => ?_⟩
  · rw [hhistory]
    simp
  · have hstate := hclear (by decide) bus type hmem
    rw [hclosed] at hstate
    cases hstate

end Serving

end SensorGateway.Forwarder
