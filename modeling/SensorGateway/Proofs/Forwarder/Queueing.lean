import Mathlib.Data.List.Pairwise
import Mathlib.Logic.Function.Basic
import SensorGateway.Gateway
import SensorGateway.Proofs.Bus.Progress

/-!
# `SensorGateway.Proofs.Forwarder.Queueing`: packets on the way to clients

The listener of a client puts what it hears into the client's queue. On the
same bus there are other listeners, and any number of dispatches are under way
at once. Between any two of their steps clients take packets out of their
queues, queues are closed, and others change the table of listeners.

* `queueing` is the environment of such a bus, and `react_queueing` says what
  the listener of a client does.
* `Lossless` ties what a client was given to what its listener took.
  `Logged` ties the calls that were made to the dispatches that made them.
  Every `Move` keeps both.
* `queued_for_clients`: which packets a client gets and in what order, and
  what an acknowledged message says of its clients.
* `Gateway.receive_queueing`: the bus of a gateway is such a bus.
-/

set_option autoImplicit false

namespace SensorGateway.Forwarder

open Bus (Delivery Environment Listeners Progress Verdict World)

variable {ι σ : Type} [DecidableEq ι]

/-! ### A bus with clients -/

/-- Clients queue what they hear. Everyone else does whatever they do, to the
table of listeners and to the rest of the world, of which the queues are no
part. -/
def queueing (client : ι → Bool) (others : Environment ι σ) :
    Environment ι ((ι → ClientQueue) × σ) where
  react listener delivery world :=
    if client listener then
      let (verdict, queue) := (world.rest.1 listener).deliver delivery
      (verdict, ⟨world.listeners, Function.update world.rest.1 listener queue, world.rest.2⟩)
    else
      let (verdict, after) := others.react listener delivery ⟨world.listeners, world.rest.2⟩
      (verdict, ⟨after.listeners, world.rest.1, after.rest⟩)
  send packet priority rest :=
    let (reply, after) := others.send packet priority rest.2
    (reply, rest.1, after)
  acknowledge device timestamp priority rest :=
    let (reply, after) := others.acknowledge device timestamp priority rest.2
    (reply, rest.1, after)

/-- The listener of a client handles a message if its queue is open and not
full. Then it puts the whole packet behind the others, and else it does
nothing. -/
theorem react_queueing {client : ι → Bool} {listener : ι} (h : client listener = true)
    (others : Environment ι σ) (delivery : Delivery) (world : World ι ((ι → ClientQueue) × σ)) :
    let queue := world.rest.1 listener
    let reply := (queueing client others).react listener delivery world
    (reply.1 = .handled ↔ queue.isOpen = true ∧ queue.packets.length < queue.capacity) ∧
    reply.2 = ⟨world.listeners, Function.update world.rest.1 listener
      (if reply.1 = .handled then { queue with packets := queue.packets ++ [delivery.raw] }
        else queue), world.rest.2⟩ := by
  cases hroom : (world.rest.1 listener).hasRoom with
  | true =>
    have hopen : (world.rest.1 listener).isOpen = true ∧
        (world.rest.1 listener).packets.length < (world.rest.1 listener).capacity := by
      simpa [ClientQueue.hasRoom] using hroom
    simp [queueing, h, ClientQueue.deliver, ClientQueue.offer, hroom, hopen]
  | false =>
    have hclosed : ¬((world.rest.1 listener).isOpen = true ∧
        (world.rest.1 listener).packets.length < (world.rest.1 listener).capacity) := by
      simpa [ClientQueue.hasRoom] using hroom
    simp [queueing, h, ClientQueue.deliver, ClientQueue.offer, hroom, hclosed]

/-- Nobody else touches a queue. -/
theorem queue_react_queueing {client : ι → Bool} {listener other : ι}
    (h : client listener = false ∨ other ≠ listener) (others : Environment ι σ)
    (delivery : Delivery) (world : World ι ((ι → ClientQueue) × σ)) :
    ((queueing client others).react listener delivery world).2.rest.1 other =
      world.rest.1 other := by
  cases hclient : client listener with
  | true =>
    have hne : other ≠ listener := h.resolve_left (by simp [hclient])
    simp [queueing, hclient, hne]
  | false => simp [queueing, hclient]

/-- To report a message is not to touch a queue either. -/
theorem queue_conclude_queueing (bus : Bus) (client : ι → Bool) (others : Environment ι σ)
    (progress : Progress ι) (world : World ι ((ι → ClientQueue) × σ)) :
    (bus.conclude (queueing client others) progress world).2.rest.1 = world.rest.1 := by
  unfold Bus.conclude
  cases progress.content with
  | error error => rfl
  | ok delivery =>
    simp only
    split <;> rfl

/-! ### What queues keep -/

/-- What a client was given and what waits for it is what its queue took, in
that order, as long as the queue is open. -/
structure ClientQueue.Lossless (queue : ClientQueue) (capacity : Nat)
    (received taken : List Bytes) : Prop where
  size : queue.capacity = capacity
  le : queue.packets.length ≤ capacity
  exact : queue.isOpen = true → received ++ queue.packets = taken
  closed : queue.isOpen = false → queue.packets = []
  received : received <+: taken

namespace ClientQueue.Lossless

variable {queue : ClientQueue} {capacity : Nat} {received taken : List Bytes}

theorem put (h : queue.Lossless capacity received taken) (hopen : queue.isOpen = true)
    (hroom : queue.packets.length < queue.capacity) (packet : Bytes) :
    ({ queue with packets := queue.packets ++ [packet] } : ClientQueue).Lossless capacity received
      (taken ++ [packet]) := by
  refine ⟨h.size, ?_, ?_, ?_, h.received.trans (List.prefix_append _ _)⟩
  · rw [List.length_append, ← h.size]
    exact hroom
  · intro _
    rw [← h.exact hopen, List.append_assoc]
  · intro hclosed
    exact absurd (hopen.symm.trans hclosed) (by simp)

theorem next (h : queue.Lossless capacity received taken) :
    queue.next.2.Lossless capacity (received ++ queue.next.1.toList) taken := by
  cases hpackets : queue.packets with
  | nil => simpa [ClientQueue.next, hpackets] using h
  | cons packet rest =>
    have hopen : queue.isOpen = true := by
      by_contra hclosed
      simp [h.closed (by simpa using hclosed)] at hpackets
    have htaken : received ++ packet :: rest = taken := hpackets ▸ h.exact hopen
    have hle : rest.length + 1 ≤ capacity := by simpa [hpackets] using h.le
    simp only [ClientQueue.next, hpackets, Option.toList_some]
    refine ⟨h.size, Nat.le_of_succ_le hle, ?_, ?_, rest, ?_⟩
    · intro _
      rw [← htaken, List.append_assoc, List.singleton_append]
    · intro hclosed
      exact absurd (hopen.symm.trans hclosed) (by simp)
    · rw [← htaken, List.append_assoc, List.singleton_append]

theorem close (h : queue.Lossless capacity received taken) :
    queue.close.2.Lossless capacity received taken :=
  ⟨h.size, Nat.zero_le _, fun hopen => (nomatch hopen), fun _ => rfl, h.received⟩

end ClientQueue.Lossless

/-! ### Moves -/

/-- A call of a listener. -/
structure Hearing (ι : Type) where
  /-- The number of the dispatch. -/
  dispatch : Nat
  listener : ι
  packet : Bytes
  verdict : Verdict

/-- A dispatch, and the numbers of those that were under way when its packet
came in. -/
structure Incoming (ι : Type) where
  progress : Progress ι
  meanwhile : List Nat

/-- A bus with clients between two moves. -/
structure Relaying (ι σ : Type) where
  world : World ι ((ι → ClientQueue) × σ)
  /-- All dispatches so far, by their numbers. -/
  dispatches : List (Incoming ι) := []
  /-- All calls of listeners so far, first one first. -/
  calls : List (Hearing ι) := []
  /-- What each client was given so far. -/
  received : ι → List Bytes := fun _ => []

/-- What may happen next. -/
inductive Move (ι σ : Type) where
  /-- A packet comes in. -/
  | arrive (device : Option Int) (timestamp : Int) (packet : Bytes) (priority : Priority)
  /-- The next step of a dispatch. -/
  | advance (dispatch : Nat)
  /-- A client takes the next packet of its queue. -/
  | receive (name : ι)
  | close (name : ι)
  /-- Others change the table of listeners, or the rest of the world. -/
  | others (change : World ι σ → World ι σ)

namespace Relaying

/-- Before anything came in. All queues are open and empty. -/
def start (capacity : ι → Nat) (listeners : Listeners ι) (rest : σ) : Relaying ι σ where
  world := ⟨listeners, fun client => { capacity := capacity client }, rest⟩

/-- The queue of a client. -/
def queue (state : Relaying ι σ) (name : ι) : ClientQueue := state.world.rest.1 name

/-- The dispatches that are not finished. -/
def underway (state : Relaying ι σ) : List Nat :=
  (List.range state.dispatches.length).filter fun number =>
    state.dispatches[number]?.any fun incoming => incoming.progress.result?.isNone

/-- The dispatches that were under way when a packet came in, by the number
of its dispatch. -/
def meanwhile (state : Relaying ι σ) (number : Nat) : List Nat :=
  ((state.dispatches[number]?).map Incoming.meanwhile).getD []

/-- The call that a dispatch makes next. -/
def due (state : Relaying ι σ) (number : Nat) : Option (ι × Delivery) :=
  (state.dispatches[number]?).bind fun incoming => incoming.progress.next?

/-- The calls that a dispatch made. -/
def callsOf (state : Relaying ι σ) (number : Nat) : List (Hearing ι) :=
  state.calls.filter fun heard => heard.dispatch = number

/-- The calls in which a listener took the message. -/
def accepted (state : Relaying ι σ) (name : ι) : List (Hearing ι) :=
  state.calls.filter fun heard => heard.listener = name ∧ heard.verdict = .handled

/-- The call that a step of a dispatch made, if it made one. -/
def heard (number : Nat) (before after : Progress ι) : List (Hearing ι) :=
  match before.next?, after.verdicts[before.verdicts.length]? with
  | some (listener, delivery), some verdict => [⟨number, listener, delivery.raw, verdict⟩]
  | _, _ => []

/-- Makes a move. -/
def step (bus : Bus) (client : ι → Bool) (others : Environment ι σ) (state : Relaying ι σ) :
    Move ι σ → Relaying ι σ
  | .arrive device timestamp packet priority =>
    { state with dispatches := state.dispatches ++
        [⟨bus.begin device timestamp packet priority state.world, state.underway⟩] }
  | .advance number =>
    match state.dispatches[number]? with
    | none => state
    | some incoming =>
      let (progress, world) :=
        bus.advance (queueing client others) incoming.progress state.world
      { state with
        world
        dispatches := state.dispatches.set number { incoming with progress }
        calls := state.calls ++ heard number incoming.progress progress }
  | .receive name =>
    let (packet?, queue) := (state.queue name).next
    { state with
      world := ⟨state.world.listeners, Function.update state.world.rest.1 name queue,
        state.world.rest.2⟩
      received := Function.update state.received name
        (state.received name ++ packet?.toList) }
  | .close name =>
    { state with
      world := ⟨state.world.listeners,
        Function.update state.world.rest.1 name (state.queue name).close.2,
        state.world.rest.2⟩ }
  | .others change =>
    let after := change ⟨state.world.listeners, state.world.rest.2⟩
    { state with world := ⟨after.listeners, state.world.rest.1, after.rest⟩ }

/-- Makes one move after the other. -/
def run (bus : Bus) (client : ι → Bool) (others : Environment ι σ) (state : Relaying ι σ)
    (moves : List (Move ι σ)) : Relaying ι σ :=
  moves.foldl (step bus client others) state

@[simp] theorem run_concat (bus : Bus) (client : ι → Bool) (others : Environment ι σ)
    (state : Relaying ι σ) (moves : List (Move ι σ)) (move : Move ι σ) :
    state.run bus client others (moves ++ [move]) =
      (state.run bus client others moves).step bus client others move := by
  simp [run]

/-! ### What a step of a dispatch does -/

/-- A dispatch is elsewhere. -/
def withProgress (state : Relaying ι σ) (world : World ι ((ι → ClientQueue) × σ)) (number : Nat)
    (incoming : Incoming ι) (progress : Progress ι) (more : List (Hearing ι)) : Relaying ι σ where
  world := world
  dispatches := state.dispatches.set number { incoming with progress }
  calls := state.calls ++ more
  received := state.received

/-- A step that calls a listener. -/
theorem step_advance_of_next (bus : Bus) (client : ι → Bool) (others : Environment ι σ)
    {state : Relaying ι σ} {number : Nat} {incoming : Incoming ι} {name : ι} {delivery : Delivery}
    (hincoming : state.dispatches[number]? = some incoming)
    (hresult : incoming.progress.result? = none)
    (hnext : incoming.progress.next? = some (name, delivery)) :
    let reply := (queueing client others).react name delivery state.world
    state.step bus client others (.advance number) =
      state.withProgress reply.2 number incoming
        { incoming.progress with verdicts := incoming.progress.verdicts ++ [reply.1] }
        [⟨number, name, delivery.raw, reply.1⟩] := by
  simp [step, hincoming, Bus.advance, hresult, hnext, heard, withProgress]

/-- All that a step of a dispatch may do: nothing where there is none or it is
finished, a call of a listener, or the report. -/
theorem step_advance_cases (bus : Bus) (client : ι → Bool) (others : Environment ι σ)
    (state : Relaying ι σ) (number : Nat) :
    state.step bus client others (.advance number) = state ∨
    (∃ incoming name delivery, state.dispatches[number]? = some incoming ∧
      incoming.progress.result? = none ∧
      incoming.progress.next? = some (name, delivery) ∧
      let reply := (queueing client others).react name delivery state.world
      state.step bus client others (.advance number) =
        state.withProgress reply.2 number incoming
          { incoming.progress with verdicts := incoming.progress.verdicts ++ [reply.1] }
          [⟨number, name, delivery.raw, reply.1⟩]) ∨
    (∃ incoming, state.dispatches[number]? = some incoming ∧
      incoming.progress.result? = none ∧ incoming.progress.next? = none ∧
      let reply := bus.conclude (queueing client others) incoming.progress state.world
      state.step bus client others (.advance number) =
        state.withProgress reply.2 number incoming
          { incoming.progress with result? := some reply.1 } []) := by
  cases hincoming : state.dispatches[number]? with
  | none => exact .inl (by simp only [step, hincoming])
  | some incoming =>
    rcases Progress.advance_cases bus (queueing client others) incoming.progress state.world with
      ⟨-, heq⟩ | ⟨name, delivery, hresult, hnext, -⟩ | ⟨hresult, hnext, heq⟩
    · refine .inl ?_
      have hset : state.dispatches.set number incoming = state.dispatches := by
        obtain ⟨hlt, rfl⟩ := List.getElem?_eq_some_iff.mp hincoming
        exact List.set_getElem_self hlt
      simp [step, hincoming, heq, heard, hset]
    · exact .inr (.inl ⟨incoming, name, delivery, rfl, hresult, hnext,
        step_advance_of_next bus client others hincoming hresult hnext⟩)
    · refine .inr (.inr ⟨incoming, rfl, hresult, hnext, ?_⟩)
      simp [step, hincoming, heq, heard, hnext, withProgress]

/-! ### What clients get -/

/-- Nothing is lost between a client and its listener. -/
def Lossless (state : Relaying ι σ) (capacity : Nat) (name : ι) : Prop :=
  (state.queue name).Lossless capacity (state.received name)
    ((state.accepted name).map Hearing.packet)

/-- A listener is called. Only the queue of a client whose listener it is
notices. -/
theorem Lossless.called {client : ι → Bool} {others : Environment ι σ} {state : Relaying ι σ}
    {capacity : Nat} {name : ι} (h : state.Lossless capacity name) (hname : client name = true)
    (number : Nat) (incoming : Incoming ι) (progress : Progress ι) (listener : ι)
    (delivery : Delivery) :
    let reply := (queueing client others).react listener delivery state.world
    (state.withProgress reply.2 number incoming progress
      [⟨number, listener, delivery.raw, reply.1⟩]).Lossless capacity name := by
  intro reply
  by_cases hlistener : listener = name
  · -- It is the listener of this client, which takes the packet or does not.
    subst hlistener
    obtain ⟨hhandled, hworld⟩ := react_queueing hname others delivery state.world
    change (reply.1 = .handled ↔ _) at hhandled
    change reply.2 = _ at hworld
    by_cases htaken : reply.1 = .handled
    · have hput := ClientQueue.Lossless.put h (hhandled.mp htaken).1 (hhandled.mp htaken).2
        delivery.raw
      rw [if_pos htaken] at hworld
      simpa [Lossless, withProgress, queue, accepted, hworld, htaken] using hput
    · rw [if_neg htaken] at hworld
      simpa [Lossless, withProgress, queue, accepted, hworld, htaken] using h
  · have hqueue : reply.2.rest.1 name = state.world.rest.1 name :=
      queue_react_queueing (.inr (Ne.symm hlistener)) others delivery state.world
    simpa [Lossless, withProgress, queue, accepted, hqueue, hlistener] using h

/-- Every move keeps that. -/
theorem Lossless.step {client : ι → Bool} {state : Relaying ι σ} {capacity : Nat} {name : ι}
    (h : state.Lossless capacity name) (hname : client name = true) (bus : Bus)
    (others : Environment ι σ) (move : Move ι σ) :
    (state.step bus client others move).Lossless capacity name := by
  cases move with
  | arrive device timestamp packet priority => exact h
  | others change => exact h
  | advance number =>
    rcases step_advance_cases bus client others state number with heq |
      ⟨incoming, listener, delivery, -, -, -, heq⟩ | ⟨incoming, -, -, -, heq⟩
    · rw [heq]
      exact h
    · rw [heq]
      exact h.called hname number incoming _ listener delivery
    · have hqueue := queue_conclude_queueing bus client others incoming.progress state.world
      rw [heq]
      simpa [Lossless, withProgress, queue, accepted, hqueue] using h
  | receive other =>
    by_cases hother : other = name
    · subst hother
      simpa [Lossless, Relaying.step, queue, accepted] using ClientQueue.Lossless.next h
    · simpa [Lossless, Relaying.step, queue, accepted, Ne.symm hother] using h
  | close other =>
    by_cases hother : other = name
    · subst hother
      simpa [Lossless, Relaying.step, queue, accepted] using ClientQueue.Lossless.close h
    · simpa [Lossless, Relaying.step, queue, accepted, Ne.symm hother] using h

/-- A client that takes as many packets as wait for it is given all of them. -/
theorem received_run_receive (bus : Bus) (client : ι → Bool) (others : Environment ι σ)
    (state : Relaying ι σ) (name : ι) :
    (state.run bus client others
      (List.replicate (state.queue name).packets.length (.receive name))).received name =
      state.received name ++ (state.queue name).packets := by
  generalize hpackets : (state.queue name).packets = packets
  induction packets generalizing state with
  | nil => simp [run]
  | cons packet rest ih =>
    have hrest : ((state.step bus client others (.receive name)).queue name).packets = rest := by
      have hnext : (state.step bus client others (.receive name)).queue name =
          (state.queue name).next.2 := by
        simp [step, queue]
      rw [hnext, ClientQueue.next, hpackets]
    have hreceived : (state.step bus client others (.receive name)).received name =
        state.received name ++ [packet] := by
      simp [step, ClientQueue.next, hpackets]
    rw [List.length_cons, List.replicate_succ, run, List.foldl_cons, ← run, ih _ hrest, hreceived,
      List.append_assoc, List.singleton_append]

/-! ### What dispatches do -/

/-- The calls that were made are those that the dispatches say they made. -/
structure Logged (state : Relaying ι σ) : Prop where
  sound : ∀ {number : Nat} {incoming : Incoming ι}, state.dispatches[number]? = some incoming →
    incoming.progress.Sound
  /-- A dispatch calls its listeners one after the other. -/
  called : ∀ {number : Nat} {incoming : Incoming ι}, state.dispatches[number]? = some incoming →
    (state.callsOf number).map Hearing.listener =
      incoming.progress.snapshot.take incoming.progress.verdicts.length
  answered : ∀ {number : Nat} {incoming : Incoming ι}, state.dispatches[number]? = some incoming →
    (state.callsOf number).map Hearing.verdict = incoming.progress.verdicts
  packet : ∀ heard ∈ state.calls, ∃ incoming,
    state.dispatches[heard.dispatch]? = some incoming ∧ incoming.progress.packet = heard.packet
  /-- A dispatch knows of the earlier ones that are not finished. -/
  meanwhile : ∀ {earlier later : Nat} {incoming : Incoming ι}, earlier < later →
    later < state.dispatches.length →
    state.dispatches[earlier]? = some incoming → incoming.progress.result? = none →
    earlier ∈ state.meanwhile later
  /-- Calls are made in the order of the dispatches, but for those that were
  under way at the same time. -/
  order : state.calls.Pairwise fun first second =>
    first.dispatch ≤ second.dispatch ∨ second.dispatch ∈ state.meanwhile first.dispatch

omit [DecidableEq ι] in
/-- The dispatch that a step of it is about goes on, and the others stay as
they are. -/
theorem getElem?_withProgress {state : Relaying ι σ} {number : Nat} {incoming : Incoming ι}
    (h : state.dispatches[number]? = some incoming) (world : World ι ((ι → ClientQueue) × σ))
    (progress : Progress ι) (more : List (Hearing ι)) (other : Nat) :
    (state.withProgress world number incoming progress more).dispatches[other]? =
      if other = number then some { incoming with progress } else state.dispatches[other]? := by
  have hlt := (List.getElem?_eq_some_iff.mp h).1
  by_cases hother : other = number
  · subst hother
    simp [withProgress, hlt]
  · simp [withProgress, hother, Ne.symm hother]

omit [DecidableEq ι] in
/-- So does what was under way when their packets came in. -/
theorem meanwhile_withProgress {state : Relaying ι σ} {number : Nat} {incoming : Incoming ι}
    (h : state.dispatches[number]? = some incoming) (world : World ι ((ι → ClientQueue) × σ))
    (progress : Progress ι) (more : List (Hearing ι)) (other : Nat) :
    (state.withProgress world number incoming progress more).meanwhile other =
      state.meanwhile other := by
  unfold meanwhile
  rw [getElem?_withProgress h]
  by_cases hother : other = number
  · simp [hother, h]
  · simp [hother]

omit [DecidableEq ι] in
/-- The calls of a step are those of its dispatch. -/
theorem callsOf_withProgress (state : Relaying ι σ) (world : World ι ((ι → ClientQueue) × σ))
    {number : Nat} (incoming : Incoming ι) (progress : Progress ι) {more : List (Hearing ι)}
    (hmore : ∀ heard ∈ more, heard.dispatch = number) (other : Nat) :
    (state.withProgress world number incoming progress more).callsOf other =
      state.callsOf other ++ if other = number then more else [] := by
  have hfilter : more.filter (fun heard => heard.dispatch = other) =
      if other = number then more else [] := by
    split
    · next heq => exact List.filter_eq_self.mpr fun heard hmem => by simp [hmore heard hmem, heq]
    · next hne =>
      exact List.filter_eq_nil_iff.mpr fun heard hmem => by
        simpa [hmore heard hmem] using Ne.symm hne
  simp only [callsOf, withProgress, List.filter_append, hfilter]

omit [DecidableEq ι] in
/-- An unfinished dispatch keeps the order with its calls: whoever has a later
number knows of it. -/
theorem Logged.order_append {state : Relaying ι σ} (h : state.Logged) {number : Nat}
    {incoming : Incoming ι} (hincoming : state.dispatches[number]? = some incoming)
    (hresult : incoming.progress.result? = none) {more : List (Hearing ι)}
    (hmore : ∀ heard ∈ more, heard.dispatch = number) :
    (state.calls ++ more).Pairwise fun first second =>
      first.dispatch ≤ second.dispatch ∨ second.dispatch ∈ state.meanwhile first.dispatch := by
  refine List.pairwise_append.mpr ⟨h.order, ?_, ?_⟩
  · refine List.pairwise_of_forall_mem_list ?_
    intro first hfirst second hsecond
    exact .inl (Nat.le_of_eq ((hmore first hfirst).trans (hmore second hsecond).symm))
  · intro first hfirst second hsecond
    rw [hmore second hsecond]
    refine (Nat.lt_or_ge number first.dispatch).symm.imp_right fun hlt => ?_
    obtain ⟨found, hfound, -⟩ := h.packet first hfirst
    exact h.meanwhile hlt (List.getElem?_eq_some_iff.mp hfound).1 hincoming hresult

omit [DecidableEq ι] in
/-- An unfinished dispatch makes the calls that it says it makes. -/
theorem Logged.withProgress {state : Relaying ι σ} (h : state.Logged) {number : Nat}
    {incoming : Incoming ι} (hincoming : state.dispatches[number]? = some incoming)
    (hresult : incoming.progress.result? = none) (world : World ι ((ι → ClientQueue) × σ))
    {progress : Progress ι} (hsound : progress.Sound)
    (hpacket : progress.packet = incoming.progress.packet) {more : List (Hearing ι)}
    (hmore : ∀ heard ∈ more, heard.dispatch = number ∧ heard.packet = progress.packet)
    (hcalled : progress.snapshot.take progress.verdicts.length =
      incoming.progress.snapshot.take incoming.progress.verdicts.length ++
        more.map Hearing.listener)
    (hanswered : progress.verdicts = incoming.progress.verdicts ++ more.map Hearing.verdict) :
    (state.withProgress world number incoming progress more).Logged := by
  have hget := getElem?_withProgress hincoming world progress more
  have hmeanwhile := meanwhile_withProgress hincoming world progress more
  have hcalls := callsOf_withProgress state world incoming progress
    fun heard hmem => (hmore heard hmem).1
  -- The dispatch that goes on is looked at apart from all others, of which nothing
  -- changes.
  constructor
  case sound =>
    intro other found hfound
    rw [hget] at hfound
    split at hfound
    · cases hfound
      exact hsound
    · exact h.sound hfound
  case called =>
    intro other found hfound
    rw [hget] at hfound
    split at hfound
    · next heq =>
      cases hfound
      rw [hcalls, if_pos heq, List.map_append, heq, h.called hincoming, hcalled]
    · next hne =>
      rw [hcalls, if_neg hne, List.append_nil, h.called hfound]
  case answered =>
    intro other found hfound
    rw [hget] at hfound
    split at hfound
    · next heq =>
      cases hfound
      rw [hcalls, if_pos heq, List.map_append, heq, h.answered hincoming, hanswered]
    · next hne =>
      rw [hcalls, if_neg hne, List.append_nil, h.answered hfound]
  case packet =>
    intro heard hmem
    rw [hget]
    rcases List.mem_append.mp hmem with hold | hnew
    · obtain ⟨found, hfound, heq⟩ := h.packet heard hold
      split
      · next hnumber =>
        rw [hnumber, hincoming] at hfound
        cases hfound
        exact ⟨_, rfl, hpacket.trans heq⟩
      · exact ⟨found, hfound, heq⟩
    · obtain ⟨hnumber, heq⟩ := hmore heard hnew
      exact ⟨_, if_pos hnumber, heq.symm⟩
  case meanwhile =>
    intro earlier later found hlt hlater hfound hopen
    rw [hmeanwhile]
    rw [hget] at hfound
    have hlength : later < state.dispatches.length := by
      simpa [Relaying.withProgress] using hlater
    split at hfound
    · -- The dispatch was not finished before this step either.
      next heq => exact h.meanwhile hlt hlength (heq ▸ hincoming) hresult
    · exact h.meanwhile hlt hlength hfound hopen
  case order =>
    have hpair := h.order_append hincoming hresult fun heard hmem => (hmore heard hmem).1
    exact hpair.imp fun hor => hor.imp_right fun hmem => by rwa [hmeanwhile]

omit [DecidableEq ι] in
/-- What is under way are the unfinished dispatches. -/
theorem mem_underway {state : Relaying ι σ} {number : Nat} {incoming : Incoming ι}
    (h : state.dispatches[number]? = some incoming)
    (hresult : incoming.progress.result? = none) : number ∈ state.underway := by
  obtain ⟨hlt, rfl⟩ := List.getElem?_eq_some_iff.mp h
  simp [underway, hresult, hlt]

/-- A packet that comes in finds the earlier dispatches as they are. -/
theorem getElem?_arrive (bus : Bus) (client : ι → Bool) (others : Environment ι σ)
    (state : Relaying ι σ) (device : Option Int) (timestamp : Int) (packet : Bytes)
    (priority : Priority) (number : Nat) :
    (state.step bus client others (.arrive device timestamp packet priority)).dispatches[number]? =
      if number = state.dispatches.length then
        some ⟨bus.begin device timestamp packet priority state.world, state.underway⟩
      else state.dispatches[number]? := by
  by_cases hnumber : number = state.dispatches.length
  · simp [step, hnumber]
  · rw [if_neg hnumber]
    rcases Nat.lt_or_gt_of_ne hnumber with hlt | hgt
    · simp [step, List.getElem?_append_left hlt]
    · rw [List.getElem?_eq_none (Nat.le_of_lt hgt), List.getElem?_eq_none]
      simpa [step] using Nat.succ_le_of_lt hgt

/-- A packet that comes in calls nobody yet. -/
theorem Logged.arrive {state : Relaying ι σ} (h : state.Logged) (bus : Bus) (client : ι → Bool)
    (others : Environment ι σ) (device : Option Int) (timestamp : Int) (packet : Bytes)
    (priority : Priority) :
    (state.step bus client others (.arrive device timestamp packet priority)).Logged := by
  have hget := getElem?_arrive bus client others state device timestamp packet priority
  have hnone : state.callsOf state.dispatches.length = [] := by
    refine List.filter_eq_nil_iff.mpr fun heard hmem => ?_
    obtain ⟨incoming, hincoming, -⟩ := h.packet heard hmem
    simpa using Nat.ne_of_lt (List.getElem?_eq_some_iff.mp hincoming).1
  have hkept : ∀ {other number}, other ∈ state.meanwhile number → other ∈
      (state.step bus client others (.arrive device timestamp packet priority)).meanwhile
        number := by
    intro other number hmem
    cases hnumber : state.dispatches[number]? with
    | none => simp [Relaying.meanwhile, hnumber] at hmem
    | some incoming =>
      have hne := Nat.ne_of_lt (List.getElem?_eq_some_iff.mp hnumber).1
      simpa [Relaying.meanwhile, hget, hne] using hmem
  constructor
  case sound =>
    intro number found hfound
    rw [hget] at hfound
    split at hfound
    · cases hfound
      exact .begin bus device timestamp packet priority state.world
    · exact h.sound hfound
  case called =>
    intro number found hfound
    rw [hget] at hfound
    split at hfound
    · next heq =>
      cases hfound
      change (state.callsOf number).map _ = _
      rw [heq, hnone]
      rfl
    · exact h.called hfound
  case answered =>
    intro number found hfound
    rw [hget] at hfound
    split at hfound
    · next heq =>
      cases hfound
      change (state.callsOf number).map _ = _
      rw [heq, hnone]
      rfl
    · exact h.answered hfound
  case packet =>
    intro heard hmem
    obtain ⟨incoming, hincoming, heq⟩ := h.packet heard hmem
    have hne := Nat.ne_of_lt (List.getElem?_eq_some_iff.mp hincoming).1
    exact ⟨incoming, by rw [hget, if_neg hne, hincoming], heq⟩
  case meanwhile =>
    intro earlier later incoming hlt hlater hincoming hresult
    have hle : later ≤ state.dispatches.length := by
      simpa [step, Nat.lt_succ_iff] using hlater
    rw [hget, if_neg (Nat.ne_of_lt (Nat.lt_of_lt_of_le hlt hle))] at hincoming
    -- Only the packet that comes in may be new to the earlier dispatch.
    rcases Nat.lt_or_eq_of_le hle with hold | hnew
    · exact hkept (h.meanwhile hlt hold hincoming hresult)
    · simpa [Relaying.meanwhile, hget, hnew] using mem_underway hincoming hresult
  case order => exact h.order.imp fun hor => hor.imp_right hkept

/-- Every move keeps the log. -/
theorem Logged.step {state : Relaying ι σ} (h : state.Logged) (bus : Bus) (client : ι → Bool)
    (others : Environment ι σ) (move : Move ι σ) :
    (state.step bus client others move).Logged := by
  cases move with
  | arrive device timestamp packet priority =>
    exact h.arrive bus client others device timestamp packet priority
  | receive name =>
    exact ⟨h.sound, h.called, h.answered, h.packet, h.meanwhile, h.order⟩
  | close name =>
    exact ⟨h.sound, h.called, h.answered, h.packet, h.meanwhile, h.order⟩
  | others change =>
    exact ⟨h.sound, h.called, h.answered, h.packet, h.meanwhile, h.order⟩
  | advance number =>
    rcases step_advance_cases bus client others state number with heq |
      ⟨incoming, name, delivery, hincoming, hresult, hnext, heq⟩ |
      ⟨incoming, hincoming, hresult, hnext, heq⟩
    · rw [heq]
      exact h
    · -- The next listener is called.
      obtain ⟨hcontent, hname⟩ := Progress.next?_eq_some hnext
      have hsound : ({ incoming.progress with
          verdicts := incoming.progress.verdicts ++
            [((queueing client others).react name delivery state.world).1] } :
          Progress ι).Sound := by
        simpa [Bus.advance, hresult, hnext] using
          (h.sound hincoming).advance bus (queueing client others) state.world
      rw [heq]
      refine h.withProgress hincoming hresult _ hsound rfl ?_ ?_ ?_
      · intro heard hmem
        rw [List.mem_singleton] at hmem
        subst hmem
        exact ⟨rfl, (h.sound hincoming).raw delivery hcontent⟩
      · simp [List.take_add_one, hname]
      · rfl
    · -- Nobody is left to be called, and the dispatch is finished.
      have hsound := (h.sound hincoming).advance bus (queueing client others) state.world
      simp only [Bus.advance, hresult, hnext] at hsound
      rw [heq]
      refine h.withProgress hincoming hresult _ hsound rfl ?_ ?_ ?_
      · exact fun heard hmem => absurd hmem List.not_mem_nil
      · simp
      · simp

/-- No dispatch is taken twice by one listener. -/
theorem Logged.once {state : Relaying ι σ} (h : state.Logged) (name : ι) :
    ((state.accepted name).map Hearing.dispatch).Nodup := by
  refine List.nodup_iff_count_le_one.mpr fun number => ?_
  calc ((state.accepted name).map Hearing.dispatch).count number
      ≤ ((state.callsOf number).map Hearing.listener).count name := by
        simp only [List.count_eq_countP, List.countP_map, accepted, callsOf, List.countP_filter]
        refine List.countP_mono_left fun heard _ hheard => ?_
        simp only [Function.comp_apply, Bool.and_eq_true, beq_iff_eq, decide_eq_true_eq]
          at hheard ⊢
        exact ⟨hheard.2.1, hheard.1⟩
    _ ≤ 1 := by
        refine List.nodup_iff_count_le_one.mp ?_ name
        cases hnumber : state.dispatches[number]? with
        | none =>
          have hnone : state.callsOf number = [] := by
            refine List.filter_eq_nil_iff.mpr fun heard hmem => ?_
            obtain ⟨incoming, hincoming, -⟩ := h.packet heard hmem
            intro heq
            rw [of_decide_eq_true heq, hnumber] at hincoming
            cases hincoming
          simp [hnone]
        | some incoming =>
          rw [h.called hnumber]
          exact (h.sound hnumber).nodup.sublist (List.take_sublist _ _)

/-! ### Where dispatches come from -/

/-- A dispatch begins with its packet. Then only its answers and its report
are added to it. -/
theorem dispatches_step {bus : Bus} {client : ι → Bool} {others : Environment ι σ}
    {state : Relaying ι σ} {move : Move ι σ} {number : Nat} {incoming : Incoming ι}
    (h : (state.step bus client others move).dispatches[number]? = some incoming) :
    (∃ device timestamp packet priority, move = .arrive device timestamp packet priority ∧
      state.dispatches.length = number ∧
      incoming.progress = bus.begin device timestamp packet priority state.world) ∨
    ∃ earlier, state.dispatches[number]? = some earlier ∧
      incoming.progress = { earlier.progress with
        verdicts := incoming.progress.verdicts, result? := incoming.progress.result? } := by
  cases move with
  | receive name => exact .inr ⟨incoming, h, rfl⟩
  | close name => exact .inr ⟨incoming, h, rfl⟩
  | others change => exact .inr ⟨incoming, h, rfl⟩
  | arrive device timestamp packet priority =>
    rw [getElem?_arrive] at h
    split at h
    · next heq =>
      cases h
      exact .inl ⟨device, timestamp, packet, priority, rfl, heq.symm, rfl⟩
    · exact .inr ⟨incoming, h, rfl⟩
  | advance other =>
    rcases step_advance_cases bus client others state other with heq |
      ⟨found, name, delivery, hfound, -, -, heq⟩ | ⟨found, hfound, -, -, heq⟩
    · rw [heq] at h
      exact .inr ⟨incoming, h, rfl⟩
    all_goals
      rw [heq, getElem?_withProgress hfound] at h
      split at h
      · next hother =>
        cases h
        exact .inr ⟨found, hother ▸ hfound, rfl⟩
      · exact .inr ⟨incoming, h, rfl⟩

/-- Every dispatch is that of a packet that came in. -/
theorem exists_arrive {bus : Bus} {client : ι → Bool} {others : Environment ι σ}
    {capacity : ι → Nat} {listeners : Listeners ι} {rest : σ} {moves : List (Move ι σ)}
    {number : Nat} {incoming : Incoming ι} :
    let after := (start capacity listeners rest).run bus client others
    (after moves).dispatches[number]? = some incoming →
    ∃ before device timestamp packet priority,
      before ++ [.arrive device timestamp packet priority] <+: moves ∧
      (after before).dispatches.length = number ∧
      incoming.progress =
        { bus.begin device timestamp packet priority (after before).world with
          verdicts := incoming.progress.verdicts, result? := incoming.progress.result? } := by
  intro after
  induction moves using List.reverseRecOn generalizing incoming with
  | nil =>
    intro hincoming
    simp [after, run, start] at hincoming
  | append_singleton moves move ih =>
    intro hincoming
    simp only [after, run_concat] at hincoming
    rcases dispatches_step hincoming with
      ⟨device, timestamp, packet, priority, rfl, hnumber, hbegin⟩ | ⟨earlier, hearlier, heq⟩
    · exact ⟨moves, device, timestamp, packet, priority, List.prefix_rfl, hnumber,
        by rw [hbegin]⟩
    · obtain ⟨before, device, timestamp, packet, priority, hearly, hnumber, hbegin⟩ :=
        ih hearlier
      refine ⟨before, device, timestamp, packet, priority,
        hearly.trans (List.prefix_append _ _), hnumber, ?_⟩
      rw [heq, hbegin]

/-! ### Dispatches without interruption -/

/-- Steps of one dispatch in a row are its steps. -/
theorem run_advance (bus : Bus) (client : ι → Bool) (others : Environment ι σ) (count : Nat)
    {state : Relaying ι σ} {number : Nat} {incoming : Incoming ι}
    (h : state.dispatches[number]? = some incoming) :
    let after := state.run bus client others (List.replicate count (.advance number))
    let last := bus.advances (queueing client others) count incoming.progress state.world
    after.world = last.2 ∧
      (after.dispatches[number]?).map Incoming.progress = some last.1 := by
  induction count generalizing state incoming with
  | zero => exact ⟨rfl, by simp [run, Bus.advances, h]⟩
  | succ count ih =>
    obtain ⟨hlt, heq⟩ := List.getElem?_eq_some_iff.mp h
    have hnext : (state.step bus client others (.advance number)).dispatches[number]? =
        some { incoming with
          progress :=
            (bus.advance (queueing client others) incoming.progress state.world).1 } := by
      simp [step, hlt, heq]
    have hworld : (state.step bus client others (.advance number)).world =
        (bus.advance (queueing client others) incoming.progress state.world).2 := by
      simp [step, h]
    simpa [run, List.replicate_succ, Bus.advances, hworld] using ih hnext

/-- A packet whose dispatch nothing interrupts is dispatched as the bus does
it. -/
theorem run_arrive_advance (bus : Bus) (client : ι → Bool) (others : Environment ι σ)
    (state : Relaying ι σ) (device : Option Int) (timestamp : Int) (packet : Bytes)
    (priority : Priority) :
    let number := state.dispatches.length
    let count := (bus.begin device timestamp packet priority state.world).snapshot.length + 1
    let after := state.run bus client others
      (.arrive device timestamp packet priority :: List.replicate count (.advance number))
    let reply := bus.dispatchPacket (queueing client others) device timestamp packet priority
      state.world
    after.world = reply.2 ∧
      (after.dispatches[number]?).bind (fun incoming => incoming.progress.result?) =
        some reply.1 := by
  intro number count after reply
  have hfirst : (state.step bus client others
      (.arrive device timestamp packet priority)).dispatches[number]? =
      some ⟨bus.begin device timestamp packet priority state.world, state.underway⟩ := by
    rw [getElem?_arrive, if_pos rfl]
  obtain ⟨hworld, hprogress⟩ := run_advance bus client others count hfirst
  obtain ⟨hreport, hafter⟩ := bus.advances_begin (queueing client others) device timestamp
    packet priority state.world
  refine ⟨hworld.trans hafter, ?_⟩
  obtain ⟨incoming, hincoming, hlast⟩ := Option.map_eq_some_iff.mp hprogress
  have hnumber : after.dispatches[number]? = some incoming := hincoming
  rw [hnumber, Option.bind_some, hlast]
  exact hreport

/-! ### All runs -/

/-- Every run keeps both. -/
theorem sound_run (bus : Bus) (client : ι → Bool) (others : Environment ι σ) (capacity : ι → Nat)
    (listeners : Listeners ι) (rest : σ) (moves : List (Move ι σ)) :
    let last := (start capacity listeners rest).run bus client others moves
    last.Logged ∧ ∀ name, client name = true → last.Lossless (capacity name) name := by
  induction moves using List.reverseRecOn with
  | nil =>
    refine ⟨⟨?_, ?_, ?_, ?_, ?_, List.Pairwise.nil⟩, fun name _ => ?_⟩
    · simp [run, start]
    · simp [run, start]
    · simp [run, start]
    · simp [run, start]
    · simp [run, start]
    · exact ⟨rfl, Nat.zero_le _, fun _ => rfl, fun _ => rfl, List.nil_prefix⟩
  | append_singleton moves move ih =>
    obtain ⟨hlogged, hlossless⟩ := ih
    simp only [run_concat]
    exact ⟨hlogged.step bus client others move,
      fun name hname => (hlossless name hname).step hname bus others move⟩

/-- What the listener of a client takes is queued for the client and given to
it. -/
structure Supplied (state : Relaying ι σ) (capacity : Nat) (name : ι) : Prop where
  /-- No more packets wait than the queue may hold. -/
  le : (state.queue name).packets.length ≤ capacity
  /-- A client is given what its listener took, from the first packet on. -/
  received : state.received name <+: (state.accepted name).map Hearing.packet
  /-- The rest waits, as long as the queue is open. -/
  waiting : (state.queue name).isOpen = true →
    state.received name ++ (state.queue name).packets =
      (state.accepted name).map Hearing.packet
  /-- No dispatch makes the listener take its packet twice. -/
  once : ((state.accepted name).map Hearing.dispatch).Nodup
  /-- The packets are taken in the order of their dispatches, where these are
  not under way at the same time. -/
  order : (state.accepted name).Pairwise fun first second =>
    first.dispatch < second.dispatch ∨ second.dispatch ∈ state.meanwhile first.dispatch

/-- Whom a dispatch told what. -/
structure Distributed (state : Relaying ι σ) (number : Nat) (progress : Progress ι) : Prop where
  /-- One listener after the other is called, and none is left out. -/
  called : (state.callsOf number).map Hearing.listener =
    progress.snapshot.take progress.verdicts.length
  answered : (state.callsOf number).map Hearing.verdict = progress.verdicts
  /-- Everyone gets to see the whole packet. -/
  verbatim : ∀ heard ∈ state.callsOf number, heard.packet = progress.packet
  /-- Nothing is reported before all of them were called. -/
  complete : progress.result? ≠ none →
    (state.callsOf number).map Hearing.listener = progress.snapshot
  /-- If the message is acknowledged, all of them took it. -/
  acknowledged : progress.result? = some (.ok true) → ∀ name ∈ progress.snapshot,
    ∃ heard ∈ state.accepted name, heard.dispatch = number ∧ heard.packet = progress.packet

theorem Logged.supplied {state : Relaying ι σ} (h : state.Logged) {capacity : Nat} {name : ι}
    (hlossless : state.Lossless capacity name) : state.Supplied capacity name := by
  refine ⟨hlossless.le, hlossless.received, hlossless.exact, h.once name, ?_⟩
  have hne : (state.accepted name).Pairwise fun first second =>
      first.dispatch ≠ second.dispatch := List.pairwise_map.mp (h.once name)
  refine (hne.and (h.order.filter _)).imp fun hpair => ?_
  exact hpair.2.imp_left fun hle => Nat.lt_of_le_of_ne hle hpair.1

theorem Logged.distributed {state : Relaying ι σ} (h : state.Logged) {number : Nat}
    {incoming : Incoming ι} (hincoming : state.dispatches[number]? = some incoming) :
    state.Distributed number incoming.progress := by
  have hsound := h.sound hincoming
  have hverbatim : ∀ heard ∈ state.callsOf number, heard.packet = incoming.progress.packet := by
    intro heard hmem
    obtain ⟨hcall, hnumber⟩ := List.mem_filter.mp hmem
    obtain ⟨found, hfound, heq⟩ := h.packet heard hcall
    rw [of_decide_eq_true hnumber, hincoming] at hfound
    cases hfound
    exact heq.symm
  have hcomplete : incoming.progress.result? ≠ none →
      (state.callsOf number).map Hearing.listener = incoming.progress.snapshot := by
    intro hresult
    rw [h.called hincoming, hsound.complete hresult, List.take_length]
  refine ⟨h.called hincoming, h.answered hincoming, hverbatim, hcomplete, ?_⟩
  intro hresult name hname
  rw [← hcomplete (by simp [hresult])] at hname
  obtain ⟨heard, hmem, rfl⟩ := List.mem_map.mp hname
  have hverdict : heard.verdict = .handled := by
    refine hsound.acknowledged hresult _ ?_
    rw [← h.answered hincoming]
    exact List.mem_map_of_mem hmem
  obtain ⟨hcall, hnumber⟩ := List.mem_filter.mp hmem
  exact ⟨heard, List.mem_filter.mpr ⟨hcall, by simp [hverdict]⟩, of_decide_eq_true hnumber,
    hverbatim heard hmem⟩

/-- A step that calls a listener makes this one call. The listener of a client
takes the packet if its queue is open and not full, and no other queue
notices. -/
theorem step_of_due {state : Relaying ι σ} (h : state.Logged) (bus : Bus) (client : ι → Bool)
    (others : Environment ι σ) {number : Nat} {name : ι} {delivery : Delivery}
    (hdue : state.due number = some (name, delivery)) :
    let next := state.step bus client others (.advance number)
    ∃ verdict, next.calls = state.calls ++ [⟨number, name, delivery.raw, verdict⟩] ∧
      (∀ other, client name = false ∨ other ≠ name → next.queue other = state.queue other) ∧
      (client name = true →
        let queue := state.queue name
        (verdict = .handled ↔ queue.isOpen = true ∧ queue.packets.length < queue.capacity) ∧
        next.queue name =
          if verdict = .handled then { queue with packets := queue.packets ++ [delivery.raw] }
          else queue) := by
  obtain ⟨incoming, hincoming, hnext⟩ := Option.bind_eq_some_iff.mp hdue
  have hresult : incoming.progress.result? = none := by
    by_contra hresult
    have hlt := (List.getElem?_eq_some_iff.mp (Progress.next?_eq_some hnext).2).1
    exact Nat.ne_of_lt hlt ((h.sound hincoming).complete hresult)
  have hstep := step_advance_of_next bus client others hincoming hresult hnext
  refine ⟨_, by rw [hstep]; rfl, fun other hother => ?_, fun hname => ?_⟩
  · rw [hstep]
    exact queue_react_queueing hother others delivery state.world
  · obtain ⟨hhandled, hworld⟩ := react_queueing hname others delivery state.world
    refine ⟨hhandled, ?_⟩
    rw [hstep]
    simp only [withProgress, queue]
    rw [hworld]
    simp

/-- What a listener takes came in as a packet of a type for which the listener
was registered then. -/
theorem exists_arrive_of_accepted {bus : Bus} {client : ι → Bool} {others : Environment ι σ}
    {capacity : ι → Nat} {listeners : Listeners ι} {rest : σ} {moves : List (Move ι σ)}
    {name : ι} {heard : Hearing ι} :
    let after := (start capacity listeners rest).run bus client others
    (after moves).Logged → heard ∈ (after moves).accepted name →
    ∃ before device timestamp priority type frame,
      before ++ [.arrive device timestamp heard.packet priority] <+: moves ∧
      (after before).dispatches.length = heard.dispatch ∧
      bus.format.payloadFrame heard.packet = .ok (type, frame) ∧
      name ∈ (after before).world.listeners.list type := by
  intro after hlogged hmem
  obtain ⟨hcall, htaken⟩ := List.mem_filter.mp hmem
  have hname : heard.listener = name := (of_decide_eq_true htaken).1
  obtain ⟨incoming, hincoming, hpacket⟩ := hlogged.packet heard hcall
  obtain ⟨before, device, timestamp, packet, priority, hearly, hnumber, hbegin⟩ :=
    exists_arrive hincoming
  have hlistener : name ∈ incoming.progress.snapshot := by
    have hheard : heard.listener ∈
        ((after moves).callsOf heard.dispatch).map Hearing.listener :=
      List.mem_map_of_mem (List.mem_filter.mpr ⟨hcall, by simp⟩)
    rw [hlogged.called hincoming, hname] at hheard
    exact List.mem_of_mem_take hheard
  obtain rfl : packet = heard.packet := by
    rw [← hpacket, hbegin]
    rfl
  rw [hbegin] at hlistener
  cases hcontent : bus.content device timestamp heard.packet with
  | error error =>
    -- Nobody listens to a packet that is not understood.
    simp [Bus.begin, hcontent] at hlistener
  | ok delivery =>
    obtain ⟨-, frame, hframe⟩ := Bus.content_eq_ok hcontent
    exact ⟨before, device, timestamp, priority, delivery.type, frame, hearly, hnumber, hframe,
      by simpa [Bus.begin, hcontent] using hlistener⟩

/-- The clients of a bus get what their listeners took, and an acknowledged
message was taken by all of its listeners, whatever other listeners there are,
however many dispatches are under way at once, and wherever clients take
packets, queues are closed and others do what they do in between. -/
theorem queued_for_clients (bus : Bus) (client : ι → Bool) (others : Environment ι σ)
    (capacity : ι → Nat) (listeners : Listeners ι) (rest : σ) (moves : List (Move ι σ)) :
    let after := (start capacity listeners rest).run bus client others
    let last := after moves
    -- The listener of a client that is called takes the whole packet if its
    -- queue is open and not full, and does nothing to any other one.
    (∀ number name delivery, last.due number = some (name, delivery) →
      let next := last.step bus client others (.advance number)
      ∃ verdict, next.calls = last.calls ++ [⟨number, name, delivery.raw, verdict⟩] ∧
        (∀ other, client name = false ∨ other ≠ name → next.queue other = last.queue other) ∧
        (client name = true →
          let queue := last.queue name
          (verdict = .handled ↔ queue.isOpen = true ∧ queue.packets.length < capacity name) ∧
          next.queue name =
            if verdict = .handled then { queue with packets := queue.packets ++ [delivery.raw] }
            else queue)) ∧
    -- Clients get that and nothing else, and those that go on to take packets
    -- get all of it.
    (∀ name, client name = true → last.Supplied (capacity name) name ∧
      ((last.queue name).isOpen = true →
        (last.run bus client others
          (List.replicate (last.queue name).packets.length (.receive name))).received name =
          (last.accepted name).map Hearing.packet)) ∧
    -- Every dispatch tells all listeners that the message had when its packet
    -- came in, whatever these answer.
    (∀ number incoming, last.dispatches[number]? = some incoming →
      last.Distributed number incoming.progress ∧
      ∃ before device timestamp packet priority,
        before ++ [.arrive device timestamp packet priority] <+: moves ∧
        (after before).dispatches.length = number ∧
        incoming.progress =
          { bus.begin device timestamp packet priority (after before).world with
            verdicts := incoming.progress.verdicts, result? := incoming.progress.result? }) ∧
    -- What a listener takes is of a type for which it was registered then.
    (∀ name, ∀ heard ∈ last.accepted name, ∃ before device timestamp priority type frame,
      before ++ [.arrive device timestamp heard.packet priority] <+: moves ∧
      (after before).dispatches.length = heard.dispatch ∧
      bus.format.payloadFrame heard.packet = .ok (type, frame) ∧
      name ∈ (after before).world.listeners.list type) ∧
    -- A dispatch that nothing interrupts does what the bus does.
    (∀ device timestamp packet priority,
      let number := last.dispatches.length
      let count := (bus.begin device timestamp packet priority last.world).snapshot.length + 1
      let done := last.run bus client others
        (.arrive device timestamp packet priority :: List.replicate count (.advance number))
      let reply := bus.dispatchPacket (queueing client others) device timestamp packet priority
        last.world
      done.world = reply.2 ∧
        (done.dispatches[number]?).bind (fun incoming => incoming.progress.result?) =
          some reply.1) := by
  intro after last
  obtain ⟨hlogged, hlossless⟩ := sound_run bus client others capacity listeners rest moves
  refine ⟨?_, fun name hname => ⟨hlogged.supplied (hlossless name hname), fun hopen => ?_⟩, ?_,
    fun name heard hmem => exists_arrive_of_accepted hlogged hmem,
    run_arrive_advance bus client others last⟩
  · intro number name delivery hdue
    obtain ⟨verdict, hcalls, helse, hown⟩ := step_of_due hlogged bus client others hdue
    refine ⟨verdict, hcalls, helse, fun hname => ?_⟩
    rw [← (hlossless name hname).size]
    exact hown hname
  · rw [received_run_receive]
    exact (hlossless name hname).exact hopen
  · intro number incoming hincoming
    exact ⟨hlogged.distributed hincoming, exists_arrive hincoming⟩

end Relaying

end SensorGateway.Forwarder

/-! ### The bus of the gateway -/

namespace SensorGateway

namespace Bus

variable {ι σ τ : Type}

/-- A world whose rest is arranged otherwise. -/
def World.map (arrange : σ → τ) (world : World ι σ) : World ι τ :=
  ⟨world.listeners, arrange world.rest⟩

/-- What one environment does is what another one does in a world that is
arranged otherwise. -/
structure Environment.Follows (plain : Environment ι τ) (arrange : σ → τ)
    (environment : Environment ι σ) : Prop where
  react : ∀ listener delivery world, plain.react listener delivery (world.map arrange) =
    ((environment.react listener delivery world).1,
      (environment.react listener delivery world).2.map arrange)
  acknowledge : ∀ device timestamp priority rest,
    plain.acknowledge device timestamp priority (arrange rest) =
      ((environment.acknowledge device timestamp priority rest).1,
        arrange (environment.acknowledge device timestamp priority rest).2)

namespace Environment.Follows

variable {plain : Environment ι τ} {arrange : σ → τ} {environment : Environment ι σ}

theorem deliver (h : plain.Follows arrange environment) (delivery : Delivery)
    (listeners : List ι) (world : World ι σ) :
    Bus.deliver plain delivery listeners (world.map arrange) =
      ((Bus.deliver environment delivery listeners world).1,
        (Bus.deliver environment delivery listeners world).2.map arrange) := by
  induction listeners generalizing world with
  | nil => rfl
  | cons listener rest ih => simp only [Bus.deliver, h.react, ih]

theorem dispatchPacket (h : plain.Follows arrange environment) (bus : Bus) (device : Option Int)
    (timestamp : Int) (packet : Bytes) (priority : Priority) (world : World ι σ) :
    bus.dispatchPacket plain device timestamp packet priority (world.map arrange) =
      ((bus.dispatchPacket environment device timestamp packet priority world).1,
        (bus.dispatchPacket environment device timestamp packet priority world).2.map
          arrange) := by
  rw [dispatchPacket_eq, dispatchPacket_eq]
  cases bus.content device timestamp packet with
  | error error => rfl
  | ok delivery =>
    have hlist : (world.map arrange).listeners.list delivery.type =
        world.listeners.list delivery.type := rfl
    simp only [distribute, hlist]
    cases world.listeners.list delivery.type with
    | nil => rfl
    | cons listener rest =>
      simp only [h.deliver]
      split
      · simp only [Bus.acknowledge, World.map, h.acknowledge]
      · rfl

end Environment.Follows

end Bus

/-- The subscriber is the listener of a connection. -/
def Subscriber.isClient : Subscriber → Bool
  | .recorder _ => false
  | .client _ => true

namespace Queues

/-- Other connections keep their queues. -/
theorem lookup_remove (queues : Queues) {id other : Nat} (h : other ≠ id) :
    (queues.remove id).lookup other = queues.lookup other := by
  induction queues with
  | nil => rfl
  | cons entry rest ih =>
    obtain ⟨first, queue⟩ := entry
    by_cases hfirst : first = id
    · subst hfirst
      simpa [remove, List.lookup_cons, beq_false_of_ne h] using ih
    · have hkept : Queues.remove ((first, queue) :: rest) id =
          (first, queue) :: Queues.remove rest id := by
        simp [remove, hfirst]
      rw [hkept, List.lookup_cons, List.lookup_cons, ih]

theorem queue_set (queues : Queues) (id other : Nat) (queue : Forwarder.ClientQueue) :
    (queues.set id queue).queue other = if other = id then queue else queues.queue other := by
  unfold Queues.queue set
  by_cases hother : other = id
  · simp [hother]
  · simp [hother, List.lookup_cons, beq_false_of_ne hother, lookup_remove queues hother]

end Queues

namespace Effects

open Forwarder (ClientQueue queueing)

/-- The queues of connections, and everything else. -/
def parted (effects : Effects) : (Subscriber → ClientQueue) × Effects :=
  (fun subscriber => match subscriber with
    | .client id => effects.queues.queue id
    | .recorder _ => { capacity := 0, isOpen := false },
  { effects with queues := [] })

/-- On the bus of a gateway clients queue what they hear. -/
theorem queueing_follows (recorders : List Recorder) :
    (queueing Subscriber.isClient (environment recorders)).Follows parted
      (environment recorders) where
  react subscriber delivery world := by
    cases subscriber with
    | recorder index => rfl
    | client id =>
      have hupdate : ∀ queue : ClientQueue,
          Function.update world.rest.parted.1 (.client id) queue =
            ({ world.rest with queues := world.rest.queues.set id queue } :
              Effects).parted.1 := by
        intro queue
        funext other
        cases other with
        | recorder index => simp [parted]
        | client other =>
          by_cases hother : other = id
          · simp [parted, hother, Queues.queue_set]
          · simp [parted, hother, Queues.queue_set]
      simp only [queueing, Subscriber.isClient, if_true, Bus.World.map, hupdate]
      rfl
  acknowledge device timestamp priority effects := rfl

end Effects

/-- A packet of the base station does to the queues of a gateway what it does
on a bus whose clients queue what they hear. -/
theorem Gateway.receive_queueing (gateway : Gateway) (keeps : Bool) (timestamp : Int)
    (packet : Bytes) :
    let link := gateway.startup.link
    let effects : Effects := { queues := gateway.queues, keeps }
    let reply := gateway.bus.dispatchPacket
      (Forwarder.queueing Subscriber.isClient gateway.environment)
      (link.deviceId.map Int32.toInt) timestamp packet link.priority
      ⟨gateway.server.tables theBus, effects.parted⟩
    (gateway.receive keeps timestamp packet).1.parted = reply.2.rest := by
  intro link effects reply
  have hfollows := (Effects.queueing_follows gateway.startup.recorders).dispatchPacket gateway.bus
    (link.deviceId.map Int32.toInt) timestamp packet link.priority
    ⟨gateway.server.tables theBus, effects⟩
  exact (congrArg (fun answer => answer.2.rest) hfollows).symm

end SensorGateway
