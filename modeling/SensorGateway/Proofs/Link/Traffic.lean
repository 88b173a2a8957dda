import Mathlib.Data.List.Nodup
import SensorGateway.Link.Waiting
import SensorGateway.Proofs.Link.Queue

/-!
# `SensorGateway.Proofs.Link.Traffic`: the queue under any use

Sends come, attempt to put their packets into the queue, and are given up
while they wait; readers take packets out, and someone may close the queue.
A `Turn` is one of these steps. Nothing is said about their order: who
waits may attempt again at any time, whether there is room or not.

* `Sound.handle`, `sound_run`: what every turn keeps, and what therefore
  holds after all of them. Of the sends that came each waits or ended in one
  way, and the packets that came out together with those that wait are
  exactly the accepted ones.
* `Attempts`, `Pops` and `Stays` say what the next turn does, whichever it
  is, and `Closes` what closing means for all later ones.
* `run_opened`: all of it, for every capacity and all turns.
-/

set_option autoImplicit false

open scoped List

namespace SensorGateway.Link

/-! ### Turns -/

/-- How a send ended. -/
inductive Fate where
  | accepted
  /-- The queue was closed. -/
  | refused
  /-- It was given up before anything became of it. -/
  | abandoned
  deriving Repr, DecidableEq

/-- The queue, and what became of those who used it. -/
structure Traffic where
  queue : Queue
  /-- The sends so far, first come first. -/
  came : List Sender := []
  /-- Those that have not ended. -/
  waiting : List Sender := []
  /-- Those that ended, in the order in which they did. -/
  ended : List (Sender × Fate) := []
  /-- What readers were given, in the order in which they were: a packet, or
  word that none will follow. -/
  given : List (Option Queued) := []
  deriving Repr, DecidableEq

/-- One step of anyone who uses the queue. -/
inductive Turn where
  /-- A send begins. The number of its task must not have been used before. -/
  | come (sender : Sender)
  /-- A send that waits attempts to put its packet into the queue, for the
  first time or again. -/
  | attempt (task : Nat)
  /-- A send that waits is given up. -/
  | abandon (task : Nat)
  /-- Someone takes a packet, if there is one. -/
  | take
  /-- A reader asks for the next packet. -/
  | next
  | close
  deriving Repr, DecidableEq

namespace Traffic

/-- A queue that nobody used yet. -/
def opened (capacity : Nat) : Traffic := { queue := .ofCapacity capacity }

/-- The send of a task that waits. -/
def waitingOf (traffic : Traffic) (task : Nat) : Option Sender :=
  traffic.waiting.find? fun sender => sender.task == task

/-- A send that waited ends. -/
def finish (traffic : Traffic) (sender : Sender) (fate : Fate) : Traffic :=
  { traffic with
    waiting := traffic.waiting.erase sender
    ended := traffic.ended ++ [(sender, fate)] }

/-- The packet of a send that waited is in the queue. -/
def accept (traffic : Traffic) (sender : Sender) : Traffic :=
  { traffic with queue := traffic.queue.accept sender.packet sender.priority }.finish sender
    .accepted

/-- A send that waits makes an attempt. It goes on waiting if the queue is
full. -/
def attempt (traffic : Traffic) (sender : Sender) : Traffic :=
  match traffic.queue.attempt sender.packet sender.priority with
  | (.accepted, queue) => { traffic with queue }.finish sender .accepted
  | (.full, queue) => { traffic with queue }
  | (.closed, queue) => { traffic with queue }.finish sender .refused

/-- Someone takes a packet, if there is one. -/
def take (traffic : Traffic) : Traffic :=
  match traffic.queue.pop with
  | (some entry, queue) => { traffic with queue, given := traffic.given ++ [some entry] }
  | (none, queue) => { traffic with queue }

/-- A reader asks for the next packet. If there is none and the queue is
closed he hears that none will follow, otherwise he has to ask again. -/
def next (traffic : Traffic) : Traffic :=
  match traffic.queue.pop with
  | (some _, _) => traffic.take
  | (none, queue) =>
    if queue.isClosed then { traffic with queue, given := traffic.given ++ [none] }
    else { traffic with queue }

/-- Handles a turn. -/
def handle (traffic : Traffic) : Turn → Traffic
  | .come sender =>
    if sender.task ∈ traffic.came.map Sender.task then traffic
    else { traffic with
      came := traffic.came ++ [sender]
      waiting := traffic.waiting ++ [sender] }
  | .attempt task =>
    match traffic.waitingOf task with
    | some sender => traffic.attempt sender
    | none => traffic
  | .abandon task =>
    match traffic.waitingOf task with
    | some sender => traffic.finish sender .abandoned
    | none => traffic
  | .take => traffic.take
  | .next => traffic.next
  | .close => { traffic with queue := traffic.queue.close }

/-- Handles turns one after the other. -/
def run (traffic : Traffic) (turns : List Turn) : Traffic := turns.foldl handle traffic

@[simp] theorem run_nil (traffic : Traffic) : traffic.run [] = traffic := rfl

@[simp] theorem run_cons (traffic : Traffic) (turn : Turn) (rest : List Turn) :
    traffic.run (turn :: rest) = (traffic.handle turn).run rest := rfl

@[simp] theorem run_append (traffic : Traffic) (first rest : List Turn) :
    traffic.run (first ++ rest) = (traffic.run first).run rest := List.foldl_append

/-- The sends that were accepted, in the order in which they were. -/
def accepted (traffic : Traffic) : List Sender :=
  (traffic.ended.filter fun entry => entry.2 == .accepted).map Prod.fst

/-- The entries of all accepted sends: each with the packet and the priority
of its send, and the number of those accepted before. -/
def tickets (traffic : Traffic) : List Queued :=
  traffic.accepted.mapIdx fun n sender => ⟨sender.priority, n, sender.packet⟩

/-- The entries that came out, in the order in which they did. -/
def popped (traffic : Traffic) : List Queued := traffic.given.filterMap id

/-! ### What every turn keeps -/

/-- What always holds. -/
structure Sound (capacity : Nat) (traffic : Traffic) : Prop where
  queue : traffic.queue.Sound
  capacity_eq : traffic.queue.capacity = max capacity 1
  /-- Every send is there once, and it waits or ended in one way. -/
  nodup_came : (traffic.came.map Sender.task).Nodup
  perm_came : (traffic.ended.map Prod.fst ++ traffic.waiting).Perm traffic.came
  accepted_eq : traffic.queue.accepted = traffic.accepted.length
  /-- What came out and what waits in the queue is what was accepted. -/
  perm_tickets : (traffic.popped ++ traffic.queue.entries).Perm traffic.tickets
  /-- A reader hears that no packet will follow only when none can. -/
  drained : none ∈ traffic.given → traffic.queue.isClosed = true ∧ traffic.queue.entries = []

theorem sound_opened (capacity : Nat) : (opened capacity).Sound capacity where
  queue := Queue.sound_ofCapacity capacity
  capacity_eq := rfl
  nodup_came := List.nodup_nil
  perm_came := List.Perm.refl _
  accepted_eq := rfl
  perm_tickets := List.Perm.refl _
  drained := by simp [opened]

theorem accepted_finish (traffic : Traffic) (sender : Sender) (fate : Fate) :
    (traffic.finish sender fate).accepted =
      traffic.accepted ++ if fate = .accepted then [sender] else [] := by
  cases fate <;> simp [finish, accepted, List.filter_append]

theorem mem_of_waitingOf {traffic : Traffic} {task : Nat} {sender : Sender}
    (h : traffic.waitingOf task = some sender) : sender ∈ traffic.waiting :=
  List.mem_of_find?_eq_some h

theorem task_of_waitingOf {traffic : Traffic} {task : Nat} {sender : Sender}
    (h : traffic.waitingOf task = some sender) : sender.task = task := by
  have htask := List.find?_some h
  exact eq_of_beq htask

variable {capacity : Nat} {traffic : Traffic}

theorem perm_finish {sender : Sender} (hmem : sender ∈ traffic.waiting) (fate : Fate) :
    ((traffic.finish sender fate).ended.map Prod.fst ++
        (traffic.finish sender fate).waiting).Perm
      (traffic.ended.map Prod.fst ++ traffic.waiting) := by
  have hwaiting := List.perm_cons_erase hmem
  rw [finish, List.map_append, List.append_assoc]
  exact hwaiting.symm.append_left _

/-- A send that ends without being accepted leaves the queue alone. -/
theorem Sound.finish (h : traffic.Sound capacity) {sender : Sender}
    (hmem : sender ∈ traffic.waiting) {fate : Fate} (hfate : fate ≠ .accepted) :
    (traffic.finish sender fate).Sound capacity := by
  have haccepted : (traffic.finish sender fate).accepted = traffic.accepted := by
    rw [accepted_finish, if_neg hfate, List.append_nil]
  exact { h with
    perm_came := (perm_finish hmem fate).trans h.perm_came
    accepted_eq := by rw [haccepted]; exact h.accepted_eq
    perm_tickets := by rw [tickets, haccepted]; exact h.perm_tickets }

/-- An accepted send has its entry in the queue. -/
theorem Sound.accept (h : traffic.Sound capacity) {sender : Sender}
    (hmem : sender ∈ traffic.waiting) (hopen : traffic.queue.isClosed = false)
    (hroom : traffic.queue.size < traffic.queue.capacity) :
    (traffic.accept sender).Sound capacity := by
  have haccepted : (traffic.accept sender).accepted = traffic.accepted ++ [sender] :=
    accepted_finish _ _ _
  have hticket : (traffic.accept sender).tickets =
      traffic.tickets ++ [traffic.queue.ticket sender.packet sender.priority] := by
    rw [tickets, haccepted, List.mapIdx_concat, Queue.ticket, h.accepted_eq]
    rfl
  have hentries := Queue.perm_place (traffic.queue.ticket sender.packet sender.priority)
    traffic.queue.entries
  -- The new entry is in the queue on one side, the last ticket on the other.
  exact { h with
    queue := h.queue.accept hroom sender.packet sender.priority
    perm_came := (perm_finish hmem .accepted).trans h.perm_came
    accepted_eq := by
      rw [haccepted, List.length_append, ← h.accepted_eq]
      rfl
    perm_tickets := by
      rw [hticket]
      calc traffic.popped ++ Queue.place _ traffic.queue.entries
        _ ~ traffic.popped ++ _ :: traffic.queue.entries := hentries.append_left _
        _ ~ _ :: (traffic.popped ++ traffic.queue.entries) := List.perm_middle
        _ ~ _ :: traffic.tickets := h.perm_tickets.cons _
        _ ~ traffic.tickets ++ [_] := (List.perm_append_singleton _ _).symm
    -- While the queue is open nobody was told that nothing follows.
    drained := fun hgiven => absurd (h.drained hgiven).1 (Bool.eq_false_iff.mp hopen) }

/-- What becomes of a send that attempts. -/
theorem attempt_cases (traffic : Traffic) (sender : Sender) :
    traffic.queue.isClosed = true ∧ traffic.attempt sender = traffic.finish sender .refused ∨
    traffic.queue.isClosed = false ∧ traffic.queue.capacity ≤ traffic.queue.size ∧
      traffic.attempt sender = traffic ∨
    traffic.queue.isClosed = false ∧ traffic.queue.size < traffic.queue.capacity ∧
      traffic.attempt sender = traffic.accept sender := by
  unfold attempt
  obtain ⟨hclosed, hattempt⟩ | ⟨hopen, hfull, hattempt⟩ | ⟨hopen, hroom, hattempt⟩ :=
    traffic.queue.attempt_cases sender.packet sender.priority
  · exact .inl ⟨hclosed, by rw [hattempt]⟩
  · exact .inr (.inl ⟨hopen, hfull, by rw [hattempt]⟩)
  · exact .inr (.inr ⟨hopen, hroom, by rw [hattempt, accept]⟩)

theorem Sound.attempt (h : traffic.Sound capacity) {sender : Sender}
    (hmem : sender ∈ traffic.waiting) : (traffic.attempt sender).Sound capacity := by
  obtain ⟨-, hattempt⟩ | ⟨-, -, hattempt⟩ | ⟨hopen, hroom, hattempt⟩ :=
    traffic.attempt_cases sender
  · rw [hattempt]
    exact h.finish hmem (by decide)
  · rw [hattempt]
    exact h
  · rw [hattempt]
    exact h.accept hmem hopen hroom

/-- Someone who takes a packet gets the first one, which leaves the queue. -/
theorem take_of_cons {entry : Queued} {rest : List Queued}
    (hentries : traffic.queue.entries = entry :: rest) :
    traffic.take = { traffic with
      queue := { traffic.queue with entries := rest }
      given := traffic.given ++ [some entry] } := by
  rw [take, Queue.pop, hentries]

theorem take_of_nil (hentries : traffic.queue.entries = []) : traffic.take = traffic := by
  rw [take, Queue.pop, hentries]

/-- A reader gets what everyone would who takes a packet. -/
theorem next_of_cons {entry : Queued} {rest : List Queued}
    (hentries : traffic.queue.entries = entry :: rest) : traffic.next = traffic.take := by
  rw [next, Queue.pop, hentries]

theorem next_of_nil (hentries : traffic.queue.entries = []) :
    traffic.next = if traffic.queue.isClosed then
      { traffic with given := traffic.given ++ [none] } else traffic := by
  rw [next, Queue.pop, hentries]

/-- What came out, followed by what waits, stays the same when the first
packet comes out. -/
theorem popped_take (traffic : Traffic) :
    traffic.take.popped ++ traffic.take.queue.entries =
      traffic.popped ++ traffic.queue.entries := by
  cases hentries : traffic.queue.entries with
  | nil => rw [take_of_nil hentries, hentries]
  | cons entry rest =>
    rw [take_of_cons hentries, popped, List.filterMap_append, List.append_assoc]
    rfl

theorem popped_next (traffic : Traffic) :
    traffic.next.popped ++ traffic.next.queue.entries =
      traffic.popped ++ traffic.queue.entries := by
  cases hentries : traffic.queue.entries with
  | cons entry rest => rw [next_of_cons hentries, popped_take, hentries]
  | nil =>
    rw [next_of_nil hentries]
    split
    · rw [popped, List.filterMap_append, hentries]
      simp [popped]
    · rw [hentries]

theorem Sound.take (h : traffic.Sound capacity) : traffic.take.Sound capacity := by
  cases hentries : traffic.queue.entries with
  | nil =>
    rw [take_of_nil hentries]
    exact h
  | cons entry rest =>
    have hqueue := h.queue.pop
    have hperm := h.perm_tickets
    have hdrained := h.drained
    rw [Queue.pop, hentries] at hqueue
    rw [hentries] at hdrained
    rw [← traffic.popped_take] at hperm
    rw [take_of_cons hentries] at hperm ⊢
    exact { h with
      queue := hqueue
      perm_tickets := hperm
      -- Had a reader heard that nothing will follow, nothing would be there.
      drained := fun hgiven => by
        cases List.mem_append.mp hgiven with
        | inl hgiven => exact absurd (hdrained hgiven).2 (List.cons_ne_nil _ _)
        | inr hgiven => cases List.mem_singleton.mp hgiven }

theorem Sound.next (h : traffic.Sound capacity) : traffic.next.Sound capacity := by
  cases hentries : traffic.queue.entries with
  | cons entry rest =>
    rw [next_of_cons hentries]
    exact h.take
  | nil =>
    have hperm := h.perm_tickets
    rw [← traffic.popped_next] at hperm
    rw [next_of_nil hentries] at hperm ⊢
    by_cases hclosed : traffic.queue.isClosed = true
    · rw [if_pos hclosed] at hperm ⊢
      exact { h with
        perm_tickets := hperm
        drained := fun _ => ⟨hclosed, hentries⟩ }
    · rw [if_neg hclosed]
      exact h

theorem Sound.come (h : traffic.Sound capacity) (sender : Sender) :
    (traffic.handle (.come sender)).Sound capacity := by
  rw [handle]
  split
  case isTrue => exact h
  case isFalse hnew =>
    exact { h with
      nodup_came := by
        have hnodup := List.Nodup.concat hnew h.nodup_came
        rw [List.concat_eq_append] at hnodup
        rwa [List.map_append]
      perm_came := by
        rw [← List.append_assoc]
        exact h.perm_came.append_right _ }

/-- Every turn keeps what always holds. -/
theorem Sound.handle (h : traffic.Sound capacity) (turn : Turn) :
    (traffic.handle turn).Sound capacity := by
  cases turn with
  | come sender => exact h.come sender
  | attempt task =>
    rw [Traffic.handle]
    split
    case h_1 hwaiting => exact h.attempt (mem_of_waitingOf hwaiting)
    case h_2 => exact h
  | abandon task =>
    rw [Traffic.handle]
    split
    case h_1 hwaiting => exact h.finish (mem_of_waitingOf hwaiting) (by decide)
    case h_2 => exact h
  | take => exact h.take
  | next => exact h.next
  | close => exact { h with
      queue := h.queue.close
      drained := fun hgiven => ⟨rfl, (h.drained hgiven).2⟩ }

/-- It holds after any turns. -/
theorem Sound.run (h : traffic.Sound capacity) (turns : List Turn) :
    (traffic.run turns).Sound capacity := by
  induction turns generalizing traffic with
  | nil => exact h
  | cons turn rest ih => exact ih (h.handle turn)

/-! ### What the next turn does -/

/-- What an attempt does. -/
structure Attempts (capacity : Nat) (traffic : Traffic) : Prop where
  /-- While the queue is full, nothing. -/
  of_full : traffic.queue.isClosed = false → traffic.queue.size = max capacity 1 →
    ∀ task, traffic.handle (.attempt task) = traffic
  /-- While there is room, the packet of the send joins those in the queue,
  with the number of sends accepted before it. -/
  of_room : traffic.queue.isClosed = false → traffic.queue.size < max capacity 1 →
    ∀ sender ∈ traffic.waiting, ∃ queue : Queue,
      queue.entries.Perm
        (⟨sender.priority, traffic.accepted.length, sender.packet⟩ :: traffic.queue.entries) ∧
      traffic.handle (.attempt sender.task) = { traffic with queue }.finish sender .accepted
  /-- Once the queue is closed, the send is refused. -/
  of_closed : traffic.queue.isClosed = true → ∀ sender ∈ traffic.waiting,
    traffic.handle (.attempt sender.task) = traffic.finish sender .refused

/-- What taking a packet does, and asking for one. -/
structure Pops (traffic : Traffic) : Prop where
  /-- While packets wait, either way one gets the next of them, and nothing
  else changes. -/
  of_ne_nil : traffic.queue.entries ≠ [] → ∃ entry, traffic.queue.IsNext entry ∧
    ∀ turn ∈ [Turn.take, Turn.next], traffic.handle turn = { traffic with
      queue := { traffic.queue with entries := traffic.queue.entries.erase entry }
      given := traffic.given ++ [some entry] }
  /-- While none waits, nothing is taken. -/
  take_of_nil : traffic.queue.entries = [] → traffic.handle .take = traffic
  /-- A reader is told that none will follow if the queue is also closed. -/
  next_of_nil : traffic.queue.entries = [] → traffic.handle .next =
    if traffic.queue.isClosed then { traffic with given := traffic.given ++ [none] } else traffic

/-- What the turns do that move no packet: a send begins, is given up, or finds the
queue closed by someone. -/
structure Stays (traffic : Traffic) : Prop where
  /-- A send that begins waits, and all else stays as it was. -/
  come : ∀ sender, sender.task ∉ traffic.came.map Sender.task →
    traffic.handle (.come sender) = { traffic with
      came := traffic.came ++ [sender]
      waiting := traffic.waiting ++ [sender] }
  /-- The number of a task is not used again. -/
  come_again : ∀ sender, sender.task ∈ traffic.came.map Sender.task →
    traffic.handle (.come sender) = traffic
  /-- A send that waits and is given up ends so, and leaves the queue alone. -/
  abandon : ∀ sender ∈ traffic.waiting, traffic.handle (.abandon sender.task) = { traffic with
    waiting := traffic.waiting.erase sender
    ended := traffic.ended ++ [(sender, .abandoned)] }
  /-- What does not wait is not given up. -/
  abandon_none : ∀ task, (∀ sender ∈ traffic.waiting, sender.task ≠ task) →
    traffic.handle (.abandon task) = traffic
  /-- Closing the queue closes it, and does nothing else. -/
  close : traffic.handle .close = { traffic with queue := { traffic.queue with isClosed := true } }

/-- What it means that the queue is closed. -/
structure Closes (traffic : Traffic) : Prop where
  /-- Whatever follows, nothing more is accepted, and what waits comes out
  in its order. -/
  run : traffic.queue.isClosed = true → ∀ later,
    (traffic.run later).accepted = traffic.accepted ∧
    (traffic.run later).popped ++ (traffic.run later).queue.entries =
      traffic.popped ++ traffic.queue.entries
  /-- Readers get everything that waits, and after that they are told that
  nothing follows. -/
  drain : traffic.queue.isClosed = true →
    (traffic.run (List.replicate traffic.queue.size .next ++ [.next])).given =
      traffic.given ++ traffic.queue.entries.map some ++ [none]

theorem Sound.waitingOf_eq (h : traffic.Sound capacity) {sender : Sender}
    (hmem : sender ∈ traffic.waiting) : traffic.waitingOf sender.task = some sender := by
  have hcame : ∀ other ∈ traffic.waiting, other ∈ traffic.came := fun other hother =>
    h.perm_came.mem_iff.mp (List.mem_append_right _ hother)
  cases hfind : traffic.waitingOf sender.task with
  | none => exact absurd (beq_self_eq_true _) (List.find?_eq_none.mp hfind sender hmem)
  | some other =>
    -- Numbers are used once, so the send found by its number is this one.
    rw [List.inj_on_of_nodup_map h.nodup_came (hcame other (mem_of_waitingOf hfind))
      (hcame sender hmem) (task_of_waitingOf hfind)]

theorem Sound.attempts (h : traffic.Sound capacity) : traffic.Attempts capacity where
  of_full hopen hfull task := by
    rw [Traffic.handle]
    split
    case h_2 => rfl
    case h_1 sender _ =>
      rw [← h.capacity_eq] at hfull
      obtain ⟨hclosed, -⟩ | ⟨-, -, hattempt⟩ | ⟨-, hroom, -⟩ := traffic.attempt_cases sender
      · exact absurd hclosed (Bool.eq_false_iff.mp hopen)
      · exact hattempt
      · exact absurd hfull (Nat.ne_of_lt hroom)
  of_room hopen hroom sender hmem := by
    rw [Traffic.handle, h.waitingOf_eq hmem]
    rw [← h.capacity_eq] at hroom
    obtain ⟨hclosed, -⟩ | ⟨-, hfull, -⟩ | ⟨-, -, hattempt⟩ := traffic.attempt_cases sender
    · exact absurd hclosed (Bool.eq_false_iff.mp hopen)
    · exact absurd hroom (Nat.not_lt.mpr hfull)
    · rw [← h.accepted_eq]
      exact ⟨_, Queue.perm_place _ _, hattempt⟩
  of_closed hclosed sender hmem := by
    rw [Traffic.handle, h.waitingOf_eq hmem]
    obtain ⟨-, hattempt⟩ | ⟨hopen, -⟩ | ⟨hopen, -⟩ := traffic.attempt_cases sender
    · exact hattempt
    · exact absurd hclosed (Bool.eq_false_iff.mp hopen)
    · exact absurd hclosed (Bool.eq_false_iff.mp hopen)

theorem Sound.stays (h : traffic.Sound capacity) : traffic.Stays where
  come sender hnew := by rw [Traffic.handle, if_neg hnew]
  come_again sender hused := by rw [Traffic.handle, if_pos hused]
  abandon sender hmem := by
    rw [Traffic.handle, h.waitingOf_eq hmem]
    rfl
  abandon_none task hnone := by
    have hfind : traffic.waitingOf task = none := by
      rw [waitingOf, List.find?_eq_none]
      intro sender hmem htask
      exact hnone sender hmem (eq_of_beq htask)
    rw [Traffic.handle, hfind]
  close := rfl

theorem Sound.pops (h : traffic.Sound capacity) : traffic.Pops where
  of_ne_nil hne := by
    obtain ⟨entry, rest, hentries⟩ := List.exists_cons_of_ne_nil hne
    refine ⟨entry, h.queue.isNext hentries, fun turn hturn => ?_⟩
    have htake : traffic.handle turn = traffic.take := by
      simp only [List.mem_cons, List.not_mem_nil, or_false] at hturn
      obtain rfl | rfl := hturn
      · rfl
      · exact next_of_cons hentries
    rw [htake, take_of_cons hentries, hentries, List.erase_cons_head]
  take_of_nil := Traffic.take_of_nil
  next_of_nil := Traffic.next_of_nil

/-! ### Once the queue is closed -/

/-- A later state, reached while the queue is closed: nothing more was
accepted, and what came out is followed by what still waits. -/
structure DrainsTo (traffic later : Traffic) : Prop where
  isClosed : later.queue.isClosed = true
  accepted_eq : later.accepted = traffic.accepted
  popped_eq : later.popped ++ later.queue.entries = traffic.popped ++ traffic.queue.entries

theorem DrainsTo.trans {traffic later last : Traffic} (h : traffic.DrainsTo later)
    (h' : later.DrainsTo last) : traffic.DrainsTo last where
  isClosed := h'.isClosed
  accepted_eq := h'.accepted_eq.trans h.accepted_eq
  popped_eq := h'.popped_eq.trans h.popped_eq

theorem drainsTo_refl (hclosed : traffic.queue.isClosed = true) : traffic.DrainsTo traffic :=
  ⟨hclosed, rfl, rfl⟩

theorem drainsTo_finish (hclosed : traffic.queue.isClosed = true) (sender : Sender)
    {fate : Fate} (hfate : fate ≠ .accepted) :
    traffic.DrainsTo (traffic.finish sender fate) where
  isClosed := hclosed
  accepted_eq := by rw [accepted_finish, if_neg hfate, List.append_nil]
  popped_eq := rfl

theorem drainsTo_take (hclosed : traffic.queue.isClosed = true) :
    traffic.DrainsTo traffic.take where
  isClosed := by
    unfold take Queue.pop
    cases traffic.queue.entries <;> exact hclosed
  accepted_eq := by
    unfold take Queue.pop
    cases traffic.queue.entries <;> rfl
  popped_eq := traffic.popped_take

theorem drainsTo_next (hclosed : traffic.queue.isClosed = true) :
    traffic.DrainsTo traffic.next := by
  cases hentries : traffic.queue.entries with
  | cons entry rest =>
    rw [next_of_cons hentries]
    exact drainsTo_take hclosed
  | nil =>
    have hpopped := traffic.popped_next
    rw [next_of_nil hentries, if_pos hclosed] at hpopped ⊢
    exact ⟨hclosed, rfl, hpopped⟩

theorem drainsTo_handle (hclosed : traffic.queue.isClosed = true) (turn : Turn) :
    traffic.DrainsTo (traffic.handle turn) := by
  cases turn with
  | come sender =>
    rw [handle]
    split <;> exact ⟨hclosed, rfl, rfl⟩
  | attempt task =>
    rw [handle]
    split
    case h_2 => exact drainsTo_refl hclosed
    case h_1 sender _ =>
      -- Of what may become of an attempt, only the refusal is left.
      obtain ⟨-, hattempt⟩ | ⟨hopen, -⟩ | ⟨hopen, -⟩ := traffic.attempt_cases sender
      · rw [hattempt]
        exact drainsTo_finish hclosed sender (by decide)
      · exact absurd hclosed (Bool.eq_false_iff.mp hopen)
      · exact absurd hclosed (Bool.eq_false_iff.mp hopen)
  | abandon task =>
    rw [handle]
    split
    case h_1 sender _ => exact drainsTo_finish hclosed sender (by decide)
    case h_2 => exact drainsTo_refl hclosed
  | take => exact drainsTo_take hclosed
  | next => exact drainsTo_next hclosed
  | close => exact ⟨rfl, rfl, rfl⟩

theorem drainsTo_run (hclosed : traffic.queue.isClosed = true) (turns : List Turn) :
    traffic.DrainsTo (traffic.run turns) := by
  induction turns generalizing traffic with
  | nil => exact drainsTo_refl hclosed
  | cons turn rest ih =>
    have hturn := drainsTo_handle hclosed turn
    exact hturn.trans (ih hturn.isClosed)

/-- Readers empty a closed queue. -/
theorem given_run_next (hclosed : traffic.queue.isClosed = true) :
    (traffic.run (List.replicate traffic.queue.size .next ++ [.next])).given =
      traffic.given ++ traffic.queue.entries.map some ++ [none] := by
  rw [Queue.size]
  -- Induction over what waits: each reader takes the first of it.
  induction hentries : traffic.queue.entries generalizing traffic with
  | nil =>
    rw [List.length_nil, List.replicate_zero, List.nil_append, run_cons, run_nil, handle,
      next_of_nil hentries, if_pos hclosed, List.map_nil, List.append_nil]
  | cons entry rest ih =>
    have hnext := (next_of_cons hentries).trans (take_of_cons hentries)
    have hrest : traffic.next.queue.entries = rest := by rw [hnext]
    have hgiven : traffic.next.given = traffic.given ++ [some entry] := by rw [hnext]
    rw [List.length_cons, List.replicate_succ, List.cons_append, run_cons, handle,
      ih (drainsTo_next hclosed).isClosed hrest, hgiven, List.map_cons,
      List.append_assoc traffic.given, List.singleton_append]

theorem closes (traffic : Traffic) : traffic.Closes where
  run hclosed later := ⟨(drainsTo_run hclosed later).accepted_eq,
    (drainsTo_run hclosed later).popped_eq⟩
  drain := given_run_next

/-- Whatever turns senders, readers and the one who closes the queue take,
and in whatever order: the queue holds no more packets than it may,
everything accepted came out once or waits once in its place, every send
waits or ended in one way, and the next turn does what it should. -/
theorem run_opened (capacity : Nat) (turns : List Turn) :
    ((opened capacity).run turns).queue.size ≤ max capacity 1 ∧
    ((opened capacity).run turns).Sound capacity ∧
    ((opened capacity).run turns).Attempts capacity ∧
    ((opened capacity).run turns).Pops ∧
    ((opened capacity).run turns).Closes ∧
    ((opened capacity).run turns).Stays := by
  have h := (sound_opened capacity).run turns
  exact ⟨h.capacity_eq ▸ h.queue.size_le, h, h.attempts, h.pops, closes _, h.stays⟩

end Traffic

end SensorGateway.Link
