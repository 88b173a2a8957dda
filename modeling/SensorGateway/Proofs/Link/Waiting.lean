import SensorGateway.Proofs.Link.Traffic

/-!
# `SensorGateway.Proofs.Link.Waiting`: waiting in turns

An outbox decides who of those who wait is served, and when. Each of its
operations is a list of turns: it lets senders attempt and readers ask one
after the other. So what holds of a queue after any turns holds of that of
an outbox after any requests.

* `Explains`: turns so far that led to the same queue, with the same sends
  waiting at it.
* `Explains.serve`: whatever is asked next, turns lead to that as well.
* `exists_turns`, `sound_serveAll`: any number of requests to an outbox at
  which nobody waited.
-/

set_option autoImplicit false

namespace SensorGateway.Link

namespace Outbox

/-! ### Requests -/

/-- What an outbox may be asked for. -/
inductive Request where
  | send (packet : Bytes) (priority : Priority)
  | acknowledge (device : Option Int) (timestamp : Int) (priority : Priority)
  | next
  | close
  | cancel (task : Nat)
  deriving Repr, DecidableEq

/-- What becomes of an outbox that a task asks for something. -/
def serve (outbox : Outbox) (task : Nat) : Request → Outbox
  | .send packet priority => (outbox.send task packet priority).2
  | .acknowledge device timestamp priority =>
    (outbox.acknowledge task device timestamp priority).2
  | .next => (outbox.next task).2
  | .close => outbox.close.2
  | .cancel other => outbox.cancel other

/-- Requests of tasks that are numbered from `first`. -/
def serveAll (outbox : Outbox) (first : Nat) : List Request → Outbox
  | [] => outbox
  | request :: rest => (outbox.serve first request).serveAll (first + 1) rest

/-! ### Turns that explain an outbox -/

/-- The traffic has the queue of the outbox, with its senders waiting, and
no number from `fresh` on was used. -/
structure Explains (capacity fresh : Nat) (traffic : Traffic) (outbox : Outbox) : Prop where
  sound : traffic.Sound capacity
  queue_eq : traffic.queue = outbox.queue
  waiting_eq : traffic.waiting = outbox.senders
  task_lt : ∀ sender ∈ traffic.came, sender.task < fresh

/-- Some turns lead to the outbox. -/
def Reachable (capacity fresh : Nat) (traffic : Traffic) (outbox : Outbox) : Prop :=
  ∃ turns, Explains capacity fresh (traffic.run turns) outbox

variable {capacity fresh : Nat} {traffic : Traffic} {outbox : Outbox}

theorem Explains.reachable (h : Explains capacity fresh traffic outbox) :
    Reachable capacity fresh traffic outbox := ⟨[], h⟩

/-- A turn in front of those that lead to an outbox. -/
theorem Reachable.after {turn : Turn}
    (h : Reachable capacity fresh (traffic.handle turn) outbox) :
    Reachable capacity fresh traffic outbox := by
  obtain ⟨turns, h⟩ := h
  exact ⟨turn :: turns, h⟩

theorem Explains.mono (h : Explains capacity fresh traffic outbox) :
    Explains capacity (fresh + 1) traffic outbox :=
  { h with task_lt := fun sender hmem => Nat.lt_succ_of_lt (h.task_lt sender hmem) }

/-- A reader that is served asks for the next packet. -/
theorem Explains.take (h : Explains capacity fresh traffic outbox) {entry : Queued}
    {rest : List Queued} (hentries : outbox.queue.entries = entry :: rest) (readers : List Nat) :
    Explains capacity fresh (traffic.handle .next)
      { outbox with queue := { outbox.queue with entries := rest }, readers } := by
  have hsound := h.sound.handle .next
  have hentries' : traffic.queue.entries = entry :: rest := h.queue_eq ▸ hentries
  have hnext := (Traffic.next_of_cons hentries').trans (Traffic.take_of_cons hentries')
  rw [Traffic.handle, hnext] at hsound ⊢
  exact ⟨hsound, by rw [h.queue_eq], h.waiting_eq, h.task_lt⟩

/-- A reader asks for the next packet when there is none. -/
theorem Explains.next_of_nil (h : Explains capacity fresh traffic outbox)
    (hentries : outbox.queue.entries = []) :
    Explains capacity fresh (traffic.handle .next) outbox := by
  have hsound := h.sound.handle .next
  rw [Traffic.handle, Traffic.next_of_nil (h.queue_eq ▸ hentries)] at hsound ⊢
  split at hsound
  case isTrue hclosed =>
    rw [if_pos hclosed]
    exact ⟨hsound, h.queue_eq, h.waiting_eq, h.task_lt⟩
  case isFalse hopen =>
    rw [if_neg hopen]
    exact h

/-- A sender that is served attempts again. It waits no longer, unless the
queue was full. -/
theorem Explains.attempt (h : Explains capacity fresh traffic outbox) {sender : Sender}
    (hmem : sender ∈ outbox.senders) {result : Attempt} {queue : Queue}
    (hattempt : outbox.queue.attempt sender.packet sender.priority = (result, queue))
    (hresult : result ≠ .full) :
    Explains capacity fresh (traffic.handle (.attempt sender.task))
      { outbox with queue, senders := outbox.senders.erase sender } := by
  have hsound := h.sound.handle (.attempt sender.task)
  rw [← h.waiting_eq] at hmem ⊢
  rw [Traffic.handle, h.sound.waitingOf_eq hmem] at hsound ⊢
  simp only [Traffic.attempt, h.queue_eq, hattempt] at hsound ⊢
  cases result with
  | accepted => exact ⟨hsound, rfl, rfl, h.task_lt⟩
  | full => exact absurd rfl hresult
  | closed => exact ⟨hsound, rfl, rfl, h.task_lt⟩

/-- A sender comes whose task has the next number. -/
theorem Explains.come {sender : Sender} (h : Explains capacity sender.task traffic outbox) :
    Explains capacity (sender.task + 1) (traffic.handle (.come sender))
      { outbox with senders := outbox.senders ++ [sender] } := by
  have hsound := h.sound.handle (.come sender)
  have hnew : sender.task ∉ traffic.came.map Sender.task := by
    intro hmem
    obtain ⟨other, hother, htask⟩ := List.mem_map.mp hmem
    exact absurd htask (Nat.ne_of_lt (h.task_lt other hother))
  rw [Traffic.handle, if_neg hnew] at hsound ⊢
  refine ⟨hsound, h.queue_eq, by rw [h.waiting_eq], fun other hmem => ?_⟩
  cases List.mem_append.mp hmem with
  | inl hmem => exact Nat.lt_succ_of_lt (h.task_lt other hmem)
  | inr hmem =>
    rw [List.mem_singleton.mp hmem]
    exact Nat.lt_succ_self _

theorem Explains.task_lt_of_mem (h : Explains capacity fresh traffic outbox) {sender : Sender}
    (hmem : sender ∈ outbox.senders) : sender.task < fresh := by
  have hcame := h.sound.perm_came.mem_iff.mp
    (List.mem_append_right _ (h.waiting_eq.symm ▸ hmem))
  exact h.task_lt sender hcame

theorem Explains.notMem_senders {sender : Sender}
    (h : Explains capacity sender.task traffic outbox) : sender ∉ outbox.senders :=
  fun hmem => Nat.lt_irrefl _ (h.task_lt_of_mem hmem)

/-! ### Operations of the outbox -/

/-- Nobody is served unless there are both a packet and a reader. -/
theorem serveReader_cases (outbox : Outbox) :
    (outbox.readers = [] ∨ outbox.queue.entries = []) ∧ outbox.serveReader = ([], outbox) ∨
    ∃ reader readers entry rest, outbox.readers = reader :: readers ∧
      outbox.queue.entries = entry :: rest ∧
      outbox.serveReader = ([(reader, .packet (some entry.packet))],
        { outbox with queue := { outbox.queue with entries := rest }, readers }) := by
  unfold serveReader Queue.pop
  cases outbox.readers with
  | nil => exact .inl ⟨.inl rfl, rfl⟩
  | cons reader readers =>
    cases outbox.queue.entries with
    | nil => exact .inl ⟨.inr rfl, rfl⟩
    | cons entry rest => exact .inr ⟨reader, readers, entry, rest, rfl, rfl, rfl⟩

/-- No sender is served unless there is room. An attempt that would fail is not
made: the sender stays. -/
theorem serveSender_cases (outbox : Outbox) :
    outbox.serveSender = ([], outbox) ∨
    ∃ sender senders, outbox.senders = sender :: senders ∧ outbox.queue.isClosed = false ∧
      outbox.queue.attempt sender.packet sender.priority =
        (.accepted, outbox.queue.accept sender.packet sender.priority) ∧
      outbox.serveSender = ([(sender.task, .accepted)], { outbox with
        queue := outbox.queue.accept sender.packet sender.priority, senders }) := by
  unfold serveSender
  cases outbox.senders with
  | nil => exact .inl rfl
  | cons sender senders =>
    obtain ⟨-, hattempt⟩ | ⟨-, -, hattempt⟩ | ⟨hopen, -, hattempt⟩ :=
      outbox.queue.attempt_cases sender.packet sender.priority
    · exact .inl (by simp only [hattempt])
    · exact .inl (by simp only [hattempt])
    · exact .inr ⟨sender, senders, rfl, hopen, hattempt, by simp only [hattempt]⟩

theorem Explains.serveReader (h : Explains capacity fresh traffic outbox) :
    Reachable capacity fresh traffic outbox.serveReader.2 := by
  obtain ⟨-, hserve⟩ | ⟨reader, readers, entry, rest, -, hentries, hserve⟩ :=
    outbox.serveReader_cases
  · rw [hserve]
    exact h.reachable
  · rw [hserve]
    exact (h.take hentries readers).reachable.after

/-- The first sender, who is served, attempts again. -/
theorem Explains.attempt_first (h : Explains capacity fresh traffic outbox) {sender : Sender}
    {senders : List Sender} (hsenders : outbox.senders = sender :: senders) {queue : Queue}
    (hattempt : outbox.queue.attempt sender.packet sender.priority = (.accepted, queue)) :
    Explains capacity fresh (traffic.handle (.attempt sender.task))
      { outbox with queue, senders } := by
  have hserved := h.attempt (hsenders ▸ List.mem_cons_self) hattempt (by decide)
  rw [hsenders, List.erase_cons_head] at hserved
  exact hserved

theorem Explains.serveSender (h : Explains capacity fresh traffic outbox) :
    Reachable capacity fresh traffic outbox.serveSender.2 := by
  obtain hserve | ⟨sender, senders, hsenders, -, hattempt, hserve⟩ := outbox.serveSender_cases
  · rw [hserve]
    exact h.reachable
  · rw [hserve]
    exact (h.attempt_first hsenders hattempt).reachable.after

/-- A sender that comes, attempts and is done leaves those who waited before. -/
theorem Explains.pass {sender : Sender} (h : Explains capacity sender.task traffic outbox)
    {result : Attempt} {queue : Queue}
    (hattempt : outbox.queue.attempt sender.packet sender.priority = (result, queue))
    (hresult : result ≠ .full) :
    Explains capacity (sender.task + 1)
      ((traffic.handle (.come sender)).handle (.attempt sender.task)) { outbox with queue } := by
  have hmem : sender ∈ outbox.senders ++ [sender] :=
    List.mem_append_right _ List.mem_cons_self
  have hpassed := h.come.attempt hmem hattempt hresult
  rw [List.erase_append_right _ h.notMem_senders, List.erase_cons_head, List.append_nil] at hpassed
  exact hpassed

/-- A task that sends comes and attempts at once. -/
theorem Explains.send (sender : Sender) (h : Explains capacity sender.task traffic outbox) :
    Reachable capacity (sender.task + 1) traffic
      (outbox.send sender.task sender.packet sender.priority).2 := by
  unfold Outbox.send
  obtain ⟨-, hattempt⟩ | ⟨-, -, hattempt⟩ | ⟨-, -, hattempt⟩ :=
    outbox.queue.attempt_cases sender.packet sender.priority
  · have hrefused := h.pass hattempt (by decide)
    rw [hattempt]
    exact hrefused.reachable.after.after
  · rw [hattempt]
    exact h.come.reachable.after
  -- The packet may be what the first reader waits for.
  · have haccepted := h.pass hattempt (by decide)
    rw [hattempt]
    exact haccepted.serveReader.after.after

/-- An acknowledgement is a packet that is sent, or changes nothing at the
queue. -/
theorem Explains.acknowledge (h : Explains capacity fresh traffic outbox) (device : Option Int)
    (timestamp : Int) (priority : Priority) :
    Reachable capacity (fresh + 1) traffic
      (outbox.acknowledge fresh device timestamp priority).2 := by
  have hcounted : Explains capacity fresh traffic
      { outbox with acknowledged := outbox.acknowledged + 1 } := { h with }
  unfold Outbox.acknowledge
  split
  case h_1 => exact hcounted.mono.reachable
  case h_2 =>
    split
    case h_1 packet _ => exact Explains.send ⟨fresh, packet, priority⟩ hcounted
    case h_2 => exact hcounted.mono.reachable

/-- A task that asks for the next packet gets it, or waits. -/
theorem Explains.next (h : Explains capacity fresh traffic outbox) :
    Reachable capacity (fresh + 1) traffic (outbox.next fresh).2 := by
  unfold Outbox.next Queue.pop
  cases hentries : outbox.queue.entries with
  | nil =>
    -- Whether it waits or is told that nothing follows, the queue stays.
    simp only
    split
    · exact h.mono.reachable
    · exact Explains.reachable { h.mono with }
  | cons entry rest => exact (h.mono.take hentries outbox.readers).serveSender.after

/-- Senders that wait at a closed queue are refused when they attempt again, the
first one first. -/
theorem Explains.refuse (h : Explains capacity fresh traffic outbox)
    (hclosed : outbox.queue.isClosed = true) :
    Explains capacity fresh
      (traffic.run (outbox.senders.map fun sender => .attempt sender.task))
      { outbox with senders := [] } := by
  -- Induction over those who wait.
  induction hsenders : outbox.senders generalizing traffic outbox with
  | nil => exact { h with waiting_eq := h.waiting_eq.trans hsenders }
  | cons sender senders ih =>
    have hattempt : outbox.queue.attempt sender.packet sender.priority = (.closed, outbox.queue) :=
      if_pos hclosed
    have hrefused := h.attempt (hsenders ▸ List.mem_cons_self) hattempt (by decide)
    rw [hsenders, List.erase_cons_head] at hrefused
    have hrest := ih hrefused hclosed rfl
    exact hrest

/-- Someone closes the queue, and whoever sends is refused. -/
theorem Explains.close (h : Explains capacity fresh traffic outbox) :
    Explains capacity fresh
      ((traffic.handle .close).run (outbox.senders.map fun sender => .attempt sender.task))
      outbox.close.2 := by
  have hclose : Explains capacity fresh (traffic.handle .close)
      { outbox with queue := outbox.queue.close } :=
    ⟨h.sound.handle .close, by rw [Traffic.handle, h.queue_eq], h.waiting_eq, h.task_lt⟩
  exact { hclose.refuse rfl with }

theorem Explains.nodup_senders (h : Explains capacity fresh traffic outbox) :
    (outbox.senders.map Sender.task).Nodup := by
  have hperm := h.sound.perm_came.map Sender.task
  have hnodup := hperm.nodup_iff.mpr h.sound.nodup_came
  rw [List.map_append, h.waiting_eq] at hnodup
  exact (List.nodup_append.mp hnodup).2.1

/-- The senders without the one of a task are those whose numbers differ. -/
theorem erase_eq_filter {senders : List Sender} (hnodup : (senders.map Sender.task).Nodup)
    {sender : Sender} (hmem : sender ∈ senders) :
    senders.erase sender = senders.filter fun other => other.task != sender.task := by
  rw [(List.Nodup.of_map _ hnodup).erase_eq_filter]
  refine List.filter_congr fun other hother => ?_
  have htask := List.inj_on_of_nodup_map hnodup hother hmem
  rw [Bool.eq_iff_iff, bne_iff_ne, bne_iff_ne]
  exact not_congr ⟨congrArg Sender.task, htask⟩

theorem Explains.cancel (h : Explains capacity fresh traffic outbox) (task : Nat) :
    Explains capacity fresh (traffic.handle (.abandon task)) (outbox.cancel task) := by
  have hsound := h.sound.handle (.abandon task)
  rw [Traffic.handle] at hsound ⊢
  cases hfind : traffic.waitingOf task with
  | none =>
    -- A reader, or nobody who waits: no sender has this number.
    have hnone := List.find?_eq_none.mp hfind
    refine ⟨h.sound, h.queue_eq, ?_, h.task_lt⟩
    rw [Outbox.cancel, ← h.waiting_eq, List.filter_eq_self.mpr]
    intro other hother
    exact bne_iff_ne.mpr fun heq => hnone other hother (beq_iff_eq.mpr heq)
  | some sender =>
    have hmem := Traffic.mem_of_waitingOf hfind
    rw [hfind] at hsound
    refine ⟨hsound, h.queue_eq, ?_, h.task_lt⟩
    rw [h.waiting_eq] at hmem
    rw [Outbox.cancel, ← Traffic.task_of_waitingOf hfind,
      ← erase_eq_filter h.nodup_senders hmem, ← h.waiting_eq]
    rfl

/-! ### Any requests -/

/-- Whatever an outbox is asked for next, turns lead to what becomes of
it. -/
theorem Explains.serve (h : Explains capacity fresh traffic outbox) (request : Request) :
    Reachable capacity (fresh + 1) traffic (outbox.serve fresh request) := by
  cases request with
  | send packet priority => exact Explains.send ⟨fresh, packet, priority⟩ h
  | acknowledge device timestamp priority => exact h.acknowledge device timestamp priority
  | next => exact h.next
  | close => exact ⟨.close :: _, h.mono.close⟩
  | cancel task => exact (h.mono.cancel task).reachable.after

/-- So do turns lead to what becomes of it after any requests. -/
theorem Explains.serveAll (h : Explains capacity fresh traffic outbox)
    (requests : List Request) :
    Reachable capacity (fresh + requests.length) traffic (outbox.serveAll fresh requests) := by
  induction requests generalizing fresh traffic outbox with
  | nil => exact h.reachable
  | cons request rest ih =>
    -- Each request uses up one number, so those of the rest are still new.
    obtain ⟨turns, hserved⟩ := h.serve request
    obtain ⟨later, hrest⟩ := ih hserved
    rw [← Traffic.run_append] at hrest
    rw [List.length_cons, Nat.add_comm rest.length, ← Nat.add_assoc]
    exact ⟨turns ++ later, hrest⟩

/-- An outbox at which nobody waited has, after any requests, a queue that
some turns lead to, and the same senders wait at it. -/
theorem exists_turns (capacity : Nat) (format : WireFormat) (ackType : Option MessageType)
    (requests : List Request) :
    ∃ turns,
      ((Traffic.opened capacity).run turns).queue =
        (serveAll { format, ackType, queue := .ofCapacity capacity } 0 requests).queue ∧
      ((Traffic.opened capacity).run turns).waiting =
        (serveAll { format, ackType, queue := .ofCapacity capacity } 0 requests).senders := by
  have hstart : Explains capacity 0 (Traffic.opened capacity)
      { format, ackType, queue := .ofCapacity capacity } :=
    ⟨Traffic.sound_opened capacity, rfl, rfl, by simp [Traffic.opened]⟩
  obtain ⟨turns, h⟩ := hstart.serveAll requests
  exact ⟨turns, h.queue_eq, h.waiting_eq⟩

/-- Its queue is in order, and holds no more than it may. -/
theorem sound_serveAll (capacity : Nat) (format : WireFormat) (ackType : Option MessageType)
    (requests : List Request) :
    (serveAll { format, ackType, queue := .ofCapacity capacity } 0 requests).queue.Sound ∧
    (serveAll { format, ackType, queue := .ofCapacity capacity } 0 requests).queue.size ≤
      max capacity 1 := by
  obtain ⟨turns, hqueue, -⟩ := exists_turns capacity format ackType requests
  have h := (Traffic.sound_opened capacity).run turns
  have hsize := h.queue.size_le
  rw [h.capacity_eq] at hsize
  rw [← hqueue]
  exact ⟨h.queue, hsize⟩

end Outbox

end SensorGateway.Link
