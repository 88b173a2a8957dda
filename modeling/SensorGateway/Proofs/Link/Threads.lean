import SensorGateway.Proofs.Link.Connections
import SensorGateway.Proofs.Link.Desk
import SensorGateway.Proofs.Link.Waiting

/-!
# `SensorGateway.Proofs.Link.Threads`: the writers at the desk

The thread that writes to the base station does not take packets from the queue
itself. It asks for one as a task of the desk and looks for the outcome now and
then. So a packet may be taken for it by whoever sends one, and lie on the desk
when the thread is told to stop. It gets that packet all the same, and leaves
only when there is none.

* `Shift` is the desk with the threads of all connections, an `Errand` what one
  of them or anyone else does there.
* `Attends` ties what a thread is at to what its writer is at, by what lies on
  the desk. `Mirrors` adds that both did the same so far.
* `Mirrors.send`, `Mirrors.ask`, `Mirrors.learn` and the like: each errand is
  some steps of the link. `exists_steps`: so are any errands.
-/

set_option autoImplicit false

namespace SensorGateway.Link

open Forwarder (Stream StreamError greeting)

/-! ### Threads -/

/-- What the thread of a writer is at. -/
inductive Post where
  /-- It is about to ask for a packet. -/
  | ready
  /-- It asked for one, as this task, and looks for the outcome now and then. -/
  | asking (task : Nat)
  /-- It has a packet, which is still to be written. -/
  | writing (packet : Bytes)
  | ended
  deriving Repr, DecidableEq

/-- What a thread is at when it knows what it got, or that it got nothing. -/
def Post.of : Option Outcome → Post
  | some (.packet (some packet)) => .writing packet
  | _ => .ended

/-- The thread that writes to a connection, and what it wrote so far. -/
structure Clerk where
  stream : Stream := { written := greeting }
  post : Post := .ready
  isTold : Bool := false
  written : List Bytes := []
  lost : List (Bytes × StreamError) := []
  deriving Repr, DecidableEq

/-- What may happen to a thread that writes. -/
inductive Chore where
  | breakOff
  | tell
  /-- It asks for a packet. -/
  | ask
  /-- It looks whether there is one. -/
  | look
  /-- It does not wait any longer, if it is told so. -/
  | leave
  | write
  deriving Repr, DecidableEq

/-- Carries out what happens to a thread that writes. -/
def Clerk.does (clerk : Clerk) (desk : Desk) : Chore → Clerk × Desk
  | .breakOff => ({ clerk with stream := { clerk.stream with writable := false } }, desk)
  | .tell => ({ clerk with isTold := true }, desk)
  | .ask =>
    match clerk.post with
    | .ready =>
      let (task, desk) := desk.start Outbox.next
      ({ clerk with post := .asking task }, desk)
    | _ => (clerk, desk)
  | .look =>
    match clerk.post with
    | .asking task =>
      match desk.pickUp task with
      | (none, desk) => (clerk, desk)
      | (some outcome, desk) => ({ clerk with post := .of (some outcome) }, desk)
    | _ => (clerk, desk)
  | .leave =>
    match clerk.post with
    | .asking task =>
      if clerk.isTold then
        let (outcome, desk) := desk.giveUp task
        ({ clerk with post := .of outcome }, desk)
      else (clerk, desk)
    | _ => (clerk, desk)
  | .write =>
    match clerk.post with
    | .writing packet =>
      match clerk.stream.writePacket packet with
      | (.ok (), stream) =>
        ({ clerk with stream, post := .ready, written := clerk.written ++ [packet] }, desk)
      | (.error error, stream) =>
        ({ clerk with stream, post := .ended, lost := clerk.lost ++ [(packet, error)] }, desk)
    | _ => (clerk, desk)

/-- The desk, and the threads that write to the connections. -/
structure Shift where
  desk : Desk
  /-- Latest one first. -/
  clerks : List Clerk := []

/-- What the threads do. -/
inductive Errand where
  | send (packet : Bytes) (priority : Priority)
  | acknowledge (device : Option Int) (timestamp : Int) (priority : Priority)
  /-- Who sends looks for the outcome. -/
  | pickUp (task : Nat)
  /-- Who sends does not wait any longer. -/
  | giveUp (task : Nat)
  | close
  | connect
  /-- Something happens to the thread that writes to the latest connection. -/
  | chore (chore : Chore)
  deriving Repr, DecidableEq

namespace Shift

/-- What the latest thread is at. -/
def post (shift : Shift) : Post := (shift.clerks.head?.map Clerk.post).getD .ended

/-- Something happens to the latest thread, unless it is over. -/
def chore (shift : Shift) (chore : Chore) : Shift :=
  match shift.clerks with
  | [] => shift
  | clerk :: earlier =>
    if clerk.post = .ended then shift
    else
      { desk := (clerk.does shift.desk chore).2
        clerks := (clerk.does shift.desk chore).1 :: earlier }

/-- Handles an errand. Nobody picks up what another waits for. -/
def handle (shift : Shift) : Errand → Shift
  | .send packet priority => { shift with
      desk := (shift.desk.start fun outbox task => outbox.send task packet priority).2 }
  | .acknowledge device timestamp priority => { shift with
      desk := (shift.desk.start fun outbox task =>
        outbox.acknowledge task device timestamp priority).2 }
  | .pickUp task =>
    if shift.post = .asking task then shift
    else { shift with desk := (shift.desk.pickUp task).2 }
  | .giveUp task =>
    if shift.post = .asking task then shift
    else { shift with desk := (shift.desk.giveUp task).2 }
  | .close => { shift with desk := shift.desk.close }
  | .connect =>
    if ∀ clerk ∈ shift.clerks, clerk.post = .ended then
      { shift with clerks := {} :: shift.clerks }
    else shift
  | .chore chore => shift.chore chore

/-- Handles errands one after the other. -/
def run (shift : Shift) (errands : List Errand) : Shift := errands.foldl handle shift

end Shift

/-! ### Threads and writers -/

/-- A task that asks for packets has its number, which no one who sends has. -/
def Desk.Owns (desk : Desk) (task : Nat) : Prop :=
  task < desk.tasks ∧ ∀ sender ∈ desk.outbox.senders, sender.task ≠ task

/-- How the thread of a writer and the writer go together, by what lies on the
desk. -/
inductive Attends (desk : Desk) : Post → Phase → Prop where
  | ready (hreaders : desk.outbox.readers = []) : Attends desk .ready .waiting
  /-- Nothing is there yet. -/
  | asking {task : Nat} (howns : desk.Owns task) (hholds : desk.Holds task none)
    (hreaders : desk.outbox.readers = [task]) (hopen : desk.outbox.queue.isClosed = false) :
    Attends desk (.asking task) .waiting
  /-- The packet lies on the desk. -/
  | served {task : Nat} {entry : Queued} (howns : desk.Owns task)
    (hholds : desk.Holds task (some (.packet (some entry.packet))))
    (hreaders : desk.outbox.readers = []) : Attends desk (.asking task) (.writing entry)
  /-- Word that no packet will follow lies there. -/
  | dismissed {task : Nat} (howns : desk.Owns task)
    (hholds : desk.Holds task (some (.packet none))) (hreaders : desk.outbox.readers = [])
    (hentries : desk.outbox.queue.entries = []) (hclosed : desk.outbox.queue.isClosed = true) :
    Attends desk (.asking task) .waiting
  | writing {entry : Queued} (hreaders : desk.outbox.readers = []) :
    Attends desk (.writing entry.packet) (.writing entry)
  | ended (hreaders : desk.outbox.readers = []) : Attends desk .ended .ended

/-- What others do at the desk makes no difference to a thread that writes, as
long as it is not served, and its outcome is left where it is. -/
theorem Attends.frame {desk after : Desk} {post : Post} {phase : Phase}
    (h : Attends desk post phase) (hreaders : after.outbox.readers = desk.outbox.readers)
    (hqueue : after.outbox.queue = desk.outbox.queue ∨
      desk.outbox.queue.isClosed = false ∧ after.outbox.queue.isClosed = false)
    (htasks : desk.tasks ≤ after.tasks)
    (hsenders : ∀ sender ∈ after.outbox.senders,
      sender ∈ desk.outbox.senders ∨ desk.tasks ≤ sender.task)
    (hfinished : ∀ task, post = .asking task → desk.Owns task →
      ∀ outcome, (task, outcome) ∈ after.finished ↔ (task, outcome) ∈ desk.finished) :
    Attends after post phase := by
  -- Whoever came since then has a larger number.
  have howns : ∀ {task}, desk.Owns task → after.Owns task := by
    intro task howns
    constructor
    · exact Nat.lt_of_lt_of_le howns.1 htasks
    · intro sender hmem
      cases hsenders sender hmem with
      | inl hmem => exact howns.2 sender hmem
      | inr hle => exact (Nat.ne_of_lt (Nat.lt_of_lt_of_le howns.1 hle)).symm
  have hholds : ∀ {task outcome?}, post = .asking task → desk.Owns task →
      desk.Holds task outcome? → after.Holds task outcome? := by
    intro task outcome? hpost howns hholds outcome
    rw [hfinished task hpost howns outcome]
    exact hholds outcome
  cases h with
  | ready hnone => exact .ready (hreaders.trans hnone)
  | writing hnone => exact .writing (hreaders.trans hnone)
  | ended hnone => exact .ended (hreaders.trans hnone)
  | served hown hheld hnone =>
    exact .served (howns hown) (hholds rfl hown hheld) (hreaders.trans hnone)
  | asking hown hheld hone hopen =>
    have hopen' : after.outbox.queue.isClosed = false := by
      rcases hqueue with hqueue | ⟨-, hopen'⟩
      · rw [hqueue]
        exact hopen
      · exact hopen'
    exact .asking (howns hown) (hholds rfl hown hheld) (hreaders.trans hone) hopen'
  | dismissed hown hheld hnone hentries hclosed =>
    -- Nothing comes into a closed queue.
    rcases hqueue with hqueue | ⟨hopen, -⟩
    · exact .dismissed (howns hown) (hholds rfl hown hheld) (hreaders.trans hnone)
        (hqueue ▸ hentries) (hqueue ▸ hclosed)
    · exact absurd (hclosed.symm.trans hopen) (by decide)

/-- Nobody waits at the queue for a packet but the latest thread. -/
theorem Attends.readers_cases {desk : Desk} {post : Post} {phase : Phase}
    (h : Attends desk post phase) :
    desk.outbox.readers = [] ∨
    ∃ task, post = .asking task ∧ desk.Owns task ∧ desk.outbox.readers = [task] := by
  cases h with
  | ready hnone | served _ _ hnone | dismissed _ _ hnone _ _ | writing hnone | ended hnone =>
    exact .inl hnone
  | asking howns _ hone => exact .inr ⟨_, rfl, howns, hone⟩

/-- What a thread did is what the writer did. -/
structure Records (writer : Writer) (clerk : Clerk) : Prop where
  stream_eq : clerk.stream = writer.stream
  isTold_eq : clerk.isTold = writer.isTold
  written_eq : clerk.written = writer.written.map Queued.packet
  lost_eq : clerk.lost = writer.lost.map fun loss => (loss.1.packet, loss.2)
  ended_iff : clerk.post = .ended ↔ writer.phase = .ended

/-- What the latest writer is at. -/
def Outgoing.phase (outgoing : Outgoing) : Phase :=
  (outgoing.writers.head?.map Writer.phase).getD .ended

/-- The threads do what the writers do. -/
structure Mirrors (capacity : Nat) (outgoing : Outgoing) (shift : Shift) : Prop where
  explains : Outbox.Explains capacity shift.desk.tasks outgoing.traffic shift.desk.outbox
  finished_lt : ∀ entry ∈ shift.desk.finished, entry.1 < shift.desk.tasks
  records : List.Forall₂ Records outgoing.writers shift.clerks
  attends : Attends shift.desk shift.post outgoing.phase

/-- Steps lead to what the threads have done. -/
def Matched (capacity : Nat) (outgoing : Outgoing) (shift : Shift) : Prop :=
  ∃ steps, Mirrors capacity (outgoing.run steps) shift

variable {capacity : Nat} {outgoing : Outgoing} {shift : Shift}

theorem Mirrors.matched (h : Mirrors capacity outgoing shift) :
    Matched capacity outgoing shift := ⟨[], h⟩

/-- A step in front of those that lead there. -/
theorem Matched.after {step : Step} (h : Matched capacity (outgoing.handle step) shift) :
    Matched capacity outgoing shift := by
  obtain ⟨steps, h⟩ := h
  exact ⟨step :: steps, h⟩

/-- In which order outcomes lie on the desk makes no difference. -/
theorem Matched.congr {outbox : Outbox} {tasks : Nat} {finished finished' : Finished}
    {clerks : List Clerk} (h : Matched capacity outgoing ⟨⟨outbox, tasks, finished⟩, clerks⟩)
    (hmem : ∀ entry, entry ∈ finished' ↔ entry ∈ finished) :
    Matched capacity outgoing ⟨⟨outbox, tasks, finished'⟩, clerks⟩ := by
  obtain ⟨steps, h⟩ := h
  exact ⟨steps, h.explains, fun entry hentry => h.finished_lt entry ((hmem entry).mp hentry),
    h.records, h.attends.frame rfl (.inl rfl) (Nat.le_refl _) (fun sender hmem => .inl hmem)
      fun task _ _ outcome => hmem (task, outcome)⟩

/-! ### Those who send -/

section

variable {outbox : Outbox} {tasks : Nat} {finished : Finished} {clerks : List Clerk}

/-- The outcome of a new task is not what another waits for. -/
theorem mem_append_singleton_iff {own task : Nat} (hne : own ≠ task) (outcome other : Outcome) :
    (own, outcome) ∈ finished ++ [(task, other)] ↔ (own, outcome) ∈ finished := by
  simp [hne]

theorem forall_mem_append_singleton (h : ∀ entry ∈ finished, entry.1 < tasks)
    (outcome : Outcome) : ∀ entry ∈ finished ++ [(tasks, outcome)], entry.1 < tasks + 1 :=
  List.forall_mem_append.mpr ⟨fun entry hmem => Nat.lt_succ_of_lt (h entry hmem), by simp⟩

/-- A thread that sends, and is done at once. -/
theorem Mirrors.pass (h : Mirrors capacity outgoing ⟨⟨outbox, tasks, finished⟩, clerks⟩)
    {packet : Bytes} {priority : Priority} {result : Attempt} {queue : Queue}
    (hattempt : outbox.queue.attempt packet priority = (result, queue)) (hresult : result ≠ .full)
    (outcome : Outcome) :
    Mirrors capacity ((outgoing.handle (.use (.come ⟨tasks, packet, priority⟩))).handle
        (.use (.attempt tasks)))
      ⟨⟨{ outbox with queue }, tasks + 1, finished ++ [(tasks, outcome)]⟩, clerks⟩ where
  explains := @Outbox.Explains.pass capacity outgoing.traffic outbox ⟨tasks, packet, priority⟩
    h.explains result queue hattempt hresult
  finished_lt := forall_mem_append_singleton h.finished_lt outcome
  records := h.records
  attends := by
    -- A queue that refuses the packet stays as it is, and one that takes it is open.
    have hqueue : queue = outbox.queue ∨
        outbox.queue.isClosed = false ∧ queue.isClosed = false := by
      obtain ⟨-, heq⟩ | ⟨-, -, heq⟩ | ⟨hopen, -, heq⟩ :=
        outbox.queue.attempt_cases packet priority
      · exact .inl (Prod.mk.inj (hattempt.symm.trans heq)).2
      · exact .inl (Prod.mk.inj (hattempt.symm.trans heq)).2
      · obtain ⟨-, rfl⟩ := Prod.mk.inj (hattempt.symm.trans heq)
        exact .inr ⟨hopen, hopen⟩
    exact h.attends.frame rfl hqueue (Nat.le_succ tasks) (fun sender hmem => .inl hmem)
      fun own _ howns other => mem_append_singleton_iff (Nat.ne_of_lt howns.1) other outcome

/-- A thread that sends, and waits. -/
theorem Mirrors.come (h : Mirrors capacity outgoing ⟨⟨outbox, tasks, finished⟩, clerks⟩)
    (packet : Bytes) (priority : Priority) :
    Mirrors capacity (outgoing.handle (.use (.come ⟨tasks, packet, priority⟩)))
      ⟨⟨{ outbox with senders := outbox.senders ++ [⟨tasks, packet, priority⟩] }, tasks + 1,
        finished⟩, clerks⟩ where
  explains := @Outbox.Explains.come capacity outgoing.traffic outbox ⟨tasks, packet, priority⟩
    h.explains
  finished_lt entry hmem := Nat.lt_succ_of_lt (h.finished_lt entry hmem)
  records := h.records
  attends := by
    have hsenders : ∀ sender ∈ outbox.senders ++ [⟨tasks, packet, priority⟩],
        sender ∈ outbox.senders ∨ tasks ≤ sender.task := by
      intro sender hmem
      cases List.mem_append.mp hmem with
      | inl hmem => exact .inl hmem
      | inr hmem =>
        rw [List.mem_singleton.mp hmem]
        exact .inr (Nat.le_refl tasks)
    exact h.attends.frame rfl (.inl rfl) (Nat.le_succ tasks) hsenders
      fun own _ _ outcome => Iff.rfl

/-- Something happens to the writer of a thread that is not over. -/
theorem Mirrors.act {clerk clerk' : Clerk} {earlier : List Clerk}
    (hrecords : List.Forall₂ Records outgoing.writers (clerk :: earlier))
    (hclerk : clerk.post ≠ .ended) {act : Act} {traffic : Traffic} {desk : Desk}
    (hact : ∀ writer, Records writer clerk → writer.phase = outgoing.phase →
      ∃ writer', writer.act outgoing.traffic act = (writer', traffic) ∧ Records writer' clerk' ∧
        Attends desk clerk'.post writer'.phase)
    (hexplains : Outbox.Explains capacity desk.tasks traffic desk.outbox)
    (hlt : ∀ entry ∈ desk.finished, entry.1 < desk.tasks) :
    Mirrors capacity (outgoing.handle (.act act)) ⟨desk, clerk' :: earlier⟩ := by
  obtain ⟨before, writers⟩ := outgoing
  cases hrecords with
  | @cons writer _ writers _ hrecord hrecords =>
    obtain ⟨writer', hact, hrecord', hattends⟩ := hact writer hrecord rfl
    -- Nothing happens to a writer that is over, but with its thread it is not.
    have hwork : writer.phase ≠ .ended := (not_congr hrecord.ended_iff).mp hclerk
    have hhandle : Outgoing.handle ⟨before, writer :: writers⟩ (.act act) =
        ⟨traffic, writer' :: writers⟩ := by
      simp only at hact
      rw [Outgoing.handle, Outgoing.act]
      simp only [if_neg hwork, hact]
    rw [hhandle]
    exact ⟨hexplains, hlt, .cons hrecord' hrecords, hattends⟩

/-- The writer takes a packet. Its thread need not have it yet. -/
theorem Mirrors.take {clerk : Clerk} {earlier : List Clerk} {desk : Desk}
    (hrecords : List.Forall₂ Records outgoing.writers (clerk :: earlier))
    (hphase : outgoing.phase = .waiting) {entry : Queued} {rest : List Queued}
    (hentries : outgoing.traffic.queue.entries = entry :: rest) {post : Post}
    (hclerk : clerk.post ≠ .ended) (hpost : post ≠ .ended)
    (hexplains : Outbox.Explains capacity desk.tasks (outgoing.traffic.handle .next) desk.outbox)
    (hlt : ∀ entry ∈ desk.finished, entry.1 < desk.tasks)
    (hattends : Attends desk post (.writing entry)) :
    Mirrors capacity (outgoing.handle (.act .take)) ⟨desk, { clerk with post } :: earlier⟩ := by
  apply Mirrors.act hrecords hclerk ?_ hexplains hlt
  intro writer hrecord hwriter
  have hnext : outgoing.traffic.take = outgoing.traffic.handle .next :=
    (Traffic.next_of_cons hentries).symm
  obtain ⟨_, _, hcons, htake⟩ | ⟨hnil, -⟩ | ⟨hnil, -⟩ :=
    Writer.take_cases (hwriter.trans hphase) outgoing.traffic
  · obtain ⟨rfl, rfl⟩ := List.cons.inj (hentries.symm.trans hcons)
    exact ⟨{ writer with phase := .writing entry, taken := writer.taken ++ [entry] },
      hnext ▸ htake, { hrecord with ended_iff := iff_of_false hpost (by nofun) }, hattends⟩
  · -- There is a packet, so the writer neither leaves nor waits.
    cases hnil.symm.trans hentries
  · cases hnil.symm.trans hentries

/-- A packet and a thread that waits for one are brought together. -/
theorem Mirrors.serveReader (h : Mirrors capacity outgoing ⟨⟨outbox, tasks, finished⟩, clerks⟩) :
    Matched capacity outgoing
      ⟨⟨outbox.serveReader.2, tasks, finished ++ outbox.serveReader.1⟩, clerks⟩ := by
  obtain ⟨-, hserve⟩ | ⟨reader, readers, entry, rest, hreaders, hentries, hserve⟩ :=
    outbox.serveReader_cases
  · rw [hserve, List.append_nil]
    exact h.matched
  · have hattends := h.attends
    generalize hpost : Shift.post ⟨⟨outbox, tasks, finished⟩, clerks⟩ = post at hattends
    generalize hphase : outgoing.phase = phase at hattends
    -- Only the latest thread can be the reader.
    cases hattends with
    | ready hnone | served _ _ hnone | dismissed _ _ hnone _ _ | writing hnone | ended hnone =>
      cases hnone.symm.trans hreaders
    | @asking own howns hholds hone =>
      obtain ⟨rfl, rfl⟩ := List.cons.inj (hone.symm.trans hreaders)
      cases clerks with
      | nil => cases hpost
      | cons clerk earlier =>
        have hasking : clerk.post = .asking own := hpost
        have hwork : clerk.post ≠ .ended := by rw [hasking]; nofun
        have hqueue : outgoing.traffic.queue = outbox.queue := h.explains.queue_eq
        have hattends : Attends ⟨{ outbox with
            queue := { outbox.queue with entries := rest }
            readers := [] }, tasks, finished ++ [(own, .packet (some entry.packet))]⟩
            clerk.post (.writing entry) := by
          rw [hasking]
          exact .served howns (hholds.append_singleton _) rfl
        have hlt : ∀ other ∈ finished ++ [(own, .packet (some entry.packet))],
            other.1 < tasks :=
          List.forall_mem_append.mpr ⟨h.finished_lt, by simpa using howns.1⟩
        rw [hserve]
        exact Matched.after (Mirrors.take h.records hphase (hqueue ▸ hentries) hwork hwork
          (h.explains.take hentries []) hlt hattends).matched

/-- Room and a sender that waits for it are brought together. -/
theorem Mirrors.serveSender (h : Mirrors capacity outgoing ⟨⟨outbox, tasks, finished⟩, clerks⟩) :
    Matched capacity outgoing
      ⟨⟨outbox.serveSender.2, tasks, finished ++ outbox.serveSender.1⟩, clerks⟩ := by
  obtain hserve | ⟨sender, senders, hsenders, hopen, hattempt, hserve⟩ :=
    outbox.serveSender_cases
  · rw [hserve, List.append_nil]
    exact h.matched
  · have hmem : sender ∈ outbox.senders := hsenders ▸ List.mem_cons_self
    have hmirrors : Mirrors capacity (outgoing.handle (.use (.attempt sender.task)))
        ⟨⟨{ outbox with
          queue := outbox.queue.accept sender.packet sender.priority
          senders }, tasks, finished ++ [(sender.task, .accepted)]⟩, clerks⟩ := {
      explains := h.explains.attempt_first hsenders hattempt
      finished_lt := List.forall_mem_append.mpr
        ⟨h.finished_lt, by simpa using h.explains.task_lt_of_mem hmem⟩
      records := h.records
      attends := h.attends.frame rfl (.inr ⟨hopen, hopen⟩) (Nat.le_refl tasks)
        (fun other hother => .inl (hsenders ▸ List.mem_cons_of_mem _ hother))
        fun own _ howns other =>
          mem_append_singleton_iff (howns.2 sender hmem).symm other .accepted }
    rw [hserve]
    exact hmirrors.matched.after

/-- A thread that sends: the packet is refused, or waits, or is in the queue, and
may be the one that the thread of the writer waits for. -/
theorem Mirrors.send (h : Mirrors capacity outgoing ⟨⟨outbox, tasks, finished⟩, clerks⟩)
    (packet : Bytes) (priority : Priority) :
    Matched capacity outgoing ⟨(Desk.start ⟨outbox, tasks, finished⟩ fun outbox task =>
      outbox.send task packet priority).2, clerks⟩ := by
  obtain ⟨-, hattempt⟩ | ⟨-, -, hattempt⟩ | ⟨-, -, hattempt⟩ :=
    outbox.queue.attempt_cases packet priority
  · simp only [Desk.start, Outbox.send, hattempt]
    exact (h.pass hattempt (by decide) _).matched.after.after
  · simp only [Desk.start, Outbox.send, hattempt, List.append_nil]
    exact (h.come packet priority).matched.after
  · simp only [Desk.start, Outbox.send, hattempt]
    have haccepted := h.pass hattempt (by decide) .accepted
    apply Matched.congr haccepted.serveReader.after.after
    intro entry
    simp [Outbox.mem_inOrder]

/-- A task that has nothing to do with the queue. -/
theorem Mirrors.answer (h : Mirrors capacity outgoing ⟨⟨outbox, tasks, finished⟩, clerks⟩)
    (outcome : Outcome) :
    Mirrors capacity outgoing
      ⟨⟨outbox, tasks + 1, finished ++ [(tasks, outcome)]⟩, clerks⟩ where
  explains := h.explains.mono
  finished_lt := forall_mem_append_singleton h.finished_lt outcome
  records := h.records
  attends := h.attends.frame rfl (.inl rfl) (Nat.le_succ tasks) (fun _ hmem => .inl hmem)
    fun _ _ howns other => mem_append_singleton_iff (Nat.ne_of_lt howns.1) other outcome

/-- A thread that acknowledges a message: the packet is sent, if there is to be
one. -/
theorem Mirrors.acknowledge (h : Mirrors capacity outgoing ⟨⟨outbox, tasks, finished⟩, clerks⟩)
    (device : Option Int) (timestamp : Int) (priority : Priority) :
    Matched capacity outgoing ⟨(Desk.start ⟨outbox, tasks, finished⟩ fun outbox task =>
      outbox.acknowledge task device timestamp priority).2, clerks⟩ := by
  have hcounted : Mirrors capacity outgoing
      ⟨⟨{ outbox with acknowledged := outbox.acknowledged + 1 }, tasks, finished⟩, clerks⟩ := {
    explains := { h.explains with }
    finished_lt := h.finished_lt
    records := h.records
    attends := h.attends.frame rfl (.inl rfl) (Nat.le_refl tasks) (fun sender hmem => .inl hmem)
      fun own _ _ outcome => Iff.rfl }
  show Matched capacity outgoing
    ⟨⟨(outbox.acknowledge tasks device timestamp priority).2, tasks + 1,
      finished ++ (outbox.acknowledge tasks device timestamp priority).1⟩, clerks⟩
  unfold Outbox.acknowledge
  split
  case h_1 => exact (hcounted.answer .accepted).matched
  case h_2 =>
    split
    case h_1 packet _ => exact hcounted.send packet priority
    case h_2 => exact (hcounted.answer _).matched

end

/-- Another task's outcome is taken away. -/
theorem Mirrors.without (h : Mirrors capacity outgoing shift) {task : Nat}
    (hne : shift.post ≠ .asking task) :
    Mirrors capacity outgoing { shift with desk := shift.desk.without task } where
  explains := h.explains
  finished_lt entry hmem := h.finished_lt entry (List.mem_of_mem_filter hmem)
  records := h.records
  attends := by
    refine h.attends.frame rfl (.inl rfl) (Nat.le_refl _) (fun _ hmem => .inl hmem) ?_
    intro own hpost _ outcome
    have hother : own ≠ task := by
      intro heq
      exact hne (heq ▸ hpost)
    simp [Desk.without, hother]

/-- Another task gives up. -/
theorem Mirrors.cancel (h : Mirrors capacity outgoing shift) {task : Nat}
    (hne : shift.post ≠ .asking task) :
    Mirrors capacity (outgoing.handle (.use (.abandon task)))
      { shift with desk := { shift.desk with outbox := shift.desk.outbox.cancel task } } where
  explains := h.explains.cancel task
  finished_lt := h.finished_lt
  records := h.records
  attends := by
    have hreaders : (shift.desk.outbox.cancel task).readers = shift.desk.outbox.readers := by
      apply List.filter_eq_self.mpr
      intro reader hmem
      apply bne_iff_ne.mpr
      intro heq
      rcases h.attends.readers_cases with hnone | ⟨own, hpost, -, hone⟩
      · rw [hnone] at hmem
        cases hmem
      · rw [hone] at hmem
        exact hne (hpost.trans (by rw [← List.mem_singleton.mp hmem, heq]))
    exact h.attends.frame hreaders (.inl rfl) (Nat.le_refl _)
      (fun _ hmem => .inl (List.mem_of_mem_filter hmem)) fun _ _ _ _ => Iff.rfl

theorem Outgoing.run_uses (outgoing : Outgoing) (uses : List Use) :
    outgoing.run (uses.map .use) =
      { outgoing with traffic := outgoing.traffic.run (uses.map Use.turn) } := by
  induction uses generalizing outgoing with
  | nil => rfl
  | cons use rest ih => exact ih (outgoing.handle (.use use))

/-- The thread that waits for a packet hears that none will follow. -/
theorem Attends.close {desk : Desk} {post : Post} {phase : Phase} (h : Attends desk post phase)
    (hsettled : desk.outbox.Settled) : Attends desk.close post phase := by
  have howns : ∀ {task}, desk.Owns task → desk.close.Owns task :=
    fun howns => ⟨howns.1, fun _ hmem => by cases hmem⟩
  -- Of those who are turned away, no one who sends is the thread that writes.
  have hclosed : ∀ {task}, desk.Owns task → ∀ outcome, (task, outcome) ∈ desk.close.finished ↔
      (task, outcome) ∈ desk.finished ∨ task ∈ desk.outbox.readers ∧ outcome = .packet none := by
    intro task howns outcome
    show (task, outcome) ∈ desk.finished ++ desk.outbox.close.1 ↔ _
    rw [List.mem_append, Outbox.mem_close]
    apply or_congr Iff.rfl
    constructor
    · rintro (⟨sender, hsender, heq⟩ | ⟨reader, hreader, heq⟩)
      · exact absurd (Prod.mk.inj heq).1 (howns.2 sender hsender)
      · obtain ⟨rfl, rfl⟩ := Prod.mk.inj heq
        exact ⟨hreader, rfl⟩
    · rintro ⟨hreader, rfl⟩
      exact .inr ⟨task, hreader, rfl⟩
  have hkept : ∀ {task outcome?}, desk.outbox.readers = [] → desk.Owns task →
      desk.Holds task outcome? → desk.close.Holds task outcome? := by
    intro task outcome? hnone hown hholds outcome
    rw [hclosed hown, hnone, hholds outcome]
    simp
  cases h with
  | ready => exact .ready rfl
  | writing => exact .writing rfl
  | ended => exact .ended rfl
  | served hown hholds hnone => exact .served (howns hown) (hkept hnone hown hholds) rfl
  | dismissed hown hholds hnone hentries =>
    exact .dismissed (howns hown) (hkept hnone hown hholds) rfl hentries rfl
  | @asking task hown hholds hone =>
    have hentries : desk.outbox.queue.entries = [] :=
      hsettled.resolve_left (by rw [hone]; nofun)
    have hheld : desk.close.Holds task (some (.packet none)) := by
      intro outcome
      rw [hclosed hown, hone, hholds outcome]
      simp [eq_comm]
    exact .dismissed (howns hown) hheld rfl hentries rfl

/-- The queue is closed, and everyone who waits is turned away. -/
theorem Mirrors.close (h : Mirrors capacity outgoing shift)
    (hsettled : shift.desk.outbox.Settled) :
    Matched capacity outgoing { shift with desk := shift.desk.close } := by
  have hlt : ∀ entry ∈ shift.desk.outbox.close.1, entry.1 < shift.desk.tasks := by
    intro entry hmem
    rcases Outbox.mem_close.mp hmem with ⟨sender, hsender, rfl⟩ | ⟨reader, hreader, rfl⟩
    · exact h.explains.task_lt_of_mem hsender
    · rcases h.attends.readers_cases with hnone | ⟨own, -, howns, hone⟩
      · cases hnone ▸ hreader
      · rw [hone] at hreader
        rw [List.mem_singleton.mp hreader]
        exact howns.1
  -- After the queue is closed, everyone who waits to send tries once more, and is
  -- turned away.
  refine ⟨(.close :: shift.desk.outbox.senders.map fun sender =>
    .attempt sender.task).map .use, ?_⟩
  rw [Outgoing.run_uses, List.map_cons, List.map_map]
  exact ⟨h.explains.close, List.forall_mem_append.mpr ⟨h.finished_lt, hlt⟩, h.records,
    h.attends.close hsettled⟩

/-! ### Those who write -/

theorem forall₂_repost {writers : List Writer} {clerk : Clerk} {earlier : List Clerk}
    (h : List.Forall₂ Records writers (clerk :: earlier)) {post : Post}
    (hclerk : clerk.post ≠ .ended) (hpost : post ≠ .ended) :
    List.Forall₂ Records writers ({ clerk with post } :: earlier) := by
  cases h with
  | cons hrecord hrecords =>
    have hphase := (not_congr hrecord.ended_iff).mp hclerk
    exact .cons { hrecord with ended_iff := iff_of_false hpost hphase } hrecords

section

variable {desk : Desk} {clerk : Clerk} {earlier : List Clerk}

/-- What the latest writer is at while its thread is at this. -/
theorem Mirrors.exists_attends (h : Mirrors capacity outgoing ⟨desk, clerk :: earlier⟩)
    {post : Post} (hpost : clerk.post = post) :
    ∃ phase, outgoing.phase = phase ∧ Attends desk post phase :=
  ⟨outgoing.phase, rfl, hpost ▸ h.attends⟩

/-- A thread asks for a packet. It is there, or it is clear that none will
follow, or the thread waits. -/
theorem Mirrors.ask (h : Mirrors capacity outgoing ⟨desk, clerk :: earlier⟩)
    (hready : clerk.post = .ready) :
    Matched capacity outgoing ⟨(desk.start Outbox.next).2,
      { clerk with post := .asking desk.tasks } :: earlier⟩ := by
  obtain ⟨outbox, tasks, finished⟩ := desk
  -- The number of the question is new.
  have hnew : Desk.Holds ⟨outbox, tasks, finished⟩ tasks none := by
    intro outcome
    constructor
    · intro hmem
      exact absurd (h.finished_lt _ hmem) (Nat.lt_irrefl tasks)
    · intro hsome
      cases hsome
  have hsenders : ∀ sender ∈ outbox.senders, sender.task ≠ tasks := by
    intro sender hmem
    exact Nat.ne_of_lt (h.explains.task_lt_of_mem hmem)
  have hwork : clerk.post ≠ .ended := by rw [hready]; nofun
  have hrecords : List.Forall₂ Records outgoing.writers
      ({ clerk with post := .asking tasks } :: earlier) :=
    forall₂_repost h.records hwork (by nofun)
  obtain ⟨phase, hphase, hattends⟩ := h.exists_attends hready
  cases hattends with
  | ready hreaders =>
    cases hentries : outbox.queue.entries with
    | cons entry rest =>
      have hqueue : outgoing.traffic.queue = outbox.queue := h.explains.queue_eq
      have htaken : Mirrors capacity (outgoing.handle (.act .take))
          ⟨⟨{ outbox with queue := { outbox.queue with entries := rest } }, tasks + 1,
            finished ++ [(tasks, .packet (some entry.packet))]⟩,
            { clerk with post := .asking tasks } :: earlier⟩ :=
        Mirrors.take h.records hphase (hqueue ▸ hentries) hwork (by nofun)
          (h.explains.mono.take hentries outbox.readers)
          (forall_mem_append_singleton h.finished_lt _)
          (.served ⟨Nat.lt_succ_self tasks, hsenders⟩ (hnew.append_singleton _) hreaders)
      simp only [Desk.start, Outbox.next, Queue.pop, hentries]
      -- The packet made room for one that waits.
      apply Matched.congr htaken.serveSender.after
      intro other
      simp [Outbox.mem_inOrder]
    | nil =>
      simp only [Desk.start, Outbox.next, Queue.pop, hentries]
      by_cases hclosed : outbox.queue.isClosed = true
      · -- The writer hears of it when the thread does, so it has not asked yet.
        rw [if_pos hclosed]
        have hmirrors : Mirrors capacity outgoing
            ⟨⟨outbox, tasks + 1, finished ++ [(tasks, .packet none)]⟩,
              { clerk with post := .asking tasks } :: earlier⟩ := {
          explains := h.explains.mono
          finished_lt := forall_mem_append_singleton h.finished_lt _
          records := hrecords
          attends := by
            rw [hphase]
            exact .dismissed ⟨Nat.lt_succ_self tasks, hsenders⟩ (hnew.append_singleton _) hreaders
              hentries hclosed }
        exact hmirrors.matched
      · rw [if_neg hclosed, List.append_nil]
        have hmirrors : Mirrors capacity outgoing
            ⟨⟨{ outbox with readers := outbox.readers ++ [tasks] }, tasks + 1, finished⟩,
              { clerk with post := .asking tasks } :: earlier⟩ := {
          explains := { h.explains.mono with }
          finished_lt := fun entry hmem => Nat.lt_succ_of_lt (h.finished_lt entry hmem)
          records := hrecords
          attends := by
            have hone : outbox.readers ++ [tasks] = [tasks] := by
              rw [show outbox.readers = [] from hreaders, List.nil_append]
            rw [hphase]
            exact .asking ⟨Nat.lt_succ_self tasks, hsenders⟩ hnew hone
              (Bool.eq_false_iff.mpr hclosed) }
        exact hmirrors.matched

/-- A thread learns the outcome of its question. -/
theorem Mirrors.learn (h : Mirrors capacity outgoing ⟨desk, clerk :: earlier⟩) {task : Nat}
    (hasking : clerk.post = .asking task) {outcome : Outcome}
    (hlookup : desk.finished.lookup task = some outcome) :
    Matched capacity outgoing
      ⟨desk.without task, { clerk with post := .of (some outcome) } :: earlier⟩ := by
  have hwork : clerk.post ≠ .ended := by rw [hasking]; nofun
  have hlt : ∀ entry ∈ (desk.without task).finished, entry.1 < desk.tasks :=
    fun entry hmem => h.finished_lt entry (List.mem_of_mem_filter hmem)
  obtain ⟨phase, hphase, hattends⟩ := h.exists_attends hasking
  cases hattends with
  | asking _ hholds => cases hholds.lookup_eq.symm.trans hlookup
  | @served _ entry _ hholds hreaders =>
    -- The writer took the packet when it was put on the desk.
    obtain rfl := Option.some.inj (hholds.lookup_eq.symm.trans hlookup)
    have hmirrors : Mirrors capacity outgoing
        ⟨desk.without task, { clerk with post := .writing entry.packet } :: earlier⟩ := {
      explains := h.explains
      finished_lt := hlt
      records := forall₂_repost h.records hwork (by nofun)
      attends := by
        rw [hphase]
        exact .writing hreaders }
    exact hmirrors.matched
  | dismissed _ hholds hreaders hentries hclosed =>
    obtain rfl := Option.some.inj (hholds.lookup_eq.symm.trans hlookup)
    have hqueue : outgoing.traffic.queue = desk.outbox.queue := h.explains.queue_eq
    have hmirrors : Mirrors capacity (outgoing.handle (.act .take))
        ⟨desk.without task, { clerk with post := .ended } :: earlier⟩ := by
      refine Mirrors.act h.records hwork ?_ (h.explains.next_of_nil hentries) hlt
      intro writer hrecord hwriter
      rw [← hqueue] at hentries hclosed
      have htake : writer.take outgoing.traffic =
          ({ writer with phase := .ended }, outgoing.traffic.next) := by
        rcases Writer.take_cases (hwriter.trans hphase) outgoing.traffic with
          ⟨_, _, hcons, -⟩ | ⟨-, -, htake⟩ | ⟨-, hopen, -⟩
        · cases hentries.symm.trans hcons
        · exact htake
        · cases hclosed.symm.trans hopen
      exact ⟨{ writer with phase := .ended }, htake, { hrecord with ended_iff := by simp },
        .ended hreaders⟩
    exact hmirrors.matched.after

/-- A thread that was told to stop does not wait any longer. -/
theorem Mirrors.leave (h : Mirrors capacity outgoing ⟨desk, clerk :: earlier⟩) {task : Nat}
    (hasking : clerk.post = .asking task) (htold : clerk.isTold = true)
    (hlookup : desk.finished.lookup task = none) :
    Matched capacity outgoing ⟨{ desk with outbox := desk.outbox.cancel task },
      { clerk with post := .ended } :: earlier⟩ := by
  have hwork : clerk.post ≠ .ended := by rw [hasking]; nofun
  obtain ⟨phase, hphase, hattends⟩ := h.exists_attends hasking
  cases hattends with
  -- What lies on the desk is not left there.
  | served _ hholds => cases hholds.lookup_eq.symm.trans hlookup
  | dismissed _ hholds => cases hholds.lookup_eq.symm.trans hlookup
  | asking _ _ hreaders =>
    have hnobody : (desk.outbox.cancel task).readers = [] := by
      rw [Outbox.cancel, hreaders]
      simp
    have hmirrors : Mirrors capacity
        ((outgoing.handle (.use (.abandon task))).handle (.act .stop))
        ⟨{ desk with outbox := desk.outbox.cancel task },
          { clerk with post := .ended } :: earlier⟩ := by
      refine @Mirrors.act capacity (outgoing.handle (.use (.abandon task))) clerk _ earlier
        h.records hwork .stop _ { desk with outbox := desk.outbox.cancel task }
        ?_ (h.explains.cancel task) h.finished_lt
      intro writer hrecord hwriter
      have hstop : writer.stop = { writer with phase := .ended } :=
        if_pos ⟨hwriter.trans hphase, hrecord.isTold_eq ▸ htold⟩
      exact ⟨{ writer with phase := .ended }, by rw [Writer.act, hstop]; rfl,
        { hrecord with ended_iff := by simp }, .ended hnobody⟩
    exact hmirrors.matched.after.after

/-- A thread writes the packet that it has, and knows what became of it. -/
theorem Mirrors.write (h : Mirrors capacity outgoing ⟨desk, clerk :: earlier⟩) {packet : Bytes}
    (hwriting : clerk.post = .writing packet) :
    Matched capacity outgoing ⟨desk, (clerk.does desk .write).1 :: earlier⟩ := by
  have hwork : clerk.post ≠ .ended := by rw [hwriting]; nofun
  obtain ⟨phase, hphase, hattends⟩ := h.exists_attends hwriting
  cases hattends with
  | @writing entry hreaders =>
    have hmirrors : Mirrors capacity (outgoing.handle (.act .write))
        ⟨desk, (clerk.does desk .write).1 :: earlier⟩ := by
      apply Mirrors.act h.records hwork ?_ h.explains h.finished_lt
      intro writer hrecord hwriter
      refine ⟨writer.write, rfl, ?_⟩
      simp only [Clerk.does, hwriting, Writer.write, hwriter.trans hphase, hrecord.stream_eq]
      obtain ⟨frame, -, hwrite⟩ | ⟨error, hwrite⟩ :=
        writePacket_cases writer.stream entry.packet
      · rw [hwrite]
        exact ⟨⟨rfl, hrecord.isTold_eq, by simp [hrecord.written_eq], hrecord.lost_eq, by simp⟩,
          .ready hreaders⟩
      · rw [hwrite]
        exact ⟨⟨rfl, hrecord.isTold_eq, hrecord.written_eq, by simp [hrecord.lost_eq], by simp⟩,
          .ended hreaders⟩
    exact hmirrors.matched.after

/-- Whatever happens to a thread that writes, steps of its writer lead to that
as well. -/
theorem Mirrors.does (h : Mirrors capacity outgoing ⟨desk, clerk :: earlier⟩)
    (hwork : clerk.post ≠ .ended) (chore : Chore) :
    Matched capacity outgoing
      ⟨(clerk.does desk chore).2, (clerk.does desk chore).1 :: earlier⟩ := by
  -- The first two chores concern the thread alone. Every other one belongs to one
  -- post, and does nothing at the others.
  cases chore with
  | breakOff =>
    have hmirrors : Mirrors capacity (outgoing.handle (.act .breakOff))
        ⟨desk, (clerk.does desk .breakOff).1 :: earlier⟩ := by
      apply Mirrors.act h.records hwork ?_ h.explains h.finished_lt
      intro writer hrecord hwriter
      exact ⟨writer.breakOff, rfl,
        { hrecord with stream_eq := by rw [Clerk.does, hrecord.stream_eq]; rfl },
        hwriter ▸ h.attends⟩
    exact hmirrors.matched.after
  | tell =>
    have hmirrors : Mirrors capacity (outgoing.handle (.act .tell))
        ⟨desk, (clerk.does desk .tell).1 :: earlier⟩ := by
      apply Mirrors.act h.records hwork ?_ h.explains h.finished_lt
      intro writer hrecord hwriter
      exact ⟨writer.tell, rfl, { hrecord with isTold_eq := rfl }, hwriter ▸ h.attends⟩
    exact hmirrors.matched.after
  | ask =>
    cases hpost : clerk.post with
    | ready =>
      simp only [Clerk.does, hpost]
      exact h.ask hpost
    | asking _ | writing _ | ended =>
      simp only [Clerk.does, hpost]
      exact h.matched
  | look =>
    cases hpost : clerk.post with
    | asking task =>
      obtain ⟨-, hpick⟩ | ⟨outcome, hlookup, hpick⟩ := desk.pickUp_cases task
      · simp only [Clerk.does, hpost, hpick]
        exact h.matched
      · simp only [Clerk.does, hpost, hpick]
        exact h.learn hpost hlookup
    | ready | writing _ | ended =>
      simp only [Clerk.does, hpost]
      exact h.matched
  | leave =>
    cases hpost : clerk.post with
    | asking task =>
      by_cases htold : clerk.isTold = true
      · obtain ⟨hlookup, hgive⟩ | ⟨outcome, hlookup, hgive⟩ := desk.giveUp_cases task
        · simp only [Clerk.does, hpost, if_pos htold, hgive]
          exact h.leave hpost htold hlookup
        · simp only [Clerk.does, hpost, if_pos htold, hgive]
          exact h.learn hpost hlookup
      · simp only [Clerk.does, hpost, if_neg htold]
        exact h.matched
    | ready | writing _ | ended =>
      simp only [Clerk.does, hpost]
      exact h.matched
  | write =>
    cases hpost : clerk.post with
    | writing packet =>
      have hdesk : (clerk.does desk .write).2 = desk := by
        simp only [Clerk.does, hpost]
        split <;> rfl
      rw [hdesk]
      exact h.write hpost
    | ready | asking _ | ended =>
      simp only [Clerk.does, hpost]
      exact h.matched

end

/-! ### Any errands -/

theorem isIdle_of_forall₂ {writers : List Writer} {clerks : List Clerk}
    (h : List.Forall₂ Records writers clerks) (hended : ∀ clerk ∈ clerks, clerk.post = .ended) :
    ∀ writer ∈ writers, writer.phase = .ended := by
  induction h with
  | nil => nofun
  | cons hrecord _ ih =>
    intro writer hmem
    cases hmem with
    | head => exact hrecord.ended_iff.mp (hended _ List.mem_cons_self)
    | tail _ hmem =>
      exact ih (fun clerk hclerk => hended clerk (List.mem_cons_of_mem _ hclerk)) writer hmem

/-- The next connection comes up when the thread of the last one is over. -/
theorem Mirrors.connect (h : Mirrors capacity outgoing shift) :
    Matched capacity outgoing (shift.handle .connect) := by
  rw [Shift.handle]
  split
  case isFalse => exact h.matched
  case isTrue hended =>
    have hidle : outgoing.IsIdle := isIdle_of_forall₂ h.records hended
    have hpost : shift.post = .ended := by
      obtain ⟨desk, clerks⟩ := shift
      cases clerks with
      | nil => rfl
      | cons clerk earlier => exact hended clerk List.mem_cons_self
    have hreaders : shift.desk.outbox.readers = [] := by
      obtain hnone | ⟨task, hasking, -⟩ := h.attends.readers_cases
      · exact hnone
      · cases hpost.symm.trans hasking
    have hmirrors : Mirrors capacity (outgoing.handle .connect)
        { shift with clerks := {} :: shift.clerks } := by
      rw [Outgoing.handle, Outgoing.connect, if_pos hidle]
      exact ⟨h.explains, h.finished_lt, .cons ⟨rfl, rfl, rfl, rfl, by decide⟩ h.records,
        .ready hreaders⟩
    exact hmirrors.matched.after

/-- Whatever the threads do next, steps lead to that as well. -/
theorem Mirrors.handle (h : Mirrors capacity outgoing shift) (hsettled : shift.desk.outbox.Settled)
    (errand : Errand) : Matched capacity outgoing (shift.handle errand) := by
  cases errand with
  | send packet priority => exact h.send packet priority
  | acknowledge device timestamp priority => exact h.acknowledge device timestamp priority
  | close => exact h.close hsettled
  | connect => exact h.connect
  | pickUp task =>
    rw [Shift.handle]
    split
    -- What is kept for the thread that writes is not for others to pick up.
    case isTrue => exact h.matched
    case isFalse hne =>
      obtain ⟨-, hpick⟩ | ⟨outcome, -, hpick⟩ := shift.desk.pickUp_cases task
      · rw [hpick]
        exact h.matched
      · rw [hpick]
        exact (h.without hne).matched
  | giveUp task =>
    rw [Shift.handle]
    split
    case isTrue => exact h.matched
    case isFalse hne =>
      obtain ⟨-, hgive⟩ | ⟨outcome, -, hgive⟩ := shift.desk.giveUp_cases task
      · rw [hgive]
        exact (h.cancel hne).matched.after
      · rw [hgive]
        exact (h.without hne).matched
  | chore chore =>
    obtain ⟨desk, clerks⟩ := shift
    show Matched capacity outgoing (Shift.chore ⟨desk, clerks⟩ chore)
    unfold Shift.chore
    cases clerks with
    | nil => exact h.matched
    | cons clerk earlier =>
      by_cases hended : clerk.post = .ended
      · simp only [if_pos hended]
        exact h.matched
      · simp only [if_neg hended]
        exact h.does hended chore

theorem settled_does {desk : Desk} (h : desk.outbox.Settled) (clerk : Clerk) (chore : Chore) :
    (clerk.does desk chore).2.outbox.Settled := by
  cases chore with
  | breakOff => exact h
  | tell => exact h
  | ask =>
    cases hpost : clerk.post with
    | ready =>
      simp only [Clerk.does, hpost]
      exact h.next desk.tasks
    | asking _ | writing _ | ended =>
      simp only [Clerk.does, hpost]
      exact h
  | look =>
    cases hpost : clerk.post with
    | asking task =>
      have hpick := Desk.settled_pickUp h task
      simp only [Clerk.does, hpost]
      cases hresult : desk.pickUp task with
      | mk outcome? after =>
        rw [hresult] at hpick
        cases outcome? <;> exact hpick
    | ready | writing _ | ended =>
      simp only [Clerk.does, hpost]
      exact h
  | leave =>
    cases hpost : clerk.post with
    | asking task =>
      have hgive := Desk.settled_giveUp h task
      simp only [Clerk.does, hpost]
      split
      · exact hgive
      · exact h
    | ready | writing _ | ended =>
      simp only [Clerk.does, hpost]
      exact h
  | write =>
    simp only [Clerk.does]
    split
    · split <;> exact h
    · exact h

/-- What was settled is so again after every errand. -/
theorem settled_handle (h : shift.desk.outbox.Settled) (errand : Errand) :
    (shift.handle errand).desk.outbox.Settled := by
  cases errand with
  | send packet priority => exact h.send shift.desk.tasks packet priority
  | acknowledge device timestamp priority =>
    exact h.acknowledge shift.desk.tasks device timestamp priority
  | close => exact .inl rfl
  | connect =>
    rw [Shift.handle]
    split <;> exact h
  | pickUp task =>
    rw [Shift.handle]
    split
    · exact h
    · exact Desk.settled_pickUp h task
  | giveUp task =>
    rw [Shift.handle]
    split
    · exact h
    · exact Desk.settled_giveUp h task
  | chore chore =>
    show (shift.chore chore).desk.outbox.Settled
    unfold Shift.chore
    split
    · exact h
    · split
      · exact h
      · exact settled_does h _ chore

/-- So do steps lead to what becomes of any errands. -/
theorem Mirrors.run (h : Mirrors capacity outgoing shift) (hsettled : shift.desk.outbox.Settled)
    (errands : List Errand) : Matched capacity outgoing (shift.run errands) := by
  induction errands generalizing outgoing shift with
  | nil => exact h.matched
  | cons errand rest ih =>
    obtain ⟨steps, hhandled⟩ := h.handle hsettled errand
    obtain ⟨later, hrest⟩ := ih hhandled (settled_handle hsettled errand)
    rw [← Outgoing.run_append] at hrest
    exact ⟨steps ++ later, hrest⟩

/-- Whatever is done at the desk of a link, and in whatever order: some steps of
the link lead to the same queue with the same sends waiting, and on every
connection the thread wrote and lost the packets that the writer did. -/
theorem exists_steps (capacity : Nat) (format : WireFormat) (ackType : Option MessageType)
    (errands : List Errand) :
    ∃ steps, Mirrors capacity ((Outgoing.opened capacity).run steps)
      (Shift.run { desk := { outbox := { format, ackType, queue := .ofCapacity capacity } } }
        errands) := by
  have hstart : Mirrors capacity (Outgoing.opened capacity)
      { desk := { outbox := { format, ackType, queue := .ofCapacity capacity } } } := {
    explains := ⟨Traffic.sound_opened capacity, rfl, rfl, by simp [Outgoing.opened, Traffic.opened]⟩
    finished_lt := by simp
    records := .nil
    attends := .ended rfl }
  exact hstart.run (.inl rfl) errands

end SensorGateway.Link
