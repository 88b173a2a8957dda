import SensorGateway.Link.Desk
import SensorGateway.Proofs.Link.Waiting

/-!
# `SensorGateway.Proofs.Link.Desk`: outcomes on the desk

An outcome lies on the desk until its task picks it up or gives up. A task that
gives up takes an outcome that is there, so nothing that was meant for it is
lost.

* `Holds` says which outcome of a task lies there, `pickUp_cases` and
  `giveUp_cases` what a task gets.
* `Settled`: nobody waits at the queue for a packet while there is one.
  `Settled.send`, `Settled.next` and the like: that stays so.
-/

set_option autoImplicit false

namespace SensorGateway.Link

/-! ### What lies on the desk -/

namespace Desk

/-- This is the outcome of a task that lies on the desk, if any does. -/
def Holds (desk : Desk) (task : Nat) (outcome? : Option Outcome) : Prop :=
  ∀ outcome, (task, outcome) ∈ desk.finished ↔ outcome? = some outcome

variable {desk : Desk} {task : Nat} {outcome? : Option Outcome}

theorem Holds.lookup_eq (h : desk.Holds task outcome?) :
    desk.finished.lookup task = outcome? := by
  cases hlookup : desk.finished.lookup task with
  | some outcome =>
    obtain ⟨before, after, hfinished, -⟩ := List.lookup_eq_some_iff.mp hlookup
    have hmem : (task, outcome) ∈ desk.finished :=
      hfinished ▸ List.mem_append_right _ List.mem_cons_self
    exact ((h outcome).mp hmem).symm
  | none =>
    cases outcome? with
    | none => rfl
    | some outcome =>
      have hne := List.lookup_eq_none_iff.mp hlookup _ ((h outcome).mpr rfl)
      simp at hne

/-- The outcome of a task that had none. -/
theorem Holds.append_singleton {outbox : Outbox} {tasks : Nat} {finished : Finished}
    (h : Holds ⟨outbox, tasks, finished⟩ task none) (outcome : Outcome) :
    ∀ other, (task, other) ∈ finished ++ [(task, outcome)] ↔ some outcome = some other := by
  intro other
  have hnone : (task, other) ∉ finished := fun hmem => nomatch (h other).mp hmem
  simp [hnone, eq_comm]

/-- The desk when the outcome of a task was taken away. -/
def without (desk : Desk) (task : Nat) : Desk :=
  { desk with finished := desk.finished.filter fun entry => entry.1 != task }

/-- Who looks for an outcome finds it, or finds nothing. -/
theorem pickUp_cases (desk : Desk) (task : Nat) :
    desk.finished.lookup task = none ∧ desk.pickUp task = (none, desk) ∨
    ∃ outcome, desk.finished.lookup task = some outcome ∧
      desk.pickUp task = (some outcome, desk.without task) := by
  unfold pickUp
  cases desk.finished.lookup task with
  | none => exact .inl ⟨rfl, rfl⟩
  | some outcome => exact .inr ⟨outcome, rfl, rfl⟩

/-- Who does not want to wait any longer takes what is there. -/
theorem giveUp_cases (desk : Desk) (task : Nat) :
    desk.finished.lookup task = none ∧
      desk.giveUp task = (none, { desk with outbox := desk.outbox.cancel task }) ∨
    ∃ outcome, desk.finished.lookup task = some outcome ∧
      desk.giveUp task = (some outcome, desk.without task) := by
  unfold giveUp
  obtain ⟨hlookup, hpick⟩ | ⟨outcome, hlookup, hpick⟩ := desk.pickUp_cases task
  · exact .inl ⟨hlookup, by rw [hpick]⟩
  · exact .inr ⟨outcome, hlookup, by rw [hpick]⟩

end Desk

/-- Sorting outcomes by their tasks leaves them as they are. -/
theorem Outbox.mem_inOrder {entry : Nat × Outcome} {finished : Finished} :
    entry ∈ Outbox.inOrder finished ↔ entry ∈ finished :=
  (List.mergeSort_perm _ _).mem_iff

/-- Who is turned away when the queue is closed. -/
theorem Outbox.mem_close {outbox : Outbox} {entry : Nat × Outcome} :
    entry ∈ outbox.close.1 ↔
      (∃ sender ∈ outbox.senders, (sender.task, .failed .closed) = entry) ∨
      ∃ reader ∈ outbox.readers, (reader, .packet none) = entry := by
  simp only [Outbox.close, Outbox.mem_inOrder, List.mem_append, List.mem_map]

/-! ### Who waits at the queue -/

namespace Outbox

/-- Nobody waits for a packet while there is one. -/
def Settled (outbox : Outbox) : Prop := outbox.readers = [] ∨ outbox.queue.entries = []

variable {outbox : Outbox}

/-- A single packet goes to the first who waits. -/
theorem settled_serveReader (h : outbox.readers = [] ∨ outbox.queue.entries.length ≤ 1) :
    outbox.serveReader.2.Settled := by
  obtain ⟨hnobody, hserve⟩ | ⟨reader, readers, entry, rest, hreaders, hentries, hserve⟩ :=
    outbox.serveReader_cases
  · rw [hserve]
    exact hnobody
  · rw [hreaders, hentries, List.length_cons] at h
    have hrest : rest = [] := by
      have hle : rest.length + 1 ≤ 1 := h.resolve_left (List.cons_ne_nil reader readers)
      exact List.length_eq_zero_iff.mp (Nat.le_zero.mp (Nat.le_of_succ_le_succ hle))
    rw [hserve]
    exact .inr hrest

theorem Settled.send (h : outbox.Settled) (task : Nat) (packet : Bytes) (priority : Priority) :
    (outbox.send task packet priority).2.Settled := by
  unfold Outbox.send
  obtain ⟨-, hattempt⟩ | ⟨-, -, hattempt⟩ | ⟨-, -, hattempt⟩ :=
    outbox.queue.attempt_cases packet priority
  · rw [hattempt]
    exact h
  · rw [hattempt]
    exact h
  · rw [hattempt]
    -- If someone waited there was no packet, so this is the only one.
    refine settled_serveReader (h.imp id ?_)
    intro hentries
    show (Queue.place (outbox.queue.ticket packet priority) outbox.queue.entries).length ≤ 1
    rw [hentries]
    exact Nat.le_refl 1

theorem Settled.acknowledge (h : outbox.Settled) (task : Nat) (device : Option Int)
    (timestamp : Int) (priority : Priority) :
    (outbox.acknowledge task device timestamp priority).2.Settled := by
  have hcounted : Settled { outbox with acknowledged := outbox.acknowledged + 1 } := h
  unfold Outbox.acknowledge
  split
  case h_1 => exact hcounted
  case h_2 =>
    split
    case h_1 packet _ => exact hcounted.send task packet priority
    case h_2 => exact hcounted

theorem readers_serveSender (outbox : Outbox) :
    outbox.serveSender.2.readers = outbox.readers := by
  obtain hserve | ⟨_, _, -, -, -, hserve⟩ := outbox.serveSender_cases <;> rw [hserve]

theorem Settled.next (h : outbox.Settled) (task : Nat) : (outbox.next task).2.Settled := by
  unfold Outbox.next Queue.pop
  cases hentries : outbox.queue.entries with
  | nil =>
    simp only
    split
    · exact h
    · exact .inr hentries
  | cons entry rest =>
    have hreaders : outbox.readers = [] := h.resolve_right (by rw [hentries]; nofun)
    exact .inl ((readers_serveSender _).trans hreaders)

theorem Settled.cancel (h : outbox.Settled) (task : Nat) : (outbox.cancel task).Settled := by
  cases h with
  | inl hreaders => exact .inl (by rw [Outbox.cancel, hreaders, List.filter_nil])
  | inr hentries => exact .inr hentries

end Outbox

namespace Desk

/-- Outcomes that are taken away have nothing to do with the queue. -/
theorem settled_pickUp {desk : Desk} (h : desk.outbox.Settled) (task : Nat) :
    (desk.pickUp task).2.outbox.Settled := by
  obtain ⟨-, hpick⟩ | ⟨outcome, -, hpick⟩ := desk.pickUp_cases task
  · rw [hpick]
    exact h
  · rw [hpick]
    exact h

theorem settled_giveUp {desk : Desk} (h : desk.outbox.Settled) (task : Nat) :
    (desk.giveUp task).2.outbox.Settled := by
  obtain ⟨-, hgive⟩ | ⟨outcome, -, hgive⟩ := desk.giveUp_cases task
  · rw [hgive]
    exact h.cancel task
  · rw [hgive]
    exact h

end Desk

end SensorGateway.Link
