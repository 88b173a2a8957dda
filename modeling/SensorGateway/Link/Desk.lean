import SensorGateway.Link.Waiting

/-!
# `SensorGateway.Link.Desk`: outcomes until they are picked up

An operation at the queue may finish tasks of others. Their outcomes lie
on a desk until those who wait for them come by and pick them up. Who does
not want to wait any longer gives up, and gets an outcome that came in
time all the same.
-/

set_option autoImplicit false

namespace SensorGateway.Link

/-- The queue of the link with those who wait at it, and the outcomes that
nobody picked up yet. -/
structure Desk where
  outbox : Outbox
  /-- How many tasks there were so far. -/
  tasks : Nat := 0
  finished : Finished := []

namespace Desk

/-- Starts a task. -/
def start (desk : Desk) (operation : Outbox → Nat → Finished × Outbox) :
    Nat × Desk :=
  let (finished, outbox) := operation desk.outbox desk.tasks
  (desk.tasks, { outbox, tasks := desk.tasks + 1, finished := desk.finished ++ finished })

/-- Picks up the outcome of a task, if it has one. -/
def pickUp (desk : Desk) (task : Nat) : Option Outcome × Desk :=
  match desk.finished.lookup task with
  | none => (none, desk)
  | some outcome =>
    (some outcome, { desk with finished := desk.finished.filter fun entry => entry.1 != task })

/-- Picks up the outcome of a task, which gives up if it has none. -/
def giveUp (desk : Desk) (task : Nat) : Option Outcome × Desk :=
  match desk.pickUp task with
  | (none, desk) => (none, { desk with outbox := desk.outbox.cancel task })
  | picked => picked

/-- Turns everyone away. -/
def close (desk : Desk) : Desk :=
  let (finished, outbox) := desk.outbox.close
  { desk with outbox, finished := desk.finished ++ finished }

end Desk

end SensorGateway.Link
