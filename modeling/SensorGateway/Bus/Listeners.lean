import SensorGateway.Packet

/-!
# `SensorGateway.Bus.Listeners`: who receives messages of a type

For each message type there is a list of listeners in the order of their
registration. A list holds no listener twice. Listeners are told apart by
what they are, not by their names.

A snapshot of a list is the list itself, so nothing that happens later
changes it.
-/

set_option autoImplicit false

namespace SensorGateway.Bus

/-- The listeners of each message type, in the order of registration. -/
structure Listeners (ι : Type) where
  /-- The listeners of a type. -/
  list : MessageType → List ι
  /-- No listener is registered twice for a type. -/
  nodup : ∀ type, (list type).Nodup

namespace Listeners

variable {ι : Type}

/-- No listeners at all. -/
def empty : Listeners ι := ⟨fun _ => [], fun _ => List.nodup_nil⟩

instance : Inhabited (Listeners ι) := ⟨empty⟩

/-- How many listeners a type has. -/
def count (listeners : Listeners ι) (type : MessageType) : Nat := (listeners.list type).length

/-- The table with another list for one type. -/
def update (listeners : Listeners ι) (type : MessageType) (list : List ι) (nodup : list.Nodup) :
    Listeners ι where
  list t := if t = type then list else listeners.list t
  nodup t := by
    by_cases h : t = type
    · simpa [h] using nodup
    · simpa [h] using listeners.nodup t

/-- A listener behind the others of a type. -/
theorem nodup_concat {list : List ι} {listener : ι} (h : list.Nodup) (hnew : listener ∉ list) :
    (list ++ [listener]).Nodup := by
  rw [List.nodup_append]
  refine ⟨h, by simp, ?_⟩
  intro a ha b hb hab
  simp only [List.mem_singleton] at hb
  exact hnew (hb ▸ hab ▸ ha)

variable [DecidableEq ι]

/-- Puts a listener behind the others of a type. Says whether it was not
there before; one that was stays where it is. -/
def register (listeners : Listeners ι) (type : MessageType) (listener : ι) :
    Bool × Listeners ι :=
  if h : listener ∈ listeners.list type then (false, listeners)
  else
    (true, listeners.update type (listeners.list type ++ [listener])
      (nodup_concat (listeners.nodup type) h))

/-- Takes a listener out of the list of a type. Says whether it was
there. -/
def deregister (listeners : Listeners ι) (type : MessageType) (listener : ι) :
    Bool × Listeners ι :=
  if listener ∈ listeners.list type then
    (true, listeners.update type ((listeners.list type).erase listener)
      ((listeners.nodup type).erase listener))
  else (false, listeners)

end Listeners

end SensorGateway.Bus
