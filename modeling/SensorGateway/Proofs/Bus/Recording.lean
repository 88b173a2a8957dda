import SensorGateway.Bus.Dispatch

/-!
# `SensorGateway.Proofs.Bus.Recording`: what a bus asks of the world

Listeners and the transport are functions of the environment, and a bus
leaves no trace of which of them it called. `Environment.recording` keeps
one: it does what the environment does and writes every call down, with
its answer. A run in it is a run in the environment itself
(`deliver_recording`), so the calls written down are the calls of that
run.
-/

set_option autoImplicit false

namespace SensorGateway.Bus

variable {ι σ : Type}

/-- A call of a listener or of the transport, with the answer. -/
inductive Call (ι : Type) where
  | deliver (listener : ι) (delivery : Delivery) (verdict : Verdict)
  | send (packet : Bytes) (priority : Priority) (reply : Reply Bool)
  | acknowledge (device : Option Int) (timestamp : Int) (priority : Priority) (reply : Reply Unit)

/-- A world in which the calls so far are written down. -/
def World.recorded (world : World ι σ) (calls : List (Call ι)) : World ι (σ × List (Call ι)) :=
  ⟨world.listeners, world.rest, calls⟩

/-- The world without what is written down. -/
def World.bare (world : World ι (σ × List (Call ι))) : World ι σ :=
  ⟨world.listeners, world.rest.1⟩

/-- The environment that also writes down every call. -/
def Environment.recording (environment : Environment ι σ) : Environment ι (σ × List (Call ι)) where
  react listener delivery world :=
    let (verdict, after) := environment.react listener delivery world.bare
    (verdict, after.recorded (world.rest.2 ++ [.deliver listener delivery verdict]))
  send packet priority state :=
    let (reply, after) := environment.send packet priority state.1
    (reply, after, state.2 ++ [.send packet priority reply])
  acknowledge device timestamp priority state :=
    let (reply, after) := environment.acknowledge device timestamp priority state.1
    (reply, after, state.2 ++ [.acknowledge device timestamp priority reply])

/-! ### Deliveries -/

/-- One delivery to each listener, in order, with its verdict. -/
def deliveries (delivery : Delivery) (listeners : List ι) (verdicts : List Verdict) :
    List (Call ι) :=
  (listeners.zip verdicts).map fun (listener, verdict) => .deliver listener delivery verdict

/-- Every listener gives one verdict. -/
@[simp]
theorem length_deliver (environment : Environment ι σ) (delivery : Delivery) (listeners : List ι)
    (world : World ι σ) :
    (deliver environment delivery listeners world).1.length = listeners.length := by
  induction listeners generalizing world with
  | nil => rfl
  | cons first rest ih =>
    rw [deliver]
    simp only [List.length_cons, ih]

/-- Delivering calls every listener of the list once, in its order, with
the same delivery. Induction over the list: what the first listener does
changes the world in which the others are called, but not the list. -/
theorem deliver_recording (environment : Environment ι σ) (delivery : Delivery)
    (listeners : List ι) (world : World ι σ) (calls : List (Call ι)) :
    deliver environment.recording delivery listeners (world.recorded calls) =
      ((deliver environment delivery listeners world).1,
        (deliver environment delivery listeners world).2.recorded
          (calls ++ deliveries delivery listeners
            (deliver environment delivery listeners world).1)) := by
  induction listeners generalizing world calls with
  | nil => simp [deliver, deliveries]
  | cons first rest ih =>
    have hfirst : environment.recording.react first delivery (world.recorded calls) =
        ((environment.react first delivery world).1,
          (environment.react first delivery world).2.recorded
            (calls ++ [.deliver first delivery (environment.react first delivery world).1])) :=
      rfl
    rw [deliver, hfirst]
    simp only [ih]
    rw [deliver]
    simp only [deliveries, List.zip_cons_cons, List.map_cons, List.append_assoc,
      List.singleton_append]

end SensorGateway.Bus
