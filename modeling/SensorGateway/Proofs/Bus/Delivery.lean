import SensorGateway.Proofs.Bus.Recording

/-!
# `SensorGateway.Proofs.Bus.Delivery`: every message to every listener

What becomes of a message does not depend on what single listeners do to
the table of listeners, on their breaking down, or on the order of their
verdicts.

* `Distributed` and `Dispatched` say which calls a message leads to and
  what is reported of it.
* `dispatch_recording`: a dispatch makes exactly these calls and reports
  exactly that, whatever the environment does.
-/

set_option autoImplicit false

namespace SensorGateway.Bus

variable {ι σ : Type}

/-! ### What a message leads to -/

/-- What a call of the transport is reported as: its success, its own
error, or the timeout. -/
def report (bus : Bus) (reply : Reply Unit) : Except BusError Bool :=
  match reply.within bus.sendTimeout with
  | .ok () => .ok true
  | .error error => .error (.transport error)

/-- What is reported of a readable message, and the calls it leads to. -/
inductive Distributed (bus : Bus) (listeners : List ι) (delivery : Delivery)
    (priority : Priority) : Except BusError Bool → List (Call ι) → Prop where
  /-- The message is delivered to every listener. It is not acknowledged if
  there is none, or one of them did not handle it. -/
  | delivered {verdicts : List Verdict} (hlength : verdicts.length = listeners.length)
    (hverdicts : listeners = [] ∨ ∃ verdict ∈ verdicts, verdict ≠ .handled) :
    Distributed bus listeners delivery priority (.ok false)
      (deliveries delivery listeners verdicts)
  /-- If there are listeners and all of them handled it, the message is then
  acknowledged once. -/
  | acknowledged {verdicts : List Verdict} (hlength : verdicts.length = listeners.length)
    (hne : listeners ≠ []) (hverdicts : ∀ verdict ∈ verdicts, verdict = .handled)
    (reply : Reply Unit) :
    Distributed bus listeners delivery priority (bus.report reply)
      (deliveries delivery listeners verdicts ++
        [.acknowledge delivery.device delivery.timestamp priority reply])

/-- What is reported of a message, and the calls it leads to. -/
inductive Dispatched (bus : Bus) (listeners : List ι) (type : MessageType) (device : Option Int)
    (timestamp : Int) (frame : Frame) (priority : Priority) :
    Except BusError Bool → List (Call ι) → Prop where
  /-- A message of an unknown type is neither delivered nor acknowledged. -/
  | unknown {error : SchemaError} (hlookup : bus.registry.lookup type = .error error) :
    Dispatched bus listeners type device timestamp frame priority (.error (.schema error)) []
  /-- Nor is a message that cannot be read. -/
  | unreadable {schema : Schema} {error : DecodeError}
    (hlookup : bus.registry.lookup type = .ok schema)
    (hdecode : schema.decode frame timestamp device = .error error) :
    Dispatched bus listeners type device timestamp frame priority (.error (.decode error)) []
  /-- Every other message goes to the listeners, with its record and all
  bytes that were received. -/
  | distributed {schema : Schema} {record : Record} {result : Except BusError Bool}
    {calls : List (Call ι)} (hlookup : bus.registry.lookup type = .ok schema)
    (hdecode : schema.decode frame timestamp device = .ok record)
    (h : Distributed bus listeners ⟨type, device, timestamp, frame.buffer, record⟩ priority
      result calls) :
    Dispatched bus listeners type device timestamp frame priority result calls

/-! ### The steps of a dispatch -/

/-- Acknowledging is one call of the transport, and its answer is
reported. -/
theorem acknowledge_recording (bus : Bus) (environment : Environment ι σ) (device : Option Int)
    (timestamp : Int) (priority : Priority) (world : World ι σ) (calls : List (Call ι)) :
    ∃ reply : Reply Unit,
      bus.acknowledge environment.recording device timestamp priority (world.recorded calls) =
        ((bus.acknowledge environment device timestamp priority world).1,
          (bus.acknowledge environment device timestamp priority world).2.recorded
            (calls ++ [.acknowledge device timestamp priority reply])) ∧
      (bus.acknowledge environment device timestamp priority world).1 = bus.report reply := by
  refine ⟨(environment.acknowledge device timestamp priority world.rest).1, rfl, ?_⟩
  rw [acknowledge, report]
  simp only
  cases (environment.acknowledge device timestamp priority world.rest).1.within bus.sendTimeout
  case ok => rfl
  case error => rfl

/-- Distributing a message makes one delivery to each of its listeners and,
if there are any and all of them handled it, one acknowledgement. The
listeners are those of the world before the first delivery. -/
theorem distribute_recording (bus : Bus) (environment : Environment ι σ) (delivery : Delivery)
    (priority : Priority) (world : World ι σ) (calls : List (Call ι)) :
    ∃ made : List (Call ι),
      bus.distribute environment.recording delivery priority (world.recorded calls) =
        ((bus.distribute environment delivery priority world).1,
          (bus.distribute environment delivery priority world).2.recorded (calls ++ made)) ∧
      Distributed bus (world.listeners.list delivery.type) delivery priority
        (bus.distribute environment delivery priority world).1 made := by
  -- The list is read once, before any listener is called.
  have hsame : (world.recorded calls).listeners = world.listeners := rfl
  unfold distribute
  rw [hsame]
  cases hlist : world.listeners.list delivery.type with
  | nil =>
    refine ⟨deliveries delivery [] [], ?_, .delivered rfl (Or.inl rfl)⟩
    rw [deliveries, List.zip_nil_left, List.map_nil, List.append_nil]
  | cons first rest =>
    have hlength := length_deliver environment delivery (first :: rest) world
    simp only [deliver_recording]
    by_cases hall :
        (deliver environment delivery (first :: rest) world).1.all (· == .handled) = true
    · have hverdicts := List.all_eq_true.mp hall
      obtain ⟨reply, hcalls, hreport⟩ := bus.acknowledge_recording environment delivery.device
        delivery.timestamp priority (deliver environment delivery (first :: rest) world).2
        (calls ++ deliveries delivery (first :: rest)
          (deliver environment delivery (first :: rest) world).1)
      simp only [if_pos hall]
      rw [hcalls, hreport, List.append_assoc]
      refine ⟨_, rfl, .acknowledged hlength (List.cons_ne_nil _ _) ?_ reply⟩
      intro verdict hmem
      exact eq_of_beq (hverdicts verdict hmem)
    · simp only [if_neg hall]
      refine ⟨_, rfl, .delivered hlength (Or.inr ?_)⟩
      obtain ⟨verdict, hmem, hne⟩ := List.all_eq_false.mp (Bool.eq_false_iff.mpr hall)
      exact ⟨verdict, hmem, fun heq => hne (by rw [heq]; rfl)⟩

/-! ### Whole dispatches -/

/-- A dispatch makes exactly the calls that the message leads to and
reports exactly what is due, whatever listeners and transport do. The
listeners are those registered for the type when the message comes in, none
of them twice. -/
theorem dispatch_recording (bus : Bus) (environment : Environment ι σ) (type : MessageType)
    (device : Option Int) (timestamp : Int) (frame : Frame) (priority : Priority)
    (world : World ι σ) (calls : List (Call ι)) :
    (world.listeners.list type).Nodup ∧
    ∃ made : List (Call ι),
      bus.dispatch environment.recording type device timestamp frame priority
          (world.recorded calls) =
        ((bus.dispatch environment type device timestamp frame priority world).1,
          (bus.dispatch environment type device timestamp frame priority world).2.recorded
            (calls ++ made)) ∧
      Dispatched bus (world.listeners.list type) type device timestamp frame priority
        (bus.dispatch environment type device timestamp frame priority world).1 made := by
  refine ⟨world.listeners.nodup type, ?_⟩
  unfold dispatch
  cases hlookup : bus.registry.lookup type with
  | error error => exact ⟨[], by rw [List.append_nil], .unknown hlookup⟩
  | ok schema =>
    cases hdecode : schema.decode frame timestamp device with
    | error error =>
      simp only [hdecode]
      exact ⟨[], by rw [List.append_nil], .unreadable hlookup hdecode⟩
    | ok record =>
      simp only [hdecode]
      obtain ⟨made, hcalls, h⟩ := bus.distribute_recording environment
        ⟨type, device, timestamp, frame.buffer, record⟩ priority world calls
      exact ⟨made, hcalls, .distributed hlookup hdecode h⟩

end SensorGateway.Bus
