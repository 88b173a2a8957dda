import SensorGateway.Proofs.Bus.Recording
import SensorGateway.Proofs.Bus.Window

/-!
# `SensorGateway.Proofs.Bus.Progress`: a dispatch step by step

A dispatch takes a message apart and the list of its listeners with it, calls
one listener after the other, and then acknowledges the message or does not.
Between two of these steps other things may happen: other dispatches, changes
of the table of listeners, and whatever else the world does. A `Progress` is a
dispatch between two of its steps.

* `advances_begin`: the steps in a row are the dispatch.
* `Progress.Sound` says what a dispatch has done so far and what it reports.
  It holds when a dispatch begins and is kept by each of its steps, whatever
  the world is like by then.
-/

set_option autoImplicit false

namespace SensorGateway

/-- The window on a packet keeps all of it. -/
theorem WireFormat.buffer_of_payloadFrame {format : WireFormat} {packet : Bytes}
    {type : MessageType} {frame : Frame} (h : format.payloadFrame packet = .ok (type, frame)) :
    frame.buffer = packet := by
  cases hread : format.readHeader packet with
  | error error =>
    rw [payloadFrame, hread] at h
    cases h
  | ok head =>
    obtain ⟨window, hwindow, hbuffer, -⟩ := exists_payloadFrame_eq hread
    rw [hwindow] at h
    cases h
    exact hbuffer

namespace Bus

variable {ι σ : Type}

/-! ### What listeners get to see -/

/-- What listeners see of a packet, or why they do not see it. -/
def content (bus : Bus) (device : Option Int) (timestamp : Int) (packet : Bytes) :
    Except BusError Delivery :=
  match bus.format.payloadFrame packet with
  | .error error => .error (.packet error)
  | .ok (type, frame) =>
    match bus.registry.lookup type with
    | .error error => .error (.schema error)
    | .ok schema =>
      match schema.decode frame timestamp device with
      | .error error => .error (.decode error)
      | .ok record => .ok ⟨type, device, timestamp, frame.buffer, record⟩

/-- A packet that nobody sees is reported, and any other one is distributed. -/
theorem dispatchPacket_eq (bus : Bus) (environment : Environment ι σ) (device : Option Int)
    (timestamp : Int) (packet : Bytes) (priority : Priority) (world : World ι σ) :
    bus.dispatchPacket environment device timestamp packet priority world =
      match bus.content device timestamp packet with
      | .error error => (.error error, world)
      | .ok delivery => bus.distribute environment delivery priority world := by
  unfold dispatchPacket content
  cases bus.format.payloadFrame packet with
  | error error => rfl
  | ok found =>
    obtain ⟨type, frame⟩ := found
    simp only [dispatch]
    cases bus.registry.lookup type with
    | error error => rfl
    | ok schema =>
      simp only
      cases schema.decode frame timestamp device <;> rfl

/-- Listeners see the whole packet, and its type is that of its header. -/
theorem content_eq_ok {bus : Bus} {device : Option Int} {timestamp : Int} {packet : Bytes}
    {delivery : Delivery} (h : bus.content device timestamp packet = .ok delivery) :
    delivery.raw = packet ∧
      ∃ frame, bus.format.payloadFrame packet = .ok (delivery.type, frame) := by
  unfold content at h
  cases hframe : bus.format.payloadFrame packet with
  | error error => simp [hframe] at h
  | ok found =>
    obtain ⟨type, frame⟩ := found
    simp only [hframe] at h
    cases hlookup : bus.registry.lookup type with
    | error error => simp [hlookup] at h
    | ok schema =>
      simp only [hlookup] at h
      cases hdecode : schema.decode frame timestamp device with
      | error error => simp [hdecode] at h
      | ok record =>
        simp only [hdecode, Except.ok.injEq] at h
        subst h
        exact ⟨WireFormat.buffer_of_payloadFrame hframe, frame, rfl⟩

/-! ### Steps -/

/-- A dispatch between two of its steps. -/
structure Progress (ι : Type) where
  packet : Bytes
  priority : Priority
  /-- What listeners see. -/
  content : Except BusError Delivery
  /-- The listeners of the message when it came in. -/
  snapshot : List ι
  /-- What those answered that were called so far, first one first. -/
  verdicts : List Verdict := []
  /-- What is reported of the message, once it is. -/
  result? : Option (Except BusError Bool) := none

/-- The next call of a listener, if there is one to come. -/
def Progress.next? (progress : Progress ι) : Option (ι × Delivery) :=
  match progress.content with
  | .error _ => none
  | .ok delivery =>
    (progress.snapshot[progress.verdicts.length]?).map fun listener => (listener, delivery)

/-- A packet comes in. -/
def begin (bus : Bus) (device : Option Int) (timestamp : Int) (packet : Bytes)
    (priority : Priority) (world : World ι σ) : Progress ι where
  packet := packet
  priority := priority
  content := bus.content device timestamp packet
  snapshot := match bus.content device timestamp packet with
    | .error _ => []
    | .ok delivery => world.listeners.list delivery.type

/-- The last step: the message is acknowledged if there are listeners and all
of them handled it. -/
def conclude (bus : Bus) (environment : Environment ι σ) (progress : Progress ι)
    (world : World ι σ) : Except BusError Bool × World ι σ :=
  match progress.content with
  | .error error => (.error error, world)
  | .ok delivery =>
    if progress.snapshot.isEmpty = false ∧ progress.verdicts.all (· == .handled) then
      bus.acknowledge environment delivery.device delivery.timestamp progress.priority world
    else (.ok false, world)

/-- The next step. Nothing comes after the last one. -/
def advance (bus : Bus) (environment : Environment ι σ) (progress : Progress ι)
    (world : World ι σ) : Progress ι × World ι σ :=
  match progress.result?, progress.next? with
  | some _, _ => (progress, world)
  | none, some (listener, delivery) =>
    let (verdict, world) := environment.react listener delivery world
    ({ progress with verdicts := progress.verdicts ++ [verdict] }, world)
  | none, none =>
    let (result, world) := bus.conclude environment progress world
    ({ progress with result? := some result }, world)

/-- Several steps in a row. -/
def advances (bus : Bus) (environment : Environment ι σ) :
    Nat → Progress ι → World ι σ → Progress ι × World ι σ
  | 0, progress, world => (progress, world)
  | count + 1, progress, world =>
    let (progress, world) := bus.advance environment progress world
    bus.advances environment count progress world

/-- The calls of listeners that are left, in a row, and the last step.
Induction on the listeners that are left. -/
theorem advances_left (bus : Bus) (environment : Environment ι σ) {delivery : Delivery}
    (left : List ι) {progress : Progress ι} (world : World ι σ)
    (hcontent : progress.content = .ok delivery) (hresult : progress.result? = none)
    (hleft : progress.snapshot.drop progress.verdicts.length = left) :
    bus.advances environment (left.length + 1) progress world =
      let (verdicts, world) := deliver environment delivery left world
      let called := { progress with verdicts := progress.verdicts ++ verdicts }
      let (result, world) := bus.conclude environment called world
      ({ called with result? := some result }, world) := by
  -- Induction over the listeners that are left: the first step calls the first one.
  induction left generalizing progress world with
  | nil =>
    have hnext : progress.next? = none := by
      have hlength := List.drop_eq_nil_iff.mp hleft
      simp [Progress.next?, hcontent, hlength]
    simp only [List.length_nil, advances, advance, hresult, hnext, deliver, List.append_nil]
    rfl
  | cons listener rest ih =>
    have hlt : progress.verdicts.length < progress.snapshot.length := by
      by_contra hle
      rw [List.drop_eq_nil_of_le (Nat.not_lt.mp hle)] at hleft
      cases hleft
    obtain ⟨hlistener, hrest⟩ : progress.snapshot[progress.verdicts.length] = listener ∧
        progress.snapshot.drop (progress.verdicts.length + 1) = rest := by
      rw [List.drop_eq_getElem_cons hlt] at hleft
      exact List.cons.inj hleft
    have hnext : progress.next? = some (listener, delivery) := by
      simp [Progress.next?, hcontent, List.getElem?_eq_getElem hlt, hlistener]
    rw [List.length_cons, advances, deliver]
    simp only [advance, hresult, hnext]
    rw [ih]
    · simp
    · exact hcontent
    · rfl
    · simpa using hrest

/-- The steps of a dispatch in a row report what the dispatch reports, and
leave the world as it does. -/
theorem advances_begin (bus : Bus) (environment : Environment ι σ) (device : Option Int)
    (timestamp : Int) (packet : Bytes) (priority : Priority) (world : World ι σ) :
    let first := bus.begin device timestamp packet priority world
    let last := bus.advances environment (first.snapshot.length + 1) first world
    last.1.result? =
        some (bus.dispatchPacket environment device timestamp packet priority world).1 ∧
      last.2 = (bus.dispatchPacket environment device timestamp packet priority world).2 := by
  rw [dispatchPacket_eq]
  cases hcontent : bus.content device timestamp packet with
  | error error =>
    simp [begin, hcontent, advances, advance, Progress.next?, conclude]
  | ok delivery =>
    have hbegin : (bus.begin device timestamp packet priority world).content = .ok delivery :=
      hcontent
    dsimp only
    rw [bus.advances_left environment
      (bus.begin device timestamp packet priority world).snapshot world hbegin rfl rfl]
    simp only [begin, List.nil_append, conclude, hcontent, distribute]
    cases world.listeners.list delivery.type with
    | nil => simp [deliver]
    | cons listener rest =>
      simp only [List.isEmpty_cons, true_and]

/-! ### What holds between steps -/

namespace Progress

/-- What a dispatch has done so far, and what it may report. -/
structure Sound (progress : Progress ι) : Prop where
  nodup : progress.snapshot.Nodup
  le : progress.verdicts.length ≤ progress.snapshot.length
  unseen : ∀ error, progress.content = .error error → progress.snapshot = []
  raw : ∀ delivery, progress.content = .ok delivery → delivery.raw = progress.packet
  /-- Nothing is reported before all listeners were called. -/
  complete : progress.result? ≠ none → progress.verdicts.length = progress.snapshot.length
  /-- A message is only acknowledged if all of them handled it. -/
  acknowledged : progress.result? = some (.ok true) →
    ∀ verdict ∈ progress.verdicts, verdict = .handled

theorem Sound.begin (bus : Bus) (device : Option Int) (timestamp : Int) (packet : Bytes)
    (priority : Priority) (world : World ι σ) :
    (bus.begin device timestamp packet priority world).Sound := by
  cases hcontent : bus.content device timestamp packet with
  | error error =>
    refine ⟨?_, Nat.zero_le _, ?_, ?_, fun h => absurd rfl h, fun h => nomatch h⟩ <;>
      simp [Bus.begin, hcontent]
  | ok delivery =>
    refine ⟨?_, Nat.zero_le _, ?_, ?_, fun h => absurd rfl h, fun h => nomatch h⟩
    · simpa [Bus.begin, hcontent] using world.listeners.nodup delivery.type
    · simp [Bus.begin, hcontent]
    · intro seen hseen
      exact (content_eq_ok hseen).1

theorem next?_eq_some {progress : Progress ι} {listener : ι} {delivery : Delivery}
    (h : progress.next? = some (listener, delivery)) :
    progress.content = .ok delivery ∧
      progress.snapshot[progress.verdicts.length]? = some listener := by
  unfold next? at h
  cases hcontent : progress.content with
  | error error => simp [hcontent] at h
  | ok seen =>
    simp only [hcontent, Option.map_eq_some_iff, Prod.mk.injEq] at h
    obtain ⟨found, hfound, rfl, rfl⟩ := h
    exact ⟨rfl, hfound⟩

/-- Where no call is to come, all were made. -/
theorem length_of_next?_eq_none {progress : Progress ι} (hsound : progress.Sound)
    (h : progress.next? = none) : progress.verdicts.length = progress.snapshot.length := by
  refine Nat.le_antisymm hsound.le ?_
  unfold next? at h
  cases hcontent : progress.content with
  | error error => simp [hsound.unseen error hcontent]
  | ok delivery => simpa [hcontent] using h

/-- All that a step may do: nothing after the last one, a call of a listener,
or the last step. -/
theorem advance_cases (bus : Bus) (environment : Environment ι σ) (progress : Progress ι)
    (world : World ι σ) :
    (progress.result? ≠ none ∧ bus.advance environment progress world = (progress, world)) ∨
    (∃ listener delivery, progress.result? = none ∧
      progress.next? = some (listener, delivery) ∧
      bus.advance environment progress world =
        ({ progress with
            verdicts := progress.verdicts ++ [(environment.react listener delivery world).1] },
          (environment.react listener delivery world).2)) ∨
    (progress.result? = none ∧ progress.next? = none ∧
      bus.advance environment progress world =
        ({ progress with result? := some (bus.conclude environment progress world).1 },
          (bus.conclude environment progress world).2)) := by
  unfold advance
  cases hresult : progress.result? with
  | some result => exact .inl ⟨by simp, rfl⟩
  | none =>
    cases hnext : progress.next? with
    | none => exact .inr (.inr ⟨rfl, rfl, rfl⟩)
    | some call => exact .inr (.inl ⟨call.1, call.2, rfl, rfl, rfl⟩)

/-- A message is reported as acknowledged only if all listeners handled it. -/
theorem all_of_conclude_eq_ok_true {bus : Bus} {environment : Environment ι σ}
    {progress : Progress ι} {world : World ι σ}
    (h : (bus.conclude environment progress world).1 = .ok true) :
    ∀ verdict ∈ progress.verdicts, verdict = .handled := by
  unfold conclude at h
  cases hcontent : progress.content with
  | error error => simp [hcontent] at h
  | ok delivery =>
    simp only [hcontent] at h
    split at h
    · next hall =>
      intro verdict hmem
      exact eq_of_beq (List.all_eq_true.mp hall.2 verdict hmem)
    · cases h

/-- Every step keeps that. -/
theorem Sound.advance {progress : Progress ι} (h : progress.Sound) (bus : Bus)
    (environment : Environment ι σ) (world : World ι σ) :
    (bus.advance environment progress world).1.Sound := by
  rcases advance_cases bus environment progress world with ⟨-, heq⟩ |
    ⟨listener, delivery, hresult, hnext, heq⟩ | ⟨hresult, hnext, heq⟩
  · rw [heq]
    exact h
  · -- Another answer, of a listener that was not called before.
    rw [heq]
    have hlt : progress.verdicts.length < progress.snapshot.length :=
      (List.getElem?_eq_some_iff.mp (next?_eq_some hnext).2).1
    refine ⟨h.nodup, ?_, h.unseen, h.raw, fun hsome => absurd hresult hsome, fun hsome => ?_⟩
    · rw [List.length_append]
      exact hlt
    · rw [hresult] at hsome
      cases hsome
  · -- The report, when nobody is left to be called.
    have hall := length_of_next?_eq_none h hnext
    rw [heq]
    refine ⟨h.nodup, h.le, h.unseen, h.raw, fun _ => hall, fun hsome => ?_⟩
    exact all_of_conclude_eq_ok_true (Option.some.inj hsome)

end Progress

end Bus

end SensorGateway
