import Mathlib.Tactic.Tauto
import SensorGateway.Bus.Listeners

/-!
# `SensorGateway.Proofs.Bus.Listeners`: registering and taking off

A listener that is registered is there, one that is taken off is not, and
nothing else is different. Doing either twice is doing it once.

`only` is the part of a table that some listeners make up for themselves. A
change that concerns one of them is the same change of that part, and any
other change leaves the part as it is. The order of the listeners is part of
this.
-/

set_option autoImplicit false

namespace SensorGateway.Bus.Listeners

variable {ι : Type}

/-- The part of a table that the listeners `p` make up, each for the types
it is meant to count for. -/
def only (p : MessageType → ι → Bool) (table : Listeners ι) : Listeners ι where
  list type := (table.list type).filter (p type)
  nodup type := (table.nodup type).filter _

@[simp] theorem list_only (p : MessageType → ι → Bool) (table : Listeners ι) (type : MessageType) :
    (table.only p).list type = (table.list type).filter (p type) := rfl

theorem eq_of_list_eq {first second : Listeners ι}
    (h : ∀ type, first.list type = second.list type) : first = second := by
  obtain ⟨list, nodup⟩ := first
  obtain ⟨list', nodup'⟩ := second
  obtain rfl : list = list' := funext h
  rfl

variable [DecidableEq ι]

/-! ### One change -/

theorem list_register (table : Listeners ι) (type other : MessageType) (listener : ι) :
    (table.register type listener).2.list other =
      if other = type ∧ listener ∉ table.list type then table.list type ++ [listener]
      else table.list other := by
  by_cases hmem : listener ∈ table.list type
  · rw [register, dif_pos hmem, if_neg fun h => h.2 hmem]
  · rw [register, dif_neg hmem]
    simp [update, hmem]

theorem list_deregister (table : Listeners ι) (type other : MessageType) (listener : ι) :
    (table.deregister type listener).2.list other =
      if other = type then (table.list type).erase listener else table.list other := by
  by_cases hmem : listener ∈ table.list type
  · rw [deregister, if_pos hmem]
    rfl
  · rw [deregister, if_neg hmem, List.erase_of_not_mem hmem]
    split
    · next h => rw [h]
    · rfl

theorem mem_register (table : Listeners ι) (type other : MessageType) (listener l : ι) :
    l ∈ (table.register type listener).2.list other ↔
      other = type ∧ l = listener ∨ l ∈ table.list other := by
  rw [list_register]
  by_cases htype : other = type
  · subst htype
    by_cases hmem : listener ∈ table.list other
    · have himp : l = listener → l ∈ table.list other := fun h => h ▸ hmem
      simpa [hmem] using himp
    · simp [hmem, or_comm]
  · simp [htype]

theorem mem_deregister (table : Listeners ι) (type other : MessageType) (listener l : ι) :
    l ∈ (table.deregister type listener).2.list other ↔
      ¬(other = type ∧ l = listener) ∧ l ∈ table.list other := by
  rw [list_deregister]
  by_cases htype : other = type
  · subst htype
    simp [(table.nodup other).mem_erase_iff]
  · simp [htype]

/-- What is registered is not registered again. -/
theorem register_register (table : Listeners ι) (type : MessageType) (listener : ι) :
    ((table.register type listener).2.register type listener).2 =
      (table.register type listener).2 := by
  refine eq_of_list_eq fun other => ?_
  have hmem := (table.mem_register type type listener listener).mpr (.inl ⟨rfl, rfl⟩)
  rw [list_register (table.register type listener).2, if_neg fun h => h.2 hmem]

/-- What is gone is not taken off again. -/
theorem deregister_deregister (table : Listeners ι) (type : MessageType) (listener : ι) :
    ((table.deregister type listener).2.deregister type listener).2 =
      (table.deregister type listener).2 := by
  have hmem : listener ∉ (table.deregister type listener).2.list type := by
    simp [mem_deregister]
  rw [deregister.eq_def (table.deregister type listener).2, if_neg hmem]

/-! ### Several listeners -/

/-- Registers listeners one after the other. -/
def registerAll (type : MessageType) (listeners : List ι) (table : Listeners ι) : Listeners ι :=
  listeners.foldl (fun table listener => (table.register type listener).2) table

theorem mem_registerAll (type other : MessageType) (listeners : List ι) (table : Listeners ι)
    (l : ι) :
    l ∈ (table.registerAll type listeners).list other ↔
      other = type ∧ l ∈ listeners ∨ l ∈ table.list other := by
  induction listeners generalizing table with
  | nil => simp [registerAll]
  | cons listener rest ih =>
    show l ∈ ((table.register type listener).2.registerAll type rest).list other ↔ _
    rw [ih, mem_register, List.mem_cons]
    tauto

/-! ### Parts of a table -/

variable (p : MessageType → ι → Bool)

/-- Registering one of the listeners adds it to their part. -/
theorem only_register {type : MessageType} {listener : ι} (h : p type listener = true)
    (table : Listeners ι) :
    (table.register type listener).2.only p = ((table.only p).register type listener).2 := by
  refine eq_of_list_eq fun other => ?_
  rw [list_only, list_register, list_register]
  simp only [list_only, List.mem_filter, h, and_true]
  split
  · next hnew => simp [hnew.1, h]
  · rfl

/-- Registering any other leaves it as it is. -/
theorem only_register_of_not {type : MessageType} {listener : ι} (h : p type listener = false)
    (table : Listeners ι) : (table.register type listener).2.only p = table.only p := by
  refine eq_of_list_eq fun other => ?_
  rw [list_only, list_register]
  split
  · next hnew => simp [hnew.1, h]
  · rfl

theorem only_registerAll_of_not {type : MessageType} {listeners : List ι}
    (h : ∀ listener ∈ listeners, p type listener = false) (table : Listeners ι) :
    (table.registerAll type listeners).only p = table.only p := by
  induction listeners generalizing table with
  | nil => rfl
  | cons listener rest ih =>
    have hrest := ih (fun l hmem => h l (List.mem_cons_of_mem _ hmem))
      (table.register type listener).2
    exact hrest.trans (only_register_of_not p (h listener List.mem_cons_self) table)

/-- Taking a listener off takes it out of any part. -/
theorem only_deregister (table : Listeners ι) (type : MessageType) (listener : ι) :
    (table.deregister type listener).2.only p = ((table.only p).deregister type listener).2 := by
  refine eq_of_list_eq fun other => ?_
  rw [list_only, list_deregister, list_deregister]
  split
  · next htype => rw [htype, list_only, List.erase_filter]
  · rfl

/-- A part to which it does not belong stays as it is. -/
theorem only_deregister_of_not {type : MessageType} {listener : ι} (h : p type listener = false)
    (table : Listeners ι) : (table.deregister type listener).2.only p = table.only p := by
  have habsent : listener ∉ (table.only p).list type := by simp [h]
  rw [only_deregister, deregister.eq_def (table.only p), if_neg habsent]

end SensorGateway.Bus.Listeners
