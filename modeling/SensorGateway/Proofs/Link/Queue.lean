import SensorGateway.Link.Queue

/-!
# `SensorGateway.Proofs.Link.Queue`: single operations on the queue

* `perm_place`, `pairwise_place`: a packet is put among the others, in its
  place.
* `attempt_cases`: all that may become of an attempt.
* `Sound` is what holds of a queue that began empty, whatever was done with
  it; `Sound.accept`, `Sound.pop` and `Sound.close` keep it.
* `Sound.isNext`: the first packet is of the most urgent that wait the one
  accepted first.
-/

set_option autoImplicit false

namespace SensorGateway.Link

/-! ### The order of packets -/

namespace Queued

theorem before_iff (a b : Queued) :
    a.before b = true ↔
      a.priority < b.priority ∨ a.priority = b.priority ∧ a.sequence < b.sequence := by
  simp [before]

theorem before_trans {a b c : Queued} (hab : a.before b = true) (hbc : b.before c = true) :
    a.before c = true := by
  rw [before_iff, UInt8.lt_iff_toNat_lt, ← UInt8.toNat_inj] at *
  omega

/-- A packet goes out before every later one that does not go out before
it. -/
theorem before_of_not_before {earlier later : Queued} (hseq : earlier.sequence < later.sequence)
    (h : ¬ later.before earlier = true) : earlier.before later = true := by
  rw [before_iff, UInt8.lt_iff_toNat_lt, ← UInt8.toNat_inj] at *
  omega

end Queued

namespace Queue

/-! ### Putting a packet in its place -/

/-- Nothing is lost on the way, and nothing is there twice. -/
theorem perm_place (entry : Queued) (entries : List Queued) :
    (place entry entries).Perm (entry :: entries) := by
  induction entries with
  | nil => exact List.Perm.refl _
  | cons first rest ih =>
    rw [place]
    split
    · exact List.Perm.refl _
    · exact (ih.cons first).trans (List.Perm.swap entry first rest)

/-- Packets that stand in order still do after a later one was put in its
place. -/
theorem pairwise_place {entry : Queued} {entries : List Queued}
    (hpairwise : entries.Pairwise fun a b => a.before b = true)
    (hlater : ∀ other ∈ entries, other.sequence < entry.sequence) :
    (place entry entries).Pairwise fun a b => a.before b = true := by
  induction entries with
  | nil => exact List.pairwise_singleton _ _
  | cons first rest ih =>
    obtain ⟨hfirst, hrest⟩ := List.pairwise_cons.mp hpairwise
    rw [place]
    split
    case isTrue hbefore =>
      refine List.pairwise_cons.mpr ⟨fun other hmem => ?_, hpairwise⟩
      cases hmem with
      | head => exact hbefore
      | tail _ hmem => exact Queued.before_trans hbefore (hfirst other hmem)
    case isFalse hnot =>
      -- Of two equally urgent packets the earlier one stays in front.
      have hseq := hlater first List.mem_cons_self
      refine List.pairwise_cons.mpr ⟨fun other hmem => ?_, ih hrest fun other hmem =>
        hlater other (List.mem_cons_of_mem _ hmem)⟩
      cases (perm_place entry rest).mem_iff.mp hmem with
      | head => exact Queued.before_of_not_before hseq hnot
      | tail _ hmem => exact hfirst other hmem

/-! ### Attempts -/

/-- The packet that is accepted next, if it is this one. -/
def ticket (queue : Queue) (packet : Bytes) (priority : Priority) : Queued :=
  ⟨priority, queue.accepted, packet⟩

/-- The queue with one more packet in it. -/
def accept (queue : Queue) (packet : Bytes) (priority : Priority) : Queue :=
  { queue with
    entries := place (queue.ticket packet priority) queue.entries
    accepted := queue.accepted + 1 }

/-- What becomes of an attempt: a closed queue refuses, a full one does
nothing, and any other takes the packet. -/
theorem attempt_cases (queue : Queue) (packet : Bytes) (priority : Priority) :
    queue.isClosed = true ∧ queue.attempt packet priority = (.closed, queue) ∨
    queue.isClosed = false ∧ queue.capacity ≤ queue.size ∧
      queue.attempt packet priority = (.full, queue) ∨
    queue.isClosed = false ∧ queue.size < queue.capacity ∧
      queue.attempt packet priority = (.accepted, queue.accept packet priority) := by
  unfold attempt
  by_cases hclosed : queue.isClosed = true
  · exact .inl ⟨hclosed, if_pos hclosed⟩
  · have hopen := Bool.eq_false_iff.mpr hclosed
    rw [if_neg hclosed]
    by_cases hfull : queue.capacity ≤ queue.size
    · exact .inr (.inl ⟨hopen, hfull, if_pos hfull⟩)
    · exact .inr (.inr ⟨hopen, Nat.lt_of_not_le hfull, if_neg hfull⟩)

/-! ### What always holds of a queue -/

/-- Of the packets that wait, none goes out before this one: it is of the
most urgent ones the one accepted first. -/
structure IsNext (queue : Queue) (entry : Queued) : Prop where
  mem : entry ∈ queue.entries
  priority_le : ∀ other ∈ queue.entries, entry.priority ≤ other.priority
  sequence_le : ∀ other ∈ queue.entries, other.priority = entry.priority →
    entry.sequence ≤ other.sequence

/-- What holds of a queue that began empty, whatever was done with it. -/
structure Sound (queue : Queue) : Prop where
  /-- The packets stand in the order in which they go out. -/
  pairwise : queue.entries.Pairwise fun a b => a.before b = true
  /-- Each was accepted before all that are still to be accepted. -/
  sequence_lt : ∀ entry ∈ queue.entries, entry.sequence < queue.accepted
  size_le : queue.size ≤ queue.capacity

theorem sound_ofCapacity (capacity : Nat) : (ofCapacity capacity).Sound where
  pairwise := List.Pairwise.nil
  sequence_lt := by simp [ofCapacity]
  size_le := Nat.zero_le _

variable {queue : Queue}

theorem Sound.accept (h : queue.Sound) (hroom : queue.size < queue.capacity) (packet : Bytes)
    (priority : Priority) : (queue.accept packet priority).Sound where
  pairwise := pairwise_place h.pairwise h.sequence_lt
  sequence_lt entry hmem := by
    cases (perm_place _ queue.entries).mem_iff.mp hmem with
    | head => exact Nat.lt_succ_self _
    | tail _ hmem => exact Nat.lt_succ_of_lt (h.sequence_lt entry hmem)
  size_le := by
    have hlength := (perm_place (queue.ticket packet priority) queue.entries).length_eq
    exact Nat.le_trans (Nat.le_of_eq hlength) hroom

theorem Sound.pop (h : queue.Sound) : queue.pop.2.Sound := by
  unfold Queue.pop
  split
  case h_1 => exact h
  case h_2 entry rest hentries =>
    exact {
      pairwise := (List.pairwise_cons.mp (hentries ▸ h.pairwise)).2
      sequence_lt := fun other hmem =>
        h.sequence_lt other (hentries ▸ List.mem_cons_of_mem entry hmem)
      size_le := by
        have hsize := h.size_le
        rw [size, hentries, List.length_cons] at hsize
        exact Nat.le_of_succ_le hsize }

theorem Sound.close (h : queue.Sound) : queue.close.Sound := ⟨h.pairwise, h.sequence_lt, h.size_le⟩

/-- The first packet of a queue that is in order is the next one. -/
theorem Sound.isNext (h : queue.Sound) {entry : Queued} {rest : List Queued}
    (hentries : queue.entries = entry :: rest) : queue.IsNext entry := by
  have hbefore : ∀ other ∈ queue.entries, other = entry ∨ entry.before other = true := by
    intro other hmem
    rw [hentries] at hmem
    cases hmem with
    | head => exact Or.inl rfl
    | tail _ hmem => exact Or.inr ((List.pairwise_cons.mp (hentries ▸ h.pairwise)).1 other hmem)
  refine ⟨hentries ▸ List.mem_cons_self, fun other hmem => ?_, fun other hmem hpriority => ?_⟩
  · obtain rfl | hbefore := hbefore other hmem
    · exact UInt8.le_refl _
    · rw [Queued.before_iff, UInt8.lt_iff_toNat_lt, ← UInt8.toNat_inj] at hbefore
      rw [UInt8.le_iff_toNat_le]
      omega
  · obtain rfl | hbefore := hbefore other hmem
    · exact Nat.le_refl _
    · rw [Queued.before_iff, hpriority] at hbefore
      obtain hlt | ⟨-, hlt⟩ := hbefore
      · exact absurd hlt (UInt8.lt_irrefl _)
      · exact Nat.le_of_lt hlt

end Queue

end SensorGateway.Link
