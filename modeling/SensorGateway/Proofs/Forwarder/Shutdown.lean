import SensorGateway.Proofs.Forwarder.Subscription
import SensorGateway.Proofs.Forwarder.Underway

/-!
# `SensorGateway.Proofs.Forwarder.Shutdown`: a shutdown among other tasks

A shutdown first marks the server, so that no connection is attached any
more, then asks for the live connections, and then detaches these one by one.
Between any two of these steps, and between those of a detach, other tasks may
attach and detach connections, shut single ones down or all of them, or add
sources.

* `Phased` says what a shutdown may count on in each of its phases. It is kept
  by every turn, since a connection can only be attached while no shutdown has
  begun.
* `shutdown_final`: what is true once a shutdown has finished, and for good.
-/

set_option autoImplicit false

open scoped List

namespace SensorGateway.Forwarder

variable {ι : Type}

/-- The connections a shutdown has still to detach, if it knows them. -/
def Server.ShutdownPhase.remaining? : Server.ShutdownPhase → Option (List Nat)
  | .requested | .marked => none
  | .detaching ids => some ids
  | .finished => some []

namespace Underway

/-- A server is closing from the first step of a shutdown on. All connections
that are still live are known to a shutdown that asked for them. While one of
its detaches is under way, a shutdown has not finished. -/
structure Phased (state : Underway ι) : Prop where
  closing : ∀ task, state.phases task ≠ .requested → state.server.closing = true
  remaining : ∀ task ids, (state.phases task).remaining? = some ids →
    ∀ session ∈ state.server.sessions, session.id ∈ ids
  busy : ∀ leaving ∈ state.leaving, ∀ task, leaving.shutdown? = some task →
    ∃ ids, state.phases task = .detaching ids

namespace Phased

variable {state : Underway ι}

theorem start (settings : ServerSettings) (tables : Nat → Bus.Listeners ι) :
    Phased (start settings tables) where
  closing task h := absurd rfl h
  remaining := by simp [Underway.start]
  busy := by simp [Underway.start]

/-- Once a shutdown has finished, no connection is live. -/
theorem sessions_eq_nil (h : Phased state) {task : Nat} (hphase : state.phases task = .finished) :
    state.server.sessions = [] := by
  refine List.eq_nil_iff_forall_not_mem.mpr fun session hmem => ?_
  exact absurd (h.remaining task [] (by rw [hphase]; rfl) session hmem) List.not_mem_nil

theorem takeOut (h : Phased state) (id : Nat) : Phased (state.takeOut none id) := by
  obtain ⟨hclosing, hphases, hleaving⟩ := state.takeOut_frame none id
  refine ⟨?_, ?_, ?_⟩
  · rw [hclosing, hphases]
    exact h.closing
  · rw [sessions_takeOut, hphases]
    intro task ids hids session hmem
    exact h.remaining task ids hids session (List.mem_of_mem_filter hmem)
  · rw [hphases]
    intro leaving hmem task htask
    rcases hleaving leaving hmem with hmem | hnone
    · exact h.busy leaving hmem task htask
    · rw [hnone] at htask
      cases htask

variable [DecidableEq ι]

/-- A connection is only attached while all shutdowns are still to begin. -/
theorem attach (h : Phased state) (new : Session ι) :
    Phased (state.step (.attach new)) := by
  cases hclosing : state.server.closing with
  | true =>
    rw [step, Server.attach_eq_of_closing hclosing]
    exact h
  | false =>
    have hrequested : ∀ task, state.phases task = .requested := by
      intro task
      by_contra hphase
      rw [h.closing task hphase] at hclosing
      cases hclosing
    refine ⟨fun task hphase => absurd (hrequested task) hphase, fun task ids hids => ?_, h.busy⟩
    have hphase : (state.step (.attach new)).phases task = .requested := hrequested task
    rw [hphase] at hids
    cases hids

theorem clear (h : Phased state) (index : Nat) : Phased (state.clear index) := by
  rcases state.clear_cases index with heq | ⟨before, session, shutdown?, after,
    ⟨bus, rest, hsplit, heq⟩ | ⟨hsplit, heq⟩⟩
  · rw [heq]
    exact h
  · have hbusy := h.busy
    rw [hsplit] at hbusy
    rw [heq]
    refine ⟨h.closing, h.remaining, fun leaving hmem => ?_⟩
    rw [List.mem_append, List.mem_cons] at hmem
    rcases hmem with hmem | rfl | hmem
    · exact hbusy leaving (by simp [hmem])
    · exact hbusy ⟨session, bus :: rest, shutdown?⟩ (by simp)
    · exact hbusy leaving (by simp [hmem])
  · have hbusy := h.busy
    rw [hsplit] at hbusy
    rw [heq]
    refine ⟨h.closing, h.remaining, fun leaving hmem => hbusy leaving ?_⟩
    rcases List.mem_append.mp hmem with hmem | hmem <;> simp [hmem]

omit [DecidableEq ι] in
/-- A shutdown begins to detach the first of those that are left. -/
theorem begin_detach (h : Phased state) {task id : Nat} {rest : List Nat}
    (hphase : state.phases task = .detaching (id :: rest)) :
    Phased { state.takeOut (some task) id with
      phases := Function.update state.phases task (.detaching rest) } := by
  obtain ⟨hclosing, hphases, hleaving⟩ := state.takeOut_frame (some task) id
  constructor
  case closing =>
    intro other hother
    exact hclosing.trans (h.closing task (by rw [hphase]; simp))
  case remaining =>
    intro other ids hids session hmem
    dsimp only at hids hmem
    rw [sessions_takeOut, List.mem_filter] at hmem
    obtain ⟨hmem, hne⟩ := hmem
    by_cases hsame : other = task
    · -- The one that was taken out was the first of those that were left.
      subst hsame
      rw [Function.update_self] at hids
      have hid := h.remaining other (id :: rest) (by rw [hphase]; rfl) session hmem
      obtain rfl : rest = ids := by simpa [Server.ShutdownPhase.remaining?] using hids
      exact (List.mem_cons.mp hid).resolve_left (by simpa using hne)
    · rw [Function.update_of_ne hsame] at hids
      exact h.remaining other ids hids session hmem
  case busy =>
    intro leaving hmem other hother
    dsimp only at hmem ⊢
    by_cases hsame : other = task
    · subst hsame
      exact ⟨rest, Function.update_self ..⟩
    · rw [Function.update_of_ne hsame]
      rcases hleaving leaving hmem with hmem | hsome
      · exact h.busy leaving hmem other hother
      · rw [hother] at hsome
        exact absurd (Option.some.inj hsome) hsame

/-- A shutdown that takes a step out of turn would leave a detach of its own
behind. -/
theorem part (h : Phased state) {task : Nat} (hbusy : state.busy task = false) :
    Phased (state.part task) := by
  have hnone : ∀ leaving ∈ state.leaving, leaving.shutdown? ≠ some task := by
    intro leaving hmem hsome
    have := List.any_eq_false.mp hbusy leaving hmem
    simp [hsome] at this
  rcases state.part_cases task with ⟨id, rest, hphase, heq⟩ | ⟨closing, phase, heq, hcases⟩
  · rw [heq]
    exact h.begin_detach hphase
  · rw [heq]
    constructor
    case closing =>
      intro other hother
      rcases hcases with ⟨-, hclosing, -⟩ | ⟨hphase, hclosing, -⟩ | ⟨hphase, hclosing, -⟩
      · exact hclosing
      · exact hclosing.trans (h.closing task (by rw [hphase]; simp))
      · refine hclosing.trans (h.closing task ?_)
        rcases hphase with hphase | hphase <;> rw [hphase] <;> simp
    case remaining =>
      intro other ids hids session hmem
      dsimp only at hids hmem
      by_cases hsame : other = task
      · subst hsame
        rw [Function.update_self] at hids
        rcases hcases with ⟨-, -, rfl⟩ | ⟨-, -, rfl⟩ | ⟨hphase, -, rfl⟩
        · cases hids
        · -- It asks for all that are live.
          obtain rfl : state.server.liveIds = ids := by
            simpa [Server.ShutdownPhase.remaining?] using hids
          exact List.mem_map_of_mem hmem
        · -- It finishes only when none is left.
          obtain rfl : ids = [] := by
            simpa [Server.ShutdownPhase.remaining?, eq_comm] using hids
          refine h.remaining other [] ?_ session hmem
          rcases hphase with hphase | hphase <;> rw [hphase] <;> rfl
      · rw [Function.update_of_ne hsame] at hids
        exact h.remaining other ids hids session hmem
    case busy =>
      intro leaving hmem other hother
      dsimp only at hmem ⊢
      have hsame : other ≠ task := by
        rintro rfl
        exact hnone leaving hmem hother
      rw [Function.update_of_ne hsame]
      exact h.busy leaving hmem other hother

theorem step (h : Phased state) (turn : Turn ι) : Phased (state.step turn) := by
  have hdetach : ∀ id, Phased (state.detach id) := fun id =>
    detach_induction (h.takeOut id) fun _ index hstate => hstate.clear index
  cases turn with
  | attach new => exact h.attach new
  | addSource bus =>
    rw [Underway.step, Server.addSource_eq]
    exact ⟨h.closing, h.remaining, h.busy⟩
  | detach id => exact hdetach id
  | shutdown id => exact hdetach id
  | takeOut id => exact h.takeOut id
  | clear index => exact h.clear index
  | advance task =>
    show Phased (if state.busy task then state else state.advance task)
    split
    · exact h
    · next hbusy =>
      exact advance_induction (h.part (by simpa using hbusy)) fun _ index hstate =>
        hstate.clear index
  | part task =>
    show Phased (if state.busy task then state else state.part task)
    split
    · exact h
    · next hbusy => exact h.part (by simpa using hbusy)
  | register bus type listener => exact ⟨h.closing, h.remaining, h.busy⟩
  | deregister bus type listener => exact ⟨h.closing, h.remaining, h.busy⟩

theorem run (h : Phased state) (turns : List (Turn ι)) : Phased (state.run turns) := by
  induction turns using List.reverseRecOn with
  | nil => exact h
  | append_singleton earlier turn ih =>
    rw [run_concat]
    exact ih.step turn

end Phased

/-! ### Once a shutdown has finished -/

variable [DecidableEq ι]

theorem phases_run_of_finished {state : Underway ι} {task : Nat}
    (h : state.phases task = .finished) (turns : List (Turn ι)) :
    (state.run turns).phases task = .finished := by
  induction turns using List.reverseRecOn with
  | nil => exact h
  | append_singleton earlier turn ih =>
    rw [run_concat]
    exact phases_step_of_finished ih turn

theorem leaving_run_of_isWhole {state : Underway ι} (h : state.leaving = [])
    {turns : List (Turn ι)} (hwhole : ∀ turn ∈ turns, turn.isWhole = true) :
    (state.run turns).leaving = [] := by
  induction turns using List.reverseRecOn with
  | nil => exact h
  | append_singleton earlier turn ih =>
    rw [run_concat]
    refine leaving_step_of_isWhole (ih fun other hmem => ?_) (hwhole turn (by simp))
    exact hwhole other (List.mem_append_left _ hmem)

omit [DecidableEq ι] in
/-- Where nobody is live, everyone who was known was taken out once. -/
theorem Consistent.count_taken {member : Session ι → Prop} {own : ι → Prop} {state : Underway ι}
    (h : Consistent member own state) (hnone : state.server.sessions = []) {id : Nat}
    (hknown : id ∈ state.known) : state.taken.count id = 1 := by
  have hall : state.known = state.taken := by simp [known, Server.liveIds, hnone]
  have hnodup := h.nodup
  rw [hall] at hnodup hknown
  exact List.count_eq_one_of_mem hnodup hknown

/-- What holds once a shutdown has finished, whatever else was going on. No
connection is live, now and after any further turns, and none is attached any
more, so that nothing is registered. Every connection that was live before, in
particular when the server was marked, was taken out by exactly one detach, and
was told to stop, or is going to be when that detach comes to its end, which is
not one of the finished shutdown. Once all detaches have come to their end, all
of them were told to stop once, and no listener of theirs is left in any table.
If every detach is a single turn, that is so at any time. -/
theorem shutdown_final (settings : ServerSettings) {tables : Nat → Bus.Listeners ι}
    {turns : List (Turn ι)} (hfresh : Fresh tables turns) (task : Nat)
    (hfinished : ((start settings tables).run turns).phases task = .finished) :
    let state := (start settings tables).run turns
    (∀ later, (state.run later).phases task = .finished ∧
      (state.run later).server.activeConnections = [] ∧
      ∀ id connection listener, (state.run later).server.attach id connection listener =
        (none, (state.run later).server)) ∧
    (∀ before, before <+: turns →
      ∀ id ∈ ((start settings tables).run before).server.liveIds,
        state.taken.count id = 1 ∧
        state.server.signalled.count id + state.departing.count id = 1) ∧
    (∀ leaving ∈ state.leaving, leaving.shutdown? ≠ some task) ∧
    (state.leaving = [] → state.taken ~ state.server.signalled ∧
      ∀ new ∈ newcomers turns, ∀ bus type,
        new.listener ∉ (state.server.tables bus).list type) ∧
    ((∀ turn ∈ turns, turn.isWhole = true) → state.leaving = []) := by
  intro state
  have hphased : Phased state := (Phased.start settings tables).run turns
  have hnone : state.server.sessions = [] := hphased.sessions_eq_nil hfinished
  obtain ⟨hconsistent, -⟩ :=
    consistent_run_prefix settings hfresh (List.prefix_refl turns)
  refine ⟨fun later => ?_, fun before hbefore id hlive => ?_, fun leaving hmem htask => ?_,
    fun hleaving => ⟨?_, fun new hnew bus type hmem => ?_⟩, fun hwhole => ?_⟩
  · -- Whatever follows, the shutdown stays finished, so the server is closing and
    -- nobody is live.
    have hlater := phases_run_of_finished hfinished later
    have hphased' := hphased.run later
    refine ⟨hlater, ?_, fun id connection listener => ?_⟩
    · simp [Server.activeConnections, hphased'.sessions_eq_nil hlater]
    · have hclosing := hphased'.closing task (by rw [hlater]; simp)
      rw [Server.attach, if_pos hclosing]
  · -- Who was live then is known for good.
    obtain ⟨after, rfl⟩ := hbefore
    have hknown : id ∈ state.known := by
      show id ∈ ((start settings tables).run (before ++ after)).known
      rw [run_append]
      exact mem_known_run_of_mem (List.mem_append_left _ hlive) after
    have hcount := hconsistent.count_taken hnone hknown
    refine ⟨hcount, ?_⟩
    rw [← List.count_append, ← hconsistent.balance.count_eq]
    exact hcount
  · -- A detach on behalf of the shutdown would mean that it is still detaching.
    obtain ⟨ids, hids⟩ := hphased.busy leaving hmem task htask
    rw [hfinished] at hids
    cases hids
  · have hbalance : state.taken ~ state.server.signalled ++ state.departing :=
      hconsistent.balance
    rwa [departing, hleaving, List.map_nil, List.append_nil] at hbalance
  · -- It could only be there for a connection that is live or being detached.
    obtain ⟨-, ⟨-, session, hsession, -⟩ | ⟨leaving, hmem, -⟩⟩ :=
      hconsistent.placed bus type new.listener ⟨new, hnew, rfl⟩ hmem
    · rw [hnone] at hsession
      exact absurd hsession List.not_mem_nil
    · rw [hleaving] at hmem
      exact absurd hmem List.not_mem_nil
  · exact leaving_run_of_isWhole rfl hwhole

/-! Two connections are live on two sources when a shutdown begins. One of them
is being closed by someone else, a third one is attached while the shutdown is
under way, and a fourth one after it. -/

/-- The buses have one listener of another. -/
theorem notMem_sharedTables {listener : Nat} (h : listener ≠ 1) (bus : Nat) (type : MessageType) :
    listener ∉ (Server.sharedTables bus).list type := by
  simp [Server.sharedTables, Bus.Listeners.mem_register, Bus.Listeners.empty, h]

def racedTurns : List (Turn Nat) :=
  [.addSource 0, .addSource 1, .attach (Server.client 1), .attach (Server.client 2),
    .advance 0, .takeOut 101, .attach (Server.client 3), .clear 0, .advance 0, .part 0,
    .clear 0, .clear 1, .clear 1, .clear 0, .clear 0, .advance 0, .attach (Server.client 4)]

theorem shutdown_final_raced :
    let state := (start Server.sharedSettings Server.sharedTables).run racedTurns
    state.phases 0 = .finished ∧ state.leaving = [] ∧
    state.server.activeConnections = [] ∧
    state.taken.count 101 = 1 ∧ state.server.signalled.count 101 = 1 ∧
    state.taken ~ state.server.signalled ∧
    ∀ bus, 12 ∉ (state.server.tables bus).list 5 := by
  have hfresh : Fresh Server.sharedTables racedTurns := by
    refine ⟨by decide, ?_, ?_⟩
    · have hothers : ∀ listener ∈ (newcomers racedTurns).map Session.listener, listener ≠ 1 := by
        decide
      exact fun new hnew => notMem_sharedTables (hothers _ (List.mem_map_of_mem hnew))
    · intro bus type listener hmem
      exact absurd hmem (by simp [racedTurns])
  obtain ⟨hfinal, hbefore, -, hdone, -⟩ :=
    shutdown_final Server.sharedSettings hfresh 0 (by rfl)
  have hleaving :
      ((start Server.sharedSettings Server.sharedTables).run racedTurns).leaving = [] := by
    rfl
  obtain ⟨hperm, habsent⟩ := hdone hleaving
  have hlive := hbefore (racedTurns.take 4) (List.take_prefix _ _) 101 (by decide)
  refine ⟨by rfl, hleaving, (hfinal []).2.1, hlive.1, ?_, hperm, fun bus => ?_⟩
  · simpa [departing, hleaving] using hlive.2
  · exact habsent (Server.client 2) (by simp [newcomers, racedTurns, Turn.attached?]) bus 5

end Underway

end SensorGateway.Forwarder
