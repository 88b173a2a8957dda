import Mathlib.Tactic.Tauto
import SensorGateway.Proofs.Forwarder.Operations

/-!
# `SensorGateway.Proofs.Forwarder.Subscription`: who is subscribed where

The server draws messages from its sources through listeners, one for each
live connection. A source may be added late or twice, a connection may be
ended twice, and others use the same tables of listeners.

* `Consistent` ties the tables to the server: its own listeners are those of
  the live connections, on its sources and nowhere else, and the rest of the
  tables is what others made of them.
* `Consistent.apply`, `consistent_run`: every operation keeps that, and so it
  holds after all of them.
* `pairwise_activeConnections`: live connections are listed in the order of
  their numbers.
* `run_subscriptions`: all of it together, for every run.
-/

set_option autoImplicit false

open scoped List

namespace SensorGateway.Forwarder.Server

variable {ι : Type}

/-! ### What the server keeps -/

/-- What is none of the server's business: everything but its own listeners
for its own type. -/
def foreign (own : MessageType) (relay : ι → Bool) (type : MessageType) (listener : ι) : Bool :=
  type != own || !relay listener

theorem foreign_own (own : MessageType) (relay : ι → Bool) :
    foreign own relay own = fun listener => !relay listener := by
  funext listener
  simp [foreign]

theorem foreign_of_ne {own type : MessageType} (h : type ≠ own) (relay : ι → Bool) :
    foreign own relay type = fun _ => true := by
  funext listener
  simp [foreign, h]

/-- The server's listeners, those for which `relay` holds, are those of the
live connections: they are on its sources for its type and nowhere else. The
rest of the tables is that of `others`. -/
structure Consistent (relay : ι → Bool) (others : Nat → Bus.Listeners ι) (server : Server ι) :
    Prop where
  nodup_ids : server.liveIds.Nodup
  nodup_listeners : (server.sessions.map Session.listener).Nodup
  relays : ∀ listener ∈ server.sessions.map Session.listener, relay listener = true
  mem_iff : ∀ bus listener, relay listener = true →
    (listener ∈ (server.tables bus).list server.settings.messageType ↔
      bus ∈ server.sources ∧ listener ∈ server.sessions.map Session.listener)
  rest : ∀ bus, (server.tables bus).only (foreign server.settings.messageType relay) = others bus

/-- What operations have to keep to. A connection that is attached has a
listener of the server's, and no live connection has its id or its listener.
Others leave the server's listeners alone. -/
def Fits (relay : ι → Bool) (server : Server ι) : Operation ι → Prop
  | .attach new => relay new.listener = true ∧ new.id ∉ server.liveIds ∧
      new.listener ∉ server.sessions.map Session.listener
  | .register _ type listener | .deregister _ type listener =>
    type = server.settings.messageType → relay listener = false
  | _ => True

/-- What is asked of a run. Connections that are attached have ids of their
own and listeners of their own. `relay` tells these listeners from those that
others have for the type of the server, before the run or during it. -/
structure Fresh (own : MessageType) (relay : ι → Bool) (tables : Nat → Bus.Listeners ι)
    (operations : List (Operation ι)) : Prop where
  ids : ((attached operations).map Session.id).Nodup
  listeners : ((attached operations).map Session.listener).Nodup
  relays : ∀ new ∈ attached operations, relay new.listener = true
  tables : ∀ bus, ∀ listener ∈ (tables bus).list own, relay listener = false
  others : ∀ bus listener,
    .register bus own listener ∈ operations ∨ .deregister bus own listener ∈ operations →
      relay listener = false

/-- The operations up to one of them are a run, too. -/
theorem Fresh.of_concat {own : MessageType} {relay : ι → Bool} {tables : Nat → Bus.Listeners ι}
    {operations : List (Operation ι)} {operation : Operation ι}
    (h : Fresh own relay tables (operations ++ [operation])) :
    Fresh own relay tables operations := by
  have hattached : attached operations <+ attached (operations ++ [operation]) := by
    rw [attached, attached, List.filterMap_append]
    exact List.sublist_append_left _ _
  refine ⟨h.ids.sublist (hattached.map _), h.listeners.sublist (hattached.map _), ?_, h.tables, ?_⟩
  · intro new hmem
    exact h.relays new (hattached.subset hmem)
  · intro bus listener hother
    refine h.others bus listener (hother.imp ?_ ?_)
    · exact List.mem_append_left _
    · exact List.mem_append_left _

/-- Such operations fit the server they come to. -/
theorem Fresh.fits {relay : ι → Bool} {tables : Nat → Bus.Listeners ι}
    {operations : List (Operation ι)} {operation : Operation ι} {server : Server ι}
    (h : Fresh server.settings.messageType relay tables (operations ++ [operation]))
    (hlive : ∀ session ∈ server.sessions, Live operations session) :
    server.Fits relay operation := by
  cases operation with
  | attach new =>
    have hsplit : attached (operations ++ [.attach new]) = attached operations ++ [new] :=
      List.filterMap_append
    obtain ⟨hids, hlisteners, hrelays, -, -⟩ := h
    rw [hsplit] at hids hlisteners hrelays
    rw [List.map_append, List.nodup_append] at hids hlisteners
    -- The live connections are among those that were attached before.
    have hbefore : ∀ session ∈ server.sessions, ∃ old ∈ attached operations,
        session = old.streaming :=
      fun session hmem => exists_attached_of_live (hlive session hmem)
    refine ⟨hrelays new (by simp), ?_, ?_⟩
    · intro hmem
      obtain ⟨session, hsession, hid⟩ := List.mem_map.mp hmem
      obtain ⟨old, hold, rfl⟩ := hbefore session hsession
      exact hids.2.2 _ (List.mem_map_of_mem hold) new.id (by simp) hid
    · intro hmem
      obtain ⟨session, hsession, hlistener⟩ := List.mem_map.mp hmem
      obtain ⟨old, hold, rfl⟩ := hbefore session hsession
      exact hlisteners.2.2 _ (List.mem_map_of_mem hold) new.listener (by simp) hlistener
  | register bus type listener =>
    rintro rfl
    exact h.others bus listener (.inl (by simp))
  | deregister bus type listener =>
    rintro rfl
    exact h.others bus listener (.inr (by simp))
  | _ => trivial

namespace Consistent

variable {relay : ι → Bool} {others : Nat → Bus.Listeners ι} {server : Server ι}

theorem foreign_eq_false {own : MessageType} {listener : ι} (h : relay listener = true) :
    foreign own relay own listener = false := by
  simp [foreign_own, h]

theorem foreign_eq_true {own type : MessageType} {listener : ι}
    (h : type = own → relay listener = false) : foreign own relay type listener = true := by
  by_cases htype : type = own
  · simp [htype, foreign_own, h htype]
  · rw [foreign_of_ne htype]

/-- A server that nothing was done to. -/
theorem start {settings : ServerSettings} {tables : Nat → Bus.Listeners ι}
    (h : ∀ bus, ∀ listener ∈ (tables bus).list settings.messageType, relay listener = false) :
    Consistent relay tables { settings, tables } := by
  refine ⟨List.nodup_nil, List.nodup_nil, by simp, ?mem_iff, ?rest⟩
  case mem_iff =>
    intro bus listener hrelay
    have habsent : listener ∉ (tables bus).list settings.messageType := by
      intro hmem
      exact absurd (h bus listener hmem) (by simp [hrelay])
    simpa using habsent
  case rest =>
    -- All listeners are those of others.
    intro bus
    refine Bus.Listeners.eq_of_list_eq fun type => ?_
    rw [Bus.Listeners.list_only, List.filter_eq_self]
    intro listener hmem
    exact foreign_eq_true fun htype => h bus listener (htype ▸ hmem)

/-- A change of one bus that others make, which moves none of the server's
listeners, is the same change of their part. -/
theorem change (h : Consistent relay others server) (bus : Nat)
    {f : Bus.Listeners ι → Bus.Listeners ι}
    (hmem : ∀ table listener, relay listener = true →
      (listener ∈ (f table).list server.settings.messageType ↔
        listener ∈ table.list server.settings.messageType))
    (hrest : ∀ table, (f table).only (foreign server.settings.messageType relay) =
      f (table.only (foreign server.settings.messageType relay))) :
    Consistent relay (fun b => if b = bus then f (others bus) else others b)
      { server with tables := fun b =>
          if b = bus then f (server.tables bus) else server.tables b } := by
  refine ⟨h.nodup_ids, h.nodup_listeners, h.relays, ?mem_iff, ?rest⟩
  case mem_iff =>
    intro b listener hrelay
    show listener ∈ (if b = bus then _ else _ : Bus.Listeners ι).list _ ↔ _
    rw [← h.mem_iff b listener hrelay]
    by_cases hbus : b = bus
    · rw [if_pos hbus, hmem _ _ hrelay, hbus]
    · rw [if_neg hbus]
  case rest =>
    intro b
    show (if b = bus then _ else _ : Bus.Listeners ι).only _ = if b = bus then _ else _
    split
    · rw [hrest, h.rest]
    · exact h.rest b

theorem markClosing (h : Consistent relay others server) :
    Consistent relay others server.markClosing :=
  ⟨h.nodup_ids, h.nodup_listeners, h.relays, h.mem_iff, h.rest⟩

/-- Ids and listeners tell the same connections apart: without one of them,
its listener is missing and no other is. -/
theorem mem_remaining (h : Consistent relay others server) {session : Session ι}
    (hsession : session ∈ server.sessions) (listener : ι) :
    listener ∈ (server.sessions.filter fun other => other.id != session.id).map
        Session.listener ↔
      listener ∈ server.sessions.map Session.listener ∧ listener ≠ session.listener := by
  simp only [List.mem_map, List.mem_filter, bne_iff_ne]
  constructor
  · rintro ⟨other, ⟨hother, hne⟩, rfl⟩
    refine ⟨⟨other, hother, rfl⟩, fun heq => hne ?_⟩
    rw [List.inj_on_of_nodup_map h.nodup_listeners hother hsession heq]
  · rintro ⟨⟨other, hother, rfl⟩, hne⟩
    refine ⟨other, ⟨hother, fun heq => hne ?_⟩, rfl⟩
    rw [List.inj_on_of_nodup_map h.nodup_ids hother hsession heq]

variable [DecidableEq ι]

/-- The connections that are live get onto a source that is added late, and
once more onto one that is there already, which changes nothing. -/
theorem addSource (h : Consistent relay others server) (bus : Nat) :
    Consistent relay others (server.addSource bus) := by
  rw [addSource_eq]
  refine ⟨h.nodup_ids, h.nodup_listeners, h.relays, ?mem_iff, ?rest⟩
  case mem_iff =>
    intro b listener hrelay
    show listener ∈ (if b = bus then _ else _ : Bus.Listeners ι).list _ ↔
      b ∈ server.sources ++ [bus] ∧ _
    rw [List.mem_append, List.mem_singleton]
    by_cases hbus : b = bus
    · rw [if_pos hbus, Bus.Listeners.mem_registerAll, h.mem_iff b listener hrelay]
      tauto
    · rw [if_neg hbus, h.mem_iff b listener hrelay]
      tauto
  case rest =>
    intro b
    show (if b = bus then _ else _ : Bus.Listeners ι).only _ = others b
    split
    · rw [Bus.Listeners.only_registerAll_of_not, h.rest]
      intro listener hmem
      exact foreign_eq_false (h.relays listener hmem)
    · exact h.rest b

/-- A connection that is attached gets onto all sources. -/
theorem attach (h : Consistent relay others server) {new : Session ι}
    (hrelay : relay new.listener = true) (hid : new.id ∉ server.liveIds)
    (hlistener : new.listener ∉ server.sessions.map Session.listener) :
    Consistent relay others (server.attach new.id new.connection new.listener).2 := by
  cases hclosing : server.closing with
  | true =>
    rw [attach_eq_of_closing hclosing]
    exact h
  | false =>
    rw [attach_eq_of_open hclosing hid]
    have hlisteners : (server.sessions ++ [new.streaming]).map Session.listener =
        server.sessions.map Session.listener ++ [new.listener] := List.map_append
    refine ⟨?nodup_ids, ?nodup_listeners, ?relays, ?mem_iff, ?rest⟩
    case nodup_ids =>
      show ((server.sessions ++ [new.streaming]).map Session.id).Nodup
      rw [List.map_append]
      exact Bus.Listeners.nodup_concat h.nodup_ids hid
    case nodup_listeners =>
      rw [hlisteners]
      exact Bus.Listeners.nodup_concat h.nodup_listeners hlistener
    case relays =>
      intro listener hmem
      rw [hlisteners, List.mem_append, List.mem_singleton] at hmem
      rcases hmem with hmem | rfl
      · exact h.relays listener hmem
      · exact hrelay
    case mem_iff =>
      intro bus listener hl
      rw [hlisteners, List.mem_append, List.mem_singleton]
      show listener ∈ (if bus ∈ server.sources then _ else _ : Bus.Listeners ι).list _ ↔ _
      by_cases hsource : bus ∈ server.sources
      · rw [if_pos hsource, Bus.Listeners.mem_register, h.mem_iff bus listener hl]
        tauto
      · rw [if_neg hsource, h.mem_iff bus listener hl]
        tauto
    case rest =>
      intro bus
      show (if bus ∈ server.sources then _ else _ : Bus.Listeners ι).only _ = others bus
      split
      · rw [Bus.Listeners.only_register_of_not _ (foreign_eq_false hrelay), h.rest]
      · exact h.rest bus

/-- A connection that is detached gets off all sources, and the others stay
on them. -/
theorem detach (h : Consistent relay others server) (id : Nat) :
    Consistent relay others (server.detach id).2 := by
  by_cases hlive : id ∈ server.liveIds
  case neg =>
    rw [detach_eq_of_notMem hlive]
    exact h
  obtain ⟨session, hsession, rfl⟩ := List.mem_map.mp hlive
  rw [detach_eq_of_mem h.nodup_ids hsession]
  have hrelay : relay session.listener = true := h.relays _ (List.mem_map_of_mem hsession)
  refine ⟨?nodup_ids, ?nodup_listeners, ?relays, ?mem_iff, ?rest⟩
  case nodup_ids => exact h.nodup_ids.sublist (List.filter_sublist.map _)
  case nodup_listeners => exact h.nodup_listeners.sublist (List.filter_sublist.map _)
  case relays =>
    intro listener hmem
    exact h.relays listener ((h.mem_remaining hsession listener).mp hmem).1
  case mem_iff =>
    intro bus listener hl
    rw [h.mem_remaining hsession]
    show listener ∈ (if bus ∈ server.sources then _ else _ : Bus.Listeners ι).list _ ↔ _
    by_cases hsource : bus ∈ server.sources
    · rw [if_pos hsource, Bus.Listeners.mem_deregister, h.mem_iff bus listener hl]
      tauto
    · rw [if_neg hsource, h.mem_iff bus listener hl]
      tauto
  case rest =>
    intro bus
    show (if bus ∈ server.sources then _ else _ : Bus.Listeners ι).only _ = others bus
    split
    · rw [Bus.Listeners.only_deregister_of_not _ (foreign_eq_false hrelay), h.rest]
    · exact h.rest bus

theorem foldl_detach (h : Consistent relay others server) (ids : List Nat) :
    Consistent relay others (ids.foldl (fun server id => (server.detach id).2) server) := by
  induction ids generalizing server with
  | nil => exact h
  | cons id rest ih => exact ih (h.detach id)

/-- Shutting down is detaching one connection after the other. -/
theorem shutdownAll (h : Consistent relay others server) :
    Consistent relay others server.shutdownAll := h.markClosing.foldl_detach _

/-- What others do concerns their part of the tables only. -/
theorem outside (h : Consistent relay others server) {operation : Operation ι}
    (hfits : server.Fits relay operation) :
    Consistent relay (operation.outside others)
      { server with tables := operation.outside server.tables } := by
  cases operation with
  | register bus type listener =>
    refine h.change bus (fun table l hrelay => ?_) fun table =>
      Bus.Listeners.only_register _ (foreign_eq_true hfits) table
    -- A listener of the server is not the one that others register.
    have hother : ¬(server.settings.messageType = type ∧ l = listener) := by
      rintro ⟨rfl, rfl⟩
      exact absurd (hfits rfl) (by simp [hrelay])
    rw [Bus.Listeners.mem_register]
    tauto
  | deregister bus type listener =>
    refine h.change bus (fun table l hrelay => ?_) fun table =>
      Bus.Listeners.only_deregister _ table type listener
    have hother : ¬(server.settings.messageType = type ∧ l = listener) := by
      rintro ⟨rfl, rfl⟩
      exact absurd (hfits rfl) (by simp [hrelay])
    rw [Bus.Listeners.mem_deregister]
    tauto
  | _ => exact h

/-- Every operation keeps it. -/
theorem apply (h : Consistent relay others server) {operation : Operation ι}
    (hfits : server.Fits relay operation) :
    Consistent relay (operation.outside others) (server.apply operation) := by
  cases operation with
  | accept => exact ⟨h.nodup_ids, h.nodup_listeners, h.relays, h.mem_iff, h.rest⟩
  | addSource bus => exact h.addSource bus
  | attach new => exact h.attach hfits.1 hfits.2.1 hfits.2.2
  | detach id => exact h.detach id
  | shutdown id => exact h.detach id
  | close => exact h.markClosing
  | shutdownAll => exact h.shutdownAll
  | register bus type listener => exact h.outside hfits
  | deregister bus type listener => exact h.outside hfits

end Consistent

/-! ### Runs -/

variable [DecidableEq ι] {settings : ServerSettings} {relay : ι → Bool}
  {tables : Nat → Bus.Listeners ι}

/-- After any run the tables and the server fit together, and the live
connections are those that have to be. Induction on what was done. -/
theorem consistent_run {operations : List (Operation ι)}
    (h : Fresh settings.messageType relay tables operations) :
    Consistent relay (outsideAll operations tables)
        (run { settings, tables } operations) ∧
      ∀ session, session ∈ (run { settings, tables } operations).sessions ↔
        Live operations session := by
  induction operations using List.reverseRecOn with
  | nil =>
    refine ⟨.start h.tables, fun session => ?_⟩
    simp [run, Live]
  | append_singleton operations operation ih =>
    obtain ⟨hconsistent, hlive⟩ := ih h.of_concat
    obtain ⟨hsettings, -, hclosing⟩ := run_frame { settings, tables } operations
    have hfresh : Fresh (run { settings, tables } operations).settings.messageType relay tables
        (operations ++ [operation]) := by
      rw [hsettings]
      exact h
    have hfits := hfresh.fits fun session hmem => (hlive session).mp hmem
    rw [run_concat]
    refine ⟨?_, fun session => ?_⟩
    · rw [outsideAll, List.foldl_append]
      exact hconsistent.apply hfits
    · have hnew : ∀ new, operation = .attach new →
          new.id ∉ (run { settings, tables } operations).liveIds := by
        rintro new rfl
        exact hfits.2.1
      rw [mem_sessions_apply hnew, live_concat_iff, hlive session, hclosing]
      simp [and_comm]

/-! ### The order of connections -/

omit [DecidableEq ι] in
theorem perm_activeConnections (server : Server ι) :
    server.activeConnections ~ server.sessions.map Session.connection :=
  List.mergeSort_perm _ _

omit [DecidableEq ι] in
/-- Live connections are listed by their numbers. If no two have the same
number, these go up. -/
theorem pairwise_activeConnections {server : Server ι}
    (h : (server.sessions.map fun session => session.connection.ordinal).Nodup) :
    server.activeConnections.Pairwise fun a b => a.ordinal < b.ordinal := by
  have hsorted : server.activeConnections.Pairwise fun a b =>
      decide (a.ordinal ≤ b.ordinal) = true := by
    refine List.pairwise_mergeSort ?_ ?_ _
    · intro a b c hab hbc
      exact decide_eq_true (Nat.le_trans (of_decide_eq_true hab) (of_decide_eq_true hbc))
    · intro a b
      simpa using Nat.le_total a.ordinal b.ordinal
  have hdistinct : server.activeConnections.Pairwise fun a b => a.ordinal ≠ b.ordinal := by
    have hperm := server.perm_activeConnections.map Connection.ordinal
    rw [List.map_map] at hperm
    exact List.pairwise_map.mp (hperm.nodup_iff.mpr h)
  refine hsorted.imp₂ (fun a b hle hne => ?_) hdistinct
  exact Nat.lt_of_le_of_ne (of_decide_eq_true hle) hne

omit [DecidableEq ι] in
/-- Live connections have numbers of their own if all that were attached
have. -/
theorem nodup_ordinals {server : Server ι} {operations : List (Operation ι)}
    (hids : server.liveIds.Nodup) (hlive : ∀ session ∈ server.sessions, Live operations session)
    (h : ((attached operations).map fun new => new.connection.ordinal).Nodup) :
    (server.sessions.map fun session => session.connection.ordinal).Nodup := by
  refine List.Nodup.map_on ?_ hids.of_map
  intro first hfirst second hsecond heq
  obtain ⟨new, hnew, rfl⟩ := exists_attached_of_live (hlive first hfirst)
  obtain ⟨other, hother, rfl⟩ := exists_attached_of_live (hlive second hsecond)
  rw [List.inj_on_of_nodup_map h hnew hother heq]

/-! ### All of it -/

/-- What holds after every run of operations, and so after every single one,
since those up to it are a run as well. On each source the server's own
listeners are those of the live connections, each of them once. All other
listeners there, and all lists of other types, are those that others alone
would have made, in the same order. The sources are those that were added,
and the live connections are those that were attached and not ended. They
stream, and they are listed once each. If every connection that was attached
has a number that was drawn for it, they are listed in the order of their
numbers. -/
theorem run_subscriptions {operations : List (Operation ι)}
    (h : Fresh settings.messageType relay tables operations) :
    let server := run { settings, tables } operations
    let others := outsideAll operations tables
    (∀ bus ∈ server.sources,
      ((server.tables bus).list settings.messageType).filter relay ~
        server.sessions.map Session.listener) ∧
    (server.sessions.map Session.listener).Nodup ∧
    (∀ bus,
      ((server.tables bus).list settings.messageType).filter (fun listener => !relay listener) =
        (others bus).list settings.messageType ∧
      ∀ type, type ≠ settings.messageType →
        (server.tables bus).list type = (others bus).list type) ∧
    server.sources = operations.filterMap Operation.source? ∧
    (∀ session, session ∈ server.sessions ↔ Live operations session) ∧
    (∀ session ∈ server.sessions, session.connection.state = .streaming) ∧
    server.liveIds.Nodup ∧
    server.activeConnections ~ server.sessions.map Session.connection ∧
    ((attached operations).map (fun new => new.connection.ordinal) <+~
        drawn { settings, tables } operations →
      server.activeConnections.Pairwise fun a b => a.ordinal < b.ordinal) := by
  intro server others
  obtain ⟨hconsistent, hlive⟩ := consistent_run h
  obtain ⟨hsettings, hsources, -⟩ := run_frame { settings, tables } operations
  have hown : server.settings.messageType = settings.messageType := by rw [hsettings]
  have hmem := hconsistent.mem_iff
  have hrest := hconsistent.rest
  rw [hown] at hmem hrest
  refine ⟨?_, hconsistent.nodup_listeners, ?_, hsources, hlive, ?_, hconsistent.nodup_ids,
    server.perm_activeConnections, ?_⟩
  · -- Neither list holds a listener twice, so they only have to hold the same ones.
    intro bus hbus
    rw [List.perm_ext_iff_of_nodup (((server.tables bus).nodup _).filter _)
      hconsistent.nodup_listeners]
    intro listener
    rw [List.mem_filter]
    constructor
    · rintro ⟨hlistener, hrelay⟩
      exact ((hmem bus listener hrelay).mp hlistener).2
    · intro hlistener
      have hrelay := hconsistent.relays listener hlistener
      exact ⟨(hmem bus listener hrelay).mpr ⟨hbus, hlistener⟩, hrelay⟩
  · intro bus
    have hothers : others bus =
        (server.tables bus).only (foreign settings.messageType relay) := (hrest bus).symm
    rw [hothers]
    refine ⟨?_, fun type htype => ?_⟩
    · rw [Bus.Listeners.list_only, foreign_own]
    · rw [Bus.Listeners.list_only, foreign_of_ne htype, List.filter_true]
  · intro session hsession
    obtain ⟨new, -, rfl⟩ := exists_attached_of_live ((hlive session).mp hsession)
    rfl
  · -- Numbers that were drawn differ, so those of the connections do.
    rintro ⟨numbers, hperm, hsublist⟩
    have hnodup : (drawn { settings, tables } operations).Nodup :=
      (pairwise_drawn _ operations).2.imp Nat.ne_of_lt
    refine pairwise_activeConnections (nodup_ordinals hconsistent.nodup_ids
      (fun session hsession => (hlive session).mp hsession) ?_)
    exact hperm.nodup_iff.mp (hnodup.sublist hsublist)

/-! A server with two sources, one of them added late and the other twice.
Its second connection is attached first, its third one ends twice, and others
have a listener on both buses and register another. -/

def sharedSettings : ServerSettings :=
  ⟨⟨.v4 127 0 0 1, 9002⟩, 5, .current, 10, 16, 5000⟩

def sharedTables (_ : Nat) : Bus.Listeners Nat := (Bus.Listeners.empty.register 5 1).2

/-- A connection by its number. It has the listener ten further on. -/
def client (ordinal : Nat) : Session Nat :=
  ⟨100 + ordinal, ⟨ordinal, ⟨.v4 10 0 0 1, 4000⟩, .isOpen⟩, 10 + ordinal⟩

def sharedOperations : List (Operation Nat) :=
  [.addSource 0, .accept, .accept, .accept, .attach (client 2), .register 0 5 2,
    .attach (client 3), .addSource 1, .addSource 0, .attach (client 1), .detach 103, .shutdown 103]

theorem run_subscriptions_shared :
    let server := run { settings := sharedSettings, tables := sharedTables } sharedOperations
    (∀ bus ∈ [0, 1],
      ((server.tables bus).list 5).filter (fun listener => 10 ≤ listener) ~ [12, 11]) ∧
    ((server.tables 0).list 5).filter (fun listener => !decide (10 ≤ listener)) = [1, 2] ∧
    Live sharedOperations (client 1).streaming ∧
    server.activeConnections.Pairwise fun a b => a.ordinal < b.ordinal := by
  have hfresh : Fresh sharedSettings.messageType (fun listener => decide (10 ≤ listener))
      sharedTables sharedOperations := by
    refine ⟨by decide, by decide, by decide, ?_, ?_⟩
    · intro bus
      show ∀ listener ∈ [1], decide (10 ≤ listener) = false
      decide
    · intro bus listener h
      have hlistener : listener = 2 := by
        rcases h with h | h <;> simp [sharedOperations] at h
        exact h.2.2
      rw [hlistener]
      rfl
  obtain ⟨hrelays, -, hothers, hsources, hlive, -, -, -, hordered⟩ := run_subscriptions hfresh
  have hadded : ∀ bus ∈ [0, 1], bus ∈ sharedOperations.filterMap Operation.source? := by decide
  have hnumbers : [1, 2, 3] ~ [2, 3, 1] := by decide
  refine ⟨?_, (hothers 0).1, (hlive _).mp ?_, hordered ⟨_, hnumbers, List.Sublist.refl _⟩⟩
  · intro bus hbus
    exact hrelays bus (hsources ▸ hadded bus hbus)
  · exact List.mem_cons_of_mem _ List.mem_cons_self

end SensorGateway.Forwarder.Server
