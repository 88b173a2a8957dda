import Mathlib.Data.List.Forall2
import SensorGateway.Proofs.Bus.History

/-!
# `SensorGateway.Proofs.Bus.Sharing`: snapshots of lists that are replaced

A dispatch goes through a list of listeners while others register and take
off. It holds no copy: a list is stored once and shared, and whoever changes
the list of a type stores another one in its place. `Storage` is a table
kept this way. A snapshot is the place of a stored list.

* `Represents`: the lists that a storage keeps are those of a table, and
  types without listeners take no room. `represents_serveAll` says that this
  stays so, with the same answers.
* `serve_stored`: what is stored stays what it is.
* `serveAll_listeners`: all of this for any calls, together with what stands
  after them.
-/

set_option autoImplicit false

namespace SensorGateway.Bus.Listeners

variable {ι : Type}

/-- Lists of listeners that are shared. A list is stored at the next place
that is free, and the current list of a type is known by its place. -/
structure Storage (ι : Type) where
  /-- Everything stored so far, place by place. -/
  stored : List (List ι)
  /-- Where the list of a type is; nowhere if the type has no listeners. -/
  place? : MessageType → Option Nat

namespace Storage

/-- Nothing is stored. -/
def empty : Storage ι := ⟨[], fun _ => none⟩

/-- The list at a place. -/
def read? (storage : Storage ι) (place : Nat) : Option (List ι) := storage.stored[place]?

/-- The current list of a type. -/
def list (storage : Storage ι) (type : MessageType) : List ι :=
  ((storage.place? type).bind storage.read?).getD []

/-- Stores a list, which becomes the current one of a type. -/
def replace (storage : Storage ι) (type : MessageType) (list : List ι) : Storage ι where
  stored := storage.stored ++ [list]
  place? other := if other = type then some storage.stored.length else storage.place? other

/-- Forgets where the list of a type is. -/
def forget (storage : Storage ι) (type : MessageType) : Storage ι where
  stored := storage.stored
  place? other := if other = type then none else storage.place? other

/-- The place of the current list of a type. For a type without listeners an
empty list is stored. -/
def snapshot (storage : Storage ι) (type : MessageType) : Nat × Storage ι :=
  match storage.place? type with
  | some place => (place, storage)
  | none => (storage.stored.length, { storage with stored := storage.stored ++ [[]] })

variable [DecidableEq ι]

/-- Stores the list of a type with one more listener. -/
def register (storage : Storage ι) (type : MessageType) (listener : ι) : Bool × Storage ι :=
  if listener ∈ storage.list type then (false, storage)
  else (true, storage.replace type (storage.list type ++ [listener]))

/-- Stores the list of a type without a listener, or forgets it if it was the
last one. -/
def deregister (storage : Storage ι) (type : MessageType) (listener : ι) : Bool × Storage ι :=
  if listener ∈ storage.list type then
    let others := (storage.list type).filter (· ≠ listener)
    (true, if others = [] then storage.forget type else storage.replace type others)
  else (false, storage)

/-- Serves one call. Lists are told by their places. -/
def serve (storage : Storage ι) : Request ι → Answer Nat × Storage ι
  | .register type listener =>
    let (success, after) := storage.register type listener
    (.changed success, after)
  | .deregister type listener =>
    let (success, after) := storage.deregister type listener
    (.changed success, after)
  | .snapshot type =>
    let (place, after) := storage.snapshot type
    (.listed place, after)

end Storage

/-! ### What is stored -/

/-- A list is kept at a place, or is empty and kept nowhere. -/
inductive KeptAt (stored : List (List ι)) : Option Nat → List ι → Prop where
  | nowhere : KeptAt stored none []
  | place {place : Nat} {list : List ι} (hread : stored[place]? = some list) (hne : list ≠ []) :
    KeptAt stored (some place) list

/-- The lists that a storage keeps are those of a table. -/
def Represents (storage : Storage ι) (table : Listeners ι) : Prop :=
  ∀ type, KeptAt storage.stored (storage.place? type) (table.list type)

/-- Answers with places say the same as answers with lists. -/
inductive Agree (stored : List (List ι)) : Answer Nat → Answer (List ι) → Prop where
  | changed {success : Bool} : Agree stored (.changed success) (.changed success)
  | listed {place : Nat} {list : List ι} (hread : stored[place]? = some list) :
    Agree stored (.listed place) (.listed list)

/-- What is at a place is there after more was stored. -/
theorem read_later {stored later : List (List ι)} (h : stored <+: later) {place : Nat}
    {list : List ι} (hread : stored[place]? = some list) : later[place]? = some list := by
  obtain ⟨more, rfl⟩ := h
  obtain ⟨hlt, -⟩ := List.getElem?_eq_some_iff.mp hread
  rw [List.getElem?_append_left hlt, hread]

theorem KeptAt.later {stored later : List (List ι)} {place? : Option Nat} {list : List ι}
    (h : KeptAt stored place? list) (hlater : stored <+: later) : KeptAt later place? list := by
  cases h with
  | nowhere => exact .nowhere
  | place hread hne => exact .place (read_later hlater hread) hne

theorem Agree.later {stored later : List (List ι)} {answer : Answer Nat}
    {told : Answer (List ι)} (h : Agree stored answer told) (hlater : stored <+: later) :
    Agree later answer told := by
  cases h with
  | changed => exact .changed
  | listed hread => exact .listed (read_later hlater hread)

/-- A list that is kept is the current one of its type. -/
theorem Represents.list_eq {storage : Storage ι} {table : Listeners ι}
    (h : Represents storage table) (type : MessageType) : storage.list type = table.list type := by
  have hkept := h type
  unfold Storage.list Storage.read?
  generalize storage.place? type = place? at hkept ⊢
  generalize table.list type = list at hkept ⊢
  cases hkept with
  | nowhere => rfl
  | place hread hne =>
    show (storage.stored[_]?).getD [] = list
    rw [hread]
    rfl

theorem represents_empty : Represents Storage.empty (empty : Listeners ι) := fun _ => .nowhere

/-! ### Single calls -/

/-- A list that was stored in the place of another is kept, and all others
still are. -/
theorem Represents.replace {storage : Storage ι} {table after : Listeners ι}
    (h : Represents storage table) {type : MessageType} {list : List ι} (hne : list ≠ [])
    (hlist : after.list type = list)
    (hothers : ∀ other, other ≠ type → after.list other = table.list other) :
    Represents (storage.replace type list) after := by
  intro other
  by_cases htype : other = type
  · subst htype
    show KeptAt _ (if other = other then some storage.stored.length else _) _
    rw [if_pos rfl, hlist]
    exact .place (List.getElem?_concat_length ..) hne
  · show KeptAt _ (if other = type then some storage.stored.length else _) _
    rw [if_neg htype, hothers other htype]
    exact (h other).later (List.prefix_append _ _)

/-- So is a list without listeners, by being forgotten. -/
theorem Represents.forget {storage : Storage ι} {table after : Listeners ι}
    (h : Represents storage table) {type : MessageType} (hlist : after.list type = [])
    (hothers : ∀ other, other ≠ type → after.list other = table.list other) :
    Represents (storage.forget type) after := by
  intro other
  by_cases htype : other = type
  · subst htype
    show KeptAt _ (if other = other then none else _) _
    rw [if_pos rfl, hlist]
    exact .nowhere
  · show KeptAt _ (if other = type then none else _) _
    rw [if_neg htype, hothers other htype]
    exact h other

/-- A place that is given out for the list of a type holds this list. -/
theorem Represents.read_snapshot {storage : Storage ι} {table : Listeners ι}
    (h : Represents storage table) (type : MessageType) :
    (storage.snapshot type).2.stored[(storage.snapshot type).1]? = some (table.list type) ∧
      Represents (storage.snapshot type).2 table := by
  have hkept := h type
  unfold Storage.snapshot
  cases hplace : storage.place? type with
  | none =>
    rw [hplace] at hkept
    generalize table.list type = list at hkept ⊢
    cases hkept
    exact ⟨List.getElem?_concat_length .., fun other => (h other).later (List.prefix_append _ _)⟩
  | some place =>
    rw [hplace] at hkept
    refine ⟨?_, h⟩
    generalize table.list type = list at hkept ⊢
    cases hkept with
    | place hread hne => exact hread

variable [DecidableEq ι]

/-- What is stored stays what it is, whatever is called. -/
theorem serve_stored (storage : Storage ι) (request : Request ι) :
    storage.stored <+: (storage.serve request).2.stored := by
  cases request with
  | register type listener =>
    show storage.stored <+: (storage.register type listener).2.stored
    unfold Storage.register
    split
    · exact List.prefix_rfl
    · exact List.prefix_append _ _
  | deregister type listener =>
    show storage.stored <+: (storage.deregister type listener).2.stored
    unfold Storage.deregister
    split
    · show storage.stored <+: Storage.stored (if _ then _ else _)
      split
      · exact List.prefix_rfl
      · exact List.prefix_append _ _
    · exact List.prefix_rfl
  | snapshot type =>
    show storage.stored <+: (storage.snapshot type).2.stored
    unfold Storage.snapshot
    split
    · exact List.prefix_rfl
    · exact List.prefix_append _ _

/-- A call on a storage is answered like the same call on its table, and the
storage keeps the lists of the table afterwards. -/
theorem Represents.serve {storage : Storage ι} {table : Listeners ι}
    (h : Represents storage table) (request : Request ι) :
    Agree (storage.serve request).2.stored (storage.serve request).1 (table.serve request).1 ∧
      Represents (storage.serve request).2 (table.serve request).2 := by
  have hserved := table.served request
  generalize (table.serve request).1 = told at hserved ⊢
  generalize (table.serve request).2 = after at hserved ⊢
  cases hserved with
  | @registered type listener _ hnew hlist hothers =>
    simp only [Storage.serve, Storage.register, h.list_eq, if_neg hnew]
    exact ⟨.changed, h.replace (by simp) hlist hothers⟩
  | known hmem =>
    simp only [Storage.serve, Storage.register, h.list_eq, if_pos hmem]
    exact ⟨.changed, h⟩
  | @deregistered type listener _ hmem hlist hothers =>
    simp only [Storage.serve, Storage.deregister, h.list_eq, if_pos hmem]
    refine ⟨.changed, ?_⟩
    -- The last listener of a type leaves no list behind.
    split
    · next hnone => exact h.forget (hlist.trans hnone) hothers
    · next hsome => exact h.replace hsome hlist hothers
  | unknown hnew =>
    simp only [Storage.serve, Storage.deregister, h.list_eq, if_neg hnew]
    exact ⟨.changed, h⟩
  | @listed type =>
    obtain ⟨hread, hkept⟩ := h.read_snapshot type
    exact ⟨.listed hread, hkept⟩

/-! ### Runs -/

/-- What is stored stays what it is through any number of calls. -/
theorem serveAll_stored (storage : Storage ι) (requests : List (Request ι)) :
    storage.stored <+: (serveAll Storage.serve storage requests).2.stored := by
  induction requests generalizing storage with
  | nil => exact List.prefix_rfl
  | cons request rest ih => exact (serve_stored storage request).trans (ih _)

/-- After any number of calls a storage keeps the lists of the table that
served the same calls, and every answer it gave still says what the table
answered at the time. Induction from the last call on: no earlier answer
loses its list to it. -/
theorem represents_serveAll (requests : List (Request ι)) :
    Represents (serveAll Storage.serve .empty requests).2 (serveAll serve empty requests).2 ∧
      List.Forall₂ (Agree (serveAll Storage.serve .empty requests).2.stored)
        (serveAll Storage.serve .empty requests).1 (serveAll serve empty requests).1 := by
  induction requests using List.reverseRecOn with
  | nil => exact ⟨represents_empty, .nil⟩
  | append_singleton before request ih =>
    obtain ⟨hkept, hanswers⟩ := ih
    obtain ⟨hanswer, hafter⟩ := hkept.serve request
    rw [serveAll_concat, serveAll_concat]
    refine ⟨hafter, List.rel_append ?_ (.cons hanswer .nil)⟩
    exact hanswers.imp fun _ _ hagree => hagree.later (serve_stored _ request)

/-- After any calls on a table that was empty, every list holds the listeners
whose latest successful call registered them, in the order of these calls
and none of them twice. The next call, whatever it is, is answered by what
its list holds and changes nothing else. Where lists are shared, all calls
were answered the same, every type has the same list, and a snapshot shows
the list it was taken of after any later calls. -/
theorem serveAll_listeners (before later : List (Request ι)) :
    (∀ type, ((serveAll serve empty before).2.list type).Nodup ∧
      (serveAll serve empty before).2.list type =
        standing type (changes before (serveAll serve empty before).1) ∧
      (serveAll Storage.serve .empty before).2.list type =
        (serveAll serve empty before).2.list type) ∧
    (∀ request, Served (serveAll serve empty before).2 request
      ((serveAll serve empty before).2.serve request).1
      ((serveAll serve empty before).2.serve request).2) ∧
    List.Forall₂ (Agree (serveAll Storage.serve .empty before).2.stored)
      (serveAll Storage.serve .empty before).1 (serveAll serve empty before).1 ∧
    ∀ type, ∃ place,
      ((serveAll Storage.serve .empty before).2.serve (.snapshot type)).1 = .listed place ∧
      (serveAll Storage.serve
        ((serveAll Storage.serve .empty before).2.serve (.snapshot type)).2 later).2.read? place =
          some ((serveAll serve empty before).2.list type) := by
  -- The storage is followed along its table, where lists are known by the calls.
  obtain ⟨hkept, hanswers⟩ := represents_serveAll before
  refine ⟨?_, fun request => served _ request, hanswers, ?_⟩
  · intro type
    exact ⟨Listeners.nodup _ type, list_serveAll before type, hkept.list_eq type⟩
  · intro type
    obtain ⟨hread, -⟩ := hkept.read_snapshot type
    exact ⟨_, rfl, read_later (serveAll_stored _ later) hread⟩

end SensorGateway.Bus.Listeners
