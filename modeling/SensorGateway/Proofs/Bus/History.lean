import Mathlib.Data.List.Induction
import Mathlib.Data.List.Nodup
import SensorGateway.Proofs.Bus.Listeners

/-!
# `SensorGateway.Proofs.Bus.History`: what calls leave in a table

A table of listeners is called in any order: to register, to take off, and
to tell the list of a type. What a list is after any number of calls is said
here by the calls alone. `standing` picks the calls that registered a
listener which no later successful call was about, in the order of these
calls.

* `Served` says what each call is answered with and what it changes, and
  `served` that this is so.
* `standing_concat`: one more change moves its own listener to the end, or
  takes it out, and keeps the order of the others.
* `list_serveAll`: every list is what stands after the calls so far.
-/

set_option autoImplicit false

namespace SensorGateway.Bus

/-- Serves requests one after the other and collects the answers. -/
def serveAll {σ ρ α : Type} (serve : σ → ρ → α × σ) (state : σ) : List ρ → List α × σ
  | [] => ([], state)
  | request :: rest =>
    let (answer, after) := serve state request
    let (answers, final) := serveAll serve after rest
    (answer :: answers, final)

section

variable {σ ρ α : Type} (serve : σ → ρ → α × σ) (state : σ)

@[simp]
theorem length_serveAll (requests : List ρ) :
    (serveAll serve state requests).1.length = requests.length := by
  induction requests generalizing state with
  | nil => rfl
  | cons request rest ih =>
    show (serveAll serve (serve state request).2 rest).1.length + 1 = rest.length + 1
    rw [ih]

/-- Requests that follow are served where the others ended. -/
theorem serveAll_append (before later : List ρ) :
    serveAll serve state (before ++ later) =
      ((serveAll serve state before).1 ++
          (serveAll serve (serveAll serve state before).2 later).1,
        (serveAll serve (serveAll serve state before).2 later).2) := by
  induction before generalizing state with
  | nil => rfl
  | cons request rest ih =>
    rw [List.cons_append, serveAll, serveAll]
    simp only [ih, List.cons_append]

/-- The last request is served where the others ended. -/
theorem serveAll_concat (before : List ρ) (request : ρ) :
    serveAll serve state (before ++ [request]) =
      ((serveAll serve state before).1 ++ [(serve (serveAll serve state before).2 request).1],
        (serve (serveAll serve state before).2 request).2) :=
  serveAll_append serve state before [request]

end

namespace Listeners

variable {ι κ : Type}

/-! ### Calls -/

/-- A call on a table of listeners. -/
inductive Request (ι : Type) where
  | register (type : MessageType) (listener : ι)
  | deregister (type : MessageType) (listener : ι)
  /-- Asks for the list of a type. -/
  | snapshot (type : MessageType)
  deriving DecidableEq

/-- What a call is answered with: whether it changed the list of its type,
or what the list is. Lists are told by something of type `κ`. -/
inductive Answer (κ : Type) where
  | changed (success : Bool)
  | listed (snapshot : κ)
  deriving DecidableEq

/-- A call that changed the list of a type: it put a listener there, or took
it off. -/
structure Change (ι : Type) where
  type : MessageType
  listener : ι
  added : Bool
  deriving DecidableEq

/-- The change that a call made, if it was successful. -/
def change? : Request ι × Answer κ → Option (Change ι)
  | (.register type listener, .changed true) => some ⟨type, listener, true⟩
  | (.deregister type listener, .changed true) => some ⟨type, listener, false⟩
  | _ => none

/-- The changes that calls made, in order. -/
def changes (requests : List (Request ι)) (answers : List (Answer κ)) : List (Change ι) :=
  (requests.zip answers).filterMap change?

/-- One more call makes at most one more change. -/
theorem changes_concat {requests : List (Request ι)} {answers : List (Answer κ)}
    (h : answers.length = requests.length) (request : Request ι) (answer : Answer κ) :
    changes (requests ++ [request]) (answers ++ [answer]) =
      changes requests answers ++ (change? (request, answer)).toList := by
  rw [changes, changes, List.zip_append h.symm, List.filterMap_append]
  cases hchange : change? (request, answer) <;> simp [hchange]

variable [DecidableEq ι]

/-! ### Serving -/

/-- Serves one call. -/
def serve (table : Listeners ι) : Request ι → Answer (List ι) × Listeners ι
  | .register type listener =>
    let (success, after) := table.register type listener
    (.changed success, after)
  | .deregister type listener =>
    let (success, after) := table.deregister type listener
    (.changed success, after)
  | .snapshot type => (.listed (table.list type), table)

/-- What a call is answered with, and what it leaves. A listener that was not
there is put behind the others, one that was there is taken out of them, and
any other call changes nothing. Other types never change. -/
inductive Served (table : Listeners ι) : Request ι → Answer (List ι) → Listeners ι → Prop where
  | registered {type : MessageType} {listener : ι} {after : Listeners ι}
    (hnew : listener ∉ table.list type) (hlist : after.list type = table.list type ++ [listener])
    (hothers : ∀ other, other ≠ type → after.list other = table.list other) :
    Served table (.register type listener) (.changed true) after
  | known {type : MessageType} {listener : ι} (hmem : listener ∈ table.list type) :
    Served table (.register type listener) (.changed false) table
  | deregistered {type : MessageType} {listener : ι} {after : Listeners ι}
    (hmem : listener ∈ table.list type)
    (hlist : after.list type = (table.list type).filter (· ≠ listener))
    (hothers : ∀ other, other ≠ type → after.list other = table.list other) :
    Served table (.deregister type listener) (.changed true) after
  | unknown {type : MessageType} {listener : ι} (hnew : listener ∉ table.list type) :
    Served table (.deregister type listener) (.changed false) table
  | listed {type : MessageType} :
    Served table (.snapshot type) (.listed (table.list type)) table

/-- Every call is served like this. -/
theorem served (table : Listeners ι) (request : Request ι) :
    Served table request (table.serve request).1 (table.serve request).2 := by
  cases request with
  | register type listener =>
    by_cases hmem : listener ∈ table.list type
    · simp only [serve, register, dif_pos hmem]
      exact .known hmem
    · simp only [serve, register, dif_neg hmem]
      refine .registered hmem (if_pos rfl) ?_
      intro other hother
      exact if_neg hother
  | deregister type listener =>
    by_cases hmem : listener ∈ table.list type
    · simp only [serve, deregister, if_pos hmem]
      refine .deregistered hmem ?_ ?_
      · show (if type = type then (table.list type).erase listener else table.list type) = _
        rw [if_pos rfl, (table.nodup type).erase_eq_filter]
        simp only [ne_eq, decide_not, ← beq_eq_decide]
        rfl
      · intro other hother
        exact if_neg hother
    · simp only [serve, deregister, if_neg hmem]
      exact .unknown hmem
  | snapshot type => exact .listed

/-! ### Histories -/

/-- The listeners of a type whose latest change put them there, in the order
of these changes. -/
def standing (type : MessageType) : List (Change ι) → List ι
  | [] => []
  | change :: later =>
    if change.type = type ∧ change.added = true ∧
        ∀ next ∈ later, next.type = type → next.listener ≠ change.listener then
      change.listener :: standing type later
    else standing type later

/-- A change of a type leaves the other listeners as they stood, and its own
at the end if it put it there. Changes of other types leave all. Induction
over the changes before it: each of them is judged as before, but for those
about the same listener. -/
theorem standing_concat (type : MessageType) (before : List (Change ι)) (last : Change ι) :
    standing type (before ++ [last]) =
      if last.type = type then
        (standing type before).filter (· ≠ last.listener) ++
          if last.added then [last.listener] else []
      else standing type before := by
  induction before with
  | nil =>
    by_cases htype : last.type = type <;> by_cases hadded : last.added = true <;>
      simp [standing, htype, hadded]
  | cons change later ih =>
    rw [List.cons_append, standing, standing, ih]
    by_cases htype : last.type = type
    · by_cases hsame : last.listener = change.listener
      · -- The last change is about the same listener, so this one counts no
        -- more.
        have hlatest : ¬ ∀ next ∈ later ++ [last], next.type = type →
            next.listener ≠ change.listener := by
          intro h
          exact h last (by simp) htype hsame
        have hdropped : ∀ listeners : List ι,
            (change.listener :: listeners).filter (· ≠ last.listener) =
              listeners.filter (· ≠ last.listener) := by
          intro listeners
          simp [hsame]
        rw [if_neg fun h => hlatest h.2.2, if_pos htype, if_pos htype]
        congr 1
        split
        · exact (hdropped _).symm
        · rfl
      · have hlatest : (∀ next ∈ later ++ [last], next.type = type →
            next.listener ≠ change.listener) ↔
            ∀ next ∈ later, next.type = type → next.listener ≠ change.listener := by
          simp [or_imp, forall_and, hsame]
        simp only [hlatest, if_pos htype]
        split
        · rw [List.filter_cons_of_pos (by simpa using Ne.symm hsame), List.cons_append]
        · rfl
    · have hlatest : (∀ next ∈ later ++ [last], next.type = type →
          next.listener ≠ change.listener) ↔
          ∀ next ∈ later, next.type = type → next.listener ≠ change.listener := by
        simp [or_imp, forall_and, htype]
      simp only [hlatest, if_neg htype]

/-- The list of a type is what stands after all calls so far. Induction from
the last call on, which is the change made last. -/
theorem list_serveAll (requests : List (Request ι)) (type : MessageType) :
    (serveAll serve empty requests).2.list type =
      standing type (changes requests (serveAll serve empty requests).1) := by
  induction requests using List.reverseRecOn with
  | nil => rfl
  | append_singleton before request ih =>
    rw [serveAll_concat, changes_concat (length_serveAll _ _ before)]
    generalize (serveAll serve empty before).2 = table at ih ⊢
    generalize changes before (serveAll serve empty before).1 = made at ih ⊢
    have hserved := table.served request
    generalize (table.serve request).1 = answer at hserved ⊢
    generalize (table.serve request).2 = after at hserved ⊢
    cases hserved with
    | @registered changed listener _ hnew hlist hothers =>
      show after.list type = standing type (made ++ [⟨changed, listener, true⟩])
      rw [standing_concat, ← ih]
      by_cases htype : changed = type
      · -- A new listener stands nowhere in the list, so it only comes to its end.
        subst htype
        have hkept : (table.list changed).filter (· ≠ listener) = table.list changed := by
          rw [List.filter_eq_self]
          intro other hother
          exact decide_eq_true fun heq => hnew (heq ▸ hother)
        rw [hlist, if_pos rfl, hkept]
        rfl
      · rw [hothers type (Ne.symm htype), if_neg htype]
    | @deregistered changed listener _ hmem hlist hothers =>
      show after.list type = standing type (made ++ [⟨changed, listener, false⟩])
      rw [standing_concat, ← ih]
      by_cases htype : changed = type
      · subst htype
        rw [hlist, if_pos rfl]
        exact (List.append_nil _).symm
      · rw [hothers type (Ne.symm htype), if_neg htype]
    | known hmem => simpa [change?] using ih
    | unknown hnew => simpa [change?] using ih
    | listed => simpa [change?] using ih

end Listeners

end SensorGateway.Bus
