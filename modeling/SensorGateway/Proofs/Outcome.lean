import Mathlib.Data.List.Forall2

/-!
# `SensorGateway.Proofs.Outcome`: steps that may fail

What a chain of steps has done when none of them failed, step by step.
-/

set_option autoImplicit false

namespace Except

variable {ε ε' α β : Type}

/-- Two steps in a row succeed when the first does and the second does on
its result. -/
theorem bind_eq_ok_iff (x : Except ε α) (f : α → Except ε β) (b : β) :
    (x >>= f) = .ok b ↔ ∃ a, x = .ok a ∧ f a = .ok b := by
  cases x <;> simp [bind, Except.bind]

theorem map_eq_ok_iff (f : α → β) (x : Except ε α) (b : β) :
    x.map f = .ok b ↔ ∃ a, x = .ok a ∧ f a = b := by
  cases x <;> simp [Except.map]

theorem map_eq_error_iff (f : α → β) (x : Except ε α) (error : ε) :
    x.map f = .error error ↔ x = .error error := by
  cases x <;> simp [Except.map]

/-- Telling the reason in another way changes no success. -/
theorem mapError_eq_ok_iff (f : ε → ε') (x : Except ε α) (a : α) :
    x.mapError f = .ok a ↔ x = .ok a := by
  cases x <;> simp [Except.mapError]

theorem mapError_eq_error_iff (f : ε → ε') (x : Except ε α) (error : ε') :
    x.mapError f = .error error ↔ ∃ fault, x = .error fault ∧ f fault = error := by
  cases x <;> simp [Except.mapError]

/-- A step for each item succeeds when it does on every item, and gives
their results in order. -/
theorem mapM_eq_ok_iff (f : α → Except ε β) (xs : List α) (ys : List β) :
    xs.mapM f = .ok ys ↔ List.Forall₂ (fun x y => f x = .ok y) xs ys := by
  induction xs generalizing ys with
  | nil =>
    rw [List.mapM_nil, List.forall₂_nil_left_iff]
    exact ⟨fun h => (Except.ok.inj h).symm, fun h => congrArg _ h.symm⟩
  | cons x xs ih =>
    rw [List.mapM_cons, bind_eq_ok_iff, List.forall₂_cons_left_iff]
    constructor
    · rintro ⟨y, hy, h⟩
      obtain ⟨rest, hrest, hys⟩ := (bind_eq_ok_iff _ _ _).mp h
      exact ⟨y, rest, hy, (ih rest).mp hrest, (Except.ok.inj hys).symm⟩
    · rintro ⟨y, rest, hy, hrest, rfl⟩
      exact ⟨y, hy, (bind_eq_ok_iff _ _ _).mpr ⟨rest, (ih rest).mpr hrest, rfl⟩⟩

/-- When a step for each item fails, the reason is that of the first item on
which it does. -/
theorem mapM_eq_error_iff (f : α → Except ε β) (xs : List α) (error : ε) :
    xs.mapM f = .error error ↔
      ∃ before x after, xs = before ++ x :: after ∧ (∀ y ∈ before, ∃ b, f y = .ok b) ∧
        f x = .error error := by
  induction xs with
  | nil =>
    constructor
    · intro h
      cases h
    · rintro ⟨before, x, after, hsplit, -⟩
      simp at hsplit
  | cons first rest ih =>
    rw [List.mapM_cons]
    cases hfirst : f first with
    | error fault =>
      show Except.error fault = Except.error error ↔ _
      constructor
      · intro h
        obtain rfl : fault = error := Except.error.inj h
        exact ⟨[], first, rest, rfl, by simp, hfirst⟩
      · rintro ⟨before, x, after, hsplit, hbefore, hx⟩
        cases before with
        | nil =>
          obtain ⟨rfl, -⟩ := List.cons.inj hsplit
          rw [hfirst] at hx
          exact congrArg _ (Except.error.inj hx)
        | cons y before =>
          -- Nothing that succeeds stands before an item that fails at once.
          obtain ⟨rfl, -⟩ := List.cons.inj hsplit
          obtain ⟨b, hb⟩ := hbefore first List.mem_cons_self
          rw [hfirst] at hb
          cases hb
    | ok b =>
      show (rest.mapM f).map (b :: ·) = .error error ↔ _
      rw [map_eq_error_iff, ih]
      constructor
      · rintro ⟨before, x, after, rfl, hbefore, hx⟩
        refine ⟨first :: before, x, after, rfl, ?_, hx⟩
        intro y hy
        rcases List.mem_cons.mp hy with rfl | hy
        · exact ⟨b, hfirst⟩
        · exact hbefore y hy
      · rintro ⟨before, x, after, hsplit, hbefore, hx⟩
        cases before with
        | nil =>
          obtain ⟨rfl, -⟩ := List.cons.inj hsplit
          rw [hfirst] at hx
          cases hx
        | cons y before =>
          obtain ⟨-, rfl⟩ := List.cons.inj hsplit
          exact ⟨before, x, after, rfl, fun y hy => hbefore y (List.mem_cons_of_mem _ hy), hx⟩

/-- When a step for each item fails, it does on one of them. -/
theorem exists_of_mapM_eq_error {f : α → Except ε β} {xs : List α} {error : ε}
    (h : xs.mapM f = .error error) : ∃ x ∈ xs, f x = .error error := by
  obtain ⟨before, x, after, rfl, -, hx⟩ := (mapM_eq_error_iff f xs error).mp h
  exact ⟨x, List.mem_append_right before List.mem_cons_self, hx⟩

/-- A step for each item succeeds when it does on every one of them. -/
theorem exists_mapM_eq_ok_iff (f : α → Except ε β) (xs : List α) :
    (∃ ys, xs.mapM f = .ok ys) ↔ ∀ x ∈ xs, ∃ y, f x = .ok y := by
  constructor
  · rintro ⟨ys, h⟩ x hx
    obtain ⟨i, hi⟩ := List.mem_iff_getElem?.mp hx
    obtain ⟨hlt, rfl⟩ := List.getElem?_eq_some_iff.mp hi
    obtain ⟨hlength, hget⟩ := List.forall₂_iff_get.mp ((mapM_eq_ok_iff f xs ys).mp h)
    exact ⟨_, hget i hlt (hlength ▸ hlt)⟩
  · intro h
    cases hxs : xs.mapM f with
    | ok ys => exact ⟨ys, rfl⟩
    | error fault =>
      obtain ⟨x, hx, hfault⟩ := exists_of_mapM_eq_error hxs
      obtain ⟨y, hy⟩ := h x hx
      rw [hfault] at hy
      cases hy

/-- What every step keeps, a row of steps keeps. -/
theorem foldlM_induction {P : β → Prop} {f : β → α → Except ε β}
    (hstep : ∀ state x next, P state → f state x = .ok next → P next) {init result : β}
    {xs : List α} (hinit : P init) (h : xs.foldlM f init = .ok result) : P result := by
  induction xs generalizing init with
  | nil =>
    obtain rfl := Except.ok.inj h
    exact hinit
  | cons first rest ih =>
    rw [List.foldlM_cons] at h
    obtain ⟨next, hfirst, hrest⟩ := (bind_eq_ok_iff _ _ _).mp h
    exact ih (hstep init first next hinit hfirst) hrest

/-- In a row of steps that succeeds, every step does. -/
theorem exists_of_foldlM_eq_ok {f : β → α → Except ε β} {init result : β} {xs : List α}
    (h : xs.foldlM f init = .ok result) {x : α} (hx : x ∈ xs) :
    ∃ state next, f state x = .ok next := by
  induction xs generalizing init with
  | nil => cases hx
  | cons first rest ih =>
    rw [List.foldlM_cons] at h
    obtain ⟨next, hfirst, hrest⟩ := (bind_eq_ok_iff _ _ _).mp h
    cases List.mem_cons.mp hx with
    | inl heq => exact ⟨init, next, heq ▸ hfirst⟩
    | inr hin => exact ih hrest hin

/-- A row of steps fails where the first of them does, on the result of those before
it. -/
theorem foldlM_eq_error_iff (f : β → α → Except ε β) (init : β) (xs : List α) (error : ε) :
    xs.foldlM f init = .error error ↔
      ∃ before x after state, xs = before ++ x :: after ∧ before.foldlM f init = .ok state ∧
        f state x = .error error := by
  induction xs generalizing init with
  | nil =>
    constructor
    · intro h
      cases h
    · rintro ⟨before, x, after, state, hsplit, -⟩
      simp at hsplit
  | cons first rest ih =>
    rw [List.foldlM_cons]
    constructor
    · intro h
      cases hfirst : f init first with
      | error fault =>
        -- The first step fails, so none goes before.
        rw [hfirst] at h
        obtain rfl : fault = error := Except.error.inj h
        exact ⟨[], first, rest, init, rfl, rfl, hfirst⟩
      | ok next =>
        rw [hfirst] at h
        obtain ⟨before, x, after, state, rfl, hbefore, hx⟩ := (ih next).mp h
        refine ⟨first :: before, x, after, state, rfl, ?_, hx⟩
        rw [List.foldlM_cons, hfirst]
        exact hbefore
    · rintro ⟨before, x, after, state, hsplit, hbefore, hx⟩
      cases before with
      | nil =>
        obtain ⟨rfl, -⟩ := List.cons.inj hsplit
        obtain rfl := Except.ok.inj hbefore
        rw [hx]
        rfl
      | cons y before =>
        obtain ⟨rfl, rfl⟩ := List.cons.inj hsplit
        rw [List.foldlM_cons] at hbefore
        obtain ⟨next, hnext, hbefore⟩ := (bind_eq_ok_iff _ _ _).mp hbefore
        rw [hnext]
        exact (ih next).mpr ⟨before, x, after, state, rfl, hbefore, hx⟩

end Except

/-- A step for each item that fails on none of them gives all the results. -/
theorem List.mapM_eq_pure {m : Type → Type} [Monad m] [LawfulMonad m] {α β : Type} {f : α → m β}
    {g : α → β} {xs : List α} (h : ∀ x ∈ xs, f x = pure (g x)) :
    xs.mapM f = pure (xs.map g) := by
  induction xs with
  | nil => rw [List.mapM_nil, List.map_nil]
  | cons x xs ih =>
    rw [List.mapM_cons, h x List.mem_cons_self, pure_bind,
      ih fun y hmem => h y (List.mem_cons_of_mem _ hmem), pure_bind, List.map_cons]

/-- There is only one first item that does not have a property. -/
theorem List.first_unique {α : Type} {P : α → Prop} {before before' after after' : List α}
    {x x' : α} (h : before ++ x :: after = before' ++ x' :: after')
    (hbefore : ∀ y ∈ before, P y) (hx : ¬ P x) (hbefore' : ∀ y ∈ before', P y) (hx' : ¬ P x') :
    x = x' := by
  classical
  have hfind : ∀ (before after : List α) (x : α), (∀ y ∈ before, P y) → ¬ P x →
      (before ++ x :: after).find? (fun y => decide (¬ P y)) = some x := by
    intro before after x hbefore hx
    refine List.find?_eq_some_iff_append.mpr ⟨by simpa using hx, before, after, rfl, ?_⟩
    intro y hy
    simpa using hbefore y hy
  have hfirst := hfind before after x hbefore hx
  rw [h, hfind before' after' x' hbefore' hx'] at hfirst
  exact (Option.some.inj hfirst).symm
