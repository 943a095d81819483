import Mathlib

/-!
# How computations end

A computation that can fail ends with an error or with a result.

## Main definitions

* `LambdaQuery.FirstFails` — the failure of the first element of a list that has one.
* `LambdaQuery.EndAlike` — two computations end with the same error or with related results.

## Main results

* `LambdaQuery.bind_eq_ok_iff`, `LambdaQuery.mapM_eq_ok_iff` — when a computation in steps succeeds.
* `LambdaQuery.bind_eq_error_iff`, `LambdaQuery.mapM_eq_error_iff` — when it fails, and how.
* `LambdaQuery.EndAlike.bind` — two computations in steps end alike if their steps do.
-/

set_option autoImplicit false

namespace LambdaQuery

variable {ε α β γ δ : Type}

/-! ## Successful computations -/

/-- A computation without steps succeeds with its value. -/
lemma pure_eq_ok_iff {a b : α} : (pure a : Except ε α) = .ok b ↔ b = a :=
  ⟨fun h => (Except.ok.inj h).symm, fun h => congrArg _ h.symm⟩

/-- A computation with two steps succeeds if both do. -/
lemma bind_eq_ok_iff {x : Except ε α} {f : α → Except ε β} {b : β} :
    (x >>= f) = .ok b ↔ ∃ a, x = .ok a ∧ f a = .ok b := by
  cases x with
  | error e => simp [bind, Except.bind]
  | ok a => simp [bind, Except.bind]

/-- A computation for each element of a list succeeds if all of them do. -/
lemma mapM_eq_ok_iff {f : α → Except ε β} {xs : List α} {ys : List β} :
    xs.mapM f = .ok ys ↔ List.Forall₂ (fun x y => f x = .ok y) xs ys := by
  induction xs generalizing ys with
  | nil => rw [List.mapM_nil, pure_eq_ok_iff, List.forall₂_nil_left_iff]
  | cons x xs ih =>
    simp only [List.mapM_cons, bind_eq_ok_iff, pure_eq_ok_iff, ih, List.forall₂_cons_left_iff]
    constructor
    · rintro ⟨y, hy, ys', hys', rfl⟩
      exact ⟨y, ys', hy, hys', rfl⟩
    · rintro ⟨y, ys', hy, hys', rfl⟩
      exact ⟨y, hy, ys', hys', rfl⟩

/-- A list is read back if each of its elements is. -/
lemma mapM_map_eq_some {write : α → β} {read? : β → Option α} (h : ∀ a, read? (write a) = some a)
    (as : List α) : (as.map write).mapM read? = some as := by
  induction as with
  | nil => rfl
  | cons a as ih => simp [h, ih]

/-! ## Failing computations -/

/-- A computation fails if it does not succeed. -/
lemma forall_ne_error_iff {x : Except ε α} : (∀ e, x ≠ .error e) ↔ ∃ a, x = .ok a := by
  cases x with
  | error e => simp
  | ok a => simp

/-- A computation without steps does not fail. -/
lemma pure_ne_error {a : α} {e : ε} : (pure a : Except ε α) ≠ .error e := by
  simp [pure, Except.pure]

/-- A computation with two steps fails if the first one does, or the second one after it. -/
lemma bind_eq_error_iff {x : Except ε α} {f : α → Except ε β} {e : ε} :
    (x >>= f) = .error e ↔ x = .error e ∨ ∃ a, x = .ok a ∧ f a = .error e := by
  cases x with
  | error e => simp [bind, Except.bind]
  | ok a => simp [bind, Except.bind]

/-- A computation whose last step cannot fail fails if the step before it does. -/
lemma bind_pure_eq_error_iff {x : Except ε α} {f : α → β} {e : ε} :
    (x >>= fun a => pure (f a)) = .error e ↔ x = .error e := by
  simp only [bind_eq_error_iff, pure_ne_error, and_false, exists_false, or_false]

/-- The first element of the list that has a failure has the failure `e`. -/
def FirstFails (fails : α → ε → Prop) (xs : List α) (e : ε) : Prop :=
  ∃ before x after, xs = before ++ x :: after ∧ (∀ y ∈ before, ∀ e', ¬ fails y e') ∧ fails x e

section FirstFails

variable {fails fails' : α → ε → Prop} {x : α} {xs ys : List α} {e : ε}

/-- Nothing in an empty list fails. -/
lemma not_firstFails_nil : ¬ FirstFails fails [] e := by
  rintro ⟨before, x, after, h, -⟩
  simp at h

/-- The first failure is that of the head, or that of the tail if the head has none. -/
lemma firstFails_cons :
    FirstFails fails (x :: xs) e ↔ fails x e ∨ (∀ e', ¬ fails x e') ∧ FirstFails fails xs e := by
  constructor
  · rintro ⟨_ | ⟨z, before⟩, y, after, hxs, hbefore, hy⟩
    · obtain ⟨rfl, rfl⟩ := List.cons.inj hxs
      exact .inl hy
    · obtain ⟨rfl, rfl⟩ := List.cons.inj hxs
      rw [List.forall_mem_cons] at hbefore
      exact .inr ⟨hbefore.1, before, y, after, rfl, hbefore.2, hy⟩
  · rintro (hx | ⟨hx, before, y, after, rfl, hbefore, hy⟩)
    · exact ⟨[], x, xs, rfl, by simp, hx⟩
    · exact ⟨x :: before, y, after, rfl, List.forall_mem_cons.2 ⟨hx, hbefore⟩, hy⟩

/-- The first failure of a list of one. -/
lemma firstFails_singleton : FirstFails fails [x] e ↔ fails x e := by
  simp [firstFails_cons, not_firstFails_nil]

/-- An element that has no failure can be left out. -/
lemma firstFails_cons_of_forall_not (h : ∀ e', ¬ fails x e') :
    FirstFails fails (x :: xs) e ↔ FirstFails fails xs e := by
  simp [firstFails_cons, h]

/-- The first failure is that of the first list, or that of the second if the first has none. -/
lemma firstFails_append :
    FirstFails fails (xs ++ ys) e ↔
      FirstFails fails xs e ∨ (∀ x ∈ xs, ∀ e', ¬ fails x e') ∧ FirstFails fails ys e := by
  induction xs with
  | nil => simp [not_firstFails_nil]
  | cons x xs ih =>
    rw [List.cons_append, firstFails_cons, firstFails_cons, ih, List.forall_mem_cons]
    tauto

/-- There is a first failure if there is any. -/
lemma exists_firstFails_iff : (∃ e, FirstFails fails xs e) ↔ ∃ x ∈ xs, ∃ e, fails x e := by
  induction xs with
  | nil => simp [not_firstFails_nil]
  | cons x xs ih =>
    simp only [firstFails_cons, exists_or, exists_and_left, ih, List.exists_mem_cons_iff]
    by_cases hx : ∃ e, fails x e
    · simp [hx]
    · simp [not_exists.1 hx]

/-- Elements with the same failures have the same first failure. -/
lemma firstFails_congr (h : ∀ x ∈ xs, ∀ e, fails x e ↔ fails' x e) :
    FirstFails fails xs e ↔ FirstFails fails' xs e := by
  induction xs with
  | nil => simp [not_firstFails_nil]
  | cons x xs ih =>
    rw [List.forall_mem_cons] at h
    rw [firstFails_cons, firstFails_cons, ih h.2]
    simp only [h.1]

/-- A computation for each element of a list fails like the first of them that does. -/
lemma mapM_eq_error_iff {f : α → Except ε β} :
    xs.mapM f = .error e ↔ FirstFails (fun x e => f x = .error e) xs e := by
  induction xs with
  | nil => simp [not_firstFails_nil, pure_ne_error]
  | cons x xs ih =>
    rw [List.mapM_cons, bind_eq_error_iff, firstFails_cons, ← ih, forall_ne_error_iff]
    simp only [bind_pure_eq_error_iff, exists_and_right]

end FirstFails

/-! ## Computations that end alike -/

/-- Two computations end alike: with the same error or with related results. -/
inductive EndAlike (R : α → β → Prop) : Except ε α → Except ε β → Prop where
  | ok {a : α} {b : β} : R a b → EndAlike R (.ok a) (.ok b)
  | error (e : ε) : EndAlike R (.error e) (.error e)

/-- Computations in two steps end alike if the first steps do and the second steps do on related
results. -/
lemma EndAlike.bind {R : α → β → Prop} {Q : γ → δ → Prop} {x : Except ε α} {y : Except ε β}
    {f : α → Except ε γ} {g : β → Except ε δ} (h : EndAlike R x y)
    (hnext : ∀ a b, R a b → EndAlike Q (f a) (g b)) : EndAlike Q (x >>= f) (y >>= g) := by
  cases h with
  | ok hab => exact hnext _ _ hab
  | error e => exact .error e

/-- The two ways in which computations end alike. -/
lemma EndAlike.error_or_ok {R : α → β → Prop} {x : Except ε α} {y : Except ε β}
    (h : EndAlike R x y) :
    (∃ e, x = .error e ∧ y = .error e) ∨ ∃ a b, R a b ∧ x = .ok a ∧ y = .ok b := by
  cases h with
  | ok hab => exact .inr ⟨_, _, hab, rfl, rfl⟩
  | error e => exact .inl ⟨e, rfl, rfl⟩

/-- Computations that end alike with equal results are equal. -/
lemma EndAlike.eq {x y : Except ε α} (h : EndAlike (· = ·) x y) : x = y := by
  cases h with
  | ok h => rw [h]
  | error e => rfl

end LambdaQuery
