import Mathlib.Data.List.Basic

/-!
# Walks

A list of edges that join up, from one vertex to another. An edge is anything
with a source and a target.
-/

namespace Walk

variable {σ α : Type*} {src dst : α → σ} {s t : σ} {a : α} {as bs : List α}

def IsWalk (src dst : α → σ) : σ → List α → σ → Prop
  | s, [], t => s = t
  | s, a :: as, t => src a = s ∧ IsWalk src dst (dst a) as t

instance decidableIsWalk [DecidableEq σ] : ∀ (s : σ) (as : List α) (t : σ),
    Decidable (IsWalk src dst s as t)
  | s, [], t => inferInstanceAs (Decidable (s = t))
  | s, a :: as, t =>
    have := decidableIsWalk (dst a) as t
    inferInstanceAs (Decidable (src a = s ∧ IsWalk src dst (dst a) as t))

theorem isWalk_cons : IsWalk src dst s (a :: as) t ↔ src a = s ∧ IsWalk src dst (dst a) as t :=
  Iff.rfl

theorem isWalk_append :
    IsWalk src dst s (as ++ bs) t ↔ ∃ u, IsWalk src dst s as u ∧ IsWalk src dst u bs t := by
  induction as generalizing s with
  | nil =>
    constructor
    · intro h
      exact ⟨s, rfl, h⟩
    · rintro ⟨u, rfl, h⟩
      exact h
  | cons a as ih =>
    simp only [List.cons_append, isWalk_cons, ih]
    constructor
    · rintro ⟨hs, u, has, hbs⟩
      exact ⟨u, ⟨hs, has⟩, hbs⟩
    · rintro ⟨u, ⟨hs, has⟩, hbs⟩
      exact ⟨hs, u, has, hbs⟩

/-- A walk grows at its end. -/
theorem isWalk_snoc :
    IsWalk src dst s (as ++ [a]) t ↔ IsWalk src dst s as (src a) ∧ dst a = t := by
  rw [isWalk_append]
  constructor
  · rintro ⟨u, has, rfl, ht⟩
    exact ⟨has, ht⟩
  · rintro ⟨has, ht⟩
    exact ⟨src a, has, rfl, ht⟩

/-- The edges determine where a walk ends. -/
theorem IsWalk.end_unique {t' : σ} (h : IsWalk src dst s as t) (h' : IsWalk src dst s as t') :
    t = t' := by
  induction as generalizing s with
  | nil => exact h.symm.trans h'
  | cons a as ih => exact ih h.2 h'.2

/-- What is left of a walk without its first edges is a walk to the same end. -/
theorem IsWalk.drop (h : IsWalk src dst s as t) (n : ℕ) : ∃ u, IsWalk src dst u (as.drop n) t := by
  rw [← List.take_append_drop n as, isWalk_append] at h
  obtain ⟨u, -, hdrop⟩ := h
  exact ⟨u, hdrop⟩

end Walk
