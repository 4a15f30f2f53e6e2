import Mathlib.Data.List.Infix

/-!
# Runs of a labelled step function

A system is a partial step function `σ → α → Option σ`: the label is what the
environment chose, `none` says that the label is not enabled. The lemmas carry
an invariant along a run, and compare two properties step by step.
-/

namespace Stepping

variable {σ α : Type*} {step : σ → α → Option σ}

/-- The state after the labels `as`, provided each is enabled in turn. -/
def exec (step : σ → α → Option σ) : σ → List α → Option σ
  | s, [] => some s
  | s, a :: as => (step s a).bind fun t => exec step t as

/-- Every step that a run over `as` takes is related by `R`; the run stops at
the first label that is not enabled. -/
def AllSteps (step : σ → α → Option σ) (R : σ → α → σ → Prop) : σ → List α → Prop
  | _, [] => True
  | s, a :: as => ∀ t, step s a = some t → R s a t ∧ AllSteps step R t as

@[simp] theorem exec_nil (s : σ) : exec step s [] = some s := rfl

theorem exec_cons (s : σ) (a : α) (as : List α) :
    exec step s (a :: as) = (step s a).bind fun t => exec step t as := rfl

theorem exec_append (s : σ) (as bs : List α) :
    exec step s (as ++ bs) = (exec step s as).bind fun t => exec step t bs := by
  induction as generalizing s with
  | nil => rfl
  | cons a as ih =>
    simp only [List.cons_append, exec_cons, Option.bind_assoc]
    congr 1
    funext t
    exact ih t

/-- What one step preserves, a run preserves. -/
theorem exec_preserves {I : σ → Prop} (hstep : ∀ s a t, I s → step s a = some t → I t)
    {s t : σ} {as : List α} (hs : I s) (h : exec step s as = some t) : I t := by
  induction as generalizing s with
  | nil => exact Option.some.inj h ▸ hs
  | cons a as ih =>
    obtain ⟨u, hu, ht⟩ := Option.bind_eq_some_iff.mp h
    exact ih (hstep s a u hs hu) ht

/-- What a run has done so far may stand in the invariant. -/
theorem exec_follows {I : List α → σ → Prop}
    (hstep : ∀ as s a t, I as s → step s a = some t → I (as ++ [a]) t) {s t : σ} {as : List α}
    (hs : I [] s) (h : exec step s as = some t) : I as t := by
  suffices hfrom : ∀ before s, I before s → exec step s as = some t → I (before ++ as) t from
    hfrom [] s hs h
  clear hs h
  induction as with
  | nil =>
    intro before s hs h
    rw [List.append_nil]
    exact Option.some.inj h ▸ hs
  | cons a as ih =>
    intro before s hs h
    obtain ⟨u, hu, ht⟩ := Option.bind_eq_some_iff.mp h
    have hrun := ih (before ++ [a]) u (hstep before s a u hs hu) ht
    rwa [List.append_assoc, List.singleton_append] at hrun

/-- A run whose steps all meet `Q` preserves what a step that meets `Q` preserves. -/
theorem AllSteps.preserves {I : σ → Prop} {Q : σ → α → σ → Prop}
    (hstep : ∀ s a t, I s → step s a = some t → Q s a t → I t) {s t : σ} {as : List α}
    (hs : I s) (hQ : AllSteps step Q s as) (h : exec step s as = some t) : I t := by
  induction as generalizing s with
  | nil => exact Option.some.inj h ▸ hs
  | cons a as ih =>
    obtain ⟨u, hu, ht⟩ := Option.bind_eq_some_iff.mp h
    exact ih (hstep s a u hs hu (hQ u hu).1) (hQ u hu).2 ht

/-- Where the invariant holds, a run is related step by step. -/
theorem allSteps_of_invariant {I : σ → Prop} {R : σ → α → σ → Prop}
    (hR : ∀ s a t, I s → step s a = some t → R s a t)
    (hstep : ∀ s a t, I s → step s a = some t → I t) {s : σ} (hs : I s) (as : List α) :
    AllSteps step R s as := by
  induction as generalizing s with
  | nil => trivial
  | cons a as ih =>
    intro t ht
    exact ⟨hR s a t hs ht, ih (hstep s a t hs ht)⟩

/-- The step that ends a run is one of its steps. -/
theorem AllSteps.last {R : σ → α → σ → Prop} {s u t : σ} {as : List α} {a : α}
    (h : AllSteps step R s (as ++ [a])) (hu : exec step s as = some u)
    (ht : step u a = some t) : R u a t := by
  induction as generalizing s with
  | nil =>
    obtain rfl := Option.some.inj hu
    exact (h t ht).1
  | cons b as ih =>
    obtain ⟨v, hv, hvu⟩ := Option.bind_eq_some_iff.mp hu
    exact ih (h v hv).2 hvu

/-- Two step properties that agree wherever the invariant holds, where the
invariant survives the steps that meet them, agree on whole runs. -/
theorem allSteps_iff_of_invariant {I : σ → Prop} {P Q : σ → α → σ → Prop}
    (hiff : ∀ s a t, I s → step s a = some t → (P s a t ↔ Q s a t))
    (hstep : ∀ s a t, I s → step s a = some t → Q s a t → I t)
    {s : σ} (hs : I s) (as : List α) : AllSteps step P s as ↔ AllSteps step Q s as := by
  induction as generalizing s with
  | nil => exact Iff.rfl
  | cons a as ih =>
    refine forall_congr' fun t => imp_congr_right fun ht => ?_
    constructor
    · rintro ⟨hp, has⟩
      have hq := (hiff s a t hs ht).mp hp
      exact ⟨hq, (ih (hstep s a t hs ht hq)).mp has⟩
    · rintro ⟨hq, has⟩
      exact ⟨(hiff s a t hs ht).mpr hq, (ih (hstep s a t hs ht hq)).mpr has⟩

end Stepping
