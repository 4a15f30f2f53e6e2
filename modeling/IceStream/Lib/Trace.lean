import Mathlib.Data.List.Basic

/-!
# Ordering laws of a trace

A trace is a list of actions, the earliest first. `Guarded G` says that each
action stands behind a prefix that allows it.
-/

namespace Trace

variable {α : Type*} {G : List α → α → Prop}

/-- Each action of `l` is allowed by what came before it, `before` included. -/
def GuardedFrom (G : List α → α → Prop) : List α → List α → Prop
  | _, [] => True
  | before, a :: l => G before a ∧ GuardedFrom G (before ++ [a]) l

def Guarded (G : List α → α → Prop) (l : List α) : Prop := GuardedFrom G [] l

theorem guardedFrom_append {before l l' : List α} :
    GuardedFrom G before (l ++ l') ↔
      GuardedFrom G before l ∧ GuardedFrom G (before ++ l) l' := by
  induction l generalizing before with
  | nil => simp [GuardedFrom]
  | cons a l ih => simp [GuardedFrom, ih, and_assoc]

/-- Actions that are allowed behind anything are allowed in a row. -/
theorem guardedFrom_of_free {before l : List α} (h : ∀ a ∈ l, ∀ before, G before a) :
    GuardedFrom G before l := by
  induction l generalizing before with
  | nil => trivial
  | cons a l ih =>
    exact ⟨h a List.mem_cons_self before, ih fun b hb => h b (List.mem_cons_of_mem a hb)⟩

end Trace
