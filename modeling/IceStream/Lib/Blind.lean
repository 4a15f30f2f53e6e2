import IceStream.Lib.Python

/-!
# What a computation does not see

A computation that is blind to the difference between related states answers the same in both,
and leaves states that are related again.
-/

namespace Python
namespace Fallible

variable {σ τ α β : Type} {R : σ → σ → Prop} {x : Fallible σ α}

def Blind (R : σ → σ → Prop) (x : Fallible σ α) : Prop :=
  ∀ s t, R s t → (x s).1 = (x t).1 ∧ R (x s).2 (x t).2

theorem blind_pure (a : α) : Blind R (pure a : Fallible σ α) := fun _ _ h => ⟨rfl, h⟩

theorem blind_raise (e : Exc) : Blind R (raise e : Fallible σ α) := fun _ _ h => ⟨rfl, h⟩

/-- Both runs go on alike, or neither does. -/
theorem Blind.bind {f : α → Fallible σ β} (hx : Blind R x) (hf : ∀ a, Blind R (f a)) :
    Blind R (x >>= f) := by
  intro s t h
  obtain ⟨hanswer, hstate⟩ := hx s t h
  rcases hs : x s with ⟨e | a, s'⟩
  · rcases ht : x t with ⟨e' | b, t'⟩
    · rw [hs, ht] at hanswer hstate
      rw [bind_error hs, bind_error ht]
      cases hanswer
      exact ⟨rfl, hstate⟩
    · rw [hs, ht] at hanswer
      cases hanswer
  · rcases ht : x t with ⟨e' | b, t'⟩
    · rw [hs, ht] at hanswer
      cases hanswer
    · rw [hs, ht] at hanswer hstate
      rw [bind_ok hs, bind_ok ht]
      cases hanswer
      exact hf a s' t' hstate

theorem Blind.catching {handler : Exc → Fallible σ α} (hx : Blind R x)
    (hhandler : ∀ e, Blind R (handler e)) : Blind R (catching x handler) := by
  intro s t h
  obtain ⟨hanswer, hstate⟩ := hx s t h
  rcases hs : x s with ⟨e | a, s'⟩
  · rcases ht : x t with ⟨e' | b, t'⟩
    · rw [hs, ht] at hanswer hstate
      rw [catching_error hs, catching_error ht]
      cases hanswer
      exact hhandler e s' t' hstate
    · rw [hs, ht] at hanswer
      cases hanswer
  · rcases ht : x t with ⟨e' | b, t'⟩
    · rw [hs, ht] at hanswer
      cases hanswer
    · rw [hs, ht] at hanswer hstate
      rw [catching_ok hs, catching_ok ht]
      cases hanswer
      exact ⟨rfl, hstate⟩

end Fallible
end Python
