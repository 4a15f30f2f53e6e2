import IceStream.Lib.Python

/-!
# Invariants of fallible computations

A computation preserves `I` when it leaves a state that meets `I` wherever it
finds one, whether it returns or raises.
-/

namespace Python
namespace Fallible

variable {σ τ α β : Type}

def Preserves (I : σ → Prop) (x : Fallible σ α) : Prop := ∀ s, I s → I (x s).2

variable {I : σ → Prop} {x : Fallible σ α}

theorem preserves_pure (a : α) : Preserves I (pure a : Fallible σ α) := fun _ hs => hs

theorem preserves_raise (e : Exc) : Preserves I (raise e : Fallible σ α) := fun _ hs => hs

theorem preserves_read (f : σ → α) : Preserves I (read f) := fun _ hs => hs

/-- What holds after the first part holds after the rest. -/
theorem after_bind {f : α → Fallible σ β} {s : σ} (hx : I (x s).2) (hf : ∀ a, Preserves I (f a)) :
    I ((x >>= f) s).2 := by
  rcases hrun : x s with ⟨e | a, s'⟩
  · rw [hrun] at hx
    rw [bind_error hrun]
    exact hx
  · rw [hrun] at hx
    rw [bind_ok hrun]
    exact hf a s' hx

theorem Preserves.bind {f : α → Fallible σ β} (hx : Preserves I x)
    (hf : ∀ a, Preserves I (f a)) : Preserves I (x >>= f) :=
  fun s hs => after_bind (hx s hs) hf

/-- The rest may weaken what the first part preserves. -/
theorem Preserves.bind_imp {J : σ → Prop} {f : α → Fallible σ β} (hx : Preserves I x)
    (himp : ∀ s, I s → J s) (hf : ∀ a s, I s → J (f a s).2) {s : σ} (hs : I s) :
    J ((x >>= f) s).2 := by
  have hnext := hx s hs
  rcases hrun : x s with ⟨e | a, s'⟩
  · rw [hrun] at hnext
    rw [bind_error hrun]
    exact himp s' hnext
  · rw [hrun] at hnext
    rw [bind_ok hrun]
    exact hf a s' hnext

theorem Preserves.attempt (hx : Preserves I x) : Preserves I (attempt x) := hx

theorem Preserves.catching {handler : Exc → Fallible σ α} (hx : Preserves I x)
    (hhandler : ∀ e, Preserves I (handler e)) : Preserves I (catching x handler) := by
  intro s hs
  have hnext := hx s hs
  rcases hrun : x s with ⟨e | a, s'⟩
  · rw [hrun] at hnext
    rw [catching_error hrun]
    exact hhandler e s' hnext
  · rw [hrun] at hnext
    rw [catching_ok hrun]
    exact hnext

/-! ## Computations that do not raise -/

def Total (x : Fallible σ α) : Prop := ∀ s, ∃ a t, x s = (.ok a, t)

theorem total_pure (a : α) : Total (pure a : Fallible σ α) := fun s => ⟨a, s, rfl⟩

theorem total_read (f : σ → α) : Total (read f) := fun s => ⟨f s, s, rfl⟩

theorem total_update (f : σ → σ) : Total (update f) := fun s => ⟨(), f s, rfl⟩

theorem total_attempt (x : Fallible σ α) : Total (attempt x) := fun s => ⟨(x s).1, (x s).2, rfl⟩

theorem Total.bind {f : α → Fallible σ β} (hx : Total x) (hf : ∀ a, Total (f a)) :
    Total (x >>= f) := by
  intro s
  obtain ⟨a, t, hrun⟩ := hx s
  rw [bind_ok hrun]
  exact hf a t

theorem total_catching {handler : Exc → Fallible σ α} (h : ∀ e, Total (handler e)) :
    Total (catching x handler) := catching_total h

/-! ## What holds afterwards -/

/-- Where `P` holds before, `Q` holds of what is returned and the state it leaves, and `E`
of the state left where something is raised. -/
def Ensures (P : σ → Prop) (x : Fallible σ α) (Q : α → σ → Prop) (E : σ → Prop) : Prop :=
  ∀ s, P s → (∀ a t, x s = (.ok a, t) → Q a t) ∧ ∀ e t, x s = (.error e, t) → E t

section

variable {P : σ → Prop} {Q : α → σ → Prop} {R : β → σ → Prop} {E : σ → Prop}

theorem ensures_ok {s : σ} {a : α} {t : σ} (hrun : x s = (.ok a, t)) (h : Q a t) :
    (∀ a t, x s = (.ok a, t) → Q a t) ∧ ∀ e t, x s = (.error e, t) → E t := by
  constructor
  · intro a' t' hrun'
    rw [hrun] at hrun'
    cases hrun'
    exact h
  · intro e' t' hrun'
    rw [hrun] at hrun'
    cases hrun'

theorem ensures_error {s : σ} {e : Exc} {t : σ} (hrun : x s = (.error e, t)) (h : E t) :
    (∀ a t, x s = (.ok a, t) → Q a t) ∧ ∀ e t, x s = (.error e, t) → E t := by
  constructor
  · intro a' t' hrun'
    rw [hrun] at hrun'
    cases hrun'
  · intro e' t' hrun'
    rw [hrun] at hrun'
    cases hrun'
    exact h

theorem ensures_pure {a : α} (h : ∀ s, P s → Q a s) : Ensures P (pure a : Fallible σ α) Q E :=
  fun s hs => ensures_ok rfl (h s hs)

theorem ensures_raise {e : Exc} (h : ∀ s, P s → E s) : Ensures P (raise e : Fallible σ α) Q E :=
  fun s hs => ensures_error rfl (h s hs)

theorem Ensures.bind {f : α → Fallible σ β} (hx : Ensures P x Q E)
    (hf : ∀ a, Ensures (Q a) (f a) R E) : Ensures P (x >>= f) R E := by
  intro s hs
  obtain ⟨hok, herror⟩ := hx s hs
  rcases hrun : x s with ⟨e | a, t⟩
  · exact ensures_error (bind_error hrun) (herror e t hrun)
  · rw [bind_ok hrun]
    exact hf a t (hok a t hrun)

/-- What is raised is seen by the rest. -/
theorem Ensures.attempt_bind {f : Except Exc α → Fallible σ β} (hx : Ensures P x Q E)
    (hok : ∀ a, Ensures (Q a) (f (.ok a)) R E) (herror : ∀ e, Ensures E (f (.error e)) R E) :
    Ensures P (Fallible.attempt x >>= f) R E := by
  intro s hs
  obtain ⟨hreturned, hraised⟩ := hx s hs
  rw [Fallible.attempt_bind]
  rcases hrun : x s with ⟨e | a, t⟩
  · exact herror e t (hraised e t hrun)
  · exact hok a t (hreturned a t hrun)

theorem Ensures.mono {P' : σ → Prop} {Q' : α → σ → Prop} {E' : σ → Prop} (hx : Ensures P x Q E)
    (hP : ∀ s, P' s → P s) (hQ : ∀ a s, Q a s → Q' a s) (hE : ∀ s, E s → E' s) :
    Ensures P' x Q' E' := by
  intro s hs
  obtain ⟨hok, herror⟩ := hx s (hP s hs)
  exact ⟨fun a t hrun => hQ a t (hok a t hrun), fun e t hrun => hE t (herror e t hrun)⟩

/-- A fact that is not about the state may be assumed. -/
theorem ensures_of_fact {p : Prop} (h : p → Ensures P x Q E) :
    Ensures (fun s => P s ∧ p) x Q E :=
  fun s hs => h hs.2 s hs.1

theorem Preserves.ensures (hx : Preserves I x) : Ensures I x (fun _ => I) I := by
  intro s hs
  have hnext := hx s hs
  constructor
  · intro a t hrun
    rwa [hrun] at hnext
  · intro e t hrun
    rwa [hrun] at hnext

theorem Ensures.preserves (hx : Ensures I x (fun _ => I) I) : Preserves I x := by
  intro s hs
  obtain ⟨hok, herror⟩ := hx s hs
  rcases hrun : x s with ⟨e | a, t⟩
  · exact herror e t hrun
  · exact hok a t hrun

end

/-! ## What is returned -/

/-- Whatever the computation returns meets `P`. -/
def Returns (P : α → Prop) (x : Fallible σ α) : Prop := ∀ s a t, x s = (.ok a, t) → P a

variable {P : α → Prop} {Q : β → Prop}

theorem returns_pure {a : α} (h : P a) : Returns P (pure a : Fallible σ α) := by
  intro s b t hrun
  obtain rfl : a = b := Except.ok.inj (Prod.mk.inj hrun).1
  exact h

theorem returns_raise (e : Exc) : Returns P (raise e : Fallible σ α) := by
  intro s a t hrun
  cases hrun

theorem Returns.bind {f : α → Fallible σ β} (hx : Returns P x) (hf : ∀ a, P a → Returns Q (f a)) :
    Returns Q (x >>= f) := by
  intro s b t hrun
  rcases hstep : x s with ⟨e | a, s'⟩
  · rw [bind_error hstep] at hrun
    cases hrun
  · rw [bind_ok hstep] at hrun
    exact hf a (hx s a s' hstep) s' b t hrun

/-- Nothing need be known of what the first part returns. -/
theorem returns_bind {f : α → Fallible σ β} (hf : ∀ a, Returns Q (f a)) : Returns Q (x >>= f) := by
  have hx : Returns (fun _ => True) x := fun _ _ _ _ => trivial
  exact hx.bind fun a _ => hf a

theorem Returns.attempt (hx : Returns P x) : Returns (fun r => ∀ a, r = .ok a → P a) (attempt x) := by
  intro s r t hrun a ha
  obtain ⟨hresult, -⟩ := Prod.mk.inj hrun
  have hstep : x s = (.ok a, (x s).2) := by
    rw [← ha, ← Except.ok.inj hresult]
  exact hx s a _ hstep

end Fallible
end Python
