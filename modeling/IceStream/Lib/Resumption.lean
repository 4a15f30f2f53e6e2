import IceStream.Lib.Python

/-!
# Programs in steps

A program works on its own part of the state and, now and then, makes a call
that others can come between. Run alone it is a `Fallible` computation again.
`Keeps` follows the calls along a protocol: it says which call may come next.
-/

namespace Python

/-- A program over `σ` with calls in `κ`, which are answered or raise. -/
inductive Resumption (σ κ α : Type)
  | ret (result : Except Exc α)
  | work (f : σ → σ) (k : σ → Resumption σ κ α)
  | call (c : κ) (k : Except Exc Unit → Resumption σ κ α)

namespace Resumption

variable {σ κ ρ α β : Type}

def bind : Resumption σ κ α → (α → Resumption σ κ β) → Resumption σ κ β
  | .ret (.ok a), g => g a
  | .ret (.error e), _ => .ret (.error e)
  | .work f k, g => .work f fun s => (k s).bind g
  | .call c k, g => .call c fun r => (k r).bind g

instance : Monad (Resumption σ κ) where
  pure a := .ret (.ok a)
  bind := bind

/-- A computation that nobody comes between. -/
def lift (x : Fallible σ α) : Resumption σ κ α := .work (fun s => (x s).2) fun s => .ret (x s).1

def request (c : κ) : Resumption σ κ Unit := .call c .ret

/-- `try: p finally: cleanup` -/
def ensuring : Resumption σ κ α → (σ → σ) → Resumption σ κ α
  | .ret r, cleanup => .work cleanup fun _ => .ret r
  | .work f k, cleanup => .work f fun s => (k s).ensuring cleanup
  | .call c k, cleanup => .call c fun r => (k r).ensuring cleanup

/-- `try: p except Exception as e: handler(e)` -/
def catching : Resumption σ κ α → (Exc → Resumption σ κ α) → Resumption σ κ α
  | .ret (.ok a), _ => .ret (.ok a)
  | .ret (.error e), handler => handler e
  | .work f k, handler => .work f fun s => (k s).catching handler
  | .call c k, handler => .call c fun r => (k r).catching handler

/-- The program run alone, with its calls answered by `answer`. -/
def alone (answer : κ → Fallible σ Unit) : Resumption σ κ α → Fallible σ α
  | .ret r => fun s => (r, s)
  | .work f k => fun s => (k s).alone answer (f s)
  | .call c k => fun s => (k (answer c s).1).alone answer (answer c s).2

section

variable {answer : κ → Fallible σ Unit}

@[simp] theorem alone_pure (a : α) : (pure a : Resumption σ κ α).alone answer = pure a := rfl

@[simp] theorem alone_lift (x : Fallible σ α) : (lift x : Resumption σ κ α).alone answer = x := rfl

@[simp] theorem alone_request (c : κ) :
    (request c : Resumption σ κ Unit).alone answer = answer c := rfl

@[simp] theorem alone_bind (p : Resumption σ κ α) (g : α → Resumption σ κ β) :
    (p >>= g).alone answer = p.alone answer >>= fun a => (g a).alone answer := by
  change (p.bind g).alone answer = _
  induction p with
  | ret r => cases r <;> rfl
  | work f k ih =>
    funext s
    exact congrFun (ih s) (f s)
  | call c k ih =>
    funext s
    exact congrFun (ih (answer c s).1) (answer c s).2

@[simp] theorem alone_ensuring (p : Resumption σ κ α) (cleanup : σ → σ) :
    (p.ensuring cleanup).alone answer = Fallible.ensuring (p.alone answer) cleanup := by
  induction p with
  | ret r => rfl
  | work f k ih =>
    funext s
    exact congrFun (ih s) (f s)
  | call c k ih =>
    funext s
    exact congrFun (ih (answer c s).1) (answer c s).2

@[simp] theorem alone_catching (p : Resumption σ κ α) (handler : Exc → Resumption σ κ α) :
    (p.catching handler).alone answer =
      Fallible.catching (p.alone answer) fun e => (handler e).alone answer := by
  induction p with
  | ret r => cases r <;> rfl
  | work f k ih =>
    funext s
    exact congrFun (ih s) (f s)
  | call c k ih =>
    funext s
    exact congrFun (ih (answer c s).1) (answer c s).2

end

/-! ## The calls of a run -/

/-- Every call of the program, run alone from `s`, meets `R` in the state it is made in. -/
def Calls (answer : κ → Fallible σ Unit) (R : σ → κ → Prop) : Resumption σ κ α → σ → Prop
  | .ret _, _ => True
  | .work f k, s => (k s).Calls answer R (f s)
  | .call c k, s => R s c ∧ (k (answer c s).1).Calls answer R (answer c s).2

section

variable {answer : κ → Fallible σ Unit} {R : σ → κ → Prop} {s : σ}

theorem calls_pure (a : α) : (pure a : Resumption σ κ α).Calls answer R s := trivial

theorem calls_lift (x : Fallible σ α) : (lift x : Resumption σ κ α).Calls answer R s := trivial

theorem calls_request {c : κ} (h : R s c) :
    (request c : Resumption σ κ Unit).Calls answer R s := ⟨h, trivial⟩

theorem Calls.bind {p : Resumption σ κ α} {g : α → Resumption σ κ β} (hp : p.Calls answer R s)
    (hg : ∀ a t, p.alone answer s = (.ok a, t) → (g a).Calls answer R t) :
    (p >>= g).Calls answer R s := by
  change (p.bind g).Calls answer R s
  induction p generalizing s with
  | ret r =>
    cases r with
    | ok a => exact hg a s rfl
    | error e => trivial
  | work f k ih => exact ih s hp hg
  | call c k ih => exact ⟨hp.1, ih _ hp.2 hg⟩

/-- What the first part returned and left may not matter to the rest. -/
theorem Calls.bind_any {p : Resumption σ κ α} {g : α → Resumption σ κ β}
    (hp : p.Calls answer R s) (hg : ∀ a t, (g a).Calls answer R t) :
    (p >>= g).Calls answer R s :=
  hp.bind fun a t _ => hg a t

/-- What the first part preserves, the rest may rely on. -/
theorem Calls.bind_of_preserves {I : σ → Prop} {p : Resumption σ κ α}
    {g : α → Resumption σ κ β} (hs : I s) (hp : p.Calls answer R s)
    (hI : ∀ s, I s → I (p.alone answer s).2) (hg : ∀ a t, I t → (g a).Calls answer R t) :
    (p >>= g).Calls answer R s := by
  apply hp.bind
  intro a t ht
  apply hg a t
  have hnext := hI s hs
  rw [ht] at hnext
  exact hnext

theorem Calls.ensuring {p : Resumption σ κ α} (hp : p.Calls answer R s) (cleanup : σ → σ) :
    (p.ensuring cleanup).Calls answer R s := by
  induction p generalizing s with
  | ret r => trivial
  | work f k ih => exact ih s hp
  | call c k ih => exact ⟨hp.1, ih _ hp.2⟩

theorem Calls.catching {p : Resumption σ κ α} {handler : Exc → Resumption σ κ α}
    (hp : p.Calls answer R s) (hhandler : ∀ e t, (handler e).Calls answer R t) :
    (p.catching handler).Calls answer R s := by
  induction p generalizing s with
  | ret r =>
    cases r with
    | ok a => trivial
    | error e => exact hhandler e s
  | work f k ih => exact ih s hp
  | call c k ih => exact ⟨hp.1, ih _ hp.2⟩

end

/-! ## The steps of a run -/

/-- Every step of the program, run alone from `s`, takes a state to one related to it. -/
def Steps (answer : κ → Fallible σ Unit) (R : σ → σ → Prop) : Resumption σ κ α → σ → Prop
  | .ret _, _ => True
  | .work f k, s => R s (f s) ∧ (k s).Steps answer R (f s)
  | .call c k, s => R s (answer c s).2 ∧ (k (answer c s).1).Steps answer R (answer c s).2

section

variable {answer : κ → Fallible σ Unit} {R : σ → σ → Prop} {s : σ}

theorem steps_pure (a : α) : (pure a : Resumption σ κ α).Steps answer R s := trivial

theorem steps_lift {x : Fallible σ α} :
    (lift x : Resumption σ κ α).Steps answer R s ↔ R s (x s).2 := and_iff_left trivial

theorem steps_request {c : κ} :
    (request c : Resumption σ κ Unit).Steps answer R s ↔ R s (answer c s).2 :=
  and_iff_left trivial

theorem steps_bind {p : Resumption σ κ α} {g : α → Resumption σ κ β} :
    (p >>= g).Steps answer R s ↔ p.Steps answer R s ∧
      ∀ a t, p.alone answer s = (.ok a, t) → (g a).Steps answer R t := by
  change (p.bind g).Steps answer R s ↔ _
  induction p generalizing s with
  | ret r =>
    cases r with
    | ok a =>
      constructor
      · intro h
        refine ⟨trivial, ?_⟩
        intro b t ht
        cases ht
        exact h
      · intro h
        exact h.2 a s rfl
    | error e =>
      refine ⟨fun _ => ⟨trivial, ?_⟩, fun _ => trivial⟩
      intro a t ht
      cases ht
  | work f k ih => exact (and_congr_right fun _ => ih s).trans and_assoc.symm
  | call c k ih => exact (and_congr_right fun _ => ih _).trans and_assoc.symm

/-- What the first part returned and left may not matter to the rest. -/
theorem Steps.bind_any {p : Resumption σ κ α} {g : α → Resumption σ κ β}
    (hp : p.Steps answer R s) (hg : ∀ a t, (g a).Steps answer R t) : (p >>= g).Steps answer R s :=
  steps_bind.mpr ⟨hp, fun a t _ => hg a t⟩

theorem steps_lift_bind {x : Fallible σ α} {g : α → Resumption σ κ β} {a : α} {t : σ}
    (h : x s = (.ok a, t)) :
    (lift x >>= g).Steps answer R s ↔ R s t ∧ (g a).Steps answer R t := by
  rw [steps_bind, steps_lift, alone_lift, h]
  refine and_congr_right fun _ => ⟨fun hg => hg a t rfl, ?_⟩
  intro hg b u hu
  cases hu
  exact hg

/-- What every step preserves, the run preserves. -/
theorem Steps.preserves {I : σ → Prop} {p : Resumption σ κ α} (hR : ∀ s t, I s → R s t → I t)
    (hs : I s) (h : p.Steps answer R s) : I (p.alone answer s).2 := by
  induction p generalizing s with
  | ret r => exact hs
  | work f k ih => exact ih s (hR s _ hs h.1) h.2
  | call c k ih => exact ih _ (hR s _ hs h.1) h.2

/-- Steps related by `R` are related by what `R` gives under an invariant. -/
theorem Steps.imp {I : σ → Prop} {R' : σ → σ → Prop} {p : Resumption σ κ α}
    (hR : ∀ s t, I s → R s t → I t ∧ R' s t) (hs : I s) (h : p.Steps answer R s) :
    p.Steps answer R' s := by
  induction p generalizing s with
  | ret r => trivial
  | work f k ih =>
    obtain ⟨hI, hstep⟩ := hR s _ hs h.1
    exact ⟨hstep, ih s hI h.2⟩
  | call c k ih =>
    obtain ⟨hI, hstep⟩ := hR s _ hs h.1
    exact ⟨hstep, ih _ hI h.2⟩

theorem steps_ensuring {p : Resumption σ κ α} {cleanup : σ → σ} :
    (p.ensuring cleanup).Steps answer R s ↔ p.Steps answer R s ∧
      R (p.alone answer s).2 (cleanup (p.alone answer s).2) := by
  induction p generalizing s with
  | ret r =>
    constructor
    · intro h
      exact ⟨trivial, h.1⟩
    · intro h
      exact ⟨h.2, trivial⟩
  | work f k ih => exact (and_congr_right fun _ => ih s).trans and_assoc.symm
  | call c k ih => exact (and_congr_right fun _ => ih _).trans and_assoc.symm

end

/-! ## What a program does on its own -/

/-- Whatever it meets, the program does on its own only what `P` lets it. -/
def Works (P : (σ → σ) → Prop) : Resumption σ κ α → Prop
  | .ret _ => True
  | .work f k => P f ∧ ∀ s, (k s).Works P
  | .call _ k => ∀ r, (k r).Works P

section

variable {P : (σ → σ) → Prop}

theorem works_pure (a : α) : (pure a : Resumption σ κ α).Works P := trivial

theorem works_lift {x : Fallible σ α} (hx : P fun s => (x s).2) :
    (lift x : Resumption σ κ α).Works P := ⟨hx, fun _ => trivial⟩

theorem works_request (c : κ) : (request c : Resumption σ κ Unit).Works P := fun _ => trivial

theorem Works.bind {p : Resumption σ κ α} {g : α → Resumption σ κ β} (hp : p.Works P)
    (hg : ∀ a, (g a).Works P) : (p >>= g).Works P := by
  change (p.bind g).Works P
  induction p with
  | ret r =>
    cases r with
    | ok a => exact hg a
    | error e => trivial
  | work f k ih => exact ⟨hp.1, fun s => ih s (hp.2 s)⟩
  | call c k ih => exact fun r => ih r (hp r)

end

/-- A protocol: where a call leads, which calls are allowed, where the program may raise
and what it may do on its own. -/
structure Protocol (σ κ ρ : Type) where
  next : κ → ρ
  Allows : ρ → κ → Prop
  MayRaise : ρ → Prop
  Private : (σ → σ) → Prop

/-- From `s` on the program keeps to the protocol as long as its calls are answered, and
ends in `Q`. -/
inductive Keeps (P : Protocol σ κ ρ) (Q : ρ → α → Prop) : ρ → Resumption σ κ α → Prop
  | ok {s : ρ} {a : α} (h : Q s a) : Keeps P Q s (.ret (.ok a))
  | raised {s : ρ} {e : Exc} (h : P.MayRaise s) : Keeps P Q s (.ret (.error e))
  | work {s : ρ} {f : σ → σ} {k : σ → Resumption σ κ α} (hf : P.Private f)
    (h : ∀ x, Keeps P Q s (k x)) : Keeps P Q s (.work f k)
  | call {s : ρ} {c : κ} {k : Except Exc Unit → Resumption σ κ α} (hc : P.Allows s c)
    (h : Keeps P Q (P.next c) (k (.ok ()))) : Keeps P Q s (.call c k)

section

variable {P : Protocol σ κ ρ} {Q : ρ → α → Prop} {Q' : ρ → β → Prop} {s : ρ}

theorem Keeps.bind {p : Resumption σ κ α} {g : α → Resumption σ κ β} (h : Keeps P Q s p)
    (hg : ∀ s a, Q s a → Keeps P Q' s (g a)) : Keeps P Q' s (p >>= g) := by
  change Keeps P Q' s (p.bind g)
  induction h with
  | ok hQ => exact hg _ _ hQ
  | raised hraise => exact .raised hraise
  | work hf _ ih => exact .work hf ih
  | call hc _ ih => exact .call hc ih

/-- After a step that leads to one known state, the rest starts there. -/
theorem Keeps.bind_at {p : Resumption σ κ α} {g : α → Resumption σ κ β} {t : ρ}
    (h : Keeps P (fun s' _ => s' = t) s p) (hg : ∀ a, Keeps P Q' t (g a)) :
    Keeps P Q' s (p >>= g) := by
  apply h.bind
  intro s' a hs'
  rw [hs']
  exact hg a

theorem Keeps.ensuring {p : Resumption σ κ α} (h : Keeps P Q s p) {cleanup : σ → σ}
    (hcleanup : P.Private cleanup) : Keeps P Q s (p.ensuring cleanup) := by
  induction h with
  | ok hQ => exact .work hcleanup fun _ => .ok hQ
  | raised hraise => exact .work hcleanup fun _ => .raised hraise
  | work hf _ ih => exact .work hf ih
  | call hc _ ih => exact .call hc ih

theorem keeps_pure {a : α} (h : Q s a) : Keeps P Q s (pure a : Resumption σ κ α) := .ok h

theorem keeps_request {c : κ} {Q : ρ → Unit → Prop} (hc : P.Allows s c) (h : Q (P.next c) ()) :
    Keeps P Q s (request c : Resumption σ κ Unit) :=
  .call hc (.ok h)

/-- What nobody comes between may raise where the protocol lets it. -/
theorem keeps_lift {x : Fallible σ α} (hx : P.Private fun t => (x t).2) (hraise : P.MayRaise s)
    (h : ∀ a, Q s a) : Keeps P Q s (lift x : Resumption σ κ α) := by
  refine .work hx fun t => ?_
  cases (x t).1 with
  | ok a => exact .ok (h a)
  | error e => exact .raised hraise

theorem keeps_lift_total {x : Fallible σ α} (hx : P.Private fun t => (x t).2)
    (htotal : ∀ t, ∃ a, (x t).1 = .ok a) (h : ∀ a, Q s a) :
    Keeps P Q s (lift x : Resumption σ κ α) := by
  refine .work hx fun t => ?_
  obtain ⟨a, ha⟩ := htotal t
  rw [ha]
  exact .ok (h a)

end

end Resumption
end Python
