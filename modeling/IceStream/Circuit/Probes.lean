import IceStream.Circuit.Copies

/-!
# One probe at a time

An instance knows of its own probe only. The probes granted by all of them are
counted while the stored state stays `HALF_OPEN` and no result is recorded.
-/

namespace IceStream
open Python Stepping Circuit

/-- A fleet with the probes granted since the stored state became `HALF_OPEN` or a
result was recorded. -/
structure Probing (ι : Type) where
  fleet : Fleet ι
  probes : ℕ

namespace Probing

variable {ι : Type}

/-- The answer of an action, where there is one. -/
def answer (s : Probing ι) : FleetAction ι → Option (Operation × Answer)
  | .build _ _ _ _ => none
  | .operate i op r => (s.fleet.instances i).map fun x => (op, (perform op r (x.on s.fleet.store)).1)

def granted : Option (Operation × Answer) → Bool
  | some (.beginRecoveryProbe, .permitted permitted) => permitted
  | _ => false

def resulted : Option (Operation × Answer) → Bool
  | some (.recordRecoveryResult _ _, .state _) => true
  | _ => false

/-- The probes that are still on their way. -/
def carried (s : Probing ι) (a : FleetAction ι) : ℕ :=
  if s.fleet.store.state = .halfOpen ∧ resulted (s.answer a) = false then s.probes else 0

/-- The probes of the episode that is going on after the action. -/
def count (s : Probing ι) (a : FleetAction ι) (g : Fleet ι) : ℕ :=
  if g.store.state = .halfOpen then s.carried a + (granted (s.answer a)).toNat else 0

variable [DecidableEq ι]

def step (s : Probing ι) (a : FleetAction ι) : Option (Probing ι) :=
  (s.fleet.step a).map fun g => ⟨g, s.count a g⟩

end Probing

namespace Probing

variable {ι : Type}

def SingleProbe (_ : Probing ι) (_ : FleetAction ι) (t : Probing ι) : Prop := t.probes ≤ 1

instance (s : Probing ι) (a : FleetAction ι) (t : Probing ι) : Decidable (s.SingleProbe a t) :=
  inferInstanceAs (Decidable (t.probes ≤ 1))

/-- While the stored state is `HALF_OPEN` and a probe is on its way, none is asked of
another instance that is ready for one. -/
def AsksAlone (s : Probing ι) (a : FleetAction ι) (_ : Probing ι) : Prop :=
  match a with
  | .build _ _ _ _ => True
  | .operate i op r => ∀ x ∈ s.fleet.instances i,
    Grants op r ((x.on s.fleet.store).refreshed op r) → s.fleet.store.state = .halfOpen →
      s.probes = 0

end Probing

section

variable {c y d : Circuit} {op : Operation} {r : Reading} {store : CircuitBreakerStore}

theorem beginRecoveryProbe_granted_iff (c : Circuit) (r : Reading) :
    (c.beginRecoveryProbe r).1 = true ↔
      Grants .beginRecoveryProbe r (c.refreshed .beginRecoveryProbe r) := by
  cases henabled : c.config.enabled with
  | false =>
    simp only [beginRecoveryProbe, henabled, Bool.not_false, ↓reduceIte, Bool.false_eq_true,
      false_iff]
    intro hgrants
    have henabled' := hgrants.enabled
    rw [refreshed_config, henabled] at henabled'
    cases henabled'
  | true =>
    have hrefreshed : c.refreshed .beginRecoveryProbe r = c.sync r := by
      rw [refreshed_of_ne (by simp), refreshes, henabled, if_pos rfl]
    rw [hrefreshed]
    simp only [beginRecoveryProbe, henabled, Bool.not_true, Bool.false_eq_true, ↓reduceIte]
    split
    · rename_i hhalf
      simp only [Bool.false_eq_true, false_iff]
      exact fun hgrants => hhalf (checkTimeout_ready hgrants.ready)
    · rename_i hhalf
      simp only [ne_eq, Decidable.not_not] at hhalf
      split
      · rename_i hset
        simp only [Bool.false_eq_true, false_iff]
        intro hgrants
        rw [currentState, checkTimeout_probeActive, hgrants.free] at hset
        cases hset
      · rename_i hfree
        rw [currentState, checkTimeout_probeActive, Bool.not_eq_true] at hfree
        refine iff_of_true rfl ⟨rfl, ?_, ?_, hfree⟩
        · rw [sync_config]
          exact henabled
        · obtain ⟨date, hdue, -⟩ | ⟨-, heq⟩ := (c.sync r).checkTimeout_cases r
          · exact .inr ⟨date, hdue⟩
          · rw [currentState, heq] at hhalf
            exact .inl hhalf

theorem granted_state (hgrants : Grants op r y) (hchange : Change op r y d) :
    d.state = .halfOpen := by
  cases hchange with
  | rest hmoves hnot errorRate => exact absurd hgrants hnot
  | probed hmoves hgrants hhalf => exact hhalf
  | moved hmoves hnot hprepared hvalid reason rate metadata => exact absurd hgrants hnot
  | movedProbed hmoves hgrants hopen reason rate metadata => rfl

/-- A probe is granted where the copy is ready for one. -/
theorem granted_iff : Probing.granted (some (op, (perform op r c).1)) = true ↔
    Grants op r (c.refreshed op r) := by
  by_cases hop : op = .beginRecoveryProbe
  · obtain rfl := hop
    exact beginRecoveryProbe_granted_iff c r
  · refine iff_of_false ?_ (not_grants_of_ne hop)
    cases op with
    | beginRecoveryProbe => exact absurd rfl hop
    | _ => simp [Probing.granted]

end

namespace Probing

section

variable {ι : Type} {s : Probing ι} {a : FleetAction ι}

theorem carried_le (s : Probing ι) (a : FleetAction ι) : s.carried a ≤ s.probes := by
  unfold carried
  split
  · exact le_rfl
  · exact Nat.zero_le _

theorem count_of_not_granted (hgranted : granted (s.answer a) = false) (g : Fleet ι) :
    s.count a g ≤ s.probes := by
  simp only [count, hgranted, Bool.toNat_false, add_zero]
  split
  · exact s.carried_le a
  · exact Nat.zero_le _

end

variable {ι : Type} [DecidableEq ι] {s t : Probing ι} {a : FleetAction ι}

/-- A probe that is granted leaves the stored state `HALF_OPEN`, if it was. -/
theorem granted_store {x : Instance} {r : Reading}
    (hgrants : Grants .beginRecoveryProbe r
      ((x.on s.fleet.store).refreshed .beginRecoveryProbe r))
    (hhalf : s.fleet.store.state = .halfOpen) (i : ι) :
    (s.fleet.put i ((x.on s.fleet.store).call (.beginRecoveryProbe, r))).store.state = .halfOpen := by
  have hchange := (perform_effect .beginRecoveryProbe r (x.on s.fleet.store)).change
  have hstore : ((x.on s.fleet.store).refreshed .beginRecoveryProbe r).storage =
      some s.fleet.store := refreshed_storage .beginRecoveryProbe r (x.on s.fleet.store)
  obtain ⟨store, hstored, hrow⟩ := change_storage hstore hchange
  have hstate := granted_state hgrants hchange
  have hput : (s.fleet.put i ((x.on s.fleet.store).call (.beginRecoveryProbe, r))).store = store := by
    rw [Fleet.put, call, hstored, Option.getD_some]
  rw [hput]
  obtain rfl | ⟨rate, hrow⟩ := hrow
  · exact hhalf
  · rw [CircuitBreakerStore.state, hrow]
    exact hstate

theorem singleProbe_iff_asksAlone (h : s.probes ≤ 1) (ht : s.step a = some t) :
    s.SingleProbe a t ↔ s.AsksAlone a t := by
  obtain ⟨g, hg, rfl⟩ := Option.map_eq_some_iff.mp ht
  cases a with
  | build i config interval r => exact iff_of_true ((count_of_not_granted rfl g).trans h) trivial
  | operate i op r =>
    obtain ⟨x, hx, rfl⟩ := Fleet.operate_eq hg
    have hanswer : s.answer (.operate i op r) = some (op, (perform op r (x.on s.fleet.store)).1) := by
      rw [answer, hx, Option.map_some]
    have halone (t : Probing ι) : s.AsksAlone (.operate i op r) t ↔
        (Grants op r ((x.on s.fleet.store).refreshed op r) → s.fleet.store.state = .halfOpen →
          s.probes = 0) := by
      constructor
      · exact fun halone => halone x hx
      · rintro halone x' hx'
        obtain rfl := Option.some.inj (hx.symm.trans hx')
        exact halone
    rw [halone]
    by_cases hgrants : Grants op r ((x.on s.fleet.store).refreshed op r)
      -- a grant adds one to the probes that are carried over
    · obtain rfl := hgrants.op_eq
      have hgranted : granted (s.answer (.operate i .beginRecoveryProbe r)) = true := by
        rw [hanswer, granted_iff]
        exact hgrants
      have hresulted : resulted (s.answer (.operate i .beginRecoveryProbe r)) = false := by
        rw [hanswer]
        rfl
      by_cases hhalf : s.fleet.store.state = .halfOpen
      · have hcarried : s.carried (.operate i .beginRecoveryProbe r) = s.probes :=
          if_pos ⟨hhalf, hresulted⟩
        rw [SingleProbe, count, if_pos (granted_store hgrants hhalf i), hcarried, hgranted,
          Bool.toNat_true]
        constructor
        · intro hone _ _
          have hone : s.probes + 1 ≤ 1 := hone
          omega
        · intro hnone
          exact Nat.succ_le_succ (hnone hgrants hhalf).le
        -- the episode only begins with this probe
      · have hcarried : s.carried (.operate i .beginRecoveryProbe r) = 0 :=
          if_neg fun hcarried => hhalf hcarried.1
        refine iff_of_true ?_ fun _ hhalf' => absurd hhalf' hhalf
        simp only [SingleProbe, count, hcarried, hgranted, Bool.toNat_true, zero_add]
        split
        · exact le_rfl
        · exact Nat.zero_le 1
    · have hgranted : granted (s.answer (.operate i op r)) = false := by
        rw [hanswer, ← Bool.not_eq_true, granted_iff]
        exact hgrants
      exact iff_of_true ((count_of_not_granted hgranted _).trans h)
        fun hgrants' => absurd hgrants' hgrants

/-- At most one probe at a time is granted just in case none is asked of another
instance while one is on its way. -/
theorem single_probe_iff (f : Fleet ι) (actions : List (FleetAction ι)) :
    AllSteps step SingleProbe ⟨f, 0⟩ actions ↔ AllSteps step AsksAlone ⟨f, 0⟩ actions := by
  apply allSteps_iff_of_invariant (I := fun s => s.probes ≤ 1)
  · exact fun _ _ _ h ht => singleProbe_iff_asksAlone h ht
  · exact fun _ _ _ h ht halone => (singleProbe_iff_asksAlone h ht).mpr halone
  · exact Nat.zero_le 1

/-- Two instances that find the stored state `HALF_OPEN`, and a probe of the first. -/
def firstProbe : List (FleetAction Bool) :=
  [.build true .default 0.5 instant, .operate true (.transitionTo .open_ "manual" none) instant,
    .operate true (.transitionTo .halfOpen "manual" none) instant,
    .build false .default 0.5 instant, .operate true .beginRecoveryProbe instant]

/-- The second is granted a probe as well. -/
theorem second_probe_granted :
    ¬AllSteps step SingleProbe ⟨Fleet.idle, 0⟩
      (firstProbe ++ [.operate false .beginRecoveryProbe instant]) := by
  intro h
  have hlaw := h.last rfl rfl
  revert hlaw
  decide +kernel

end Probing

end IceStream
