import IceStream.Circuit.Runs
import IceStream.Lib.Stepping

/-!
# Results of recovery probes

One instance, whose storage others may write to between its calls. How many
results a transition out of `HALF_OPEN` takes, and how results and attempts are
counted.
-/

namespace IceStream
open Python Stepping

inductive InstanceAction
  | call (a : Call)
  /-- What others leave in storage. -/
  | others (store : CircuitBreakerStore)

namespace Circuit

/-- The storage of an instance that has one is replaced. -/
def restored (c : Circuit) (store : CircuitBreakerStore) : Circuit :=
  { c with storage := c.storage.map fun _ => store }

/-- What `record_recovery_result` takes the result to be. -/
def passes (c : Circuit) (errorRate : Float) (success : Option Bool) : Bool :=
  success.getD (decide (errorRate ≤ c.config.errorThreshold))

/-- An instant at which storage answers. -/
def instant : Reading := ⟨0, 0, true, true, true⟩

def toHalfOpen : List InstanceAction :=
  [.call (.transitionTo .open_ "manual" none, instant),
    .call (.transitionTo .halfOpen "manual" none, instant)]

/-! ## The half-open thresholds -/

/-- An instance with the results recorded since it entered `HALF_OPEN` last. -/
structure Episode where
  circuit : Circuit
  successes : ℕ
  failures : ℕ

namespace Episode

/-- A result counts when it is accepted. -/
def result (e : Episode) : Operation → Episode
  | .recordRecoveryResult errorRate success =>
    if e.circuit.state = .halfOpen then
      if e.circuit.passes errorRate success then { e with successes := e.successes + 1 }
      else { e with failures := e.failures + 1 }
    else e
  | _ => e

/-- Entering `HALF_OPEN` starts the count again. -/
def moveTo (e : Episode) (d : Circuit) : Episode :=
  if e.circuit.state ≠ .halfOpen ∧ d.state = .halfOpen then ⟨d, 0, 0⟩ else { e with circuit := d }

def step (e : Episode) : InstanceAction → Option Episode
  | .call a => some ((e.result a.1).moveTo (e.circuit.call a))
  | .others store => some (e.moveTo (e.circuit.restored store))

/-- A result that leads out of `HALF_OPEN` is one of as many as the configuration
asks for. -/
def ThresholdsHonoured (e : Episode) (a : InstanceAction) (e' : Episode) : Prop :=
  match a with
  | .call (.recordRecoveryResult _ _, _) => e.circuit.state = .halfOpen →
    (e'.circuit.state = .closed →
      e.circuit.config.halfOpenSuccessThreshold ≤ e'.successes) ∧
    (e'.circuit.state = .open_ →
      e.circuit.config.halfOpenFailureThreshold ≤ e'.failures)
  | _ => True

/-- The threshold for the result that is accepted is one. -/
def SingleResult (e : Episode) (a : InstanceAction) (_ : Episode) : Prop :=
  match a with
  | .call (.recordRecoveryResult errorRate success, _) => e.circuit.state = .halfOpen →
    if e.circuit.passes errorRate success then e.circuit.config.halfOpenSuccessThreshold = 1
    else e.circuit.config.halfOpenFailureThreshold = 1
  | _ => True

/-- In `HALF_OPEN` no result has been recorded yet. -/
def Fresh (e : Episode) : Prop := e.circuit.state = .halfOpen → e.successes = 0 ∧ e.failures = 0

variable {e e' : Episode} {a : InstanceAction} {d : Circuit}

theorem call_record (c : Circuit) (r : Reading) (errorRate : Float) (success : Option Bool)
    (hhalf : c.state = .halfOpen) :
    c.call (.recordRecoveryResult errorRate success, r) =
      (c.observed errorRate).recovered r errorRate (c.passes errorRate success) := by
  simp only [call, perform, recordRecoveryResult_of_halfOpen c r hhalf]
  rfl

theorem moveTo_fresh (h : e.Fresh) : (e.moveTo d).Fresh := by
  intro hhalf
  unfold moveTo at hhalf ⊢
  split
  · exact ⟨rfl, rfl⟩
  · rename_i hstays
    rw [if_neg hstays] at hhalf
    simp only [ne_eq, not_and_or, Decidable.not_not] at hstays
    exact h (hstays.resolve_right (not_not.mpr hhalf))

theorem fresh_step (h : e.Fresh) (ht : e.step a = some e') : e'.Fresh := by
  cases a with
  | others store =>
    obtain rfl := Option.some.inj ht
    exact moveTo_fresh h
  | call a =>
    obtain rfl := Option.some.inj ht
    obtain ⟨op, r⟩ := a
    cases op with
    | recordRecoveryResult errorRate success =>
      by_cases hhalf : e.circuit.state = .halfOpen
      · intro hhalf'
        have hleft : (e.circuit.call (.recordRecoveryResult errorRate success, r)).state ≠
            .halfOpen := by
          rw [call_record e.circuit r errorRate success hhalf, recovered_state]
          split <;> simp
        unfold moveTo at hhalf'
        split at hhalf'
        · exact absurd hhalf' hleft
        · exact absurd hhalf' hleft
      · have hsame : e.result (.recordRecoveryResult errorRate success) = e := if_neg hhalf
        rw [hsame]
        exact moveTo_fresh h
    | _ => exact moveTo_fresh h

/-- The first result already leads out of `HALF_OPEN`. -/
theorem honoured_iff_single (h : e.Fresh) (ht : e.step a = some e') :
    e.ThresholdsHonoured a e' ↔ e.SingleResult a e' := by
  cases a with
  | others store => exact Iff.rfl
  | call a =>
    obtain rfl := Option.some.inj ht
    obtain ⟨op, r⟩ := a
    cases op with
    | recordRecoveryResult errorRate success =>
      simp only [ThresholdsHonoured, SingleResult]
      refine imp_congr_right fun hhalf => ?_
      obtain ⟨hsuccesses, hfailures⟩ := h hhalf
      -- nothing is counted yet, so the threshold that is reached is one
      have hpositive := e.circuit.config.success_valid
      have hpositive' := e.circuit.config.failure_valid
      have hcall := call_record e.circuit r errorRate success hhalf
      cases hpass : e.circuit.passes errorRate success with
      | true =>
        rw [hpass] at hcall
        have hstate : (e.circuit.call (.recordRecoveryResult errorRate success, r)).state =
            .closed := by
          rw [hcall, recovered_state]
          rfl
        simp only [result, hhalf, hpass, moveTo, hstate, ↓reduceIte, hsuccesses, forall_const,
          reduceCtorEq, and_false, false_imp_iff, and_true, zero_add]
        omega
      | false =>
        rw [hpass] at hcall
        have hstate : (e.circuit.call (.recordRecoveryResult errorRate success, r)).state =
            .open_ := by
          rw [hcall, recovered_state]
          rfl
        simp only [result, hhalf, hpass, moveTo, hstate, ↓reduceIte, hfailures, forall_const,
          reduceCtorEq, and_false, false_imp_iff, true_and, zero_add, Bool.false_eq_true]
        omega
    | _ => exact Iff.rfl

/-- A run honours the thresholds just in case they are one wherever a result is
accepted. -/
theorem thresholds_honoured_iff (c : Circuit) (actions : List InstanceAction) :
    AllSteps step ThresholdsHonoured ⟨c, 0, 0⟩ actions ↔
      AllSteps step SingleResult ⟨c, 0, 0⟩ actions := by
  apply allSteps_iff_of_invariant (I := Fresh)
  · exact fun _ _ _ h ht => honoured_iff_single h ht
  · exact fun _ _ _ h ht _ => fresh_step h ht
  · exact fun _ => ⟨rfl, rfl⟩

/-- Two successful results are asked for. -/
def twoSuccesses : CircuitBreakerConfig :=
  { CircuitBreakerConfig.default with
    halfOpenSuccessThreshold := 2
    success_valid := by decide }

/-- The first successful result closes a breaker that is configured for two. -/
theorem first_result_closes :
    ¬AllSteps step ThresholdsHonoured ⟨build twoSuccesses 0.5 none instant, 0, 0⟩
      (toHalfOpen ++ [.call (.recordRecoveryResult 0 (some true), instant)]) := by
  intro h
  obtain ⟨u, hu⟩ : ∃ u, exec step ⟨build twoSuccesses 0.5 none instant, 0, 0⟩ toHalfOpen =
      some u := ⟨_, rfl⟩
  have hu' := hu
  obtain rfl := Option.some.inj hu'
  have hlaw := h.last hu rfl
  have htwo : 2 ≤ 1 := (hlaw rfl).1 rfl
  omega

end Episode

/-! ## Attempts and results -/

/-- No more results than attempts. -/
def BreakerAccounted (b : CircuitBreaker) : Prop :=
  b.successfulRecoveries + b.failedRecoveries ≤ b.recoveryAttempts

instance (b : CircuitBreaker) : Decidable (BreakerAccounted b) :=
  inferInstanceAs (Decidable (_ ≤ _))

def RowAccounted (row : CircuitBreakerRow) : Prop :=
  row.successfulRecoveries + row.failedRecoveries ≤ row.recoveryAttempts

instance (row : CircuitBreakerRow) : Decidable (RowAccounted row) :=
  inferInstanceAs (Decidable (_ ≤ _))

/-- Others leave a row in which the attempts cover the results. -/
def accountStep (c : Circuit) : InstanceAction → Option Circuit
  | .call a => some (c.call a)
  | .others store =>
    if ∀ row ∈ store.row, RowAccounted row then some (c.restored store) else none

def AccountedFor (_ : Circuit) (_ : InstanceAction) (d : Circuit) : Prop :=
  BreakerAccounted d.breaker

/-- A result that is accepted answers an attempt. -/
def Answers (c : Circuit) (a : InstanceAction) (_ : Circuit) : Prop :=
  match a with
  | .call (.recordRecoveryResult _ _, _) => c.state = .halfOpen →
    c.breaker.successfulRecoveries + c.breaker.failedRecoveries < c.breaker.recoveryAttempts
  | _ => True

/-- The attempts cover the results, in the instance and in its row. -/
structure Balanced (c : Circuit) : Prop where
  breaker : BreakerAccounted c.breaker
  row : ∀ store ∈ c.storage, ∀ row ∈ store.row, RowAccounted row

section

variable {c y d : Circuit} {a : InstanceAction} {op : Operation} {r : Reading}

theorem Balanced.refreshed (h : c.Balanced) (op : Operation) (r : Reading) :
    (c.refreshed op r).Balanced := by
  cases haccessed : c.accessed op r with
  | some row =>
    rw [refreshed_of_accessed haccessed]
    obtain ⟨store, hstore, hrow⟩ := accessed_eq_some haccessed
    exact ⟨h.row store hstore row hrow, h.row⟩
  | none =>
    obtain ⟨time, hrefreshed⟩ := refreshed_of_unaccessed haccessed
    rw [hrefreshed]
    exact ⟨h.breaker, h.row⟩

/-- A row that is written is the instance's own. -/
theorem Balanced.moved (h : c.Balanced) (r : Reading) (target : CircuitState) (reason : String)
    (rate : Option Float) (metadata : Metadata) :
    (c.moved r target reason rate metadata).Balanced :=
  ⟨h.breaker, forall_row_written r.upsertOk h.row (fun _ => rfl) h.breaker⟩

theorem Balanced.probed (h : c.Balanced) (r : Reading) : (c.probed r).Balanced := by
  have hbreaker := h.breaker
  have hattempt : BreakerAccounted (c.probed r).breaker := by
    simp only [BreakerAccounted, Circuit.probed] at hbreaker ⊢
    omega
  exact ⟨hattempt, forall_row_written r.upsertOk h.row (fun _ => rfl) hattempt⟩

/-- A result takes up one attempt that has none yet. -/
theorem counted_accounted_iff (c : Circuit) (isPass : Bool) :
    BreakerAccounted (c.counted isPass).breaker ↔
      c.breaker.successfulRecoveries + c.breaker.failedRecoveries < c.breaker.recoveryAttempts := by
  cases isPass with
  | true =>
    simp only [BreakerAccounted, counted, Bool.toNat_true, Bool.not_true, Bool.toNat_false]
    omega
  | false =>
    simp only [BreakerAccounted, counted, Bool.toNat_false, Bool.not_false, Bool.toNat_true]
    omega

/-- Every operation but a result keeps the balance. -/
theorem Balanced.effect (h : y.Balanced) (heffect : Effect op r y d)
    (hresult : ∀ errorRate success, op ≠ .recordRecoveryResult errorRate success) :
    d.Balanced := by
  cases heffect with
  | rest errorRate => exact ⟨h.breaker, h.row⟩
  | @timedOut errorRate date hdue =>
    have hobserved : (y.observed errorRate).Balanced := ⟨h.breaker, h.row⟩
    exact hobserved.moved r _ _ _ _
  | @tripped errorRate hop hclosed henabled hrate =>
    have hobserved : (y.observed errorRate).Balanced := ⟨h.breaker, h.row⟩
    exact hobserved.moved r _ _ _ _
  | manual hop hvalid => exact h.moved r _ _ _ _
  | probed hop hhalf hfree => exact h.probed r
  | timedOutProbed hop hdue hfree => exact (h.moved r _ _ _ _).probed r
  | recovered isPass hop hhalf hpass => exact absurd hop (hresult _ _)

theorem call_balanced_iff (h : c.Balanced) (a : Call) :
    (BreakerAccounted (c.call a).breaker ↔ Answers c (.call a) (c.call a)) ∧
      (Answers c (.call a) (c.call a) → (c.call a).Balanced) := by
  obtain ⟨op, r⟩ := a
  have hbalanced (hresult : ∀ errorRate success, op ≠ .recordRecoveryResult errorRate success) :
      (c.call (op, r)).Balanced :=
    (h.refreshed op r).effect (perform_effect op r c) hresult
  cases op with
  | recordRecoveryResult errorRate success =>
    by_cases hhalf : c.state = .halfOpen
    · rw [Episode.call_record c r errorRate success hhalf, recovered_eq]
      set isPass := c.passes errorRate success with hpass
      have hcounted := counted_accounted_iff (c.observed errorRate) isPass
      have hanswers : Answers c (.call (.recordRecoveryResult errorRate success, r)) c ↔
          BreakerAccounted ((c.observed errorRate).counted isPass).breaker := by
        rw [hcounted]
        exact ⟨fun hanswer => hanswer hhalf, fun hlt _ => hlt⟩
      refine ⟨hanswers.symm, fun hanswer => ?_⟩
      exact Balanced.moved (c := (c.observed errorRate).counted isPass)
        ⟨hanswers.mp hanswer, h.row⟩ r _ _ _ _
    · have hstill : c.call (.recordRecoveryResult errorRate success, r) = c.observed errorRate := by
        simp only [call, perform, recordRecoveryResult_of_ne c r hhalf]
      rw [hstill]
      have hanswer : Answers c (.call (.recordRecoveryResult errorRate success, r))
          (c.observed errorRate) := fun h => absurd h hhalf
      exact ⟨iff_of_true h.breaker hanswer, fun _ => ⟨h.breaker, h.row⟩⟩
  | _ =>
    have hkeeps := hbalanced (by simp)
    exact ⟨iff_of_true hkeeps.breaker trivial, fun _ => hkeeps⟩

theorem balanced_build (config : CircuitBreakerConfig) (interval : Float)
    {storage : Option CircuitBreakerStore} (r : Reading)
    (hrow : ∀ store ∈ storage, ∀ row ∈ store.row, RowAccounted row) :
    (build config interval storage r).Balanced := by
  unfold build
  obtain ⟨b, history, time, heq, rfl | ⟨store, row, hstore, hstored, rfl⟩⟩ := hydrated_cases
    ⟨config, interval, ⟨.closed, none, r.now, false, 0, 0, 0, 0, 0, [], 0⟩, storage⟩ r
  · rw [heq]
    exact ⟨le_rfl, hrow⟩
  · rw [heq]
    exact ⟨hrow store hstore row hstored, hrow⟩

/-- The results stay covered by the attempts just in case each result that is
accepted answers an attempt. -/
theorem accounted_iff (config : CircuitBreakerConfig) (interval : Float)
    {storage : Option CircuitBreakerStore} (r : Reading)
    (hrow : ∀ store ∈ storage, ∀ row ∈ store.row, RowAccounted row)
    (actions : List InstanceAction) :
    AllSteps accountStep AccountedFor (build config interval storage r) actions ↔
      AllSteps accountStep Answers (build config interval storage r) actions := by
  have hothers (c t : Circuit) (store : CircuitBreakerStore) (h : c.Balanced)
      (ht : accountStep c (.others store) = some t) : t.Balanced := by
    simp only [accountStep, Option.ite_none_right_eq_some, Option.some.injEq] at ht
    obtain ⟨hrow, rfl⟩ := ht
    refine ⟨h.breaker, ?_⟩
    intro store' hstore'
    obtain ⟨-, -, rfl⟩ := Option.mem_map.mp hstore'
    exact hrow
  apply allSteps_iff_of_invariant (I := Balanced)
  · intro c a t h ht
    cases a with
    | call a =>
      obtain rfl := Option.some.inj ht
      exact (call_balanced_iff h a).1
    | others store => exact iff_of_true (hothers c t store h ht).breaker trivial
  · intro c a t h ht hanswers
    cases a with
    | call a =>
      obtain rfl := Option.some.inj ht
      exact (call_balanced_iff h a).2 hanswers
    | others store => exact hothers c t store h ht
  · exact balanced_build config interval r hrow

end

/-- A probe that is begun before its result is recorded. -/
theorem probe_then_result :
    AllSteps accountStep AccountedFor (build .default 0.5 none instant)
      (toHalfOpen ++ [.call (.beginRecoveryProbe, instant),
        .call (.recordRecoveryResult 0 (some true), instant)]) := by
  apply (accounted_iff .default 0.5 instant (by simp) _).mpr
  intro t₁ h₁
  refine ⟨trivial, fun t₂ h₂ => ⟨trivial, fun t₃ h₃ => ⟨trivial, fun t₄ h₄ => ⟨?_, trivial⟩⟩⟩⟩
  obtain rfl := Option.some.inj h₁
  obtain rfl := Option.some.inj h₂
  obtain rfl := Option.some.inj h₃
  intro _
  decide +kernel

/-- The remediation controller half-opens a tripped breaker and records a result
without an attempt. -/
theorem result_without_attempt :
    ¬AllSteps accountStep AccountedFor (build .default 0.5 none instant)
      ([.call (.evaluate 1, instant), .call (.transitionTo .halfOpen "remediation_probe" none,
        instant)] ++ [.call (.recordRecoveryResult 0 none, instant)]) := by
  intro h
  obtain ⟨u, hu⟩ : ∃ u, exec accountStep (build .default 0.5 none instant)
      [.call (.evaluate 1, instant), .call (.transitionTo .halfOpen "remediation_probe" none,
        instant)] = some u := ⟨_, rfl⟩
  have hlaw := h.last hu rfl
  obtain rfl := Option.some.inj hu
  have hnot : ¬BreakerAccounted ((((build .default 0.5 none instant).call (.evaluate 1, instant)).call
      (.transitionTo .halfOpen "remediation_probe" none, instant)).call
        (.recordRecoveryResult 0 none, instant)).breaker := by
    decide +kernel
  exact hnot hlaw

end Circuit
end IceStream
