import IceStream.Circuit.Recovery
import Mathlib.Data.List.DropRight

/-!
# Restarts

An instance that alone writes to its storage, and whose writes succeed. From its
first transition on, every operation leaves it and its row in agreement, so an
instance built on the same storage takes up where it is.
-/

namespace IceStream
open Python

namespace Circuit

/-- The transition between an operation's copy `y` and what it made of it. -/
def added (y d : Circuit) : List StateTransition :=
  if d.state = y.state then [] else d.breaker.history.getLast?.toList

/-- The transitions of a run, as the instance noted them in its history. A state
that is taken over from the storage is none. -/
def transitions (c : Circuit) (calls : List Call) : List StateTransition :=
  (c.log calls).flatMap fun step => added (step.1.refreshed step.2.1.1 step.2.1.2) step.2.2

/-- What a restart takes from a row. -/
structure Agrees (row : CircuitBreakerRow) (b : CircuitBreaker) : Prop where
  state_eq : row.state = b.state
  openedAt_eq : row.openedAt = b.openedAt
  lastStateChange_eq : row.lastStateChange = b.lastStateChange
  recoveryAttempts_eq : row.recoveryAttempts = b.recoveryAttempts
  successfulRecoveries_eq : row.successfulRecoveries = b.successfulRecoveries
  failedRecoveries_eq : row.failedRecoveries = b.failedRecoveries
  openTotalCount_eq : row.openTotalCount = b.openTotalCount

/-- The storage holds `old` and the transitions `ts` of the run. -/
def Logged (old : List StateTransition) (c : Circuit) (ts : List StateTransition) : Prop :=
  ∃ store, c.storage = some store ∧ store.history = old ++ ts

/-- Once there is a transition, the row agrees with the instance. -/
structure Mirrored (old : List StateTransition) (c : Circuit) (ts : List StateTransition) :
    Prop where
  logged : Logged old c ts
  row_agrees : ts ≠ [] → ∀ store ∈ c.storage, ∃ row, store.row = some row ∧ Agrees row c.breaker

section

variable {c y d : Circuit} {old ts : List StateTransition} {op : Operation} {r : Reading}

/-- A transition is written to both tables. -/
theorem Logged.moved (h : Logged old c ts) (hupsert : r.upsertOk = true)
    (hwrite : r.historyOk = true) {target : CircuitState} (reason : String) (rate : Option Float)
    (metadata : Metadata) (hvalid : valid y.state target = true) :
    Mirrored old (c.moved r target reason rate metadata)
      (ts ++ added y (c.moved r target reason rate metadata)) := by
  obtain ⟨store, hstore, hts⟩ := h
  have hne : (c.moved r target reason rate metadata).state ≠ y.state := by
    intro hsame
    have hsame : target = y.state := hsame
    rw [hsame] at hvalid
    cases hstate : y.state <;> rw [hstate] at hvalid <;> cases hvalid
  rw [added, if_neg hne, moved_getLast, Option.toList_some]
  have hstorage := moved_storage hstore hupsert hwrite target reason rate metadata
  refine ⟨⟨_, hstorage, by rw [hts, List.append_assoc]⟩, ?_⟩
  intro _ store' hstore'
  rw [hstorage] at hstore'
  obtain rfl := Option.mem_some_iff.mp hstore'
  exact ⟨_, rfl, ⟨rfl, rfl, rfl, rfl, rfl, rfl, rfl⟩⟩

/-- A probe is written to the row. -/
theorem Mirrored.probed (h : Mirrored old c ts) (hupsert : r.upsertOk = true) :
    Mirrored old (c.probed r) ts := by
  obtain ⟨store, hstore, hts⟩ := h.logged
  have hstorage := probed_storage hstore hupsert
  refine ⟨⟨_, hstorage, hts⟩, ?_⟩
  intro _ store' hstore'
  rw [hstorage] at hstore'
  obtain rfl := Option.mem_some_iff.mp hstore'
  exact ⟨_, rfl, ⟨rfl, rfl, rfl, rfl, rfl, rfl, rfl⟩⟩

theorem Mirrored.touched (h : Mirrored old c ts) (errorRate time : Float) :
    Mirrored old { c with breaker := { c.breaker with
      lastErrorRate := errorRate
      lastSyncTime := time } } ts := by
  refine ⟨h.logged, ?_⟩
  intro hts store hstore
  obtain ⟨row, hrow, hagrees⟩ := h.row_agrees hts store hstore
  exact ⟨row, hrow, hagrees.1, hagrees.2, hagrees.3, hagrees.4, hagrees.5, hagrees.6, hagrees.7⟩

theorem Mirrored.observed (h : Mirrored old c ts) (errorRate : Float) :
    Mirrored old (c.observed errorRate) ts :=
  h.touched errorRate c.breaker.lastSyncTime

/-- A row that agrees tells the instance nothing new. -/
theorem Mirrored.refreshed (h : Mirrored old c ts) (op : Operation) (r : Reading) :
    Mirrored old (c.refreshed op r) ts := by
  cases haccessed : c.accessed op r with
  | none =>
    obtain ⟨time, hrefreshed⟩ := refreshed_of_unaccessed haccessed
    rw [hrefreshed]
    exact h.touched c.breaker.lastErrorRate time
  | some row =>
    rw [refreshed_of_accessed haccessed]
    obtain ⟨store, hstore, hstored⟩ := accessed_eq_some haccessed
    refine ⟨h.logged, ?_⟩
    intro hts store' hstore'
    obtain rfl := Option.some.inj (hstore.symm.trans hstore')
    obtain ⟨row', hrow', hagrees⟩ := h.row_agrees hts store hstore
    obtain rfl := Option.some.inj (hstored.symm.trans hrow')
    have hopened : takenOpenedAt row c.breaker.openedAt = row.openedAt := by
      unfold takenOpenedAt
      cases hdate : row.openedAt with
      | some date => rfl
      | none =>
        dsimp only
        rw [← hagrees.openedAt_eq, hdate, ite_self]
    exact ⟨row, hstored, rfl, hopened.symm, hagrees.lastStateChange_eq, rfl, rfl, rfl, rfl⟩

theorem Mirrored.change (h : Mirrored old y ts) (hupsert : r.upsertOk = true)
    (hwrite : r.historyOk = true) (hchange : Change op r y d) :
    Mirrored old d (ts ++ added y d) := by
  cases hchange with
  | rest hmoves hgrants errorRate =>
    have hnothing : added y (y.observed errorRate) = [] := if_pos rfl
    rw [hnothing, List.append_nil]
    exact h.observed errorRate
  | probed hmoves hgrants hhalf =>
    have hnothing : added y (y.probed r) = [] := if_pos rfl
    rw [hnothing, List.append_nil]
    exact h.probed hupsert
  | moved hmoves hgrants hprepared hvalid reason rate metadata =>
    -- the counters may be ahead of the row until the transition is written
    obtain ⟨store, hstore, hts⟩ := h.logged
    have hlogged : Logged old _ ts := ⟨store, hprepared.storage_eq.trans hstore, hts⟩
    exact hlogged.moved hupsert hwrite reason rate metadata hvalid
  | movedProbed hmoves hgrants hopen reason rate metadata =>
    have hmoved := h.logged.moved hupsert hwrite reason rate metadata (valid_halfOpen hopen)
    exact hmoved.probed hupsert

/-! ### Whole runs -/

theorem transitions_snoc (c : Circuit) (calls : List Call) (a : Call) :
    c.transitions (calls ++ [a]) = c.transitions calls ++
      added ((c.run calls).refreshed a.1 a.2) ((c.run calls).call a) := by
  rw [transitions, log_snoc, List.flatMap_append, List.flatMap_singleton]
  rfl

/-- Every write of the run succeeds. -/
def AllWritten (calls : List Call) : Prop :=
  ∀ a ∈ calls, a.2.upsertOk = true ∧ a.2.historyOk = true

theorem mirrored_run (hlogged : Logged old c []) {calls : List Call}
    (hwritten : AllWritten calls) : Mirrored old (c.run calls) (c.transitions calls) := by
  induction calls using List.reverseRecOn with
  | nil => exact ⟨hlogged, fun hne => absurd rfl hne⟩
  | append_singleton calls a ih =>
    have hbefore : AllWritten calls := fun b hb => hwritten b (by simp [hb])
    obtain ⟨hupsert, hwrite⟩ := hwritten a (by simp)
    rw [run_snoc, transitions_snoc]
    exact ((ih hbefore).refreshed a.1 a.2).change hupsert hwrite
      (perform_effect a.1 a.2 (c.run calls)).change

end

/-- The instance `c'` takes up where `c` ended: its state and dates, its counters,
and the last of the transitions `ts`. -/
structure TakesUp (c c' : Circuit) (ts : List StateTransition) : Prop where
  state_eq : c'.state = c.state
  openedAt_eq : c'.breaker.openedAt = c.breaker.openedAt
  lastStateChange_eq : c'.breaker.lastStateChange = c.breaker.lastStateChange
  recoveryAttempts_eq : c'.breaker.recoveryAttempts = c.breaker.recoveryAttempts
  successfulRecoveries_eq : c'.breaker.successfulRecoveries = c.breaker.successfulRecoveries
  failedRecoveries_eq : c'.breaker.failedRecoveries = c.breaker.failedRecoveries
  openTotalCount_eq : c'.breaker.openTotalCount = c.breaker.openTotalCount
  history_eq : c'.breaker.history = ts.rtake c'.config.maxHistory

/-- An instance built on the storage that a run left takes up where the run ended,
whatever that storage held before. -/
theorem restart_takes_up (config : CircuitBreakerConfig) (interval interval' : Float)
    (store : CircuitBreakerStore) (r r' : Reading) {calls : List Call}
    (hwritten : AllWritten calls)
    (hmoved : (build config interval (some store) r).transitions calls ≠ [])
    (hread : r'.readOk = true) (hhistory : r'.historyOk = true) :
    TakesUp ((build config interval (some store) r).run calls)
      (build config interval' ((build config interval (some store) r).run calls).storage r')
      (store.history ++ (build config interval (some store) r).transitions calls) := by
  have hlogged : Logged store.history (build config interval (some store) r) [] := by
    refine ⟨store, build_storage config interval (some store) r, ?_⟩
    rw [List.append_nil]
  set c := build config interval (some store) r with hc
  have h := mirrored_run hlogged hwritten
  obtain ⟨store', hstore', hts⟩ := h.logged
  obtain ⟨row, hrow, hagrees⟩ := h.row_agrees hmoved store' hstore'
  rw [hstore', ← hts]
  simp only [build, hydrated, hread, hrow, hhistory, ↓reduceIte]
  exact ⟨hagrees.1, hagrees.2, hagrees.3, hagrees.4, hagrees.5, hagrees.6, hagrees.7, rfl⟩

/-- A tripped breaker is rebuilt. -/
theorem restart_tripped :
    TakesUp ((build .default 0.5 (some ⟨none, []⟩) instant).run [(.evaluate 1, instant)])
      (build .default 0.5 ((build .default 0.5 (some ⟨none, []⟩) instant).run
        [(.evaluate 1, instant)]).storage instant)
      ([] ++ (build .default 0.5 (some ⟨none, []⟩) instant).transitions [(.evaluate 1, instant)]) := by
  apply restart_takes_up .default 0.5 0.5 ⟨none, []⟩ instant instant
  · intro a ha
    obtain rfl := List.mem_singleton.mp ha
    exact ⟨rfl, rfl⟩
  · decide +kernel
  · rfl
  · rfl

end Circuit
end IceStream
