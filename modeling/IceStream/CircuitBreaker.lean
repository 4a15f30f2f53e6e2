import IceStream.Lib.Float
import IceStream.Lib.Python

/-!
# The circuit breaker

One instance and the row it shares through storage. A date is a count of
microseconds; `time.time()` is a float. Every operation runs under the
instance's lock, so it sees one reading of its surroundings.
-/

namespace IceStream
open Python

/-- Microseconds since the epoch. -/
abbrev Date := ℤ

inductive CircuitState
  | closed
  | open_
  | halfOpen
  deriving DecidableEq

def CircuitState.value : CircuitState → String
  | .closed => "CLOSED"
  | .open_ => "OPEN"
  | .halfOpen => "HALF_OPEN"

/-- What `validate` lets pass; a NaN threshold is among it. -/
structure CircuitBreakerConfig where
  enabled : Bool
  errorThreshold : Float
  recoveryTimeoutSeconds : Float
  halfOpenSuccessThreshold : ℕ
  halfOpenFailureThreshold : ℕ
  maxHistory : ℕ
  threshold_valid : ¬(errorThreshold < 0 ∨ 1 < errorThreshold)
  timeout_valid : ¬recoveryTimeoutSeconds ≤ 0
  success_valid : 1 ≤ halfOpenSuccessThreshold
  failure_valid : 1 ≤ halfOpenFailureThreshold
  history_valid : 1 ≤ maxHistory

def CircuitBreakerConfig.default : CircuitBreakerConfig where
  enabled := true
  errorThreshold := 0.02
  recoveryTimeoutSeconds := 60
  halfOpenSuccessThreshold := 1
  halfOpenFailureThreshold := 1
  maxHistory := 100
  threshold_valid := by decide +kernel
  timeout_valid := by decide +kernel
  success_valid := le_rfl
  failure_valid := le_rfl
  history_valid := by decide

inductive Metadata
  | none
  | elapsedSeconds (seconds : Float)
  | probeSuccess (success : Bool)
  deriving DecidableEq

structure StateTransition where
  fromState : CircuitState
  toState : CircuitState
  timestamp : Date
  reason : String
  errorRate : Float
  metadata : Metadata
  deriving DecidableEq

structure CircuitBreaker where
  state : CircuitState
  openedAt : Option Date
  lastStateChange : Date
  probeActive : Bool
  lastErrorRate : Float
  recoveryAttempts : ℕ
  successfulRecoveries : ℕ
  failedRecoveries : ℕ
  openTotalCount : ℕ
  history : List StateTransition
  lastSyncTime : Float

/-- A row of `circuit_breaker_state`. -/
structure CircuitBreakerRow where
  state : CircuitState
  openedAt : Option Date
  lastStateChange : Date
  lastErrorRate : Float
  recoveryAttempts : ℕ
  successfulRecoveries : ℕ
  failedRecoveries : ℕ
  openTotalCount : ℕ
  updatedAt : Date

structure CircuitBreakerStore where
  row : Option CircuitBreakerRow
  history : List StateTransition

/-- An instance with the storage it was given, if any. -/
structure Circuit where
  config : CircuitBreakerConfig
  syncIntervalSeconds : Float
  breaker : CircuitBreaker
  storage : Option CircuitBreakerStore

/-- The clocks, and whether the storage answers, during one operation. -/
structure Reading where
  time : Float
  now : Date
  readOk : Bool
  upsertOk : Bool
  historyOk : Bool

namespace Circuit

/-- A fresh instance without storage. -/
def inMemory (config : CircuitBreakerConfig) (now : Date) : Circuit where
  config := config
  syncIntervalSeconds := 0.5
  breaker := ⟨.closed, none, now, false, 0, 0, 0, 0, 0, [], 0⟩
  storage := none

abbrev state (c : Circuit) : CircuitState := c.breaker.state

/-- `_sync_from_storage_locked` -/
def sync (c : Circuit) (r : Reading) : Circuit :=
  match c.storage with
  | none => c
  | some store =>
    if r.time - c.breaker.lastSyncTime < c.syncIntervalSeconds then c
    else
      let b := { c.breaker with lastSyncTime := r.time }
      match r.readOk, store.row with
      | true, some row =>
        let openedAt := match row.openedAt with
          | some openedAt => some openedAt
          | none => if row.state = .open_ then b.openedAt else none
        { c with breaker := { b with
          state := row.state
          openedAt := openedAt
          lastErrorRate := row.lastErrorRate
          openTotalCount := row.openTotalCount
          recoveryAttempts := row.recoveryAttempts
          successfulRecoveries := row.successfulRecoveries
          failedRecoveries := row.failedRecoveries } }
      | _, _ => { c with breaker := b }

/-- `VALID_TRANSITIONS` -/
def valid : CircuitState → CircuitState → Bool
  | .closed, .open_ => true
  | .open_, .halfOpen => true
  | .halfOpen, .closed => true
  | .halfOpen, .open_ => true
  | _, _ => false

def row (b : CircuitBreaker) (rate : Float) (now : Date) : CircuitBreakerRow :=
  ⟨b.state, b.openedAt, b.lastStateChange, rate, b.recoveryAttempts, b.successfulRecoveries,
    b.failedRecoveries, b.openTotalCount, now⟩

/-- The body of `_execute_transition_locked` behind its checks. A failing write
is logged and leaves the instance as it is. -/
def moved (c : Circuit) (r : Reading) (target : CircuitState) (reason : String)
    (errorRate : Option Float) (metadata : Metadata) : Circuit :=
  let b := c.breaker
  let rate := errorRate.getD b.lastErrorRate
  let transition : StateTransition := ⟨b.state, target, r.now, reason, rate, metadata⟩
  let b := { b with
    state := target
    lastStateChange := r.now
    openedAt := match target with
      | .open_ => some r.now
      | .closed => none
      | .halfOpen => b.openedAt
    openTotalCount := if target = .open_ then b.openTotalCount + 1 else b.openTotalCount
    probeActive := if target = .halfOpen then b.probeActive else false
    history := (b.history ++ [transition]).drop (b.history.length + 1 - c.config.maxHistory) }
  let storage := c.storage.map fun store =>
    if r.upsertOk then
      { row := some (row b rate r.now)
        history := if r.historyOk then store.history ++ [transition] else store.history }
    else store
  { c with breaker := b, storage := storage }

def invalidStateTransition (message : String) : Exc :=
  ⟨"InvalidStateTransitionError", true, message⟩

/-- `transition_to` -/
def transitionTo (c : Circuit) (r : Reading) (target : CircuitState) (reason : String)
    (errorRate : Option Float) (metadata : Metadata) : Except Exc Circuit :=
  if c.state = target then .ok c
  else if valid c.state target then .ok (c.moved r target reason errorRate metadata)
  else .error (invalidStateTransition
    s!"Invalid state transition: cannot transition directly from {c.state.value} to {target.value}")

/-- `(now - opened_at).total_seconds()` -/
def elapsed (openedAt now : Date) : Float := trueDiv (now - openedAt) 1000000 (by decide)

/-- `_check_timeout_transition_locked`; from `OPEN` the transition is valid. -/
def checkTimeout (c : Circuit) (r : Reading) : Circuit :=
  if c.config.enabled && c.state == .open_ then
    match c.breaker.openedAt with
    | none => c
    | some openedAt =>
      let seconds := elapsed openedAt r.now
      if c.config.recoveryTimeoutSeconds ≤ seconds then
        c.moved r .halfOpen "recovery_timeout_elapsed" none (.elapsedSeconds (roundTo 2 seconds))
      else c
  else c

/-- `current_state`, and the property `state`: the instance it leaves behind,
whose state is the answer. -/
def currentState (c : Circuit) (r : Reading) : Circuit := (c.sync r).checkTimeout r

def observed (c : Circuit) (errorRate : Float) : Circuit :=
  { c with breaker := { c.breaker with lastErrorRate := errorRate } }

/-- `evaluate` returns `CLOSED` when disabled, else the state it leaves. -/
def evaluate (c : Circuit) (r : Reading) (errorRate : Float) : CircuitState × Circuit :=
  let c := (c.sync r).observed errorRate
  if !c.config.enabled then (.closed, c)
  else
    let c := c.checkTimeout r
    let c := if c.state = .closed ∧ c.config.errorThreshold < errorRate then
        c.moved r .open_ "error_rate_above_threshold" (some errorRate) .none
      else c
    (c.state, c)

/-- The probe's outcome is counted, and closes or opens the breaker. -/
def recovered (c : Circuit) (r : Reading) (errorRate : Float) (isPass : Bool) : Circuit :=
  let b := { c.breaker with probeActive := false }
  if isPass then
    moved { c with breaker := { b with successfulRecoveries := b.successfulRecoveries + 1 } } r
      .closed "recovery_pass" (some errorRate) (.probeSuccess true)
  else
    moved { c with breaker := { b with failedRecoveries := b.failedRecoveries + 1 } } r
      .open_ "recovery_fail" (some errorRate) (.probeSuccess false)

/-- `record_recovery_result`; `success` overrides the comparison of rates. The
new error rate is kept even when it raises. -/
def recordRecoveryResult (r : Reading) (errorRate : Float) (success : Option Bool) :
    Fallible Circuit CircuitState := fun c =>
  let c := c.observed errorRate
  if c.state ≠ .halfOpen then
    (.error (invalidStateTransition
      s!"Cannot record recovery result when circuit is in {c.state.value} state"), c)
  else
    let c := c.recovered r errorRate (success.getD (decide (errorRate ≤ c.config.errorThreshold)))
    (.ok c.state, c)

/-! ## What the operations do to the state -/

section

variable (c : Circuit) (r : Reading)

@[simp] theorem moved_state (target : CircuitState) (reason : String) (rate : Option Float)
    (metadata : Metadata) : (c.moved r target reason rate metadata).state = target := rfl

@[simp] theorem moved_config (target : CircuitState) (reason : String) (rate : Option Float)
    (metadata : Metadata) : (c.moved r target reason rate metadata).config = c.config := rfl

@[simp] theorem sync_config : (c.sync r).config = c.config := by
  unfold sync
  split
  · rfl
  · split
    · rfl
    · split <;> rfl

/-- The row that an access to storage takes over. -/
def adopted : Option CircuitBreakerRow :=
  c.storage.bind fun store =>
    if r.time - c.breaker.lastSyncTime < c.syncIntervalSeconds then none
    else if r.readOk then store.row else none

/-- `opened_at` after `row` is taken over: a row `OPEN` without one keeps the old one. -/
def takenOpenedAt (row : CircuitBreakerRow) (openedAt : Option Date) : Option Date :=
  match row.openedAt with
  | some openedAt => some openedAt
  | none => if row.state = .open_ then openedAt else none

/-- The instance with `row` taken over; its history, its probe and the date of
its last change are its own. -/
def taken (row : CircuitBreakerRow) : Circuit :=
  { c with breaker := { c.breaker with
    lastSyncTime := r.time
    state := row.state
    openedAt := takenOpenedAt row c.breaker.openedAt
    lastErrorRate := row.lastErrorRate
    openTotalCount := row.openTotalCount
    recoveryAttempts := row.recoveryAttempts
    successfulRecoveries := row.successfulRecoveries
    failedRecoveries := row.failedRecoveries } }

variable {c r} in
theorem sync_of_adopted {row : CircuitBreakerRow} (h : c.adopted r = some row) :
    c.sync r = c.taken r row := by
  obtain ⟨store, hstore, hrow⟩ := Option.bind_eq_some_iff.mp h
  simp only [ite_eq_iff, reduceCtorEq, and_false, false_or, or_false] at hrow
  obtain ⟨hdue, hread, hrow⟩ := hrow
  simp only [sync, hstore, hdue, ↓reduceIte, hread, hrow, taken]
  rfl

variable {c r} in
/-- Without a row only the time of the last access changes. -/
theorem sync_of_unadopted (h : c.adopted r = none) :
    ∃ time, c.sync r = { c with breaker := { c.breaker with lastSyncTime := time } } := by
  unfold sync
  split
  · exact ⟨c.breaker.lastSyncTime, rfl⟩
  · rename_i store hstore
    split
    · exact ⟨c.breaker.lastSyncTime, rfl⟩
    · rename_i hdue
      split
      · rename_i row hread hrow
        simp [adopted, hstore, hdue, hread, hrow] at h
      · exact ⟨r.time, rfl⟩

theorem sync_state :
    (c.sync r).state = ((c.adopted r).map CircuitBreakerRow.state).getD c.state := by
  cases h : c.adopted r with
  | some row => rw [sync_of_adopted h]; rfl
  | none =>
    obtain ⟨time, hsync⟩ := sync_of_unadopted h
    rw [hsync]
    rfl

@[simp] theorem checkTimeout_config : (c.checkTimeout r).config = c.config := by
  unfold checkTimeout
  split
  · split
    · rfl
    · dsimp only
      split <;> rfl
  · rfl

@[simp] theorem currentState_config : (c.currentState r).config = c.config := by
  rw [currentState, checkTimeout_config, sync_config]

/-- The timeout only ever leads from `OPEN` to `HALF_OPEN`. -/
theorem checkTimeout_state : (c.checkTimeout r).state = c.state ∨
    c.state = .open_ ∧ (c.checkTimeout r).state = .halfOpen := by
  unfold checkTimeout
  split
  · rename_i hopen
    simp only [Bool.and_eq_true, beq_iff_eq] at hopen
    split
    · exact .inl rfl
    · dsimp only
      split
      · exact .inr ⟨hopen.2, rfl⟩
      · exact .inl rfl
  · exact .inl rfl

theorem checkTimeout_closed_iff : (c.checkTimeout r).state = .closed ↔ c.state = .closed := by
  obtain h | ⟨hopen, hhalf⟩ := c.checkTimeout_state r
  · rw [h]
  · simp [hopen, hhalf]

theorem transitionTo_of_valid {target : CircuitState} {reason : String} {rate : Option Float}
    {metadata : Metadata} (hne : c.state ≠ target) (h : valid c.state target = true) :
    c.transitionTo r target reason rate metadata =
      .ok (c.moved r target reason rate metadata) := by
  simp only [transitionTo, hne, ↓reduceIte, h]

@[simp] theorem observed_state (rate : Float) : (c.observed rate).state = c.state := rfl

@[simp] theorem observed_config (rate : Float) : (c.observed rate).config = c.config := rfl

theorem recovered_state (rate : Float) (isPass : Bool) :
    (c.recovered r rate isPass).state = if isPass then .closed else .open_ := by
  cases isPass <;> rfl

@[simp] theorem recovered_config (rate : Float) (isPass : Bool) :
    (c.recovered r rate isPass).config = c.config := by
  cases isPass <;> rfl

theorem recordRecoveryResult_of_ne {rate : Float} {success : Option Bool}
    (h : c.state ≠ .halfOpen) :
    recordRecoveryResult r rate success c =
      (.error (invalidStateTransition
        s!"Cannot record recovery result when circuit is in {c.state.value} state"),
        c.observed rate) := by
  simp only [recordRecoveryResult, observed_state, ne_eq, h, not_false_eq_true, ↓reduceIte]

/-- From `HALF_OPEN` the result closes or opens the breaker. -/
theorem recordRecoveryResult_of_halfOpen {rate : Float} {success : Option Bool}
    (h : c.state = .halfOpen) :
    recordRecoveryResult r rate success c =
      (.ok (if success.getD (decide (rate ≤ c.config.errorThreshold)) then .closed else .open_),
        (c.observed rate).recovered r rate
          (success.getD (decide (rate ≤ c.config.errorThreshold)))) := by
  simp only [recordRecoveryResult, observed_state, observed_config, ne_eq, h, not_true_eq_false,
    ↓reduceIte, recovered_state]
  rfl

/-- However it is read, the breaker is not `CLOSED`. -/
structure Blocked (c : Circuit) : Prop where
  state_ne : c.state ≠ .closed
  row_ne : ∀ store ∈ c.storage, ∀ row ∈ store.row, row.state ≠ .closed

variable {c r}

theorem Blocked.sync (h : c.Blocked) (r : Reading) : (c.sync r).Blocked := by
  obtain ⟨hstate, hrow⟩ := h
  unfold Circuit.sync
  split
  · exact ⟨hstate, hrow⟩
  · rename_i store hstore
    split
    · exact ⟨hstate, hrow⟩
    · split
      · rename_i row _ hread
        exact ⟨hrow store hstore row hread, hrow⟩
      · exact ⟨hstate, hrow⟩

/-- What holds of the row in storage and of the row an operation writes holds of
the row after the operation, whether or not its write succeeds. -/
theorem forall_row_written {p : CircuitBreakerRow → Prop} {storage : Option CircuitBreakerStore}
    {write : CircuitBreakerStore → CircuitBreakerStore} {written : CircuitBreakerRow} (ok : Bool)
    (hrows : ∀ store ∈ storage, ∀ row ∈ store.row, p row)
    (hwrite : ∀ store, (write store).row = some written) (hwritten : p written) :
    ∀ store ∈ storage.map fun store => if ok then write store else store,
      ∀ row ∈ store.row, p row := by
  intro store hstore row hrow
  obtain ⟨store₀, hstore₀, rfl⟩ := Option.mem_map.mp hstore
  by_cases hok : ok = true
  · rw [if_pos hok, hwrite] at hrow
    obtain rfl := Option.mem_some_iff.mp hrow
    exact hwritten
  · rw [if_neg hok] at hrow
    exact hrows store₀ hstore₀ row hrow

theorem Blocked.moved (h : c.Blocked) (r : Reading) {target : CircuitState} (reason : String)
    (rate : Option Float) (metadata : Metadata) (htarget : target ≠ .closed) :
    (c.moved r target reason rate metadata).Blocked :=
  ⟨htarget, forall_row_written r.upsertOk h.row_ne (fun _ => rfl) htarget⟩

theorem Blocked.checkTimeout (h : c.Blocked) (r : Reading) : (c.checkTimeout r).Blocked := by
  unfold Circuit.checkTimeout
  split
  · split
    · exact h
    · dsimp only
      split
      · exact h.moved r _ _ _ (by decide)
      · exact h
  · exact h

theorem Blocked.currentState (h : c.Blocked) (r : Reading) : (c.currentState r).Blocked :=
  (h.sync r).checkTimeout r

theorem Blocked.observed (h : c.Blocked) (rate : Float) : (c.observed rate).Blocked :=
  ⟨h.state_ne, h.row_ne⟩

/-- A probe that fails leaves the breaker blocked. -/
theorem Blocked.recovered (h : c.Blocked) (r : Reading) (rate : Float) :
    (c.recovered r rate false).Blocked := by
  simp only [Circuit.recovered, Bool.false_eq_true, ↓reduceIte]
  apply Blocked.moved
  · exact ⟨h.state_ne, h.row_ne⟩
  · decide

end

end Circuit
end IceStream
