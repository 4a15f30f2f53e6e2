import IceStream.CircuitBreaker

/-!
# The operations of a breaker

What its callers can ask of an instance, and the constructor. An operation first
refreshes its copy, or does not, and then does one thing to it: `Effect` lists
what that can be. Two writes of one kind within an operation go the same way.
-/

namespace IceStream
open Python

structure CircuitBreakerStatus where
  state : CircuitState
  enabled : Bool
  errorRate : Float
  threshold : Float
  canProcess : Bool
  canProbe : Bool
  lastStateChange : Date
  openedAt : Option Date
  recoveryAttempts : ℕ
  successfulRecoveries : ℕ
  failedRecoveries : ℕ

structure CircuitBreakerMetrics where
  circuitBreakerState : ℕ
  openTotal : ℕ
  recoveryAttemptsTotal : ℕ
  recoverySuccessTotal : ℕ
  recoveryFailureTotal : ℕ

/-- `STATE_METRIC_MAP` -/
def CircuitState.metric : CircuitState → ℕ
  | .closed => 0
  | .open_ => 1
  | .halfOpen => 2

inductive Operation
  | currentState
  | canProcess
  | canProbe
  | evaluate (errorRate : Float)
  | transitionTo (target : CircuitState) (reason : String) (errorRate : Option Float)
  | beginRecoveryProbe
  | recordRecoveryResult (errorRate : Float) (success : Option Bool)
  | getStatus
  | getMetrics
  | sync

inductive Answer
  | state (state : CircuitState)
  | permitted (permitted : Bool)
  | done
  | raised (e : Exc)
  | status (status : CircuitBreakerStatus)
  | metrics (metrics : CircuitBreakerMetrics)

namespace Circuit

def ofRow (b : CircuitBreaker) (row : CircuitBreakerRow) : CircuitBreaker :=
  { b with
    state := row.state
    openedAt := row.openedAt
    lastStateChange := row.lastStateChange
    lastErrorRate := row.lastErrorRate
    recoveryAttempts := row.recoveryAttempts
    successfulRecoveries := row.successfulRecoveries
    failedRecoveries := row.failedRecoveries
    openTotalCount := row.openTotalCount }

/-- `_hydrate_from_storage`: a row is taken over before the history is read. -/
def hydrated (c : Circuit) (r : Reading) : Circuit :=
  match c.storage with
  | none => c
  | some store =>
    if r.readOk then
      let b := match store.row with
        | some row => ofRow c.breaker row
        | none => c.breaker
      if r.historyOk then
        { c with breaker := { b with
          history := store.history.drop (store.history.length - c.config.maxHistory)
          lastSyncTime := r.time } }
      else { c with breaker := b }
    else c

/-- `CircuitBreaker(config, storage, sync_interval_seconds)` -/
def build (config : CircuitBreakerConfig) (syncIntervalSeconds : Float)
    (storage : Option CircuitBreakerStore) (r : Reading) : Circuit :=
  hydrated ⟨config, syncIntervalSeconds, ⟨.closed, none, r.now, false, 0, 0, 0, 0, 0, [], 0⟩,
    storage⟩ r

/-- A probe is on its way; the attempt is counted, and written. -/
def probed (c : Circuit) (r : Reading) : Circuit :=
  let b := { c.breaker with
    probeActive := true
    recoveryAttempts := c.breaker.recoveryAttempts + 1 }
  let storage := c.storage.map fun store =>
    if r.upsertOk then { store with row := some (row b b.lastErrorRate r.now) } else store
  { c with breaker := b, storage := storage }

/-- `begin_recovery_probe` -/
def beginRecoveryProbe (c : Circuit) (r : Reading) : Bool × Circuit :=
  if !c.config.enabled then (false, c)
  else
    let c := c.currentState r
    if c.state ≠ .halfOpen then (false, c)
    else if c.breaker.probeActive then (false, c)
    else (true, c.probed r)

/-- The time of the last access is forgotten, so that the next one is due. -/
def unsynced (c : Circuit) : Circuit := { c with breaker := { c.breaker with lastSyncTime := 0 } }

def processes (c : Circuit) : Bool := !c.config.enabled || c.state == .closed

def probes (c : Circuit) : Bool :=
  c.config.enabled && c.state == .halfOpen && !c.breaker.probeActive

def status (c : Circuit) : CircuitBreakerStatus where
  state := c.state
  enabled := c.config.enabled
  errorRate := c.breaker.lastErrorRate
  threshold := c.config.errorThreshold
  canProcess := c.processes
  canProbe := c.probes
  lastStateChange := c.breaker.lastStateChange
  openedAt := c.breaker.openedAt
  recoveryAttempts := c.breaker.recoveryAttempts
  successfulRecoveries := c.breaker.successfulRecoveries
  failedRecoveries := c.breaker.failedRecoveries

def metrics (c : Circuit) : CircuitBreakerMetrics where
  circuitBreakerState := c.state.metric
  openTotal := c.breaker.openTotalCount
  recoveryAttemptsTotal := c.breaker.recoveryAttempts
  recoverySuccessTotal := c.breaker.successfulRecoveries
  recoveryFailureTotal := c.breaker.failedRecoveries

/-- The status and the metrics are read without a refresh, but they apply the timeout. -/
def perform (op : Operation) (r : Reading) (c : Circuit) : Answer × Circuit :=
  match op with
  | .currentState => (.state (c.currentState r).state, c.currentState r)
  | .canProcess =>
    if !c.config.enabled then (.permitted true, c)
    else (.permitted ((c.currentState r).state == .closed), c.currentState r)
  | .canProbe =>
    if !c.config.enabled then (.permitted false, c)
    else (.permitted ((c.currentState r).state == .halfOpen &&
      !(c.currentState r).breaker.probeActive), c.currentState r)
  | .evaluate errorRate => (.state (c.evaluate r errorRate).1, (c.evaluate r errorRate).2)
  | .transitionTo target reason errorRate =>
    match c.transitionTo r target reason errorRate .none with
    | .ok c => (.done, c)
    | .error e => (.raised e, c)
  | .beginRecoveryProbe =>
    (.permitted (c.beginRecoveryProbe r).1, (c.beginRecoveryProbe r).2)
  | .recordRecoveryResult errorRate success =>
    match recordRecoveryResult r errorRate success c with
    | (.ok state, c) => (.state state, c)
    | (.error e, c) => (.raised e, c)
  | .getStatus => (.status (c.checkTimeout r).status, c.checkTimeout r)
  | .getMetrics => (.metrics (c.checkTimeout r).metrics, c.checkTimeout r)
  | .sync => (.done, c.unsynced.sync r)

/-- A transition is the last entry of the history it leads to. -/
theorem moved_getLast (c : Circuit) (r : Reading) (target : CircuitState) (reason : String)
    (rate : Option Float) (metadata : Metadata) :
    (c.moved r target reason rate metadata).breaker.history.getLast? =
      some ⟨c.state, target, r.now, reason, rate.getD c.breaker.lastErrorRate, metadata⟩ := by
  have hpositive := c.config.history_valid
  simp only [moved, List.getLast?_drop]
  rw [if_neg]
  · exact List.getLast?_concat ..
  · rw [List.length_append, List.length_singleton]
    omega

/-- What the storage holds once both writes of a transition succeed. -/
theorem moved_storage {c : Circuit} {r : Reading} {store : CircuitBreakerStore}
    (hstore : c.storage = some store) (hupsert : r.upsertOk = true) (hwrite : r.historyOk = true)
    (target : CircuitState) (reason : String) (rate : Option Float) (metadata : Metadata) :
    (c.moved r target reason rate metadata).storage = some
      { row := some (row (c.moved r target reason rate metadata).breaker
          (rate.getD c.breaker.lastErrorRate) r.now)
        history := store.history ++
          [⟨c.state, target, r.now, reason, rate.getD c.breaker.lastErrorRate, metadata⟩] } := by
  simp only [moved, hstore, Option.map_some, hupsert, hwrite, ↓reduceIte]

theorem probed_storage {c : Circuit} {r : Reading} {store : CircuitBreakerStore}
    (hstore : c.storage = some store) (hupsert : r.upsertOk = true) :
    (c.probed r).storage = some
      { row := some (row (c.probed r).breaker c.breaker.lastErrorRate r.now)
        history := store.history } := by
  simp only [probed, hstore, Option.map_some, hupsert, ↓reduceIte]

/-! ## What an operation does -/

/-- The operation begins with an access to storage that may be due. -/
def refreshes (config : CircuitBreakerConfig) : Operation → Bool
  | .currentState => true
  | .canProcess => config.enabled
  | .canProbe => config.enabled
  | .evaluate _ => true
  | .transitionTo _ _ _ => false
  | .beginRecoveryProbe => config.enabled
  | .recordRecoveryResult _ _ => false
  | .getStatus => false
  | .getMetrics => false
  | .sync => true

/-- The copy the operation works on. -/
def refreshed (op : Operation) (r : Reading) (c : Circuit) : Circuit :=
  match op with
  | .sync => c.unsynced.sync r
  | op => if refreshes c.config op then c.sync r else c

/-- The row that an operation takes over. -/
def accessed (op : Operation) (r : Reading) (c : Circuit) : Option CircuitBreakerRow :=
  match op with
  | .sync => c.unsynced.adopted r
  | op => if refreshes c.config op then c.adopted r else none

def syncedAt (c : Circuit) (time : Float) : Circuit :=
  { c with breaker := { c.breaker with lastSyncTime := time } }

/-- The breaker has been `OPEN` since `date`, for the recovery timeout. -/
structure TimeoutDue (c : Circuit) (r : Reading) (date : Date) : Prop where
  enabled : c.config.enabled = true
  state_eq : c.state = .open_
  openedAt_eq : c.breaker.openedAt = some date
  elapsed : c.config.recoveryTimeoutSeconds ≤ elapsed date r.now

def timedOut (c : Circuit) (r : Reading) (date : Date) : Circuit :=
  c.moved r .halfOpen "recovery_timeout_elapsed" none
    (.elapsedSeconds (roundTo 2 (elapsed date r.now)))

def tripped (c : Circuit) (r : Reading) (errorRate : Float) : Circuit :=
  c.moved r .open_ "error_rate_above_threshold" (some errorRate) .none

/-- The result of a probe, before the transition it leads to. -/
def counted (c : Circuit) (isPass : Bool) : Circuit :=
  { c with breaker := { c.breaker with
    probeActive := false
    successfulRecoveries := c.breaker.successfulRecoveries + isPass.toNat
    failedRecoveries := c.breaker.failedRecoveries + (!isPass).toNat } }

def resultState (isPass : Bool) : CircuitState := if isPass then .closed else .open_

theorem recovered_eq (c : Circuit) (r : Reading) (errorRate : Float) (isPass : Bool) :
    c.recovered r errorRate isPass = (c.counted isPass).moved r (resultState isPass)
      (if isPass then "recovery_pass" else "recovery_fail") (some errorRate)
      (.probeSuccess isPass) := by
  cases isPass <;> rfl

theorem valid_resultState (isPass : Bool) : valid .halfOpen (resultState isPass) = true := by
  cases isPass <;> rfl

/-- The operation makes a transition of its copy `y`. -/
def Moves (op : Operation) (r : Reading) (y : Circuit) : Prop :=
  match op with
  | .evaluate errorRate => (∃ date, y.TimeoutDue r date) ∨
    y.config.enabled = true ∧ y.state = .closed ∧ y.config.errorThreshold < errorRate
  | .transitionTo target _ _ => valid y.state target = true
  | .recordRecoveryResult _ _ => y.state = .halfOpen
  | .sync => False
  | _ => ∃ date, y.TimeoutDue r date

/-- The operation begins a probe: the copy `y` is `HALF_OPEN`, or the timeout makes it so,
and has none on its way. -/
structure Grants (op : Operation) (r : Reading) (y : Circuit) : Prop where
  op_eq : op = .beginRecoveryProbe
  enabled : y.config.enabled = true
  ready : y.state = .halfOpen ∨ ∃ date, y.TimeoutDue r date
  free : y.breaker.probeActive = false

/-- `y'` is `y` but for its last error rate, the counters of results and a probe that ends. -/
structure Prepared (y y' : Circuit) : Prop where
  config_eq : y'.config = y.config
  storage_eq : y'.storage = y.storage
  state_eq : y'.state = y.state
  openedAt_eq : y'.breaker.openedAt = y.breaker.openedAt
  openTotalCount_eq : y'.breaker.openTotalCount = y.breaker.openTotalCount
  history_eq : y'.breaker.history = y.breaker.history
  probe_of : y'.breaker.probeActive = true → y.breaker.probeActive = true

/-- What an operation makes of its copy: a transition, a probe, both or neither. -/
inductive Change (op : Operation) (r : Reading) (y : Circuit) : Circuit → Prop
  | rest (hmoves : ¬Moves op r y) (hgrants : ¬Grants op r y) (errorRate : Float) :
    Change op r y (y.observed errorRate)
  | probed (hmoves : ¬Moves op r y) (hgrants : Grants op r y) (hhalf : y.state = .halfOpen) :
    Change op r y (y.probed r)
  | moved (hmoves : Moves op r y) (hgrants : ¬Grants op r y) {y' : Circuit}
    (hprepared : Prepared y y') {target : CircuitState} (hvalid : valid y.state target = true)
    (reason : String) (rate : Option Float) (metadata : Metadata) :
    Change op r y (y'.moved r target reason rate metadata)
  | movedProbed (hmoves : Moves op r y) (hgrants : Grants op r y) (hopen : y.state = .open_)
    (reason : String) (rate : Option Float) (metadata : Metadata) :
    Change op r y ((y.moved r .halfOpen reason rate metadata).probed r)

/-- What the operation `op` can make of its copy `y`. -/
inductive Effect (op : Operation) (r : Reading) (y : Circuit) : Circuit → Prop
  | rest (errorRate : Float) (hmoves : ¬Moves op r y) (hgrants : ¬Grants op r y) :
    Effect op r y (y.observed errorRate)
  | timedOut (errorRate : Float) {date : Date} (hdue : y.TimeoutDue r date) (hmoves : Moves op r y)
    (hgrants : ¬Grants op r y) : Effect op r y ((y.observed errorRate).timedOut r date)
  | tripped {errorRate : Float} (hop : op = .evaluate errorRate) (hclosed : y.state = .closed)
    (henabled : y.config.enabled = true) (hrate : y.config.errorThreshold < errorRate) :
    Effect op r y ((y.observed errorRate).tripped r errorRate)
  | manual {target : CircuitState} {reason : String} {errorRate : Option Float}
    (hop : op = .transitionTo target reason errorRate) (hvalid : valid y.state target = true) :
    Effect op r y (y.moved r target reason errorRate .none)
  | probed (hop : op = .beginRecoveryProbe) (hhalf : y.state = .halfOpen)
    (hfree : y.breaker.probeActive = false) (henabled : y.config.enabled = true) :
    Effect op r y (y.probed r)
  | timedOutProbed {date : Date} (hop : op = .beginRecoveryProbe) (hdue : y.TimeoutDue r date)
    (hfree : y.breaker.probeActive = false) : Effect op r y ((y.timedOut r date).probed r)
  | recovered {errorRate : Float} {success : Option Bool} (isPass : Bool)
    (hop : op = .recordRecoveryResult errorRate success)
    (hhalf : y.state = .halfOpen)
    (hpass : isPass = success.getD (decide (errorRate ≤ y.config.errorThreshold))) :
    Effect op r y ((y.observed errorRate).recovered r errorRate isPass)

section

variable {c y : Circuit} {op : Operation} {r : Reading}

theorem hydrated_cases (c : Circuit) (r : Reading) :
    ∃ (b : CircuitBreaker) (history : List StateTransition) (time : Float), c.hydrated r = { c with
      breaker := { b with
        history := history
        lastSyncTime := time } } ∧
      (b = c.breaker ∨ ∃ store row, c.storage = some store ∧ store.row = some row ∧
        b = ofRow c.breaker row) := by
  unfold hydrated
  split
  · exact ⟨c.breaker, _, _, rfl, .inl rfl⟩
  · rename_i store hstore
    split
    · cases hrow : store.row with
      | none =>
        dsimp only
        split <;> exact ⟨c.breaker, _, _, rfl, .inl rfl⟩
      | some row =>
        dsimp only
        split <;> exact ⟨ofRow c.breaker row, _, _, rfl, .inr ⟨store, row, hstore, hrow, rfl⟩⟩
    · exact ⟨c.breaker, _, _, rfl, .inl rfl⟩

theorem build_storage (config : CircuitBreakerConfig) (interval : Float)
    (storage : Option CircuitBreakerStore) (r : Reading) :
    (build config interval storage r).storage = storage := by
  obtain ⟨b, history, time, heq, -⟩ := hydrated_cases
    ⟨config, interval, ⟨.closed, none, r.now, false, 0, 0, 0, 0, 0, [], 0⟩, storage⟩ r
  rw [build, heq]

theorem accessed_of_ne (hop : op ≠ .sync) :
    c.accessed op r = if refreshes c.config op then c.adopted r else none := by
  cases op with
  | sync => exact absurd rfl hop
  | _ => rfl

theorem refreshed_of_ne (hop : op ≠ .sync) :
    c.refreshed op r = if refreshes c.config op then c.sync r else c := by
  cases op with
  | sync => exact absurd rfl hop
  | _ => rfl

theorem refreshed_of_accessed {row : CircuitBreakerRow} (h : c.accessed op r = some row) :
    c.refreshed op r = c.taken r row := by
  by_cases hop : op = .sync
  · obtain rfl := hop
    exact sync_of_adopted (c := c.unsynced) h
  · rw [accessed_of_ne hop] at h
    rw [refreshed_of_ne hop]
    split at h
    · rename_i hrefreshes
      rw [if_pos hrefreshes, sync_of_adopted h]
    · cases h

/-- Without a row only the time of the last access changes. -/
theorem refreshed_of_unaccessed (h : c.accessed op r = none) :
    ∃ time, c.refreshed op r = c.syncedAt time := by
  by_cases hop : op = .sync
  · obtain rfl := hop
    exact sync_of_unadopted (c := c.unsynced) h
  · rw [accessed_of_ne hop] at h
    rw [refreshed_of_ne hop]
    split at h
    · rename_i hrefreshes
      rw [if_pos hrefreshes]
      exact sync_of_unadopted h
    · rename_i hstays
      rw [if_neg hstays]
      exact ⟨c.breaker.lastSyncTime, rfl⟩

theorem refreshed_cases (op : Operation) (r : Reading) (c : Circuit) :
    (∃ row, c.refreshed op r = c.taken r row) ∨ ∃ time, c.refreshed op r = c.syncedAt time := by
  cases h : c.accessed op r with
  | some row => exact .inl ⟨row, refreshed_of_accessed h⟩
  | none => exact .inr (refreshed_of_unaccessed h)

theorem refreshed_state (op : Operation) (r : Reading) (c : Circuit) :
    (c.refreshed op r).state = ((c.accessed op r).map CircuitBreakerRow.state).getD c.state := by
  cases h : c.accessed op r with
  | some row => rw [refreshed_of_accessed h]; rfl
  | none =>
    obtain ⟨time, heq⟩ := refreshed_of_unaccessed h
    rw [heq]
    rfl

@[simp] theorem refreshed_config (op : Operation) (r : Reading) (c : Circuit) :
    (c.refreshed op r).config = c.config := by
  obtain ⟨row, heq⟩ | ⟨time, heq⟩ := refreshed_cases op r c
  · rw [heq]
    rfl
  · rw [heq]
    rfl

@[simp] theorem refreshed_storage (op : Operation) (r : Reading) (c : Circuit) :
    (c.refreshed op r).storage = c.storage := by
  obtain ⟨row, heq⟩ | ⟨time, heq⟩ := refreshed_cases op r c
  · rw [heq]
    rfl
  · rw [heq]
    rfl

theorem accessed_eq_some {row : CircuitBreakerRow} (h : c.accessed op r = some row) :
    ∃ store, c.storage = some store ∧ store.row = some row := by
  have hadopted (c' : Circuit) (hstorage : c'.storage = c.storage) (h : c'.adopted r = some row) :
      ∃ store, c.storage = some store ∧ store.row = some row := by
    obtain ⟨store, hstore, hif⟩ := Option.bind_eq_some_iff.mp h
    simp only [ite_eq_iff, reduceCtorEq, and_false, false_or, or_false] at hif
    exact ⟨store, hstorage ▸ hstore, hif.2.2⟩
  by_cases hop : op = .sync
  · obtain rfl := hop
    exact hadopted c.unsynced rfl h
  · rw [accessed_of_ne hop] at h
    split at h
    · exact hadopted c rfl h
    · cases h

theorem observed_self (c : Circuit) : c.observed c.breaker.lastErrorRate = c := rfl

theorem not_grants_of_ne (hop : op ≠ .beginRecoveryProbe) : ¬Grants op r y :=
  fun hgrants => hop hgrants.op_eq

theorem prepared_observed (y : Circuit) (errorRate : Float) : Prepared y (y.observed errorRate) :=
  ⟨rfl, rfl, rfl, rfl, rfl, rfl, id⟩

theorem valid_halfOpen (hopen : y.state = .open_) : valid y.state .halfOpen = true := by
  rw [hopen]
  rfl

theorem Effect.change {d : Circuit} (h : Effect op r y d) : Change op r y d := by
  cases h with
  | rest errorRate hmoves hgrants => exact .rest hmoves hgrants errorRate
  | timedOut errorRate hdue hmoves hgrants =>
    exact .moved hmoves hgrants (prepared_observed y errorRate) (valid_halfOpen hdue.state_eq) _ _ _
  | @tripped errorRate hop hclosed henabled hrate =>
    obtain rfl := hop
    have hmoves : Moves (.evaluate errorRate) r y := .inr ⟨henabled, hclosed, hrate⟩
    refine .moved hmoves (not_grants_of_ne (by simp)) (prepared_observed y errorRate) ?_ _ _ _
    rw [hclosed]
    rfl
  | @manual target reason errorRate hop hvalid =>
    obtain rfl := hop
    have hmoves : Moves (.transitionTo target reason errorRate) r y := hvalid
    exact .moved hmoves (not_grants_of_ne (by simp))
      (prepared_observed y y.breaker.lastErrorRate) hvalid _ _ _
  | probed hop hhalf hfree henabled =>
    -- `HALF_OPEN` has no timeout to apply
    refine .probed ?_ ⟨hop, henabled, .inl hhalf, hfree⟩ hhalf
    obtain rfl := hop
    rintro ⟨date, hdue⟩
    have hopen := hdue.state_eq
    rw [hhalf] at hopen
    cases hopen
  | @timedOutProbed date hop hdue hfree =>
    have hgrants : Grants op r y := ⟨hop, hdue.enabled, .inr ⟨date, hdue⟩, hfree⟩
    obtain rfl := hop
    have hmoves : Moves .beginRecoveryProbe r y := ⟨date, hdue⟩
    exact .movedProbed hmoves hgrants hdue.state_eq _ _ _
  | @recovered errorRate success isPass hop hhalf hpass =>
    obtain rfl := hop
    rw [recovered_eq]
    have hprepared : Prepared y ((y.observed errorRate).counted isPass) :=
      ⟨rfl, rfl, rfl, rfl, rfl, rfl, nofun⟩
    have hmoves : Moves (.recordRecoveryResult errorRate success) r y := hhalf
    refine .moved hmoves (not_grants_of_ne (by simp)) hprepared ?_ _ _ _
    rw [hhalf, valid_resultState]

theorem Effect.of_self (hmoves : ¬Moves op r y) (hgrants : ¬Grants op r y) : Effect op r y y :=
  Effect.rest y.breaker.lastErrorRate hmoves hgrants

theorem checkTimeout_cases (c : Circuit) (r : Reading) :
    (∃ date, c.TimeoutDue r date ∧ c.checkTimeout r = c.timedOut r date) ∨
      (∀ date, ¬c.TimeoutDue r date) ∧ c.checkTimeout r = c := by
  unfold checkTimeout
  split
  · rename_i hopen
    simp only [Bool.and_eq_true, beq_iff_eq] at hopen
    split
    · rename_i hnone
      right
      refine ⟨?_, rfl⟩
      rintro date ⟨-, -, hdate, -⟩
      rw [hnone] at hdate
      cases hdate
    · rename_i date hdate
      dsimp only
      split
      · rename_i helapsed
        exact .inl ⟨date, ⟨hopen.1, hopen.2, hdate, helapsed⟩, rfl⟩
      · rename_i helapsed
        right
        refine ⟨?_, rfl⟩
        rintro date' ⟨-, -, hdate', helapsed'⟩
        obtain rfl := Option.some.inj (hdate.symm.trans hdate')
        exact helapsed helapsed'
  · rename_i hopen
    right
    refine ⟨?_, rfl⟩
    rintro date ⟨henabled, hstate, -, -⟩
    apply hopen
    simp [henabled, hstate]

theorem checkTimeout_probeActive :
    (c.checkTimeout r).breaker.probeActive = c.breaker.probeActive := by
  obtain ⟨date, -, heq⟩ | ⟨-, heq⟩ := c.checkTimeout_cases r
  · rw [heq]
    rfl
  · rw [heq]

theorem checkTimeout_ready (h : c.state = .halfOpen ∨ ∃ date, c.TimeoutDue r date) :
    (c.checkTimeout r).state = .halfOpen := by
  obtain ⟨date, -, heq⟩ | ⟨hnone, heq⟩ := c.checkTimeout_cases r
  · rw [heq]
    rfl
  · rw [heq]
    exact h.resolve_right fun ⟨date, hdue⟩ => hnone date hdue

/-- The timeout is applied, and there is nothing else to do. -/
theorem effect_checkTimeout (hdue : ∀ date, y.TimeoutDue r date → Moves op r y)
    (hmoves : (∀ date, ¬y.TimeoutDue r date) → ¬Moves op r y) (hgrants : ¬Grants op r y)
    (errorRate : Float) : Effect op r y ((y.observed errorRate).checkTimeout r) := by
  obtain ⟨date, hpassed, heq⟩ | ⟨hnone, heq⟩ := (y.observed errorRate).checkTimeout_cases r
  · have hpassed : y.TimeoutDue r date :=
      ⟨hpassed.enabled, hpassed.state_eq, hpassed.openedAt_eq, hpassed.elapsed⟩
    rw [heq]
    exact .timedOut errorRate hpassed (hdue date hpassed) hgrants
  · rw [heq]
    refine .rest errorRate (hmoves fun date hpassed => ?_) hgrants
    exact hnone date ⟨hpassed.enabled, hpassed.state_eq, hpassed.openedAt_eq, hpassed.elapsed⟩

/-- An operation that only reads applies the timeout. -/
theorem effect_read (hmoves : Moves op r y = ∃ date, y.TimeoutDue r date)
    (hop : op ≠ .beginRecoveryProbe) : Effect op r y (y.checkTimeout r) := by
  have heffect : Effect op r y ((y.observed y.breaker.lastErrorRate).checkTimeout r) :=
    effect_checkTimeout (fun date hdue => hmoves ▸ ⟨date, hdue⟩)
      (fun hnone => hmoves ▸ fun ⟨date, hdue⟩ => hnone date hdue)
      (fun hgrants => hop hgrants.op_eq) y.breaker.lastErrorRate
  rw [observed_self] at heffect
  exact heffect

/-- A disabled breaker has no timeout. -/
theorem not_due_of_disabled (h : y.config.enabled = false) : ¬∃ date, y.TimeoutDue r date := by
  rintro ⟨date, hdue⟩
  have henabled := hdue.enabled
  rw [h] at henabled
  cases henabled

theorem effect_evaluate (errorRate : Float) (r : Reading) (c : Circuit) :
    Effect (.evaluate errorRate) r (c.sync r) (c.evaluate r errorRate).2 := by
  set y := c.sync r with hy
  have hgrants : ¬Grants (.evaluate errorRate) r y := not_grants_of_ne (by simp)
  simp only [evaluate, ← hy]
  split
  · rename_i hdisabled
    have hdisabled : y.config.enabled = false := by simpa using hdisabled
    refine .rest errorRate ?_ hgrants
    rintro (hdue | ⟨henabled, -, -⟩)
    · exact not_due_of_disabled hdisabled hdue
    · rw [hdisabled] at henabled
      cases henabled
  · rename_i henabled
    have henabled : y.config.enabled = true := by simpa using henabled
    split
    · rename_i htrip
      -- only a copy that the timeout left alone is `CLOSED`
      obtain ⟨date, hdue, heq⟩ | ⟨-, heq⟩ := (y.observed errorRate).checkTimeout_cases r
      · rw [heq] at htrip
        exact absurd htrip.1 (by simp [Circuit.timedOut])
      · rw [heq] at htrip ⊢
        exact .tripped rfl htrip.1 henabled htrip.2
    · rename_i hstays
      have hdue (date : Date) (hdue : y.TimeoutDue r date) : Moves (.evaluate errorRate) r y :=
        .inl ⟨date, hdue⟩
      refine effect_checkTimeout hdue ?_ hgrants errorRate
      rintro hnone (⟨date, hdue⟩ | ⟨-, hclosed, hrate⟩)
      · exact hnone date hdue
      · refine hstays ⟨?_, ?_⟩
        · rw [checkTimeout_closed_iff]
          exact hclosed
        · rw [checkTimeout_config]
          exact hrate

theorem effect_beginRecoveryProbe (henabled : c.config.enabled = true) (r : Reading) :
    Effect .beginRecoveryProbe r (c.sync r) (c.beginRecoveryProbe r).2 := by
  have hread (hgrants : ¬Grants .beginRecoveryProbe r (c.sync r)) :
      Effect .beginRecoveryProbe r (c.sync r) ((c.sync r).checkTimeout r) := by
    have hmoves (hnone : ∀ date, ¬(c.sync r).TimeoutDue r date) :
        ¬Moves .beginRecoveryProbe r (c.sync r) :=
      fun ⟨date, hdue⟩ => hnone date hdue
    have hdue (date : Date) (hdue : (c.sync r).TimeoutDue r date) :
        Moves .beginRecoveryProbe r (c.sync r) := ⟨date, hdue⟩
    have heffect := effect_checkTimeout hdue hmoves hgrants (c.sync r).breaker.lastErrorRate
    rw [observed_self] at heffect
    exact heffect
  have henabled' : (c.sync r).config.enabled = true := by
    rw [sync_config]
    exact henabled
  simp only [beginRecoveryProbe, henabled, Bool.not_true, Bool.false_eq_true, ↓reduceIte]
  split
  · rename_i hhalf
    exact hread fun hgrants => hhalf (checkTimeout_ready hgrants.ready)
  · rename_i hhalf
    simp only [ne_eq, Decidable.not_not] at hhalf
    split
    · rename_i hset
      -- the timeout does not touch the flag, so it was set before
      refine hread fun hgrants => ?_
      rw [currentState, checkTimeout_probeActive, hgrants.free] at hset
      cases hset
    · rename_i hfree
      simp only [Bool.not_eq_true] at hfree
      simp only [currentState] at hhalf hfree ⊢
      obtain ⟨date, hdue, heq⟩ | ⟨-, heq⟩ := (c.sync r).checkTimeout_cases r
      · rw [heq] at hfree ⊢
        exact .timedOutProbed rfl hdue hfree
      · rw [heq] at hhalf hfree ⊢
        exact .probed rfl hhalf hfree henabled'

theorem effect_transitionTo (target : CircuitState) (reason : String) (errorRate : Option Float)
    (r : Reading) (c : Circuit) :
    Effect (.transitionTo target reason errorRate) r c
      (perform (.transitionTo target reason errorRate) r c).2 := by
  have hgrants : ¬Grants (.transitionTo target reason errorRate) r c := not_grants_of_ne (by simp)
  simp only [perform, transitionTo]
  by_cases hsame : c.state = target
  · rw [if_pos hsame]
    refine .of_self ?_ hgrants
    intro hvalid
    -- no state leads to itself
    have hvalid : valid c.state target = true := hvalid
    rw [hsame] at hvalid
    cases target <;> cases hvalid
  · rw [if_neg hsame]
    by_cases hvalid : valid c.state target = true
    · rw [if_pos hvalid]
      exact .manual rfl hvalid
    · rw [if_neg hvalid]
      exact .of_self hvalid hgrants

theorem effect_recordRecoveryResult (errorRate : Float) (success : Option Bool) (r : Reading)
    (c : Circuit) :
    Effect (.recordRecoveryResult errorRate success) r c
      (perform (.recordRecoveryResult errorRate success) r c).2 := by
  by_cases hhalf : c.state = .halfOpen
  · simp only [perform, recordRecoveryResult_of_halfOpen c r hhalf]
    exact .recovered _ rfl hhalf rfl
  · simp only [perform, recordRecoveryResult_of_ne c r hhalf]
    exact .rest errorRate hhalf (not_grants_of_ne (by simp))

/-- An operation that only reads, and not even that when the breaker is disabled. -/
theorem effect_gated (hsync : op ≠ .sync) (hop : op ≠ .beginRecoveryProbe)
    (hmoves : ∀ y, Moves op r y = ∃ date, y.TimeoutDue r date)
    (hrefreshes : refreshes c.config op = c.config.enabled)
    (hperform : (perform op r c).2 = if c.config.enabled then c.currentState r else c) :
    Effect op r (c.refreshed op r) (perform op r c).2 := by
  rw [refreshed_of_ne hsync, hrefreshes, hperform]
  cases henabled : c.config.enabled with
  | true => exact effect_read (hmoves _) hop
  | false => exact .of_self (hmoves c ▸ not_due_of_disabled henabled) (not_grants_of_ne hop)

/-- An operation refreshes its copy and then has one effect on it. -/
theorem perform_effect (op : Operation) (r : Reading) (c : Circuit) :
    Effect op r (c.refreshed op r) (perform op r c).2 := by
  cases op with
  | currentState => exact effect_read rfl (by simp)
  | canProcess =>
    apply effect_gated (by simp) (by simp) (fun _ => rfl) rfl
    simp only [perform]
    cases c.config.enabled <;> rfl
  | canProbe =>
    apply effect_gated (by simp) (by simp) (fun _ => rfl) rfl
    simp only [perform]
    cases c.config.enabled <;> rfl
  | evaluate errorRate => exact effect_evaluate errorRate r c
  | transitionTo target reason errorRate => exact effect_transitionTo target reason errorRate r c
  | beginRecoveryProbe =>
    cases henabled : c.config.enabled with
    | true =>
      simp only [perform, refreshed, refreshes, henabled, ↓reduceIte]
      exact effect_beginRecoveryProbe henabled r
    | false =>
      simp only [perform, beginRecoveryProbe, refreshed, refreshes, henabled, Bool.not_false,
        Bool.false_eq_true, ↓reduceIte]
      refine .of_self (not_due_of_disabled henabled) fun hgrants => ?_
      have henabled' := hgrants.enabled
      rw [henabled] at henabled'
      cases henabled'
  | recordRecoveryResult errorRate success =>
    exact effect_recordRecoveryResult errorRate success r c
  | getStatus => exact effect_read rfl (by simp)
  | getMetrics => exact effect_read rfl (by simp)
  | sync => exact .of_self (y := c.unsynced.sync r) id (not_grants_of_ne (by simp))

end

end Circuit
end IceStream
