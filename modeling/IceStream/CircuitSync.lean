import IceStream.CircuitBreaker

/-!
# Several accesses at one instant

A call that works with the breaker accesses its row more than once. A later
access takes over the row that the first one took over, or one that was written
in between.
-/

namespace IceStream
open Python

namespace Circuit

/-- Within a call at `r` the row is taken over at every access, and cannot be
replaced. -/
structure Rereads (c : Circuit) (r : Reading) (row : CircuitBreakerRow) : Prop where
  adopted : c.adopted r = some row
  upsert_fails : r.upsertOk = false
  due_again : ¬r.time - r.time < c.syncIntervalSeconds

/-- Another access at `r` does not change whether the breaker is `CLOSED`. -/
def Settled (c : Circuit) (r : Reading) : Prop :=
  ∀ row, c.adopted r = some row → (row.state = .closed ↔ c.state = .closed)

section

variable {c : Circuit} {r : Reading} {row : CircuitBreakerRow} {target : CircuitState}
  {reason : String} {rate : Option Float} {metadata : Metadata}

theorem adopted_eq_some : c.adopted r = some row ↔ ∃ store, c.storage = some store ∧
    ¬r.time - c.breaker.lastSyncTime < c.syncIntervalSeconds ∧ r.readOk = true ∧
      store.row = some row := by
  simp only [adopted, Option.bind_eq_some_iff, ite_eq_iff, reduceCtorEq, and_false, false_or,
    or_false]

theorem adopted_moved (h : (c.moved r target reason rate metadata).adopted r = some row) :
    r.upsertOk = true ∧ row.state = target ∨ r.upsertOk = false ∧ c.adopted r = some row := by
  obtain ⟨store, hstore, hdue, hread, hrow⟩ := adopted_eq_some.mp h
  obtain ⟨store₀, hstore₀, rfl⟩ := Option.map_eq_some_iff.mp hstore
  cases hupsert : r.upsertOk with
  | true =>
    left
    rw [if_pos hupsert] at hrow
    obtain rfl := Option.some.inj hrow
    exact ⟨rfl, rfl⟩
  | false =>
    right
    rw [if_neg (by simp [hupsert])] at hrow
    exact ⟨rfl, adopted_eq_some.mpr ⟨store₀, hstore₀, hdue, hread, hrow⟩⟩

theorem adopted_moved_of_fails (hupsert : r.upsertOk = false) :
    (c.moved r target reason rate metadata).adopted r = c.adopted r := by
  cases hstorage : c.storage with
  | none => simp [adopted, moved, hstorage]
  | some store => simp [adopted, moved, hstorage, hupsert]

theorem adopted_checkTimeout_of_fails (hupsert : r.upsertOk = false) :
    (c.checkTimeout r).adopted r = c.adopted r := by
  unfold checkTimeout
  split
  · split
    · rfl
    · dsimp only
      split
      · exact adopted_moved_of_fails hupsert
      · rfl
  · rfl

/-- A second access finds what the first one found, if it is due at all. -/
theorem adopted_sync : (c.sync r).adopted r = some row ↔
    c.adopted r = some row ∧ ¬r.time - r.time < c.syncIntervalSeconds := by
  cases hfirst : c.adopted r with
  | some row₀ =>
    rw [sync_of_adopted hfirst, adopted_eq_some]
    obtain ⟨store, hstore, -, hread, hrow⟩ := adopted_eq_some.mp hfirst
    constructor
    · rintro ⟨store', hstore', hagain, -, hrow'⟩
      obtain rfl := Option.some.inj (hstore.symm.trans hstore')
      exact ⟨hrow.symm.trans hrow', hagain⟩
    · rintro ⟨hsame, hagain⟩
      exact ⟨store, hstore, hagain, hread, hrow.trans hsame⟩
  | none =>
    simp only [reduceCtorEq, false_and, iff_false]
    intro h
    unfold sync at h
    split at h
    · rw [hfirst] at h
      cases h
    · rename_i store hstore
      split at h
      · rw [hfirst] at h
        cases h
      · rename_i hdue
        split at h
        · rename_i row₀ hread hrow
          simp [adopted, hstore, hdue, hread, hrow] at hfirst
        · obtain ⟨store', hstore', -, hread, hrow⟩ := adopted_eq_some.mp h
          have hsecond : c.adopted r = some row :=
            adopted_eq_some.mpr ⟨store', hstore', hdue, hread, hrow⟩
          rw [hfirst] at hsecond
          cases hsecond

theorem sync_interval : (c.sync r).syncIntervalSeconds = c.syncIntervalSeconds := by
  cases h : c.adopted r with
  | some row => rw [sync_of_adopted h]; rfl
  | none =>
    obtain ⟨time, hsync⟩ := sync_of_unadopted h
    rw [hsync]

theorem checkTimeout_interval :
    (c.checkTimeout r).syncIntervalSeconds = c.syncIntervalSeconds := by
  unfold checkTimeout
  split
  · split
    · rfl
    · dsimp only
      split <;> rfl
  · rfl

/-- Where no row is written, the third access in a call still finds the first row. -/
theorem adopted_sync_currentState (hupsert : r.upsertOk = false) :
    ((c.currentState r).sync r).adopted r = some row ↔ c.Rereads r row := by
  rw [adopted_sync, currentState, adopted_checkTimeout_of_fails hupsert, adopted_sync,
    checkTimeout_interval, sync_interval]
  constructor
  · rintro ⟨⟨hrow, hagain⟩, -⟩
    exact ⟨hrow, hupsert, hagain⟩
  · rintro ⟨hrow, -, hagain⟩
    exact ⟨⟨hrow, hagain⟩, hagain⟩

theorem currentState_closed_iff : (c.currentState r).state = .closed ↔
    ((c.adopted r).map CircuitBreakerRow.state).getD c.state = .closed := by
  rw [currentState, checkTimeout_closed_iff, sync_state]

theorem settled_sync : (c.sync r).Settled r := by
  intro row h
  obtain ⟨hrow, -⟩ := adopted_sync.mp h
  rw [sync_state, hrow]
  rfl

theorem Settled.observed (h : c.Settled r) (rate : Float) : (c.observed rate).Settled r := h

/-- The timeout leads from a state to another that both are not `CLOSED`. -/
theorem Settled.checkTimeout (h : c.Settled r) : (c.checkTimeout r).Settled r := by
  intro row hrow
  rw [checkTimeout_closed_iff]
  unfold Circuit.checkTimeout at hrow
  split at hrow
  · rename_i hopen
    simp only [Bool.and_eq_true, beq_iff_eq] at hopen
    split at hrow
    · exact h row hrow
    · dsimp only at hrow
      split at hrow
      · obtain ⟨-, hhalf⟩ | ⟨-, hsame⟩ := adopted_moved hrow
        · simp [hhalf, hopen.2]
        · exact h row hsame
      · exact h row hrow
  · exact h row hrow

theorem Settled.currentState (h : c.Settled r) :
    (c.currentState r).Settled r ∧ ((c.currentState r).state = .closed ↔ c.state = .closed) := by
  refine ⟨settled_sync.checkTimeout, ?_⟩
  rw [currentState_closed_iff]
  cases hrow : c.adopted r with
  | none => rfl
  | some row => exact h row hrow

@[simp] theorem evaluate_config (c : Circuit) (r : Reading) (rate : Float) :
    (c.evaluate r rate).2.config = c.config := by
  simp only [evaluate]
  split
  · simp
  · dsimp only
    split <;> simp

@[simp] theorem recordRecoveryResult_config (c : Circuit) (r : Reading) (rate : Float)
    (success : Option Bool) : (recordRecoveryResult r rate success c).2.config = c.config := by
  by_cases h : c.state = .halfOpen
  · rw [recordRecoveryResult_of_halfOpen c r h, recovered_config, observed_config]
  · rw [recordRecoveryResult_of_ne c r h, observed_config]

/-- A breaker that is enabled trips, or it was read as not `CLOSED`. -/
theorem evaluate_cases (henabled : c.config.enabled = true) {rate : Float}
    (hrate : c.config.errorThreshold < rate) :
    ((c.sync r).state = .closed ∧ (c.evaluate r rate).2 = ((c.sync r).observed rate).moved r .open_
      "error_rate_above_threshold" (some rate) .none) ∨
    ((c.sync r).state ≠ .closed ∧
      (c.evaluate r rate).2 = ((c.sync r).observed rate).checkTimeout r) := by
  have hconfig : ((c.sync r).observed rate).config = c.config := by simp
  have hconfig' : (((c.sync r).observed rate).checkTimeout r).config = c.config := by simp
  simp only [evaluate, hconfig, henabled, Bool.not_true, Bool.false_eq_true, ↓reduceIte, hconfig',
    hrate, and_true, checkTimeout_closed_iff, observed_state]
  by_cases hclosed : (c.sync r).state = .closed
  · left
    have hstill : ((c.sync r).observed rate).checkTimeout r = (c.sync r).observed rate := by
      rw [checkTimeout, observed_state, hclosed]
      simp
    rw [if_pos hclosed, hstill]
    exact ⟨hclosed, rfl⟩
  · right
    rw [if_neg hclosed]
    exact ⟨hclosed, rfl⟩

/-- An enabled breaker that is read and then told a rate above its threshold is
not `CLOSED`, and an access finds it so unless it takes over the row `CLOSED`. -/
theorem tripped_closed_iff (henabled : c.config.enabled = true) {rate : Float}
    (hrate : c.config.errorThreshold < rate) :
    (((c.currentState r).evaluate r rate).2.currentState r).state = .closed ↔
      ∃ row, c.Rereads r row ∧ row.state = .closed := by
  set y := (c.currentState r).sync r with hy
  have hrate' : (c.currentState r).config.errorThreshold < rate := by
    rw [currentState_config]
    exact hrate
  obtain ⟨hclosed, htrip⟩ | ⟨hopen, hread⟩ := evaluate_cases (r := r)
    (by rw [currentState_config]; exact henabled) hrate'
  · rw [htrip, currentState_closed_iff]
    cases hupsert : r.upsertOk with
    | true =>
      -- the row that is read back, if any, is the one just written
      have hno : ¬∃ row, c.Rereads r row ∧ row.state = .closed := by
        rintro ⟨row, ⟨-, hfails, -⟩, -⟩
        rw [hupsert] at hfails
        cases hfails
      simp only [hno, iff_false]
      cases hrow : ((y.observed rate).moved r .open_ "error_rate_above_threshold" (some rate)
          .none).adopted r with
      | none => simp
      | some row =>
        obtain ⟨-, hstate⟩ | ⟨hfails, -⟩ := adopted_moved hrow
        · simp [hstate]
        · rw [hupsert] at hfails
          cases hfails
    | false =>
      -- the old row is still there for the next access to take over
      rw [adopted_moved_of_fails hupsert]
      change ((y.adopted r).map CircuitBreakerRow.state).getD .open_ = .closed ↔ _
      constructor
      · intro h
        cases hrow : y.adopted r with
        | none => simp [hrow] at h
        | some row =>
          refine ⟨row, (adopted_sync_currentState hupsert).mp hrow, ?_⟩
          simpa [hrow] using h
      · rintro ⟨row, hrereads, hstate⟩
        rw [(adopted_sync_currentState hupsert).mpr hrereads]
        exact hstate
  · rw [hread]
    have hsettled := ((settled_sync (c := c.currentState r) (r := r)).observed rate).checkTimeout
    rw [hsettled.currentState.2, checkTimeout_closed_iff]
    refine iff_of_false hopen ?_
    rintro ⟨row, hrereads, hstate⟩
    apply hopen
    have hrow := (adopted_sync_currentState hrereads.upsert_fails).mpr hrereads
    exact (settled_sync row hrow).mp hstate

/-! ### A breaker that is ready for its recovery -/

/-- `HALF_OPEN`, or `OPEN` for the recovery timeout. -/
def Ripe (config : CircuitBreakerConfig) (r : Reading) (state : CircuitState)
    (openedAt : Option Date) : Prop :=
  state = .halfOpen ∨ state = .open_ ∧ config.enabled = true ∧ ∃ date ∈ openedAt,
    config.recoveryTimeoutSeconds ≤ elapsed date r.now

/-- The breaker is ripe, and every access at `r` finds it so. -/
structure Ready (c : Circuit) (r : Reading) : Prop where
  ripe : Ripe c.config r c.state c.breaker.openedAt
  row_ripe : ∀ row, c.adopted r = some row →
    Ripe c.config r row.state (takenOpenedAt row c.breaker.openedAt)

theorem checkTimeout_halfOpen_iff : (c.checkTimeout r).state = .halfOpen ↔
    Ripe c.config r c.state c.breaker.openedAt := by
  unfold checkTimeout
  split
  · rename_i hopen
    simp only [Bool.and_eq_true, beq_iff_eq] at hopen
    split
    · rename_i hnone
      simp [Ripe, hopen.2, hnone]
    · rename_i date hdate
      dsimp only
      split
      · rename_i helapsed
        exact iff_of_true rfl (.inr ⟨hopen.2, hopen.1, date, hdate, helapsed⟩)
      · rename_i helapsed
        simp [Ripe, hopen.1, hopen.2, hdate, helapsed]
  · rename_i hopen
    simp only [Bool.and_eq_true, beq_iff_eq, not_and] at hopen
    constructor
    · exact .inl
    · rintro (hhalf | ⟨hstate, henabled, -⟩)
      · exact hhalf
      · exact absurd hstate (hopen henabled)

theorem takenOpenedAt_idem (row : CircuitBreakerRow) (openedAt : Option Date) :
    takenOpenedAt row (takenOpenedAt row openedAt) = takenOpenedAt row openedAt := by
  unfold takenOpenedAt
  cases row.openedAt with
  | some date => rfl
  | none =>
    dsimp only
    split <;> rfl

/-- After an access, another one finds the same. -/
theorem ready_sync (h : Ripe c.config r (c.sync r).state (c.sync r).breaker.openedAt) :
    (c.sync r).Ready r := by
  refine ⟨by rw [sync_config]; exact h, ?_⟩
  intro row hrow
  obtain ⟨hfirst, -⟩ := adopted_sync.mp hrow
  rw [sync_of_adopted hfirst] at h ⊢
  change Ripe c.config r row.state (takenOpenedAt row (takenOpenedAt row c.breaker.openedAt))
  rw [takenOpenedAt_idem]
  exact h

theorem Ready.sync (h : c.Ready r) : (c.sync r).Ready r := by
  apply ready_sync
  cases hrow : c.adopted r with
  | some row =>
    rw [sync_of_adopted hrow]
    exact h.row_ripe row hrow
  | none =>
    obtain ⟨time, hsync⟩ := sync_of_unadopted hrow
    rw [hsync]
    exact h.ripe

theorem Ready.observed (h : c.Ready r) (rate : Float) : (c.observed rate).Ready r :=
  ⟨h.ripe, h.row_ripe⟩

theorem Ready.moved_halfOpen (h : c.Ready r) (reason : String) (rate : Option Float)
    (metadata : Metadata) : (c.moved r .halfOpen reason rate metadata).Ready r := by
  refine ⟨.inl rfl, ?_⟩
  intro row hrow
  obtain ⟨-, hhalf⟩ | ⟨-, hsame⟩ := adopted_moved hrow
  · exact .inl hhalf
  · exact h.row_ripe row hsame

theorem Ready.checkTimeout (h : c.Ready r) :
    (c.checkTimeout r).Ready r ∧ (c.checkTimeout r).state = .halfOpen := by
  refine ⟨?_, checkTimeout_halfOpen_iff.mpr h.ripe⟩
  unfold Circuit.checkTimeout
  split
  · split
    · exact h
    · dsimp only
      split
      · exact h.moved_halfOpen _ _ _
      · exact h
  · exact h

theorem ready_of_currentState (h : (c.currentState r).state = .halfOpen) :
    (c.currentState r).Ready r := by
  have hripe := checkTimeout_halfOpen_iff.mp h
  rw [sync_config] at hripe
  exact (ready_sync hripe).checkTimeout.1

/-- A ready breaker is `HALF_OPEN` after it is told a rate. -/
theorem Ready.evaluate (h : c.Ready r) (rate : Float) :
    (c.evaluate r rate).2.Ready r ∧ (c.evaluate r rate).2.state = .halfOpen := by
  have hobserved := h.sync.observed rate
  simp only [Circuit.evaluate]
  split
  · rename_i hdisabled
    refine ⟨hobserved, ?_⟩
    obtain hhalf | ⟨-, henabled, -⟩ := hobserved.ripe
    · exact hhalf
    · rw [henabled] at hdisabled
      cases hdisabled
  · obtain ⟨hready, hhalf⟩ := hobserved.checkTimeout
    have hstays : ¬((((c.sync r).observed rate).checkTimeout r).state = .closed ∧
        (((c.sync r).observed rate).checkTimeout r).config.errorThreshold < rate) := by
      rw [hhalf]
      simp
    rw [if_neg hstays]
    exact ⟨hready, hhalf⟩

theorem adopted_evaluate_of_fails (hupsert : r.upsertOk = false) (h : c.Ready r) (rate : Float) :
    (c.evaluate r rate).2.adopted r = (c.sync r).adopted r := by
  have hhalf := (h.sync.observed rate).checkTimeout.2
  simp only [Circuit.evaluate]
  split
  · rfl
  · have hstays : ¬((((c.sync r).observed rate).checkTimeout r).state = .closed ∧
        (((c.sync r).observed rate).checkTimeout r).config.errorThreshold < rate) := by
      rw [hhalf]
      simp
    rw [if_neg hstays]
    exact adopted_checkTimeout_of_fails hupsert

/-- A breaker that is read as `HALF_OPEN` and told of its recovery is `CLOSED`, and an
access finds it so unless it takes over the old row. -/
theorem recovered_closed_iff (h : (c.currentState r).state = .halfOpen) (rate : Float) :
    (((recordRecoveryResult r rate (some true) ((c.currentState r).evaluate r rate).2).2).currentState
      r).state = .closed ↔ ∀ row, ¬c.Rereads r row := by
  have hready := ready_of_currentState h
  obtain ⟨hready', hhalf⟩ := hready.evaluate rate
  rw [recordRecoveryResult_of_halfOpen _ r hhalf, currentState_closed_iff]
  set y := (((c.currentState r).evaluate r rate).2).observed rate with hy
  cases hupsert : r.upsertOk with
  | true =>
    have hno : ∀ row, ¬c.Rereads r row := by
      intro row hrereads
      have hfails := hrereads.upsert_fails
      rw [hupsert] at hfails
      cases hfails
    simp only [Option.getD_some, hno, not_false_eq_true, implies_true, iff_true]
    cases hrow : (y.recovered r rate true).adopted r with
    | none => rfl
    | some row =>
      obtain ⟨-, hstate⟩ | ⟨hfails, -⟩ := adopted_moved hrow
      · exact hstate
      · rw [hupsert] at hfails
        cases hfails
  | false =>
    have hadopted : (y.recovered r rate true).adopted r = ((c.currentState r).sync r).adopted r := by
      have hmoved : (y.recovered r rate true).adopted r = y.adopted r :=
        adopted_moved_of_fails hupsert
      rw [hmoved]
      exact adopted_evaluate_of_fails hupsert hready rate
    rw [Option.getD_some, hadopted]
    constructor
    · intro hclosed row hrereads
      -- the row that made the breaker ripe is not `CLOSED`
      have hrow := (adopted_sync_currentState hupsert).mpr hrereads
      rw [hrow] at hclosed
      have hstate : row.state = .closed := hclosed
      have hripe := hready.row_ripe row (adopted_sync.mp hrow).1
      simp [Ripe, hstate] at hripe
    · intro hno
      cases hrow : ((c.currentState r).sync r).adopted r with
      | none => rfl
      | some row => exact absurd ((adopted_sync_currentState hupsert).mp hrow) (hno row)

end

end Circuit
end IceStream
