import IceStream.Circuit.Fleet

/-!
# Copies of the row

The fields of an instance belong together, and a transition changes them
together. An instance that takes over a row keeps its own probe and history,
which then speak of another state.
-/

namespace IceStream
open Python Stepping Circuit

/-- The fields of an instance fit its state. -/
structure Represents (b : CircuitBreaker) : Prop where
  probe_halfOpen : b.probeActive = true → b.state = .halfOpen
  openedAt_none_iff : b.openedAt = none ↔ b.state = .closed
  last_toState : ∀ t ∈ b.history.getLast?, t.toState = b.state

/-- The row has a date of opening unless it is `CLOSED`, and comes before any history. -/
structure Dated (store : CircuitBreakerStore) : Prop where
  openedAt_none_iff : ∀ row ∈ store.row, (row.openedAt = none ↔ row.state = .closed)
  history_nil : store.row = none → store.history = []

namespace Fleet

variable {ι : Type}

def AllRepresent (_ : Fleet ι) (_ : FleetAction ι) (g : Fleet ι) : Prop :=
  ∀ i, ∀ x ∈ g.instances i, Represents x.breaker

/-- An instance is built on a history that ends in the stored state. One that takes over
a row in another state has no probe and no history, or makes a transition at once. -/
def TakesOverClean (f : Fleet ι) (a : FleetAction ι) (_ : Fleet ι) : Prop :=
  match a with
  | .build _ _ _ r => r.readOk = true → r.historyOk = true →
    ∀ t ∈ f.store.history.getLast?, t.toState = f.store.state
  | .operate i op r => ∀ x ∈ f.instances i, ∀ row ∈ (x.on f.store).accessed op r,
    row.state ≠ x.breaker.state → ¬Moves op r ((x.on f.store).refreshed op r) →
      x.breaker.probeActive = false ∧ x.breaker.history = []

end Fleet

section

variable {c y d : Circuit} {op : Operation} {r : Reading} {row : CircuitBreakerRow}
  {store : CircuitBreakerStore}

/-- With a row that has its date, the date that is taken over is right. -/
theorem takenOpenedAt_none_iff {openedAt : Option Date}
    (hrow : row.openedAt = none ↔ row.state = .closed) :
    takenOpenedAt row openedAt = none ↔ row.state = .closed := by
  unfold takenOpenedAt
  cases hdate : row.openedAt with
  | some date =>
    rw [hdate] at hrow
    exact hrow
  | none =>
    have hclosed := hrow.mp hdate
    simp [hclosed]

/-- The date of opening fits the state of the copy, whatever row it took over. -/
theorem refreshed_openedAt_iff (h : Represents c.breaker)
    (hdated : ∀ row, c.accessed op r = some row → (row.openedAt = none ↔ row.state = .closed)) :
    (c.refreshed op r).breaker.openedAt = none ↔ (c.refreshed op r).state = .closed := by
  cases haccessed : c.accessed op r with
  | none =>
    obtain ⟨time, hrefreshed⟩ := refreshed_of_unaccessed haccessed
    rw [hrefreshed]
    exact h.openedAt_none_iff
  | some row =>
    rw [refreshed_of_accessed haccessed]
    exact takenOpenedAt_none_iff (hdated row haccessed)

/-- A transition leaves the fields in order. -/
theorem represents_moved (hopened : y.breaker.openedAt = none ↔ y.state = .closed)
    {target : CircuitState} (hvalid : valid y.state target = true) (reason : String)
    (rate : Option Float) (metadata : Metadata) :
    Represents (y.moved r target reason rate metadata).breaker := by
  refine ⟨?_, ?_, ?_⟩
  · intro hprobe
    cases target with
    | halfOpen => rfl
    | _ => cases hprobe
  · cases target with
    | closed => exact iff_of_true rfl rfl
    | open_ => exact iff_of_false nofun nofun
    | halfOpen =>
      have hne : y.state ≠ .closed := by
        intro hclosed
        rw [hclosed] at hvalid
        cases hvalid
      exact iff_of_false (fun hnone => hne (hopened.mp hnone)) nofun
  · intro t ht
    rw [moved_getLast] at ht
    obtain rfl := Option.mem_some_iff.mp ht
    rfl

/-- Unless it makes a transition, an operation leaves the fields in order just in case
its copy has no probe but a `HALF_OPEN` one, and a history that ends in its state. -/
theorem represents_change_iff (hopened : y.breaker.openedAt = none ↔ y.state = .closed)
    (hchange : Change op r y d) :
    Represents d.breaker ↔ (¬Moves op r y → Represents y.breaker) := by
  cases hchange with
  | rest hmoves hgrants errorRate =>
    constructor
    · exact fun h _ => ⟨h.probe_halfOpen, h.openedAt_none_iff, h.last_toState⟩
    · intro h
      exact ⟨(h hmoves).probe_halfOpen, hopened, (h hmoves).last_toState⟩
  | probed hmoves hgrants hhalf =>
    constructor
    · intro h _
      -- the flag was not set before the probe was granted
      refine ⟨fun hprobe => ?_, hopened, h.last_toState⟩
      rw [hgrants.free] at hprobe
      cases hprobe
    · intro h
      exact ⟨fun _ => hhalf, hopened, (h hmoves).last_toState⟩
  | @moved hmoves hgrants y' hprepared target hvalid reason rate metadata =>
    refine iff_of_true ?_ fun hnot => absurd hmoves hnot
    apply represents_moved
    · rw [hprepared.openedAt_eq, hprepared.state_eq]
      exact hopened
    · rw [hprepared.state_eq]
      exact hvalid
  | movedProbed hmoves hgrants hopen reason rate metadata =>
    refine iff_of_true ?_ fun hnot => absurd hmoves hnot
    have hmoved := represents_moved (r := r) hopened (valid_halfOpen hopen) reason rate metadata
    exact ⟨fun _ => rfl, hmoved.openedAt_none_iff, hmoved.last_toState⟩

/-- A row in the state of the instance fits its probe and history; one in another
state fits only if there are none. -/
theorem represents_refreshed_iff (h : Represents c.breaker)
    (hdated : ∀ row, c.accessed op r = some row → (row.openedAt = none ↔ row.state = .closed)) :
    Represents (c.refreshed op r).breaker ↔ ∀ row ∈ c.accessed op r, row.state ≠ c.state →
      c.breaker.probeActive = false ∧ c.breaker.history = [] := by
  have hopened := refreshed_openedAt_iff h hdated
  cases haccessed : c.accessed op r with
  | none =>
    obtain ⟨time, hrefreshed⟩ := refreshed_of_unaccessed haccessed
    rw [hrefreshed]
    exact iff_of_true ⟨h.probe_halfOpen, h.openedAt_none_iff, h.last_toState⟩ nofun
  | some row =>
    rw [refreshed_of_accessed haccessed] at hopened ⊢
    constructor
    · intro htaken row' hrow' hother
      obtain rfl := Option.mem_some_iff.mp hrow'
      constructor
      · by_contra hprobe
        -- the flag is kept, and only `HALF_OPEN` may have it, before and after
        have hprobe : c.breaker.probeActive = true := by simpa using hprobe
        have hhalf : row.state = .halfOpen := htaken.probe_halfOpen hprobe
        exact hother (hhalf.trans (h.probe_halfOpen hprobe).symm)
      · cases hlast : c.breaker.history.getLast? with
        | none => exact List.getLast?_eq_none_iff.mp hlast
        | some t =>
          -- one transition would end in two states
          have hstate : t.toState = row.state := htaken.last_toState t hlast
          exact absurd (hstate.symm.trans (h.last_toState t hlast)) hother
    · intro hclean
      by_cases hsame : row.state = c.state
      · refine ⟨fun hprobe => ?_, hopened, fun t ht => ?_⟩
        · exact hsame.trans (h.probe_halfOpen hprobe)
        · exact (h.last_toState t ht).trans hsame.symm
      · obtain ⟨hprobe, hhistory⟩ := hclean row rfl hsame
        refine ⟨fun hset => ?_, hopened, fun t ht => ?_⟩
        · have hset : c.breaker.probeActive = true := hset
          rw [hprobe] at hset
          cases hset
        · have ht : t ∈ c.breaker.history.getLast? := ht
          rw [hhistory] at ht
          cases ht

/-- The row is left as it is, or it is the instance's own. -/
theorem change_storage (hstore : y.storage = some store) (hchange : Change op r y d) :
    ∃ store', d.storage = some store' ∧
      (store' = store ∨ ∃ rate, store'.row = some (Circuit.row d.breaker rate r.now)) := by
  have hmoved {y' : Circuit} (hstore : y'.storage = some store) (target : CircuitState)
      (reason : String) (rate : Option Float) (metadata : Metadata) :
      ∃ store', (y'.moved r target reason rate metadata).storage = some store' ∧
        (store' = store ∨ ∃ rate', store'.row =
          some (Circuit.row (y'.moved r target reason rate metadata).breaker rate' r.now)) := by
    cases hupsert : r.upsertOk with
    | true =>
      refine ⟨_, by simp only [Circuit.moved, hstore, Option.map_some, hupsert, ↓reduceIte]; rfl,
        .inr ⟨_, rfl⟩⟩
    | false =>
      refine ⟨store, ?_, .inl rfl⟩
      simp only [Circuit.moved, hstore, Option.map_some, hupsert, Bool.false_eq_true, ↓reduceIte]
  cases hchange with
  | rest hmoves hgrants errorRate => exact ⟨store, hstore, .inl rfl⟩
  | probed hmoves hgrants hhalf =>
    cases hupsert : r.upsertOk with
    | true => exact ⟨_, probed_storage hstore hupsert, .inr ⟨_, rfl⟩⟩
    | false =>
      refine ⟨store, ?_, .inl rfl⟩
      simp only [Circuit.probed, hstore, Option.map_some, hupsert, Bool.false_eq_true, ↓reduceIte]
  | moved hmoves hgrants hprepared hvalid reason rate metadata =>
    exact hmoved (hprepared.storage_eq.trans hstore) _ reason rate metadata
  | movedProbed hmoves hgrants hopen reason rate metadata =>
    obtain ⟨store', hstore', hsame⟩ := hmoved hstore .halfOpen reason rate metadata
    cases hupsert : r.upsertOk with
    | true => exact ⟨_, probed_storage hstore' hupsert, .inr ⟨_, rfl⟩⟩
    | false =>
      refine ⟨store, ?_, .inl rfl⟩
      simp only [Circuit.probed, Circuit.moved, hstore, Option.map_some, hupsert,
        Bool.false_eq_true, ↓reduceIte]

theorem dated_change (hdated : Dated store) (hstore : y.storage = some store)
    (hopened : d.breaker.openedAt = none ↔ d.state = .closed) (hchange : Change op r y d) :
    Dated (d.storage.getD store) := by
  obtain ⟨store', hstore', rfl | ⟨rate, hrow⟩⟩ := change_storage hstore hchange
  · rw [hstore', Option.getD_some]
    exact hdated
  · rw [hstore', Option.getD_some]
    refine ⟨?_, ?_⟩
    · intro row hmem
      rw [hrow] at hmem
      obtain rfl := Option.mem_some_iff.mp hmem
      exact hopened
    · intro hnone
      rw [hrow] at hnone
      cases hnone

/-- A bounded history ends where the whole one does. -/
theorem getLast_bounded {n : ℕ} (hn : 1 ≤ n) (history : List StateTransition) :
    (history.drop (history.length - n)).getLast? = history.getLast? := by
  rw [List.getLast?_drop]
  split
  · rename_i hshort
    have hempty : history = [] := List.length_eq_zero_iff.mp (by omega)
    rw [hempty]
    rfl
  · rfl

/-- The fields of an instance without a probe fit its state as far as its date and its
history do. -/
theorem represents_of_no_probe {b : CircuitBreaker} (hprobe : b.probeActive = false)
    (hopened : b.openedAt = none ↔ b.state = .closed) :
    Represents b ↔ ∀ t ∈ b.history.getLast?, t.toState = b.state := by
  constructor
  · intro h
    exact h.last_toState
  · intro h
    refine ⟨fun hset => ?_, hopened, h⟩
    rw [hprobe] at hset
    cases hset

/-- The state and the date that a new instance reads. -/
theorem build_fields (store : CircuitBreakerStore) (r : Reading) (config : CircuitBreakerConfig)
    (interval : Float) :
    (build config interval (some store) r).breaker.probeActive = false ∧
    (build config interval (some store) r).breaker.state =
      (if r.readOk then store.state else .closed) ∧
    (build config interval (some store) r).breaker.openedAt =
      (if r.readOk then store.row.bind CircuitBreakerRow.openedAt else none) ∧
    (build config interval (some store) r).breaker.history =
      (if r.readOk ∧ r.historyOk then
        store.history.drop (store.history.length - config.maxHistory) else []) := by
  cases hread : r.readOk <;> cases hrow : store.row <;> cases hhistory : r.historyOk <;>
    simp [build, hydrated, CircuitBreakerStore.state, ofRow, hread, hrow, hhistory]

/-- A new instance is in order just in case the history it reads ends in the stored state. -/
theorem represents_build_iff (hdated : Dated store) (config : CircuitBreakerConfig)
    (interval : Float) : Represents (build config interval (some store) r).breaker ↔
      (r.readOk = true → r.historyOk = true →
        ∀ t ∈ store.history.getLast?, t.toState = store.state) := by
  obtain ⟨hprobe, hstate, hdate, hhistory⟩ := build_fields store r config interval
  have hopened : (build config interval (some store) r).breaker.openedAt = none ↔
      (build config interval (some store) r).breaker.state = .closed := by
    rw [hdate, hstate]
    split
    · cases hrow : store.row with
      | none => simp [CircuitBreakerStore.state, hrow]
      | some row => simpa [CircuitBreakerStore.state, hrow] using hdated.openedAt_none_iff row hrow
    · simp
  rw [represents_of_no_probe hprobe hopened, hstate, hhistory]
  cases hread : r.readOk with
  | false => simp
  | true =>
    cases hhistoryOk : r.historyOk with
    | false => simp
    | true => simp [getLast_bounded config.history_valid]

end

namespace Fleet

variable {ι : Type} [DecidableEq ι] {f g : Fleet ι} {a : FleetAction ι}

/-- Every instance is in order, and so is the row. -/
structure Ordered (f : Fleet ι) : Prop where
  represents : ∀ i, ∀ x ∈ f.instances i, Represents x.breaker
  dated : Dated f.store

theorem allRepresent_put_iff (h : f.Ordered) (i : ι) (c : Circuit) :
    f.AllRepresent a (f.put i c) ↔ Represents c.breaker := by
  constructor
  · intro hall
    exact hall i c.detached (f.put_self i c)
  · intro hc j x hx
    by_cases hj : j = i
    · rw [hj, put_self] at hx
      obtain rfl := Option.mem_some_iff.mp hx
      exact hc
    · rw [put_of_ne f hj] at hx
      exact h.represents j x hx

omit [DecidableEq ι] in
theorem operated_iff (h : f.Ordered) {x : Instance} {i : ι} (hx : f.instances i = some x)
    (op : Operation) (r : Reading) :
    Represents ((x.on f.store).call (op, r)).breaker ↔
      f.TakesOverClean (.operate i op r) g := by
  have hx' : Represents (x.on f.store).breaker := h.represents i x hx
  have hdated (row : CircuitBreakerRow) (hrow : (x.on f.store).accessed op r = some row) :
      row.openedAt = none ↔ row.state = .closed := by
    obtain ⟨store, hstore, hstored⟩ := accessed_eq_some hrow
    obtain rfl := Option.some.inj hstore
    exact h.dated.openedAt_none_iff row hstored
  have hchange := (perform_effect op r (x.on f.store)).change
  have hiff := represents_change_iff (refreshed_openedAt_iff hx' hdated) hchange
  rw [represents_refreshed_iff hx' hdated] at hiff
  refine hiff.trans ⟨?_, ?_⟩
  · intro hclean x' hx' row hrow hother hstays
    obtain rfl := Option.some.inj (hx.symm.trans hx')
    exact hclean hstays row hrow hother
  · exact fun hclean hstays row hrow hother => hclean x hx row hrow hother hstays

theorem represent_iff_clean (h : f.Ordered) (ht : f.writtenStep a = some g) :
    f.AllRepresent a g ↔ f.TakesOverClean a g := by
  cases a with
  | build i config interval r =>
    obtain rfl := Option.some.inj ht
    exact (allRepresent_put_iff h i _).trans (represents_build_iff h.dated config interval)
  | operate i op r =>
    obtain ⟨-, -, ht⟩ := written_operate_eq ht
    obtain ⟨x, hx, rfl⟩ := operate_eq ht
    exact (allRepresent_put_iff h i _).trans (operated_iff h hx op r)

theorem ordered_step (h : f.Ordered) (ht : f.writtenStep a = some g)
    (hclean : f.TakesOverClean a g) : g.Ordered := by
  have hall := (represent_iff_clean h ht).mpr hclean
  refine ⟨hall, ?_⟩
  cases a with
  | build i config interval r =>
    obtain rfl := Option.some.inj ht
    rw [build_store]
    exact h.dated
  | operate i op r =>
    obtain ⟨-, -, ht⟩ := written_operate_eq ht
    obtain ⟨x, hx, rfl⟩ := operate_eq ht
    have hstore : ((x.on f.store).refreshed op r).storage = some f.store :=
      refreshed_storage op r (x.on f.store)
    have hopened := ((allRepresent_put_iff h i _).mp hall).openedAt_none_iff
    exact dated_change h.dated hstore hopened (perform_effect op r (x.on f.store)).change

/-- Every instance stays in order just in case none is built on a history that ends
elsewhere, and whoever takes over a row in another state has no probe and no history,
or makes a transition at once. -/
theorem all_represent_iff (actions : List (FleetAction ι)) :
    AllSteps writtenStep AllRepresent idle actions ↔
      AllSteps writtenStep TakesOverClean idle actions := by
  apply allSteps_iff_of_invariant (I := Ordered)
  · exact fun _ _ _ h ht => represent_iff_clean h ht
  · exact fun _ _ _ h ht hclean => ordered_step h ht hclean
  · exact ⟨nofun, nofun, fun _ => rfl⟩

/-- Two instances trip one after the other, and the first half-opens. -/
def tripOfBoth : List (FleetAction Bool) :=
  [.build true .default 0.5 instant, .operate true (.evaluate 1) instant,
    .build false .default 0.5 instant,
    .operate true (.transitionTo .halfOpen "manual" none) instant]

/-- The second takes over `HALF_OPEN`, and its history still ends in `OPEN`. -/
theorem taken_state_leaves_history :
    ¬AllSteps writtenStep AllRepresent idle
      (tripOfBoth ++ [.operate false .sync ⟨1, 0, true, true, true⟩]) := by
  intro h
  have hall := h.last rfl rfl
  have hlast := (hall false _ rfl).last_toState
    ⟨.closed, .open_, 0, "error_rate_above_threshold", 1, .none⟩ (by decide +kernel)
  revert hlast
  decide +kernel

end Fleet

end IceStream
