import IceStream.Circuit.Recovery

/-!
# Instances that share a row

Any number of instances on one storage. An operation is atomic, and a restart
builds the instance again. The history in storage stays one chain as long as
whoever writes has an up-to-date copy.
-/

namespace IceStream
open Python Walk Stepping Circuit

/-- An instance apart from the storage it shares. -/
structure Instance where
  config : CircuitBreakerConfig
  syncIntervalSeconds : Float
  breaker : CircuitBreaker

structure Fleet (ι : Type) where
  instances : ι → Option Instance
  store : CircuitBreakerStore

inductive FleetAction (ι : Type)
  | build (i : ι) (config : CircuitBreakerConfig) (syncIntervalSeconds : Float) (r : Reading)
  | operate (i : ι) (op : Operation) (r : Reading)

/-- `CLOSED` where there is no row yet. -/
def CircuitBreakerStore.state (store : CircuitBreakerStore) : CircuitState :=
  (store.row.map CircuitBreakerRow.state).getD .closed

def CircuitBreakerStore.openTotalCount (store : CircuitBreakerStore) : ℕ :=
  (store.row.map CircuitBreakerRow.openTotalCount).getD 0

def Instance.on (x : Instance) (store : CircuitBreakerStore) : Circuit :=
  ⟨x.config, x.syncIntervalSeconds, x.breaker, some store⟩

def Circuit.detached (c : Circuit) : Instance := ⟨c.config, c.syncIntervalSeconds, c.breaker⟩

namespace Fleet

variable {ι : Type}

def idle : Fleet ι := ⟨fun _ => none, ⟨none, []⟩⟩

variable [DecidableEq ι]

def put (f : Fleet ι) (i : ι) (c : Circuit) : Fleet ι where
  instances := Function.update f.instances i (some c.detached)
  store := c.storage.getD f.store

def step (f : Fleet ι) : FleetAction ι → Option (Fleet ι)
  | .build i config interval r => some (f.put i (Circuit.build config interval (some f.store) r))
  | .operate i op r => (f.instances i).map fun x => f.put i ((x.on f.store).call (op, r))

/-- Every write succeeds. -/
def writtenStep (f : Fleet ι) (a : FleetAction ι) : Option (Fleet ι) :=
  match a with
  | .build _ _ _ _ => f.step a
  | .operate _ _ r => if r.upsertOk ∧ r.historyOk then f.step a else none

end Fleet

/-! ## The history in storage -/

/-- The history is a chain of legal transitions from `CLOSED` to the stored state, and
the stored counter counts those to `OPEN`. -/
structure Linked (store : CircuitBreakerStore) : Prop where
  walk : IsWalk StateTransition.fromState StateTransition.toState .closed store.history store.state
  legal : ∀ t ∈ store.history, valid t.fromState t.toState = true
  total_eq : store.openTotalCount = store.history.countP fun t => t.toState == .open_

/-- The copy agrees with the stored row in what is chained and counted. -/
structure UpToDate (y : Circuit) (store : CircuitBreakerStore) : Prop where
  state_eq : y.state = store.state
  openTotalCount_eq : y.breaker.openTotalCount = store.openTotalCount

namespace Fleet

variable {ι : Type}

def HistoryLinked (_ : Fleet ι) (_ : FleetAction ι) (g : Fleet ι) : Prop := Linked g.store

/-- An operation that makes a transition or begins a probe has an up-to-date copy. -/
def WritesUpToDate (f : Fleet ι) (a : FleetAction ι) (_ : Fleet ι) : Prop :=
  match a with
  | .build _ _ _ _ => True
  | .operate i op r => ∀ x ∈ f.instances i,
    Moves op r ((x.on f.store).refreshed op r) ∨
      Grants op r ((x.on f.store).refreshed op r) →
    UpToDate ((x.on f.store).refreshed op r) f.store

end Fleet

section

variable {store : CircuitBreakerStore} {y d : Circuit} {op : Operation} {r : Reading}

/-- A row that is written without a transition. -/
theorem linked_rewritten_iff (h : Linked store) (row : CircuitBreakerRow) :
    Linked ⟨some row, store.history⟩ ↔
      row.state = store.state ∧ row.openTotalCount = store.openTotalCount := by
  constructor
  · intro hlinked
    exact ⟨hlinked.walk.end_unique h.walk, hlinked.total_eq.trans h.total_eq.symm⟩
  · rintro ⟨hstate, htotal⟩
    refine ⟨?_, h.legal, htotal.trans h.total_eq⟩
    have hwalk := h.walk
    rw [← hstate] at hwalk
    exact hwalk

/-- A row that is written with a transition. -/
theorem linked_extended_iff (h : Linked store) (row : CircuitBreakerRow) {t : StateTransition}
    (hvalid : valid t.fromState t.toState = true) (hrow : row.state = t.toState) :
    Linked ⟨some row, store.history ++ [t]⟩ ↔ t.fromState = store.state ∧
      row.openTotalCount = store.openTotalCount + if t.toState = .open_ then 1 else 0 := by
  have hcount : (store.history ++ [t]).countP (fun t => t.toState == .open_) =
      store.openTotalCount + if t.toState = .open_ then 1 else 0 := by
    rw [List.countP_append, ← h.total_eq, List.countP_singleton]
    simp
  constructor
  · intro hlinked
    -- the chain before the new row ends where the stored one does
    have hwalk := (isWalk_snoc.mp hlinked.walk).1
    exact ⟨hwalk.end_unique h.walk, hlinked.total_eq.trans hcount⟩
  · rintro ⟨hstate, htotal⟩
    refine ⟨?_, ?_, htotal.trans hcount.symm⟩
    · have hwalk := h.walk
      rw [← hstate] at hwalk
      exact isWalk_snoc.mpr ⟨hwalk, hrow.symm⟩
    · intro t' ht'
      obtain hold | hnew := List.mem_append.mp ht'
      · exact h.legal t' hold
      · obtain rfl := List.mem_singleton.mp hnew
        exact hvalid

/-- A write keeps the chain just in case the copy it is made from is up to date. -/
theorem linked_change_iff (hstore : y.storage = some store) (h : Linked store)
    (hupsert : r.upsertOk = true) (hwrite : r.historyOk = true) (hchange : Change op r y d) :
    Linked (d.storage.getD store) ↔
      (Moves op r y ∨ Grants op r y → UpToDate y store) := by
  cases hchange with
  | rest hmoves hgrants errorRate =>
    have hsame : (y.observed errorRate).storage.getD store = store := by
      rw [observed, hstore, Option.getD_some]
    rw [hsame]
    exact iff_of_true h fun hacts => (hacts.elim hmoves hgrants).elim
  | probed hmoves hgrants hhalf =>
    rw [probed_storage hstore hupsert, Option.getD_some, linked_rewritten_iff h]
    constructor
    · rintro ⟨hstate, htotal⟩ -
      exact ⟨hstate, htotal⟩
    · intro hup
      exact ⟨(hup (.inr hgrants)).state_eq, (hup (.inr hgrants)).openTotalCount_eq⟩
  | @moved hmoves hgrants y' hprepared target hvalid reason rate metadata =>
    have hstore' : y'.storage = some store := hprepared.storage_eq.trans hstore
    have hvalid' : valid y'.state target = true := by
      rw [hprepared.state_eq]
      exact hvalid
    rw [moved_storage hstore' hupsert hwrite, Option.getD_some,
      linked_extended_iff h _ hvalid' rfl]
    have htotal : (y'.moved r target reason rate metadata).breaker.openTotalCount =
        y.breaker.openTotalCount + if target = .open_ then 1 else 0 := by
      rw [← hprepared.openTotalCount_eq]
      cases target <;> rfl
    change y'.state = store.state ∧ (y'.moved r target reason rate metadata).breaker.openTotalCount =
      store.openTotalCount + (if target = .open_ then 1 else 0) ↔ _
    rw [htotal, hprepared.state_eq, Nat.add_right_cancel_iff]
    constructor
    · rintro ⟨hstate, htotal⟩ -
      exact ⟨hstate, htotal⟩
    · intro hup
      exact ⟨(hup (.inl hmoves)).state_eq, (hup (.inl hmoves)).openTotalCount_eq⟩
  | movedProbed hmoves hgrants hopen reason rate metadata =>
    have hmoved := moved_storage hstore hupsert hwrite .halfOpen reason rate metadata
    rw [probed_storage hmoved hupsert, Option.getD_some,
      linked_extended_iff h _ (valid_halfOpen hopen) rfl]
    constructor
    · rintro ⟨hstate, htotal⟩ -
      exact ⟨hstate, htotal⟩
    · intro hup
      exact ⟨(hup (.inl hmoves)).state_eq, (hup (.inl hmoves)).openTotalCount_eq⟩

end

namespace Fleet

variable {ι : Type} [DecidableEq ι] {f g : Fleet ι} {a : FleetAction ι} {i : ι} {op : Operation}
  {r : Reading}

theorem put_self (f : Fleet ι) (i : ι) (c : Circuit) : (f.put i c).instances i = some c.detached :=
  Function.update_self ..

theorem put_of_ne (f : Fleet ι) {i j : ι} (hj : j ≠ i) (c : Circuit) :
    (f.put i c).instances j = f.instances j :=
  Function.update_of_ne hj ..

theorem operate_eq (ht : f.step (.operate i op r) = some g) :
    ∃ x, f.instances i = some x ∧ g = f.put i ((x.on f.store).call (op, r)) := by
  obtain ⟨x, hx, hg⟩ := Option.map_eq_some_iff.mp ht
  exact ⟨x, hx, hg.symm⟩

theorem written_operate_eq (ht : f.writtenStep (.operate i op r) = some g) :
    r.upsertOk = true ∧ r.historyOk = true ∧ f.step (.operate i op r) = some g := by
  obtain ⟨⟨hupsert, hwrite⟩, hg⟩ := Option.ite_none_right_eq_some.mp ht
  exact ⟨hupsert, hwrite, hg⟩

theorem build_store (f : Fleet ι) (i : ι) (config : CircuitBreakerConfig) (interval : Float)
    (r : Reading) : (f.put i (Circuit.build config interval (some f.store) r)).store = f.store := by
  rw [put, Circuit.build_storage, Option.getD_some]

theorem linked_iff_upToDate (h : Linked f.store) (ht : f.writtenStep a = some g) :
    f.HistoryLinked a g ↔ f.WritesUpToDate a g := by
  cases a with
  | build i config interval r =>
    obtain rfl := Option.some.inj ht
    refine iff_of_true ?_ trivial
    rw [HistoryLinked, build_store]
    exact h
  | operate i op r =>
    obtain ⟨hupsert, hwrite, ht⟩ := written_operate_eq ht
    obtain ⟨x, hx, rfl⟩ := operate_eq ht
    have hstore : ((x.on f.store).refreshed op r).storage = some f.store :=
      refreshed_storage op r (x.on f.store)
    have hchange := (perform_effect op r (x.on f.store)).change
    have hiff := linked_change_iff hstore h hupsert hwrite hchange
    refine hiff.trans ⟨?_, ?_⟩
    · rintro hup x' hx'
      obtain rfl := Option.some.inj (hx.symm.trans hx')
      exact hup
    · exact fun hup => hup x hx

/-- The history in storage stays one legal chain just in case whoever makes a
transition or begins a probe has an up-to-date copy. -/
theorem history_linked_iff (actions : List (FleetAction ι)) :
    AllSteps writtenStep HistoryLinked idle actions ↔
      AllSteps writtenStep WritesUpToDate idle actions := by
  apply allSteps_iff_of_invariant (I := fun f => Linked f.store)
  · exact fun _ _ _ h ht => linked_iff_upToDate h ht
  · exact fun _ _ _ h ht hup => (linked_iff_upToDate h ht).mpr hup
  · exact ⟨rfl, nofun, rfl⟩

/-- Two instances start `CLOSED`, and one of them trips. -/
def tripOfTwo : List (FleetAction Bool) :=
  [.build true .default 0.5 instant, .build false .default 0.5 instant,
    .operate true (.evaluate 1) instant]

/-- The other one trips as well before it looks at the row again. -/
theorem second_trip_breaks_history :
    ¬AllSteps writtenStep HistoryLinked idle
      (tripOfTwo ++ [.operate false (.evaluate 1) instant]) := by
  intro h
  have hlinked := h.last rfl rfl
  have hbroken : ¬IsWalk StateTransition.fromState StateTransition.toState .closed
      [⟨.closed, .open_, 0, "error_rate_above_threshold", 1, .none⟩,
        ⟨.closed, .open_, 0, "error_rate_above_threshold", 1, .none⟩] .open_ := by
    decide +kernel
  exact hbroken hlinked.walk

end Fleet

end IceStream
