import IceStream.Circuit.Operations
import IceStream.Lib.Walk
import Mathlib.Data.List.Induction

/-!
# Runs of one breaker without storage

The history is a walk over the legal transitions that ends in the current state,
`OPEN` is counted, and only the timeout leads out of it.
-/

namespace IceStream
open Python Walk

abbrev Call := Operation × Reading

def Operation.manual : Operation → Bool
  | .transitionTo _ _ _ => true
  | _ => false

namespace Circuit

def call (c : Circuit) (a : Call) : Circuit := (perform a.1 a.2 c).2

def run (c : Circuit) (calls : List Call) : Circuit := calls.foldl call c

/-- The calls of a run, each with the instance before and after it. -/
def log : Circuit → List Call → List (Circuit × Call × Circuit)
  | _, [] => []
  | c, a :: calls => (c, a, c.call a) :: log (c.call a) calls

def entersOpen (step : Circuit × Call × Circuit) : Bool :=
  decide (step.1.state ≠ .open_ ∧ step.2.2.state = .open_)

/-- How often the run enters `OPEN`. -/
def openings (c : Circuit) (calls : List Call) : ℕ := (c.log calls).countP entersOpen

/-- When the run entered `OPEN` last. -/
def lastOpening (c : Circuit) (calls : List Call) : Option Date :=
  ((c.log calls).filter entersOpen).getLast?.map fun step => step.2.1.2.now

section

variable {c y : Circuit} {a : Call} {calls : List Call} {r : Reading} {op : Operation}

theorem run_snoc (c : Circuit) (calls : List Call) (a : Call) :
    c.run (calls ++ [a]) = (c.run calls).call a := by
  simp only [run, List.foldl_append, List.foldl_cons, List.foldl_nil]

theorem log_snoc (c : Circuit) (calls : List Call) (a : Call) :
    c.log (calls ++ [a]) = c.log calls ++ [(c.run calls, a, (c.run calls).call a)] := by
  induction calls generalizing c with
  | nil => rfl
  | cons b calls ih =>
    simp only [List.cons_append, log, ih]
    rfl

theorem openings_snoc (c : Circuit) (calls : List Call) (a : Call) :
    c.openings (calls ++ [a]) = c.openings calls +
      if (c.run calls).state ≠ .open_ ∧ ((c.run calls).call a).state = .open_ then 1 else 0 := by
  rw [openings, log_snoc, List.countP_append, openings]
  simp [entersOpen]

theorem lastOpening_snoc (c : Circuit) (calls : List Call) (a : Call) :
    c.lastOpening (calls ++ [a]) =
      if (c.run calls).state ≠ .open_ ∧ ((c.run calls).call a).state = .open_ then some a.2.now
      else c.lastOpening calls := by
  rw [lastOpening, log_snoc, List.filter_append]
  split
  · rename_i henters
    have hkeeps : List.filter entersOpen [(c.run calls, a, (c.run calls).call a)] =
        [(c.run calls, a, (c.run calls).call a)] := by
      simp [entersOpen, henters]
    rw [hkeeps, List.getLast?_concat]
    rfl
  · rename_i hstays
    have hdrops : List.filter entersOpen [(c.run calls, a, (c.run calls).call a)] = [] := by
      simpa [entersOpen] using hstays
    rw [hdrops, List.append_nil]
    rfl

/-- Without storage a refresh changes at most the time of the last one. -/
theorem refreshed_of_no_storage (h : c.storage = none) :
    ∃ time, c.refreshed op r = c.syncedAt time := by
  apply refreshed_of_unaccessed
  cases hrow : c.accessed op r with
  | none => rfl
  | some row =>
    obtain ⟨store, hstore, -⟩ := accessed_eq_some hrow
    rw [h] at hstore
    cases hstore

/-! ### The history -/

/-- The history joins up, along legal transitions, to the current state. -/
structure Chained (c : Circuit) : Prop where
  walk : ∃ s, IsWalk StateTransition.fromState StateTransition.toState s c.breaker.history c.state
  legal : ∀ t ∈ c.breaker.history, valid t.fromState t.toState = true
  bounded : c.breaker.history.length ≤ c.config.maxHistory
  closed_of_nil : c.breaker.history = [] → c.state = .closed

theorem Chained.probed (h : c.Chained) (r : Reading) : (c.probed r).Chained :=
  ⟨h.walk, h.legal, h.bounded, h.closed_of_nil⟩

theorem Chained.moved (h : c.Chained) (r : Reading) {target : CircuitState} (reason : String)
    (rate : Option Float) (metadata : Metadata) (hvalid : valid c.state target = true) :
    (c.moved r target reason rate metadata).Chained := by
  set t : StateTransition :=
    ⟨c.state, target, r.now, reason, rate.getD c.breaker.lastErrorRate, metadata⟩ with ht
  have hhistory : (c.moved r target reason rate metadata).breaker.history =
      (c.breaker.history ++ [t]).drop (c.breaker.history.length + 1 - c.config.maxHistory) := rfl
  have hpositive := c.config.history_valid
  obtain ⟨s, hwalk⟩ := h.walk
  refine ⟨?_, ?_, ?_, ?_⟩
  · rw [hhistory]
    have hsnoc : IsWalk StateTransition.fromState StateTransition.toState s
        (c.breaker.history ++ [t]) target := isWalk_snoc.mpr ⟨hwalk, rfl⟩
    exact hsnoc.drop _
  · rw [hhistory]
    intro t' ht'
    obtain hold | hnew := List.mem_append.mp (List.mem_of_mem_drop ht')
    · exact h.legal t' hold
    · obtain rfl := List.mem_singleton.mp hnew
      exact hvalid
  · rw [hhistory, List.length_drop, List.length_append, List.length_singleton, moved_config]
    omega
  · intro hnil
    have hlength := congrArg List.length hnil
    rw [hhistory, List.length_drop, List.length_append, List.length_singleton,
      List.length_nil] at hlength
    omega

theorem Chained.prepared {y' : Circuit} (h : y.Chained) (hprepared : Prepared y y') :
    y'.Chained := by
  have hstate := hprepared.state_eq
  have hhistory := hprepared.history_eq
  obtain ⟨s, hwalk⟩ := h.walk
  refine ⟨⟨s, ?_⟩, ?_, ?_, ?_⟩
  · rw [hhistory, hstate]
    exact hwalk
  · rw [hhistory]
    exact h.legal
  · rw [hhistory, hprepared.config_eq]
    exact h.bounded
  · rw [hhistory, hstate]
    exact h.closed_of_nil

/-- Whatever an operation does to its copy, the history stays joined up. -/
theorem Chained.change (h : y.Chained) {d : Circuit} (hchange : Change op r y d) : d.Chained := by
  cases hchange with
  | rest hmoves hgrants errorRate => exact h.prepared (prepared_observed y errorRate)
  | probed hmoves hgrants hhalf => exact h.probed r
  | moved hmoves hgrants hprepared hvalid reason rate metadata =>
    apply (h.prepared hprepared).moved r
    rw [hprepared.state_eq]
    exact hvalid
  | movedProbed hmoves hgrants hopen reason rate metadata =>
    exact (h.moved r reason rate metadata (valid_halfOpen hopen)).probed r

/-! ### The counter and the time of the opening -/

/-- What an operation does to the counter and to `opened_at`. -/
structure Counts (c d : Circuit) (r : Reading) : Prop where
  total : d.breaker.openTotalCount =
    c.breaker.openTotalCount + if c.state ≠ .open_ ∧ d.state = .open_ then 1 else 0
  opened : d.state = .open_ → d.breaker.openedAt =
    if c.state ≠ .open_ then some r.now else c.breaker.openedAt

/-- A transition of a copy with the same counter. -/
theorem counts_moved (c : Circuit) (htotal : c.breaker.openTotalCount = y.breaker.openTotalCount)
    (target : CircuitState) (reason : String) (rate : Option Float) (metadata : Metadata)
    (hvalid : valid y.state target = true) :
    Counts y (c.moved r target reason rate metadata) r := by
  have hne : target = .open_ → y.state ≠ .open_ := by
    rintro rfl hopen
    rw [hopen] at hvalid
    cases hvalid
  constructor
  · cases target with
    | open_ => simp [Circuit.moved, htotal, hne rfl]
    | closed => simp [Circuit.moved, htotal]
    | halfOpen => simp [Circuit.moved, htotal]
  · intro htarget
    have htarget : target = .open_ := htarget
    rw [if_pos (hne htarget), htarget]
    rfl

theorem counts_change {d : Circuit} (hchange : Change op r y d) : Counts y d r := by
  cases hchange with
  | rest hmoves hgrants errorRate =>
    refine ⟨?_, fun hopen => ?_⟩
    · rw [if_neg (by simp)]
      rfl
    · rw [if_neg (by simpa using hopen)]
      rfl
  | probed hmoves hgrants hhalf =>
    refine ⟨?_, fun hopen => ?_⟩
    · rw [if_neg (by simp [Circuit.probed])]
      rfl
    · have hopen : y.state = .open_ := hopen
      rw [hhalf] at hopen
      cases hopen
  | moved hmoves hgrants hprepared hvalid reason rate metadata =>
    exact counts_moved _ hprepared.openTotalCount_eq _ _ _ _ hvalid
  | movedProbed hmoves hgrants hopen reason rate metadata =>
    have hcounts : Counts y (y.moved r .halfOpen reason rate metadata) r :=
      counts_moved y rfl .halfOpen reason rate metadata (valid_halfOpen hopen)
    exact ⟨hcounts.total, hcounts.opened⟩

theorem change_no_storage (h : y.storage = none) {d : Circuit} (hchange : Change op r y d) :
    d.storage = none := by
  cases hchange with
  | rest hmoves hgrants errorRate => exact h
  | probed hmoves hgrants hhalf => simp [Circuit.probed, h]
  | moved hmoves hgrants hprepared hvalid reason rate metadata =>
    simp [Circuit.moved, hprepared.storage_eq, h]
  | movedProbed hmoves hgrants hopen reason rate metadata =>
    simp [Circuit.probed, Circuit.moved, h]

theorem change_config {d : Circuit} (hchange : Change op r y d) : d.config = y.config := by
  cases hchange with
  | moved hmoves hgrants hprepared hvalid reason rate metadata => exact hprepared.config_eq
  | _ => rfl

/-- From `OPEN` only a manual transition and the timeout lead anywhere. -/
theorem effect_leaves_open (hmanual : op.manual = false) (hopen : y.state = .open_) {d : Circuit}
    (heffect : Effect op r y d) (hleaves : d.state ≠ .open_) :
    d.state = .halfOpen ∧ ∃ date, y.TimeoutDue r date := by
  cases heffect with
  | rest errorRate => exact absurd hopen hleaves
  | timedOut errorRate hdue => exact ⟨rfl, _, hdue⟩
  | tripped hop hclosed henabled hrate =>
    rw [hopen] at hclosed
    cases hclosed
  | manual hop hvalid =>
    rw [hop] at hmanual
    cases hmanual
  | probed hop hhalf hfree =>
    rw [hopen] at hhalf
    cases hhalf
  | timedOutProbed hop hdue hfree => exact ⟨rfl, _, hdue⟩
  | recovered isPass hop hhalf hpass =>
    rw [hopen] at hhalf
    cases hhalf

/-! ### Whole runs -/

/-- How things stand after the calls of a run. -/
structure Accounted (c₀ : Circuit) (calls : List Call) (c : Circuit) : Prop extends Chained c where
  no_storage : c.storage = none
  config_eq : c.config = c₀.config
  total_eq : c.breaker.openTotalCount = c₀.openings calls
  openedAt_eq : c.state = .open_ → c.breaker.openedAt = c₀.lastOpening calls

theorem accounted_build (config : CircuitBreakerConfig) (interval : Float) (r : Reading) :
    Accounted (build config interval none r) [] (build config interval none r) where
  walk := ⟨.closed, rfl⟩
  legal := by simp [build, hydrated]
  bounded := by simp [build, hydrated]
  closed_of_nil := fun _ => rfl
  no_storage := rfl
  config_eq := rfl
  total_eq := rfl
  openedAt_eq := by simp [build, hydrated]

theorem Accounted.call {c₀ : Circuit} (h : Accounted c₀ calls (c₀.run calls)) (a : Call) :
    Accounted c₀ (calls ++ [a]) (c₀.run (calls ++ [a])) := by
  set c := c₀.run calls with hc
  obtain ⟨time, hrefreshed⟩ : ∃ time, c.refreshed a.1 a.2 = c.syncedAt time :=
    refreshed_of_no_storage h.no_storage
  have heffect := perform_effect a.1 a.2 c
  rw [hrefreshed] at heffect
  have hchange := heffect.change
  have hcounts : Counts c (c.call a) a.2 :=
    ⟨(counts_change hchange).total, (counts_change hchange).opened⟩
  have hchained : (c.syncedAt time).Chained :=
    ⟨h.walk, h.legal, h.bounded, h.closed_of_nil⟩
  rw [run_snoc, ← hc]
  have hstorage : (c.syncedAt time).storage = none := h.no_storage
  refine ⟨hchained.change hchange, change_no_storage hstorage hchange, ?_, ?_, ?_⟩
  · exact (change_config hchange).trans h.config_eq
  · rw [openings_snoc, ← hc, ← h.total_eq]
    exact hcounts.total
  · intro hopen
    rw [lastOpening_snoc, ← hc]
    have hopened := hcounts.opened hopen
    by_cases hwas : c.state = .open_
    · rw [if_neg (by simp [hwas]), ← h.openedAt_eq hwas]
      rw [if_neg (by simpa using hwas)] at hopened
      exact hopened
    · rw [if_pos ⟨hwas, hopen⟩]
      rw [if_pos hwas] at hopened
      exact hopened

theorem accounted_run (config : CircuitBreakerConfig) (interval : Float) (r : Reading)
    (calls : List Call) : Accounted (build config interval none r) calls
      ((build config interval none r).run calls) := by
  induction calls using List.reverseRecOn with
  | nil => exact accounted_build config interval r
  | append_singleton calls a ih => exact ih.call a

/-- The history is a bounded chain of legal transitions to the current state, the
counter counts the entries into `OPEN`, and a call other than a manual transition
leaves `OPEN` for `HALF_OPEN` alone, once the timeout has passed since the run
entered it. -/
structure SafeRun (c₀ : Circuit) (calls : List Call) : Prop where
  chained : (c₀.run calls).Chained
  total_eq : (c₀.run calls).breaker.openTotalCount = c₀.openings calls
  leaves_open : ∀ a : Call, a.1.manual = false → (c₀.run calls).state = .open_ →
    ((c₀.run calls).call a).state ≠ .open_ → ((c₀.run calls).call a).state = .halfOpen ∧
      ∃ date, c₀.lastOpening calls = some date ∧
        c₀.config.recoveryTimeoutSeconds ≤ elapsed date a.2.now

/-- Every run of a breaker without storage is safe. -/
theorem safe_run (config : CircuitBreakerConfig) (interval : Float) (r : Reading)
    (calls : List Call) : SafeRun (build config interval none r) calls := by
  have h := accounted_run config interval r calls
  set c := (build config interval none r).run calls with hc
  refine ⟨h.toChained, h.total_eq, ?_⟩
  intro a hmanual hopen hleaves
  obtain ⟨time, hrefreshed⟩ : ∃ time, c.refreshed a.1 a.2 = c.syncedAt time :=
    refreshed_of_no_storage h.no_storage
  have heffect := perform_effect a.1 a.2 c
  rw [hrefreshed] at heffect
  obtain ⟨hhalf, date, hdue⟩ := effect_leaves_open (y := c.syncedAt time) hmanual hopen heffect hleaves
  refine ⟨hhalf, date, ?_, ?_⟩
  · rw [← h.openedAt_eq hopen]
    exact hdue.openedAt_eq
  · rw [← h.config_eq]
    exact hdue.elapsed

end

end Circuit
end IceStream
