import IceStream.Circuit.Recovery
import IceStream.CircuitSync

/-!
# Trips and failing writes

A trip is in force until the recovery timeout, a manual transition or a recovery
result. A write of it that fails leaves the old row, and a later access takes
that over.
-/

namespace IceStream
open Python Stepping

/-- The operation can decide to leave `OPEN`. -/
def Operation.decides : Operation → Bool
  | .transitionTo _ _ _ => true
  | .recordRecoveryResult _ _ => true
  | _ => false

/-- When the breaker tripped, and whether the row taken over last since then was `CLOSED`. -/
structure Trip where
  date : Date
  replaced : Bool
  deriving DecidableEq

namespace Circuit

/-- The answer says that events may pass. -/
def saysClosed : Operation → Answer → Bool
  | .currentState, .state state => state == .closed
  | .canProcess, .permitted permitted => permitted
  | .evaluate _, .state state => state == .closed
  | .getStatus, .status status => status.state == .closed
  | .getMetrics, .metrics metrics => metrics.circuitBreakerState == 0
  | _, _ => false

/-- The operation tells what a `CLOSED` copy is; `evaluate` may trip it first. -/
def tells (config : CircuitBreakerConfig) : Operation → Bool
  | .currentState => true
  | .canProcess => true
  | .evaluate errorRate => !(config.enabled && decide (config.errorThreshold < errorRate))
  | .getStatus => true
  | .getMetrics => true
  | _ => false

/-- A disabled breaker lets everything pass. -/
def waives (config : CircuitBreakerConfig) : Operation → Bool
  | .canProcess => !config.enabled
  | .evaluate _ => !config.enabled
  | _ => false

end Circuit

open Circuit

/-- The trip after an operation took over `row`. -/
def Trip.after (trip : Trip) (row : Option CircuitBreakerRow) : Trip :=
  { trip with replaced := (row.map fun row => row.state == .closed).getD trip.replaced }

/-- An instance with the trip that is in force. -/
structure Tripping where
  circuit : Circuit
  trip : Option Trip

namespace Tripping

/-- The recovery timeout has passed since the trip. -/
def Expired (w : Tripping) (r : Reading) (trip : Trip) : Prop :=
  w.circuit.config.recoveryTimeoutSeconds ≤ elapsed trip.date r.now

instance (w : Tripping) (r : Reading) (trip : Trip) : Decidable (w.Expired r trip) :=
  inferInstanceAs (Decidable (_ ≤ _))

def next (w : Tripping) (a : Call) : Option Trip :=
  let y := w.circuit.refreshed a.1 a.2
  let d := w.circuit.call a
  if d.state = .open_ ∧ y.state ≠ .open_ then some ⟨a.2.now, false⟩
  else if d.state ≠ y.state ∧ a.1.decides then none
  else (w.trip.filter fun trip => ¬w.Expired a.2 trip).map
    fun trip => trip.after (w.circuit.accessed a.1 a.2)

def step (w : Tripping) (a : Call) : Option Tripping := some ⟨w.circuit.call a, w.next a⟩

/-- While a trip is in force no operation says that events may pass. -/
def TripHolds (w : Tripping) (a : Call) (_ : Tripping) : Prop :=
  ∀ trip ∈ w.trip, ¬w.Expired a.2 trip →
    saysClosed a.1 (perform a.1 a.2 w.circuit).1 = false

/-- While a trip is in force the operation is no answer of a disabled breaker, and
where it would tell, the row taken over last since the trip was not `CLOSED`. -/
def TripKept (w : Tripping) (a : Call) (_ : Tripping) : Prop :=
  ∀ trip ∈ w.trip, ¬w.Expired a.2 trip → waives w.circuit.config a.1 = false ∧
    (tells w.circuit.config a.1 = true →
      (trip.after (w.circuit.accessed a.1 a.2)).replaced = false)

/-- The instance is `CLOSED` after a trip just in case a row `CLOSED` replaced it. -/
def Traced (w : Tripping) : Prop :=
  ∀ trip ∈ w.trip, (w.circuit.state = .closed ↔ trip.replaced = true)

end Tripping

section

variable {c y d : Circuit} {op : Operation} {r : Reading} {w w' : Tripping} {a : Call}

namespace Circuit

theorem evaluate_closed_iff (c : Circuit) (r : Reading) (errorRate : Float) :
    (c.evaluate r errorRate).1 = .closed ↔ c.config.enabled = false ∨
      ¬c.config.errorThreshold < errorRate ∧ (c.sync r).state = .closed := by
  have hconfig : ((c.sync r).observed errorRate).config = c.config := by simp
  have hconfig' : (((c.sync r).observed errorRate).checkTimeout r).config = c.config := by simp
  cases henabled : c.config.enabled with
  | false => simp [evaluate, henabled]
  | true =>
    simp only [evaluate, hconfig, henabled, Bool.not_true, Bool.false_eq_true, ↓reduceIte,
      hconfig', Bool.true_eq_false, false_or]
    by_cases hrate : c.config.errorThreshold < errorRate
    · by_cases hclosed : (((c.sync r).observed errorRate).checkTimeout r).state = .closed
      · rw [if_pos ⟨hclosed, hrate⟩]
        simp [hrate]
      · rw [if_neg (fun h => hclosed h.1)]
        simp [hrate, hclosed]
    · rw [if_neg (fun h => hrate h.2), checkTimeout_closed_iff]
      simp [hrate]

/-- What an operation says of its copy. -/
theorem saysClosed_iff : saysClosed op (perform op r c).1 = true ↔
    waives c.config op = true ∨ tells c.config op = true ∧ (c.refreshed op r).state = .closed := by
  cases op with
  | currentState =>
    simp [saysClosed, perform, waives, tells, refreshed, refreshes, currentState,
      checkTimeout_closed_iff]
  | canProcess =>
    cases henabled : c.config.enabled with
    | true =>
      simp [saysClosed, perform, waives, tells, refreshed, refreshes, henabled, currentState,
        checkTimeout_closed_iff]
    | false => simp [saysClosed, perform, waives, henabled]
  | evaluate errorRate =>
    simp only [saysClosed, perform, beq_iff_eq, evaluate_closed_iff, waives, tells, refreshed,
      refreshes]
    cases c.config.enabled <;> simp
  | getStatus =>
    simp [saysClosed, perform, waives, tells, refreshed, refreshes, status,
      checkTimeout_closed_iff]
  | getMetrics =>
    have hmetric (state : CircuitState) : state.metric = 0 ↔ state = .closed := by
      cases state <;> simp [CircuitState.metric]
    simp [saysClosed, perform, waives, tells, refreshed, refreshes, metrics, hmetric,
      checkTimeout_closed_iff]
  | _ => simp [saysClosed, waives, tells]

/-- An operation that stays out of `OPEN` and decides nothing leaves a copy `CLOSED` or not. -/
theorem effect_closed_iff (heffect : Effect op r y d)
    (hopen : ¬(d.state = .open_ ∧ y.state ≠ .open_))
    (hdecides : ¬(d.state ≠ y.state ∧ op.decides = true)) :
    d.state = .closed ↔ y.state = .closed := by
  cases heffect with
  | rest errorRate => exact Iff.rfl
  | timedOut errorRate hdue => exact iff_of_false nofun (by simp [hdue.state_eq])
  | tripped hop hclosed henabled hrate => exact absurd ⟨rfl, by simp [hclosed]⟩ hopen
  | @manual target reason errorRate hop hvalid =>
    -- a manual transition to another state would have ended the trip
    have hsame : target = y.state := by
      by_contra hne
      exact hdecides ⟨hne, by rw [hop]; rfl⟩
    rw [moved_state, hsame]
  | probed hop hhalf hfree => exact Iff.rfl
  | timedOutProbed hop hdue hfree => exact iff_of_false nofun (by simp [hdue.state_eq])
  | @recovered errorRate success isPass hop hhalf hpass =>
    refine absurd ⟨?_, by rw [hop]; rfl⟩ hdecides
    rw [recovered_state, hhalf]
    cases isPass <;> simp

end Circuit

namespace Tripping

theorem Traced.accessed (h : w.Traced) {trip : Trip} (htrip : trip ∈ w.trip) :
    (w.circuit.refreshed op r).state = .closed ↔
      (trip.after (w.circuit.accessed op r)).replaced = true := by
  rw [refreshed_state]
  cases w.circuit.accessed op r with
  | none => exact h trip htrip
  | some row => simp [Trip.after]

theorem traced_step (h : w.Traced) (ht : w.step a = some w') : w'.Traced := by
  obtain rfl := Option.some.inj ht
  intro trip htrip
  simp only [next] at htrip
  split at htrip
  · rename_i hopen
    obtain rfl := Option.mem_some_iff.mp htrip
    exact iff_of_false (by simp [hopen.1]) nofun
  · rename_i hopen
    split at htrip
    · cases htrip
    · rename_i hdecides
      obtain ⟨trip₀, htrip₀, rfl⟩ := Option.mem_map.mp htrip
      have hclosed := effect_closed_iff (perform_effect a.1 a.2 w.circuit) hopen hdecides
      exact hclosed.trans (h.accessed (Option.filter_eq_some_iff.mp htrip₀).1)

theorem holds_iff_kept (h : w.Traced) : w.TripHolds a w' ↔ w.TripKept a w' := by
  refine forall₂_congr fun trip htrip => imp_congr_right fun _ => ?_
  rw [← Bool.not_eq_true, saysClosed_iff, h.accessed htrip]
  simp only [not_or, not_and, Bool.not_eq_true]

/-- A trip holds in a run, whatever writes fail, just in case no operation tells of a
row `CLOSED` that replaced it, and none is answered by a disabled breaker. -/
theorem trip_holds_iff (config : CircuitBreakerConfig) (interval : Float)
    (storage : Option CircuitBreakerStore) (r : Reading) (calls : List Call) :
    AllSteps step TripHolds ⟨build config interval storage r, none⟩ calls ↔
      AllSteps step TripKept ⟨build config interval storage r, none⟩ calls := by
  apply allSteps_iff_of_invariant (I := Traced)
  · exact fun _ _ _ h _ => holds_iff_kept h
  · exact fun _ _ _ h ht _ => traced_step h ht
  · exact fun _ htrip => nomatch htrip

/-- A whole cycle leaves a row `CLOSED`, and the write of the next trip fails. -/
def unwrittenTrip : List Call :=
  [(.transitionTo .open_ "manual" none, instant), (.transitionTo .halfOpen "manual" none, instant),
    (.recordRecoveryResult 0 (some true), instant), (.evaluate 1, ⟨0, 0, true, false, true⟩)]

/-- The first access after it lets events pass. -/
theorem unwritten_trip_is_lost :
    ¬AllSteps step TripHolds ⟨build .default 0.5 (some ⟨none, []⟩) instant, none⟩
      (unwrittenTrip ++ [(.canProcess, ⟨1, 0, true, true, true⟩)]) := by
  intro h
  obtain ⟨u, hu⟩ : ∃ u, exec step ⟨build .default 0.5 (some ⟨none, []⟩) instant, none⟩
      unwrittenTrip = some u := ⟨_, rfl⟩
  have hlaw := h.last hu rfl
  obtain rfl := Option.some.inj hu
  have hsays := hlaw ⟨0, false⟩ (by decide +kernel) (by decide +kernel)
  revert hsays
  decide +kernel

end Tripping

end

end IceStream
