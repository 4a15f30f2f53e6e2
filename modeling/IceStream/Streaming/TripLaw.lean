import IceStream.Lib.Stepping
import IceStream.Quarantine.Routing
import IceStream.Streaming.Exits

/-!
# The trip law

A stream of calls, between which other threads and instances may move the
breaker and its row. After a call whose window is over the threshold the breaker
should not be `CLOSED`; the exits for valid and for malformed events do not tell
it the rate.
-/

namespace IceStream.Streaming
open Python Metrics Quarantine Remediation Stepping StreamWorld

variable {φ : Type}

inductive StreamAction
  | event (payload : Payload) (readings : StreamReadings)
  /-- What others leave of the breaker between two calls. -/
  | background (breaker : CircuitBreaker) (storage : Option CircuitBreakerStore)

section

variable (v : StreamQualityValidator φ)

def streamStep (s : StreamWorld φ) : StreamAction → Option (StreamWorld φ)
  | .event payload readings => some (validateEvent v readings payload s).2
  | .background breaker storage => some { s with
      control := { s.control with
        circuit := { s.circuit with
          breaker := breaker
          storage := storage } } }

/-- The call returned. -/
def Returned (payload : Payload) (readings : StreamReadings) (s : StreamWorld φ) : Prop :=
  ∃ outcome, (validateEvent v readings payload s).1 = .ok outcome

/-- The rate the engine gives for the circuit window when the call is over. -/
def circuitRate (readings : StreamReadings) (t : StreamWorld φ) : Float :=
  t.metrics.windowRate v.circuitWindowSeconds readings.calculating.now

def TripLaw (s : StreamWorld φ) (a : StreamAction) (t : StreamWorld φ) : Prop :=
  match a with
  | .event payload readings => Returned v payload readings s →
      t.circuit.config.errorThreshold < circuitRate v readings t → t.circuit.state ≠ .closed
  | .background _ _ => True

/-- A call that ends over the threshold finds the breaker not `CLOSED`, or takes
the exit that tells it the rate and is not undone by the row. -/
def Watched (s : StreamWorld φ) (a : StreamAction) (_ : StreamWorld φ) : Prop :=
  match a with
  | .event payload readings => match course v readings payload s with
    | .refused _ => True
    | .malformed shown errorMsg =>
      Routes v readings (malformedDict shown) (malformedSummary errorMsg) s.quarantine →
      s.circuit.config.errorThreshold < rateAfter v readings false s.metrics →
      (s.circuit.currentState readings.breaker).state ≠ .closed
    | .valid _ _ => s.circuit.config.errorThreshold < rateAfter v readings true s.metrics →
      (s.circuit.currentState readings.breaker).state ≠ .closed
    | .invalid _ _ _ => s.circuit.config.errorThreshold < rateAfter v readings false s.metrics →
      ∀ row, s.circuit.Rereads readings.breaker row → row.state ≠ .closed
  | .background _ _ => True

variable {v} {s t : StreamWorld φ} {payload : Payload} {readings : StreamReadings}

/-- At the end of a call the engine gives the rate with the outcome in it. -/
theorem circuitRate_of_metrics {isValid : Bool}
    (h : t.metrics = metricsAfter v readings isValid s.metrics) :
    circuitRate v readings t = rateAfter v readings isValid s.metrics := by
  rw [circuitRate, h, metricsAfter, ErrorRateEngine.windowRate_evicted]
  rfl

/-- Neither a trip nor a recovery changes the configuration. -/
theorem judged_config {c c' : Circuit} {m : ErrorRateMetrics} (h : Judged readings c c' m) :
    c'.config = c.config := by
  by_cases hrecovers : Recovers readings m c
  · rw [h.1 hrecovers, Circuit.recordRecoveryResult_config, evaluatedCircuit]
    simp
  · obtain heq | heq := h.2 hrecovers
    · rw [heq, evaluatedCircuit]
      simp
    · rw [heq, evaluatedCircuit]
      simp

/-- A call changes no threshold. -/
theorem validateEvent_config (htrip : v.autoTripCircuit = true) :
    (validateEvent v readings payload s).2.circuit.config = s.circuit.config := by
  obtain ⟨s', hbeside, hrun⟩ := validateEvent_follows v readings payload s
  rw [hrun, ← hbeside.circuit]
  cases course v readings payload s with
  | refused e => rfl
  | malformed shown errorMsg =>
    obtain ⟨-, outcome, t, hend, hended⟩ | ⟨-, e, t, hend, hsame⟩ :=
      handleMalformedPayload_ends v readings shown errorMsg s'
    · rw [follow, hend, hended.circuit, Circuit.currentState_config]
    · rw [follow, hend, hsame]
  | valid eventId summary =>
    obtain ⟨outcome, t, hend, hended⟩ := validExit_ends v readings eventId summary s'
    rw [hend, hended.circuit, Circuit.currentState_config]
  | invalid d eventId summary =>
    obtain ⟨outcome, t, c', hend, hjudged, hended⟩ :=
      invalidExit_ends v readings d eventId summary s'
    rw [hend, hended.circuit, Circuit.currentState_config, judged_config (hjudged htrip)]

/-- Over the threshold, the exit for invalid events leaves the breaker `CLOSED`
just when an access takes over the row `CLOSED` again. -/
theorem judged_closed_iff {c c' : Circuit} {m : ErrorRateMetrics}
    (henabled : c.config.enabled = true) (hrate : c.config.errorThreshold < m.errorRate)
    (h : Judged readings c c' m) :
    (c'.currentState readings.breaker).state = .closed ↔
      ∃ row, c.Rereads readings.breaker row ∧ row.state = .closed := by
  have hrecovers : ¬Recovers readings m c := fun hr => not_le_of_lt hrate hr.2.2
  have htripped := Circuit.tripped_closed_iff (r := readings.breaker) henabled hrate
  obtain heq | heq := h.2 hrecovers
  · rw [heq]
    exact htripped
  · have hsettled : ((evaluatedCircuit readings m.errorRate c).currentState
        readings.breaker).Settled readings.breaker := Circuit.settled_sync.checkTimeout
    rw [heq, hsettled.currentState.2]
    exact htripped

theorem tripLaw_iff_watched (htrip : v.autoTripCircuit = true)
    (henabled : s.circuit.config.enabled = true) (payload : Payload) (readings : StreamReadings) :
    TripLaw v s (.event payload readings) (validateEvent v readings payload s).2 ↔
      Watched v s (.event payload readings) (validateEvent v readings payload s).2 := by
  obtain ⟨s', hbeside, hrun⟩ := validateEvent_follows v readings payload s
  simp only [TripLaw, Watched, Returned, hrun]
  cases course v readings payload s with
  | refused e => simp [follow]
  | malformed shown errorMsg =>
    simp only [follow]
    obtain ⟨hroutes, outcome, t, hend, hended⟩ | ⟨hraises, e, t, hend, -⟩ :=
      handleMalformedPayload_ends v readings shown errorMsg s'
    · rw [hbeside.quarantine] at hroutes
      simp [hend, hroutes, circuitRate_of_metrics hended.metrics, hended.circuit, hbeside.metrics,
        hbeside.circuit]
    · rw [hbeside.quarantine] at hraises
      simp [hend, hraises]
  | valid eventId summary =>
    obtain ⟨outcome, t, hend, hended⟩ := validExit_ends v readings eventId summary s'
    simp [hend, circuitRate_of_metrics hended.metrics, hended.circuit, hbeside.metrics,
      hbeside.circuit]
  | invalid d eventId summary =>
    obtain ⟨outcome, t, c', hend, hjudged, hended⟩ :=
      invalidExit_ends v readings d eventId summary s'
    have hrate : circuitRate v readings t = (exitMetrics v readings s'.metrics).errorRate :=
      circuitRate_of_metrics hended.metrics
    have hafter : rateAfter v readings false s.metrics =
        (exitMetrics v readings s'.metrics).errorRate := by
      rw [hbeside.metrics]
      rfl
    replace hjudged := hjudged htrip
    rw [hbeside.circuit] at hjudged
    simp only [hend, Except.ok.injEq, exists_eq', forall_const, hrate, hafter, hended.circuit,
      Circuit.currentState_config, judged_config hjudged]
    refine imp_congr_right fun hover => ?_
    rw [ne_eq, judged_closed_iff henabled hover hjudged]
    exact not_exists.trans (forall_congr' fun row => not_and)

/-! ### Whole streams -/

end

/-! ### A single malformed event -/

/-- A table that takes every record. -/
def streamTable : TablePort QuarantineRecord where
  arrow _ := .ok ()
  attempt _ := true
  clock _ := 0

def exampleValidator : StreamQualityValidator Unit where
  unicode := .ascii
  nestingLimit := 1000
  qualityEngine := ⟨[eventIdNotNullRule .ascii .critical], fun _ _ => pure ()⟩
  router := exampleRouter
  table := streamTable
  controller := none
  hasStateManager := false

/-- One instant, at which everything answers. -/
def exampleReadings : StreamReadings where
  ingestionTime := "2026-01-01T00:00:00+00:00"
  timestamp := 0
  recording := ⟨0, true, fun _ => true⟩
  calculating := ⟨0, true, fun _ => true⟩
  detectedAt := "2026-01-01T00:00:00+00:00"
  breaker := ⟨0, 0, true, true, true⟩
  controlTime _ := 0
  generatedId := ⟨"inc_1", by decide +kernel⟩
  detectedAt_encodable := encodable_text "2026-01-01T00:00:00+00:00"

def exampleStream (circuit : Circuit) : StreamWorld Unit where
  metrics := .init fun _ => none
  quarantine := .init streamTable
  control := {
    pipeline := .init 0 .running
    incidents := []
    attempts := []
    circuit := circuit
    active := false
    outside := ()
    trace := [] }
  spawned := []

def closedCircuit : Circuit := .inMemory .default 0

end IceStream.Streaming
