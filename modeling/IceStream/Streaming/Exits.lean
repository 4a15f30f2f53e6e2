import IceStream.CircuitSync
import IceStream.Streaming.StreamValidator

/-!
# How a call of the validator ends

A call takes one of four courses, which the payload and the quality engine
decide. What the rest of the call leaves behind is described for each of them.
-/

namespace IceStream.Streaming
open Python Metrics Quarantine Remediation StreamWorld

variable {φ : Type}

inductive Course
  | refused (e : Exc)
  | malformed (payload errorMsg : Text)
  | valid (eventId : Json) (summary : ValidationSummary)
  | invalid (d : Dict) (eventId : Json) (summary : ValidationSummary)

def Course.isInvalid : Course → Bool
  | .invalid _ _ _ => true
  | _ => false

section

variable (v : StreamQualityValidator φ) (readings : StreamReadings)

def engineCourse (raw : Option Dict) (eventId : Json) (s : StreamWorld φ) : Course :=
  match (v.qualityEngine.validateWithSummary v.unicode (rawValue raw) s.control.outside).1 with
  | .error e => .malformed (text ((rawValue raw).dumps false))
    (text "QualityEngine evaluation failure: " ++ e.message)
  | .ok summary =>
    if summary.isValid then .valid eventId summary else .invalid (raw.getD []) eventId summary

def course (payload : Payload) (s : StreamWorld φ) : Course :=
  match decode v.nestingLimit payload with
  | .error (shown, errorMsg) => .malformed shown errorMsg
  | .ok .null => engineCourse v none .null s
  | .ok (.obj d) =>
    engineCourse v (some (withIngestionTime readings d)) (Dict.getD d (text "event_id") .null) s
  | .ok value =>
    .refused (attributeError (text s!"'{value.typeName}' object has no attribute 'get'"))

/-- The rest of the call, with the engine behind it. -/
def follow : Course → StreamM φ ValidationOutcome
  | .refused e => Fallible.raise e
  | .malformed payload errorMsg => handleMalformedPayload v readings payload errorMsg
  | .valid eventId summary => do
    record readings true
    validExit v readings eventId summary
  | .invalid d eventId summary => do
    record readings false
    invalidExit v readings d eventId summary

/-- The engine only works outside. -/
structure Beside (s s' : StreamWorld φ) : Prop where
  metrics : s'.metrics = s.metrics
  quarantine : s'.quarantine = s.quarantine
  circuit : s'.circuit = s.circuit

theorem validateDict_follows (raw : Option Dict) (eventId : Json) (s : StreamWorld φ) :
    ∃ s', Beside s s' ∧
      validateDict v readings raw eventId s =
        follow v readings (engineCourse v raw eventId s) s' := by
  let x := v.qualityEngine.validateWithSummary v.unicode (rawValue raw)
  refine ⟨{ s with control := { s.control with outside := (x s.control.outside).2 } },
    ⟨rfl, rfl, rfl⟩, ?_⟩
  have hrun : validateDict v readings raw eventId s =
      (match (x s.control.outside).1 with
      | .error e =>
        handleMalformedPayload v readings (text ((rawValue raw).dumps false))
          (text "QualityEngine evaluation failure: " ++ e.message)
      | .ok summary => (do
        record readings summary.isValid
        if summary.isValid then validExit v readings eventId summary
        else invalidExit v readings (raw.getD []) eventId summary))
      { s with control := { s.control with outside := (x s.control.outside).2 } } := rfl
  rw [hrun, engineCourse]
  cases hresult : (x s.control.outside).1 with
  | error e => rfl
  | ok summary =>
    cases hvalid : summary.isValid with
    | true => simp only [hvalid, ↓reduceIte, follow]
    | false => simp only [hvalid, Bool.false_eq_true, ↓reduceIte, follow]

theorem validateEvent_follows (payload : Payload) (s : StreamWorld φ) :
    ∃ s', Beside s s' ∧
      validateEvent v readings payload s = follow v readings (course v readings payload s) s' := by
  unfold validateEvent course
  cases hdecode : decode v.nestingLimit payload with
  | error e => exact ⟨s, ⟨rfl, rfl, rfl⟩, rfl⟩
  | ok value =>
    cases value with
    | null => exact validateDict_follows v readings none .null s
    | obj d => exact validateDict_follows v readings _ _ s
    | _ => exact ⟨s, ⟨rfl, rfl, rfl⟩, rfl⟩

/-! ## What each course leaves behind -/

def recordedMetrics (isValid : Bool) (e : ErrorRateEngine) : ErrorRateEngine :=
  e.recordEventOutcome readings.recording isValid (some readings.timestamp)

/-- The engine after the outcome is recorded and the rate is calculated. -/
def metricsAfter (isValid : Bool) (e : ErrorRateEngine) : ErrorRateEngine :=
  (recordedMetrics readings isValid e).evicted v.circuitWindowSeconds readings.calculating.now

/-- The rate of the circuit window with the outcome in it. -/
def rateAfter (isValid : Bool) (e : ErrorRateEngine) : Float :=
  (recordedMetrics readings isValid e).windowRate v.circuitWindowSeconds readings.calculating.now

theorem calculate_ok {s : StreamWorld φ} (h : s.metrics.localEventsRecorded ≠ 0) :
    calculate v readings s =
      (.ok (s.metrics.localMetrics v.circuitWindowSeconds readings.calculating.now),
        { s with metrics := s.metrics.evicted v.circuitWindowSeconds readings.calculating.now }) := by
  simp only [calculate, onMetrics, s.metrics.calculate_of_recorded readings.calculating none h,
    Option.getD_none]

theorem recordedMetrics_local (isValid : Bool) (e : ErrorRateEngine) :
    (recordedMetrics readings isValid e).localEventsRecorded ≠ 0 := by
  simp [recordedMetrics]

/-- A call that returns, with what it did to the engine and the breaker. -/
structure Ended (valid : Bool) (s : StreamWorld φ) (circuit : Circuit)
    (outcome : ValidationOutcome) (t : StreamWorld φ) : Prop where
  isValid : outcome.isValid = valid
  metrics : t.metrics = metricsAfter v readings valid s.metrics
  circuit : t.circuit = circuit

def routeCall (d : Dict) (summary : ValidationSummary) : RouteCall where
  input := .payload d
  results := summary.results
  detectedAt := readings.detectedAt

/-- The quarantine takes a payload without raising. -/
def Routes (d : Dict) (summary : ValidationSummary) (q : RouterWorld) : Prop :=
  v.autoQuarantine = true → ∃ result q',
    v.router.routeInvalidEvent v.table (routeCall readings d summary) q = (.ok result, q')

/-- Only what is not the payload's goes into the seed of a malformed one. -/
theorem routes_malformed (harrow : ∀ records, v.table.arrow records = .ok ())
    (hversion : Encodable v.router.pipelineVersion) (shown errorMsg : Text) (q : RouterWorld) :
    Routes v readings (malformedDict shown) (malformedSummary errorMsg) q := by
  intro _
  apply route_total _ _ harrow
  have hseed : v.router.dedupSeed
      (routeCall readings (malformedDict shown) (malformedSummary errorMsg)) =
      text "malformed_event" ++ text ":" ++ v.router.pipelineVersion ++ text ":" ++
        text "malformed_json" ++ text ":" ++ readings.detectedAt := rfl
  rw [hseed]
  simp only [encodable_append]
  exact ⟨⟨⟨⟨⟨⟨encodable_text _, encodable_text _⟩, hversion⟩, encodable_text _⟩,
    encodable_text _⟩, encodable_text _⟩, readings.detectedAt_encodable⟩

/-- Routing only changes the quarantine. -/
theorem autoRoute_cases (d : Dict) (summary : ValidationSummary) (s : StreamWorld φ) :
    (Routes v readings d summary s.quarantine ∧ ∃ result q,
      autoRoute v readings d summary s = (.ok result, { s with quarantine := q })) ∨
    (¬Routes v readings d summary s.quarantine ∧ ∃ e q,
      autoRoute v readings d summary s = (.error e, { s with quarantine := q })) := by
  cases hauto : v.autoQuarantine with
  | false =>
    left
    refine ⟨fun h => absurd (hauto.symm.trans h) (by decide), none, s.quarantine, ?_⟩
    simp only [autoRoute, hauto, Bool.false_eq_true, ↓reduceIte, Fallible.pure_apply]
  | true =>
    simp only [autoRoute, hauto, ↓reduceIte, Routes, forall_const]
    rcases hroute : v.router.routeInvalidEvent v.table (routeCall readings d summary) s.quarantine
      with ⟨e | result, q⟩
    · right
      have hraise : route v readings d summary s = (.error e, { s with quarantine := q }) := by
        simp only [route, onQuarantine, ← routeCall.eq_def, hroute]
      refine ⟨?_, e, q, Fallible.bind_error hraise⟩
      rintro ⟨result, q', h⟩
      cases h
    · left
      have hok : route v readings d summary s = (.ok result, { s with quarantine := q }) := by
        simp only [route, onQuarantine, ← routeCall.eq_def, hroute]
      refine ⟨⟨result, q, rfl⟩, some result, q, ?_⟩
      rw [Fallible.bind_ok hok]
      rfl

theorem handleMalformedPayload_ends (payload errorMsg : Text) (s : StreamWorld φ) :
    (Routes v readings (malformedDict payload) (malformedSummary errorMsg) s.quarantine ∧
      ∃ outcome t, handleMalformedPayload v readings payload errorMsg s = (.ok outcome, t) ∧
        Ended v readings false s (s.circuit.currentState readings.breaker) outcome t) ∨
    (¬Routes v readings (malformedDict payload) (malformedSummary errorMsg) s.quarantine ∧
      ∃ e t, handleMalformedPayload v readings payload errorMsg s = (.error e, t) ∧
        t.circuit = s.circuit) := by
  let s₁ : StreamWorld φ := { s with metrics := recordedMetrics readings false s.metrics }
  have hrun : handleMalformedPayload v readings payload errorMsg s =
      (autoRoute v readings (malformedDict payload) (malformedSummary errorMsg) >>=
        fun quarantineResult => do
          let currentMetrics ← calculate v readings
          let circuitState ← onControl (World.circuitState readings.breaker)
          pure {
            eventId := .null
            isValid := false
            summary := malformedSummary errorMsg
            quarantineResult := quarantineResult
            circuitState := circuitState
            errorRate := currentMetrics.errorRate }) s₁ := rfl
  obtain ⟨hroutes, result, q, hroute⟩ | ⟨hraises, e, q, hroute⟩ :=
    autoRoute_cases v readings (malformedDict payload) (malformedSummary errorMsg) s₁
  · left
    have hlocal : ({ s₁ with quarantine := q } : StreamWorld φ).metrics.localEventsRecorded ≠ 0 :=
      recordedMetrics_local readings false s.metrics
    refine ⟨hroutes, ?_⟩
    rw [hrun, Fallible.bind_ok hroute, Fallible.bind_ok (calculate_ok v readings hlocal)]
    exact ⟨_, _, rfl, rfl, rfl, rfl⟩
  · right
    refine ⟨hraises, e, { s₁ with quarantine := q }, ?_, rfl⟩
    rw [hrun]
    exact Fallible.bind_error hroute

theorem validExit_ends (eventId : Json) (summary : ValidationSummary) (s : StreamWorld φ) :
    ∃ outcome t, follow v readings (.valid eventId summary) s = (.ok outcome, t) ∧
      Ended v readings true s (s.circuit.currentState readings.breaker) outcome t := by
  let s₁ : StreamWorld φ := { s with
    metrics := recordedMetrics readings true s.metrics
    control := { s.control with circuit := s.circuit.currentState readings.breaker } }
  have hlocal : s₁.metrics.localEventsRecorded ≠ 0 := recordedMetrics_local readings true s.metrics
  have hrun : follow v readings (.valid eventId summary) s =
      (calculate v readings >>= fun currentMetrics => pure {
        eventId := eventId
        isValid := true
        summary := summary
        circuitState := s₁.circuit.state
        errorRate := currentMetrics.errorRate }) s₁ := rfl
  rw [hrun, Fallible.bind_ok (calculate_ok v readings hlocal)]
  exact ⟨_, _, rfl, rfl, rfl, rfl⟩

/-! ## The exit for invalid events -/

/-- What follows a trip at most reads the breaker. -/
structure Seen (s t : StreamWorld φ) : Prop where
  metrics : t.metrics = s.metrics
  circuit : t.circuit = s.circuit ∨ t.circuit = s.circuit.currentState readings.breaker

theorem openIncident_seen (m : ErrorRateMetrics) (s : StreamWorld φ) :
    Seen readings s (openIncident v readings m s).2 := by
  unfold openIncident
  cases v.controller with
  | none => exact ⟨rfl, .inl rfl⟩
  | some cfg =>
    simp only
    set request : IncidentRequest := {
      trigger := "STREAM_QUALITY_DEGRADATION"
      errorRate := m.errorRate
      failedEventCount := m.failedEvents.toNat
      quarantineCount := m.failedEvents.toNat } with hrequest
    cases hfound : s.control.incidents.findActiveIncident cfg.pipelineId with
    | some incident =>
      -- an incident that is open already is joined without a look at the breaker
      have hget : onControl (getOrCreateIncident cfg readings.control request none) s =
          (.ok incident, s) := by
        simp only [onControl, getOrCreateIncident, Fallible.read_bind, hfound, Fallible.pure_apply]
      rw [Fallible.bind_ok hget]
      cases v.autoRemediate <;> exact ⟨rfl, .inl rfl⟩
    | none =>
      have hget : ∃ incident control, onControl
          (getOrCreateIncident cfg readings.control request none) s =
            (.ok incident, { s with control := control }) ∧
          control.circuit = s.circuit.currentState readings.breaker := by
        simp only [onControl, getOrCreateIncident, Fallible.read_bind, hfound]
        exact ⟨_, _, rfl, rfl⟩
      obtain ⟨incident, control, hget, hcircuit⟩ := hget
      rw [Fallible.bind_ok hget]
      cases v.autoRemediate <;> exact ⟨rfl, .inr hcircuit⟩

theorem enter_circuit (t : Transition) (w : World φ) :
    (World.enter readings.control t w).2.circuit = w.circuit := by
  unfold World.enter
  split <;> rfl

theorem tripped_seen (m : ErrorRateMetrics) (s : StreamWorld φ) :
    ∃ incidentId t, tripped v readings m s = (.ok incidentId, t) ∧ Seen readings s t := by
  have hopened := openIncident_seen v readings m s
  simp only [tripped, Fallible.attempt_bind]
  cases v.hasStateManager with
  | false => exact ⟨_, _, rfl, hopened⟩
  | true =>
    refine ⟨_, _, rfl, hopened.metrics, ?_⟩
    have hcircuit := enter_circuit readings (circuitOpenTransition m
      (openIncident v readings m s).1.toOption.join) (openIncident v readings m s).2.control
    obtain hsame | hread := hopened.circuit
    · exact .inl (hcircuit.trans hsame)
    · exact .inr (hcircuit.trans hread)

/-- The half-open breaker is told of its recovery. -/
def Recovers (m : ErrorRateMetrics) (c : Circuit) : Prop :=
  (c.currentState readings.breaker).state = .halfOpen ∧ 10 ≤ m.totalEvents ∧
    m.errorRate ≤ c.config.errorThreshold

/-- The breaker once it is told the rate. -/
def evaluatedCircuit (rate : Float) (c : Circuit) : Circuit :=
  ((c.currentState readings.breaker).evaluate readings.breaker rate).2

theorem evaluateCircuit_ends (m : ErrorRateMetrics) (s : StreamWorld φ) :
    ∃ incidentId t, evaluateCircuit v readings m s = (.ok incidentId, t) ∧
      t.metrics = s.metrics ∧
      (Recovers readings m s.circuit → t.circuit = (Circuit.recordRecoveryResult readings.breaker
        m.errorRate (some true) (evaluatedCircuit readings m.errorRate s.circuit)).2) ∧
      (¬Recovers readings m s.circuit →
        t.circuit = evaluatedCircuit readings m.errorRate s.circuit ∨
        t.circuit =
          (evaluatedCircuit readings m.errorRate s.circuit).currentState readings.breaker) := by
  let s₁ : StreamWorld φ := { s with
    control := { s.control with circuit := evaluatedCircuit readings m.errorRate s.circuit } }
  -- the two branches behind the evaluation, by name
  let recovery : StreamM φ (Option IncidentId) := do
    let _ ← Fallible.attempt (onControl (World.onCircuit
      (Circuit.recordRecoveryResult readings.breaker m.errorRate (some true))))
    pure none
  let trip : StreamM φ (Option IncidentId) :=
    if ((s.circuit.currentState readings.breaker).evaluate readings.breaker
        m.errorRate).1 = .open_ ∧
        (s.circuit.currentState readings.breaker).state ≠ .open_ then tripped v readings m
    else pure none
  let next : StreamM φ (Option IncidentId) :=
    if (s.circuit.currentState readings.breaker).state = .halfOpen ∧ 10 ≤ m.totalEvents ∧
        m.errorRate ≤ s₁.circuit.config.errorThreshold then recovery else trip
  have hrun : evaluateCircuit v readings m s = next s₁ := rfl
  have hconfig : s₁.circuit.config = s.circuit.config := by
    simp only [s₁, circuit, evaluatedCircuit, Circuit.evaluate_config, Circuit.currentState_config]
  by_cases hrecovers : Recovers readings m s.circuit
  · have hnext : next = recovery := if_pos (by rw [hconfig]; exact hrecovers)
    rw [hrun, hnext]
    exact ⟨none, _, rfl, rfl, fun _ => rfl, fun h => absurd hrecovers h⟩
  · have hnext : next = trip := if_neg (by rw [hconfig]; exact hrecovers)
    rw [hrun, hnext]
    by_cases htrip : ((s.circuit.currentState readings.breaker).evaluate readings.breaker
        m.errorRate).1 = .open_ ∧ (s.circuit.currentState readings.breaker).state ≠ .open_
    · obtain ⟨incidentId, t, htripped, hseen⟩ := tripped_seen v readings m s₁
      have heq : trip = tripped v readings m := if_pos htrip
      rw [heq]
      exact ⟨incidentId, t, htripped, hseen.metrics, fun h => absurd h hrecovers,
        fun _ => hseen.circuit⟩
    · have heq : trip = pure none := if_neg htrip
      rw [heq]
      exact ⟨none, s₁, rfl, rfl, fun h => absurd h hrecovers, fun _ => .inl rfl⟩

/-- The metrics that the exit for invalid events works with. -/
def exitMetrics (e : ErrorRateEngine) : ErrorRateMetrics :=
  (recordedMetrics readings false e).localMetrics v.circuitWindowSeconds readings.calculating.now

/-- Where a trip or the recovery may have left the breaker when it is read last. -/
def Judged (c c' : Circuit) (m : ErrorRateMetrics) : Prop :=
  (Recovers readings m c → c' = (Circuit.recordRecoveryResult readings.breaker m.errorRate
    (some true) (evaluatedCircuit readings m.errorRate c)).2) ∧
  (¬Recovers readings m c → c' = evaluatedCircuit readings m.errorRate c ∨
    c' = (evaluatedCircuit readings m.errorRate c).currentState readings.breaker)

theorem invalidExit_ends (d : Dict) (eventId : Json) (summary : ValidationSummary)
    (s : StreamWorld φ) :
    ∃ outcome t c', follow v readings (.invalid d eventId summary) s = (.ok outcome, t) ∧
      (v.autoTripCircuit = true → Judged readings s.circuit c' (exitMetrics v readings s.metrics)) ∧
      Ended v readings false s (c'.currentState readings.breaker) outcome t := by
  let s₁ : StreamWorld φ := { s with metrics := recordedMetrics readings false s.metrics }
  obtain ⟨routed, q, hroute⟩ : ∃ routed q, Fallible.attempt (autoRoute v readings d summary) s₁ =
      (.ok routed, { s₁ with quarantine := q }) := by
    obtain ⟨-, result, q, hroute⟩ | ⟨-, e, q, hroute⟩ := autoRoute_cases v readings d summary s₁
    · exact ⟨.ok result, q, by rw [Fallible.attempt_apply, hroute]⟩
    · exact ⟨.error e, q, by rw [Fallible.attempt_apply, hroute]⟩
  let s₂ : StreamWorld φ := { s₁ with quarantine := q }
  let s₃ : StreamWorld φ := { s₂ with metrics := metricsAfter v readings false s.metrics }
  have hcalculate : calculate v readings s₂ = (.ok (exitMetrics v readings s.metrics), s₃) :=
    calculate_ok v readings (recordedMetrics_local readings false s.metrics)
  let finish (routed : Except Exc (Option QuarantineRouteResult)) (m : ErrorRateMetrics)
      (incidentId : Option IncidentId) : StreamM φ ValidationOutcome := do
    let circuitState ← onControl (World.circuitState readings.breaker)
    pure {
      eventId := eventId
      isValid := false
      summary := summary
      quarantineResult := routed.toOption.join
      circuitState := circuitState
      incidentId := incidentId
      errorRate := m.errorRate }
  have hexit : follow v readings (.invalid d eventId summary) s =
      (Fallible.attempt (autoRoute v readings d summary) >>= fun routed =>
        calculate v readings >>= fun m =>
          (if v.autoTripCircuit then evaluateCircuit v readings m else pure none) >>=
            finish routed m) s₁ := by
    cases htrip : v.autoTripCircuit with
    | true => simp only [follow, invalidExit, htrip, ↓reduceIte]; rfl
    | false => simp only [follow, invalidExit, htrip, Bool.false_eq_true, ↓reduceIte]; rfl
  rw [hexit, Fallible.bind_ok hroute, Fallible.bind_ok hcalculate]
  cases htrip : v.autoTripCircuit with
  | true =>
    obtain ⟨incidentId, t, hevaluate, hmetrics, hrecovers, hstays⟩ :=
      evaluateCircuit_ends v readings (exitMetrics v readings s.metrics) s₃
    rw [if_pos rfl, Fallible.bind_ok hevaluate]
    exact ⟨_, _, t.circuit, rfl, fun _ => ⟨hrecovers, hstays⟩, rfl, hmetrics, rfl⟩
  | false =>
    rw [if_neg (by decide)]
    exact ⟨_, _, s.circuit, rfl, fun h => absurd h (by decide), rfl, rfl, rfl⟩

end

end IceStream.Streaming
