import IceStream.Metrics.ErrorRate
import IceStream.Quarantine.Router
import IceStream.Remediation.Controller

/-!
# The stream validator

One call decodes a payload, validates it, records its outcome, routes what is
invalid to the quarantine, and lets the breaker see the error rate. The breaker
is the one the remediation controller works on. Within a call the breaker is
read at one instant.
-/

namespace IceStream.Streaming
open Python Metrics Quarantine Remediation

variable {φ : Type}

inductive Payload
  | bytes (payload : Bytes)
  | str (payload : Text)
  | dict (payload : Dict)
  | event (payload : QualityEvent)
  /-- A value of another type, with its `str` and the name of its type. -/
  | other (shown : Text) (typeName : String)

structure ValidationOutcome where
  eventId : Json
  isValid : Bool
  summary : ValidationSummary
  quarantineResult : Option QuarantineRouteResult := none
  circuitState : CircuitState
  incidentId : Option IncidentId := none
  errorRate : Float

/-- A validator with a controller passes it what to open an incident with; one
with a state manager moves the pipeline to `CIRCUIT_OPEN`. -/
structure StreamQualityValidator (φ : Type) where
  unicode : Unicode
  nestingLimit : ℕ
  qualityEngine : QualityEngine φ
  router : QuarantineRouter
  table : TablePort QuarantineRecord
  controller : Option ControllerConfig
  hasStateManager : Bool
  autoQuarantine : Bool := true
  autoTripCircuit : Bool := true
  autoRemediate : Bool := true
  circuitWindowSeconds : ℤ := 60

/-- What one call reads from its surroundings. The router's clock answers with
the text of a date, which is ASCII. -/
structure StreamReadings where
  ingestionTime : Text
  timestamp : Date
  recording : MetricsReading
  calculating : MetricsReading
  detectedAt : Text
  breaker : Reading
  controlTime : Moment → Date
  generatedId : IncidentId
  detectedAt_encodable : Encodable detectedAt

/-- What the controller reads, the breaker at the instant of the call. -/
def StreamReadings.control (readings : StreamReadings) : Remediation.Readings :=
  ⟨readings.controlTime, fun _ => readings.breaker, readings.generatedId⟩

structure StreamWorld (φ : Type) where
  metrics : ErrorRateEngine
  quarantine : RouterWorld
  control : World φ
  /-- The incidents a remediation thread was started for. -/
  spawned : List IncidentId

abbrev StreamM (φ : Type) := Fallible (StreamWorld φ)

namespace StreamWorld

abbrev circuit (s : StreamWorld φ) : Circuit := s.control.circuit

def onMetrics {α : Type} (x : Fallible ErrorRateEngine α) : StreamM φ α := fun s =>
  ((x s.metrics).1, { s with metrics := (x s.metrics).2 })

def onQuarantine {α : Type} (x : RouterM α) : StreamM φ α := fun s =>
  ((x s.quarantine).1, { s with quarantine := (x s.quarantine).2 })

def onControl {α : Type} (x : WorldM φ α) : StreamM φ α := fun s =>
  ((x s.control).1, { s with control := (x s.control).2 })

/-- `circuit_breaker.evaluate` -/
def evaluate (reading : Reading) (errorRate : Float) : StreamM φ CircuitState :=
  onControl (World.onCircuit fun c => (.ok (c.evaluate reading errorRate).1,
    (c.evaluate reading errorRate).2))

def spawn (incidentId : IncidentId) : StreamM φ Unit :=
  Fallible.update fun s => { s with spawned := s.spawned ++ [incidentId] }

end StreamWorld

open StreamWorld

/-- The value of a payload, or its text and why it has none. -/
def decode (nestingLimit : ℕ) : Payload → Except (Text × Text) Json
  | .bytes payload =>
    match decodeUtf8 payload >>= loads nestingLimit with
    | .ok v => .ok v
    | .error e => .error (text (bytesStr payload), e.message)
  | .str payload =>
    match loads nestingLimit payload with
    | .ok v => .ok v
    | .error e => .error (payload, e.message)
  | .dict payload => .ok (.obj payload)
  | .event payload => .ok (.obj payload.toDict)
  | .other shown typeName => .error (shown, text s!"Unsupported payload type: {typeName}")

/-- What is routed for a payload without a value. -/
def malformedDict (payload : Text) : Dict :=
  [(text "event_id", .str "malformed_event"), (text "raw_payload", .str payload)]

def malformedSummary (errorMsg : Text) : ValidationSummary :=
  computeValidationSummary [{
    ruleName := "malformed_json"
    passed := false
    severity := .critical
    message := errorMsg
    field := some "payload" }] .null

section

variable (v : StreamQualityValidator φ) (readings : StreamReadings)

def route (d : Dict) (summary : ValidationSummary) : StreamM φ QuarantineRouteResult :=
  onQuarantine (v.router.routeInvalidEvent v.table {
    input := .payload d
    results := summary.results
    detectedAt := readings.detectedAt })

/-- Routing, where it is switched on. -/
def autoRoute (d : Dict) (summary : ValidationSummary) : StreamM φ (Option QuarantineRouteResult) :=
  if v.autoQuarantine then do
    let result ← route v readings d summary
    pure (some result)
  else pure none

def calculate : StreamM φ ErrorRateMetrics :=
  onMetrics (ErrorRateEngine.calculate readings.calculating v.circuitWindowSeconds none)

def record (isValid : Bool) : StreamM φ Unit :=
  Fallible.update fun s => { s with
    metrics := s.metrics.recordEventOutcome readings.recording isValid (some readings.timestamp) }

/-- `_handle_malformed_payload`; what routing raises is not caught here. -/
def handleMalformedPayload (payload errorMsg : Text) : StreamM φ ValidationOutcome := do
  let summary := malformedSummary errorMsg
  record readings false
  let quarantineResult ← autoRoute v readings (malformedDict payload) summary
  let currentMetrics ← calculate v readings
  let circuitState ← onControl (World.circuitState readings.breaker)
  pure {
    eventId := .null
    isValid := false
    summary := summary
    quarantineResult := quarantineResult
    circuitState := circuitState
    errorRate := currentMetrics.errorRate }

/-- An incident for the trip, and its remediation in the background. -/
def openIncident (metrics : ErrorRateMetrics) : StreamM φ (Option IncidentId) :=
  match v.controller with
  | none => pure none
  | some cfg => do
    let incident ← onControl (getOrCreateIncident cfg readings.control {
      trigger := "STREAM_QUALITY_DEGRADATION"
      errorRate := metrics.errorRate
      failedEventCount := metrics.failedEvents.toNat
      quarantineCount := metrics.failedEvents.toNat } none)
    if v.autoRemediate then spawn incident.incidentId
    pure (some incident.incidentId)

def circuitOpenTransition (metrics : ErrorRateMetrics) (incidentId : Option IncidentId) :
    Transition where
  toState := .circuitOpen
  reason := some (text
    s!"Streaming error rate {fixed 2 metrics.errorRatePercent}% exceeded threshold")
  incidentId := incidentId

/-- What follows a trip: the incident, and the pipeline in `CIRCUIT_OPEN`. -/
def tripped (metrics : ErrorRateMetrics) : StreamM φ (Option IncidentId) := do
  let opened ← Fallible.attempt (openIncident v readings metrics)
  let incidentId := opened.toOption.join
  if v.hasStateManager then
    let _ ← Fallible.attempt (onControl
      (World.enter readings.control (circuitOpenTransition metrics incidentId)))
    pure incidentId
  else pure incidentId

def evaluateCircuit (metrics : ErrorRateMetrics) : StreamM φ (Option IncidentId) := do
  let oldState ← onControl (World.circuitState readings.breaker)
  let newState ← evaluate readings.breaker metrics.errorRate
  let threshold ← Fallible.read fun s => s.circuit.config.errorThreshold
  if oldState = .halfOpen ∧ 10 ≤ metrics.totalEvents ∧ metrics.errorRate ≤ threshold then
    let _ ← Fallible.attempt (onControl (World.onCircuit
      (Circuit.recordRecoveryResult readings.breaker metrics.errorRate (some true))))
    pure none
  else if newState = .open_ ∧ oldState ≠ .open_ then tripped v readings metrics
  else pure none

def validExit (eventId : Json) (summary : ValidationSummary) : StreamM φ ValidationOutcome := do
  let circuitState ← onControl (World.circuitState readings.breaker)
  let currentMetrics ← calculate v readings
  pure {
    eventId := eventId
    isValid := true
    summary := summary
    circuitState := circuitState
    errorRate := currentMetrics.errorRate }

def invalidExit (d : Dict) (eventId : Json) (summary : ValidationSummary) :
    StreamM φ ValidationOutcome := do
  let routed ← Fallible.attempt (autoRoute v readings d summary)
  let currentMetrics ← calculate v readings
  let incidentId ← if v.autoTripCircuit then evaluateCircuit v readings currentMetrics
    else pure none
  let circuitState ← onControl (World.circuitState readings.breaker)
  pure {
    eventId := eventId
    isValid := false
    summary := summary
    quarantineResult := routed.toOption.join
    circuitState := circuitState
    incidentId := incidentId
    errorRate := currentMetrics.errorRate }

/-- The value `None` stays one, and the engine refuses it. -/
def rawValue : Option Dict → Json
  | none => .null
  | some d => .obj d

/-- Validation and what follows it, for an event with the given id. -/
def validateDict (raw : Option Dict) (eventId : Json) : StreamM φ ValidationOutcome := do
  let validated ← Fallible.attempt (onControl (World.onOutside
    (v.qualityEngine.validateWithSummary v.unicode (rawValue raw))))
  match validated with
  | .error e =>
    handleMalformedPayload v readings (text ((rawValue raw).dumps false))
      (text "QualityEngine evaluation failure: " ++ e.message)
  | .ok summary =>
    record readings summary.isValid
    if summary.isValid then validExit v readings eventId summary
    else invalidExit v readings (raw.getD []) eventId summary

/-- An event without an ingestion time gets one. -/
def withIngestionTime (d : Dict) : Dict :=
  if d.has (text "ingestion_time") then d
  else d.set (text "ingestion_time") (.str readings.ingestionTime)

def validateEvent (payload : Payload) : StreamM φ ValidationOutcome :=
  match decode v.nestingLimit payload with
  | .error (shown, errorMsg) => handleMalformedPayload v readings shown errorMsg
  | .ok .null => validateDict v readings none .null
  | .ok (.obj d) =>
    validateDict v readings (some (withIngestionTime readings d))
      (Dict.getD d (text "event_id") .null)
  | .ok value =>
    Fallible.raise (attributeError (text s!"'{value.typeName}' object has no attribute 'get'"))

/-! ## The consumer loop -/

/-- What a poll of the consumer returns. -/
inductive Poll
  | nothing
  | kafkaError (code : ℤ)
  | message (payload : Payload) (readings : StreamReadings)

/-- `quarantine_router.writer.flush()` -/
def flushQuarantine : StreamM φ Unit := do
  let _ ← onQuarantine (QuarantineRouter.flushWriter v.table)
  pure ()

/-- The loop with `processed` messages behind it, until the polls end with a
stop signal or the limit is reached. -/
def pollLoop (maxMessages : Option ℕ) : List Poll → ℕ → StreamM φ ℕ
  | [], processed => pure processed
  | poll :: polls, processed =>
    if maxMessages.any (· ≤ processed) then pure processed
    else match poll with
    | .nothing => pollLoop maxMessages polls processed
    | .kafkaError _ => pollLoop maxMessages polls processed
    | .message payload readings => do
      let _ ← validateEvent v readings payload
      if (processed + 1) % 50 = 0 then flushQuarantine v
      pollLoop maxMessages polls (processed + 1)

/-- `consume_stream` flushes whatever ends the loop. -/
def consumeStream (maxMessages : Option ℕ) (polls : List Poll) : StreamM φ ℕ :=
  Fallible.andFinally (pollLoop v maxMessages polls 0) (flushQuarantine v)

end

end IceStream.Streaming
