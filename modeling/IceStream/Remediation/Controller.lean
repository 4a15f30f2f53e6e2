import IceStream.Remediation.SourceAdapter
import IceStream.Remediation.StateManager

/-!
# The remediation workflow

`executeRemediation` runs on the pipeline row, the incidents, the breaker, the
controller's active flag and whatever lies outside; the trace lists what it did
that others can see. Storage writes succeed. Alerts and Flink report failure in
what they return, so only the source, the validation and the sink raise.
-/

namespace IceStream.Remediation
open Python

variable {φ : Type}

inductive Action
  | entered (state : PipelineState)
  | flinkPaused
  | flinkResumed
  | fetched (events : List Dict)
  | revalidated (event : Dict) (passed : Bool)
  | recoveryRecorded (state : CircuitState)
  /-- The second look at a breaker that the recovery result did not close. -/
  | breakerRead (state : CircuitState)
  | sinkCalled (events : List Dict) (success : Bool)

structure RemediationAttempt where
  incidentId : IncidentId
  attemptNumber : ℕ
  stage : String
  status : String
  startedAt : Date
  completedAt : Date
  error : Option Text := none
  sourceReference : Option Text := none
  recoveredEventCount : ℕ := 0

structure IngestionResult where
  recordsWritten : ℕ
  success : Bool
  error : Option Text

structure World (φ : Type) where
  pipeline : Pipeline
  incidents : Incidents
  attempts : List RemediationAttempt
  circuit : Circuit
  active : Bool
  outside : φ
  trace : List Action

/-- The services the controller was built with. -/
structure Ports (φ : Type) where
  fetchForRecovery : RecoveryContext → Fallible φ (List Dict)
  sourceReference : Text
  reprocessor : Reprocessor φ
  writeEvents : List Dict → Fallible φ IngestionResult
  sendAlert : Incident → φ → Bool × φ
  pauseJob : φ → φ
  resumeJob : φ → φ

/-- `max_recovery_attempts` -/
inductive AttemptLimit
  | none
  | int (limit : ℤ)
  | float (limit : Float)

namespace AttemptLimit

/-- The limit is positive and below `attempt`. -/
def exceededBy (attempt : ℕ) : AttemptLimit → Bool
  | none => false
  | int limit => decide (0 < limit) && decide (limit < attempt)
  | float limit => decide (0 < limit) && !limit.isInf && decide (trunc limit < attempt)

def shown : AttemptLimit → Text
  | none => "None"
  | int limit => text (toString limit)
  | float limit => text (floatRepr limit)

end AttemptLimit

structure ControllerConfig where
  pipelineId : Text
  maxRecoveryAttempts : AttemptLimit

/-- Where a call reads the clock. -/
inductive Moment
  | started
  | incidentCreated
  | entered (state : PipelineState)
  | attemptRecorded (stage : String)
  | reingestStarted
  | resolved
  | completed

/-- Where a call accesses the breaker. -/
inductive BreakerAccess
  | incidentCreated
  | probe
  | probeTransition
  | recoveryResult
  | decision

/-- What one call reads from its surroundings. -/
structure Readings where
  time : Moment → Date
  breaker : BreakerAccess → Reading
  generatedId : IncidentId

structure RemediationResult where
  incidentId : IncidentId
  success : Bool
  stage : String
  attempt : ℕ
  recoveredEvents : ℕ := 0
  failedEvents : ℕ := 0
  error : Option Text := none
  startedAt : Date
  completedAt : Date

abbrev WorldM (φ : Type) := Fallible (World φ)

namespace World

def log (action : Action) : WorldM φ Unit :=
  Fallible.update fun w => { w with trace := w.trace ++ [action] }

def onOutside {α : Type} (x : Fallible φ α) : WorldM φ α := fun w =>
  ((x w.outside).1, { w with outside := (x w.outside).2 })

def onCircuit {α : Type} (x : Fallible Circuit α) : WorldM φ α := fun w =>
  ((x w.circuit).1, { w with circuit := (x w.circuit).2 })

/-- `circuit_breaker.state` -/
def circuitState (reading : Reading) : WorldM φ CircuitState := fun w =>
  let c := w.circuit.currentState reading
  (.ok c.state, { w with circuit := c })

/-- `state_manager.transition_to` -/
def enter (readings : Readings) (t : Transition) : WorldM φ Unit := fun w =>
  match w.pipeline.transitionTo (readings.time (.entered t.toState)) t with
  | .ok p => (.ok (), { w with pipeline := p, trace := w.trace ++ [.entered t.toState] })
  | .error e => (.error e, w)

/-- `storage.create_incident` -/
def saveIncident (incident : Incident) : WorldM φ Unit :=
  Fallible.update fun w => { w with incidents := w.incidents.createIncident incident }

/-- `storage.record_remediation_attempt` -/
def recordAttempt (row : RemediationAttempt) : WorldM φ Unit :=
  Fallible.update fun w => { w with attempts := w.attempts ++ [row] }

end World

open World

/-- The arguments of `get_or_create_incident` behind the id. -/
structure IncidentRequest where
  trigger : Text := "CRITICAL_ERROR_RATE"
  errorRate : Float := 0.05
  failedEventCount : ℕ := 1
  quarantineCount : ℕ := 1

/-- The incident `get_or_create_incident` creates. -/
def newIncident (cfg : ControllerConfig) (request : IncidentRequest) (id : IncidentId)
    (now : Date) (circuitState : CircuitState) : Incident where
  incidentId := id
  pipelineId := cfg.pipelineId
  pipelineName := "checkout-stream"
  createdAt := now
  detectedAt := now
  updatedAt := now
  trigger := request.trigger
  errorRate := request.errorRate
  threshold := 0.02
  circuitState := circuitState
  failedEventCount := request.failedEventCount
  failedRecords := request.failedEventCount
  totalRecords := 10000
  quarantineCount := request.quarantineCount
  status := .open_
  severity := severityOf request.errorRate
  message := none
  actionTaken := "Downstream pipeline paused."
  slackSent := false
  slackSentAt := none
  slackError := none
  recoveryAttempt := 0
  lastError := none
  resolvedAt := none

def createIncident (cfg : ControllerConfig) (readings : Readings) (request : IncidentRequest)
    (id : IncidentId) : WorldM φ Incident := do
  let state ← circuitState (readings.breaker .incidentCreated)
  let incident := newIncident cfg request id (readings.time .incidentCreated) state
  saveIncident incident
  Fallible.read fun w => (w.incidents.getIncident id).getD incident

def getOrCreateIncident (cfg : ControllerConfig) (readings : Readings)
    (request : IncidentRequest) (id : Option IncidentId) : WorldM φ Incident := do
  let incidents ← Fallible.read World.incidents
  let found := match id with
    | some id => incidents.getIncident id
    -- only a request without an id reuses the pipeline's active incident
    | none => incidents.findActiveIncident cfg.pipelineId
  match found with
  | some incident => pure incident
  | none => createIncident cfg readings request (id.getD readings.generatedId)

/-- `verify_quarantine` -/
def verifyQuarantine (incident : Incident) (ctx : Dict) : Bool :=
  if ctx.get? "quarantine_write_failed" matches some (.bool true) then false
  else !((ctx.get? "require_quarantine_check" matches some (.bool true)) &&
    incident.quarantineCount == 0)

section

variable (ports : Ports φ) (cfg : ControllerConfig) (readings : Readings)
  (incidentId : IncidentId)

/-- The transition of one stage of attempt `attempt`. -/
def stage (attempt : ℕ) (toState : PipelineState) (reason : Text) : Transition where
  toState := toState
  reason := some reason
  incidentId := some incidentId
  recoveryAttempt := attempt

/-- An attempt that ends without success. -/
def failure (stageName : String) (attempt : ℕ) (error : Text) : RemediationResult where
  incidentId := incidentId
  success := false
  stage := stageName
  attempt := attempt
  error := some error
  startedAt := readings.time .started
  completedAt := readings.time .completed

/-- `record_failure`, and the incident with the error. -/
def recordFailure (incident : Incident) (attempt : ℕ) (error : Text) : WorldM φ Unit := do
  enter readings (Pipeline.failure error (some incidentId) attempt)
  saveIncident { incident with status := .recoveryFailed, lastError := some error }

/-- The attempt is counted, the pipeline enters `REMEDIATING`, Flink is paused. -/
def beginAttempt (incident : Incident) (attempt : ℕ) : WorldM φ Unit := do
  saveIncident incident
  enter readings { stage incidentId attempt .remediating
    (text s!"Starting remediation attempt {attempt}") with force := true }
  onOutside fun w => (.ok (), ports.pauseJob w)
  log .flinkPaused

def sendAlert (incident : Incident) (attempt : ℕ) : WorldM φ Unit := do
  let success ← onOutside fun w => (.ok (ports.sendAlert incident w).1, (ports.sendAlert incident w).2)
  recordAttempt {
    incidentId := incidentId
    attemptNumber := attempt
    stage := "ALERT_SENT"
    status := if success then "SUCCESS" else "WARNING"
    startedAt := readings.time .started
    completedAt := readings.time (.attemptRecorded "ALERT_SENT") }

/-- The reprocessor runs outside; its verdicts become actions. -/
def revalidate (events : List Dict) (attempt : ℕ) : WorldM φ ReprocessResult := fun w =>
  let (out, outside, verdicts) :=
    ports.reprocessor.logged.process events incidentId attempt (w.outside, [])
  (out, { w with
    outside := outside
    trace := w.trace ++ verdicts.map fun v => .revalidated v.1 v.2 })

/-- `OPEN` becomes `HALF_OPEN`. -/
def probe : WorldM φ Unit := do
  let state ← circuitState (readings.breaker .probe)
  if state = .open_ then
    onCircuit fun c =>
      match c.transitionTo (readings.breaker .probeTransition) .halfOpen "remediation_probe" none
          .none with
      | .ok c => (.ok (), c)
      | .error e => (.error e, c)
  else pure ()

/-- The breaker is probed and told the outcome. -/
def recordRecoveryResult (errorRate : Float) : WorldM φ CircuitState := do
  probe readings
  let state ← onCircuit (Circuit.recordRecoveryResult (readings.breaker .recoveryResult) errorRate none)
  log (.recoveryRecorded state)
  pure state

/-- `is_fully_valid and (circuit_recovered or circuit_breaker.state == CLOSED)` -/
def mayReingest (result : ReprocessResult) (recorded : CircuitState) : WorldM φ Bool := do
  if !result.isFullyValid then pure false
  else if recorded = .closed then pure true
  else
    let state ← circuitState (readings.breaker .decision)
    log (.breakerRead state)
    pure (state == .closed)

/-- `write_events`; what it raises becomes an unsuccessful result. -/
def callSink (events : List Dict) : WorldM φ IngestionResult := do
  let result ← Fallible.attempt (onOutside (ports.writeEvents events))
  let result := match result with
    | .ok result => result
    | .error e => ⟨0, false, some e.message⟩
  log (.sinkCalled events result.success)
  pure result

def validationFailed (incident : Incident) (attempt : ℕ) (result : ReprocessResult) :
    WorldM φ RemediationResult := do
  let err := text s!"Validation or recovery threshold check failed (error_rate={fixed 4 result.errorRate})"
  recordFailure readings incidentId incident attempt err
  recordAttempt {
    incidentId := incidentId
    attemptNumber := attempt
    stage := "VALIDATING"
    status := "FAILED"
    startedAt := readings.time .started
    completedAt := readings.time (.attemptRecorded "VALIDATING")
    error := some err
    sourceReference := some ports.sourceReference
    recoveredEventCount := result.validCount }
  pure { failure readings incidentId "RECOVERY_FAILED" attempt err with
    recoveredEvents := result.validCount
    failedEvents := result.invalidCount }

def sinkFailed (incident : Incident) (attempt : ℕ) (result : ReprocessResult)
    (sink : IngestionResult) : WorldM φ RemediationResult := do
  let err := text "Lakehouse re-ingestion failed: " ++ sink.error.getD "None"
  recordFailure readings incidentId incident attempt err
  recordAttempt {
    incidentId := incidentId
    attemptNumber := attempt
    stage := "RE_INGESTING"
    status := "FAILED"
    startedAt := readings.time .reingestStarted
    completedAt := readings.time (.attemptRecorded "RE_INGESTING")
    error := some err
    sourceReference := some ports.sourceReference }
  pure { failure readings incidentId "RE_INGESTING" attempt err with
    failedEvents := result.totalProcessed }

/-- From the sink's success to the pipeline's `RUNNING` and the incident's `RECOVERED`. -/
def complete (incident : Incident) (attempt : ℕ) (result : ReprocessResult)
    (sink : IngestionResult) : WorldM φ RemediationResult := do
  recordAttempt {
    incidentId := incidentId
    attemptNumber := attempt
    stage := "RE_INGESTING"
    status := "SUCCESS"
    startedAt := readings.time .reingestStarted
    completedAt := readings.time (.attemptRecorded "RE_INGESTING")
    sourceReference := some ports.sourceReference
    recoveredEventCount := sink.recordsWritten }
  enter readings (stage incidentId attempt .resuming
    "Validation passed and data re-ingested. Preparing pipeline resume.")
  enter readings (stage incidentId attempt .running
    "Self-healing recovery completed successfully. Pipeline resumed.")
  onOutside fun w => (.ok (), ports.resumeJob w)
  log .flinkResumed
  saveIncident { incident with
    status := .recovered
    resolvedAt := some (readings.time .resolved) }
  recordAttempt {
    incidentId := incidentId
    attemptNumber := attempt
    stage := "COMPLETE"
    status := "SUCCESS"
    startedAt := readings.time .started
    completedAt := readings.time .resolved
    sourceReference := some ports.sourceReference
    recoveredEventCount := result.validCount }
  pure {
    incidentId := incidentId
    success := true
    stage := "COMPLETE"
    attempt := attempt
    recoveredEvents := result.validCount
    failedEvents := result.invalidCount
    startedAt := readings.time .started
    completedAt := readings.time .resolved }

/-- From the recovered payloads on. -/
def reprocessAndReingest (incident : Incident) (attempt : ℕ) (events : List Dict) :
    WorldM φ RemediationResult := do
  enter readings (stage incidentId attempt .reprocessing
    (text s!"Reprocessing {events.length} recovered events through QualityEngine"))
  let result ← revalidate ports incidentId events attempt
  enter readings (stage incidentId attempt .validating
    (text s!"Validating reprocessing outcome (error_rate={fixed 4 result.errorRate})"))
  let recorded ← recordRecoveryResult readings result.errorRate
  let proceed ← mayReingest readings result recorded
  if proceed then
    enter readings (stage incidentId attempt .reIngesting
      (text s!"Re-ingesting {result.validCount} validated events into Lakehouse"))
    let sink ← callSink ports result.validEvents
    if sink.success then complete ports readings incidentId incident attempt result sink
    else sinkFailed ports readings incidentId incident attempt result sink
  else validationFailed ports readings incidentId incident attempt result

/-- From `REMEDIATING` on, for the incident as it was saved there. -/
def recover (incident : Incident) (attempt : ℕ) (ctx : Dict) : WorldM φ RemediationResult := do
  if !verifyQuarantine incident ctx then
    let err := text "Quarantine verification failed. Invalid records not persisted."
    recordFailure readings incidentId incident attempt err
    recordAttempt {
      incidentId := incidentId
      attemptNumber := attempt
      stage := "QUARANTINE_VERIFIED"
      status := "FAILED"
      startedAt := readings.time .started
      completedAt := readings.time (.attemptRecorded "QUARANTINE_VERIFIED")
      error := some err }
    pure (failure readings incidentId "QUARANTINE_VERIFIED" attempt err)
  else
    sendAlert ports readings incidentId incident attempt
    enter readings (stage incidentId attempt .refetching
      (text "Re-fetching source data from " ++ ports.sourceReference))
    match ← Fallible.attempt (onOutside (ports.fetchForRecovery (.ofContext ctx incidentId))) with
    | .error e =>
      let err := text "Source re-fetch failed: " ++ e.message
      recordFailure readings incidentId incident attempt err
      pure (failure readings incidentId "REFETCHING" attempt err)
    | .ok events =>
      log (.fetched events)
      reprocessAndReingest ports readings incidentId incident attempt events

def maxAttemptsExceeded (attempt : ℕ) : WorldM φ RemediationResult := do
  enter readings (Pipeline.failure
    (text "Max recovery attempts (" ++ cfg.maxRecoveryAttempts.shown ++ text ") exceeded")
    (some incidentId) (attempt - 1))
  pure (failure readings incidentId "MAX_ATTEMPTS_EXCEEDED" (attempt - 1)
    "Maximum recovery attempts exceeded")

/-- The incident as attempt `attempt` saves it first. -/
def attempted (incident : Incident) : Incident :=
  { incident with
    recoveryAttempt := incident.recoveryAttempt + 1
    status := .remediating }

/-- What the `try` of `execute_remediation` guards. -/
def remediate (ctx : Dict) : WorldM φ RemediationResult := do
  let incident ← getOrCreateIncident cfg readings {} (some incidentId)
  let attempt := incident.recoveryAttempt + 1
  if cfg.maxRecoveryAttempts.exceededBy attempt then
    maxAttemptsExceeded cfg readings incidentId attempt
  else
    beginAttempt ports readings incidentId (attempted incident) attempt
    recover ports readings incidentId (attempted incident) attempt ctx

def executeRemediation (ctx : Dict) : WorldM φ RemediationResult := do
  if ← Fallible.read World.active then
    pure (failure readings incidentId "IDEMPOTENT_SKIPPED" 0
      "Remediation workflow already in progress for this pipeline")
  else
    Fallible.update fun w => { w with active := true }
    Fallible.ensuring (remediate ports cfg readings incidentId ctx)
      fun w => { w with active := false }

end
end IceStream.Remediation
