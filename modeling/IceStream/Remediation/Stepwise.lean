import IceStream.Lib.Resumption
import IceStream.Remediation.Controller

/-!
# The remediation workflow in steps

`execute_remediation` once more, with its pipeline transitions as calls that
another thread can come between. Everything else it does is out of that
thread's sight. Run alone, it is the workflow as before.
-/

namespace IceStream.Remediation
open Python

variable {φ : Type}

structure TransitionCall where
  now : Date
  transition : Transition

abbrev Program (φ α : Type) := Resumption (World φ) TransitionCall α

/-- A transition that nobody comes between. -/
def World.transition (c : TransitionCall) : WorldM φ Unit := fun w =>
  match w.pipeline.transitionTo c.now c.transition with
  | .ok p => (.ok (), { w with pipeline := p })
  | .error e => (.error e, w)

namespace Stepwise
open World Resumption

section

variable (ports : Ports φ) (cfg : ControllerConfig) (readings : Readings)
  (incidentId : IncidentId)

def enter (t : Transition) : Program φ Unit := do
  request ⟨readings.time (.entered t.toState), t⟩
  lift (log (.entered t.toState))

def recordFailure (incident : Incident) (attempt : ℕ) (error : Text) : Program φ Unit := do
  enter readings (Pipeline.failure error (some incidentId) attempt)
  lift (saveIncident { incident with status := .recoveryFailed, lastError := some error })

def beginAttempt (incident : Incident) (attempt : ℕ) : Program φ Unit := do
  lift (saveIncident incident)
  enter readings { stage incidentId attempt .remediating
    (text s!"Starting remediation attempt {attempt}") with force := true }
  lift (onOutside fun w => (.ok (), ports.pauseJob w))
  lift (log .flinkPaused)

def validationFailed (incident : Incident) (attempt : ℕ) (result : ReprocessResult) :
    Program φ RemediationResult := do
  let err := text s!"Validation or recovery threshold check failed (error_rate={fixed 4 result.errorRate})"
  recordFailure readings incidentId incident attempt err
  lift (recordAttempt {
    incidentId := incidentId
    attemptNumber := attempt
    stage := "VALIDATING"
    status := "FAILED"
    startedAt := readings.time .started
    completedAt := readings.time (.attemptRecorded "VALIDATING")
    error := some err
    sourceReference := some ports.sourceReference
    recoveredEventCount := result.validCount })
  pure { failure readings incidentId "RECOVERY_FAILED" attempt err with
    recoveredEvents := result.validCount
    failedEvents := result.invalidCount }

def sinkFailed (incident : Incident) (attempt : ℕ) (result : ReprocessResult)
    (sink : IngestionResult) : Program φ RemediationResult := do
  let err := text "Lakehouse re-ingestion failed: " ++ sink.error.getD "None"
  recordFailure readings incidentId incident attempt err
  lift (recordAttempt {
    incidentId := incidentId
    attemptNumber := attempt
    stage := "RE_INGESTING"
    status := "FAILED"
    startedAt := readings.time .reingestStarted
    completedAt := readings.time (.attemptRecorded "RE_INGESTING")
    error := some err
    sourceReference := some ports.sourceReference })
  pure { failure readings incidentId "RE_INGESTING" attempt err with
    failedEvents := result.totalProcessed }

def complete (incident : Incident) (attempt : ℕ) (result : ReprocessResult)
    (sink : IngestionResult) : Program φ RemediationResult := do
  lift (recordAttempt {
    incidentId := incidentId
    attemptNumber := attempt
    stage := "RE_INGESTING"
    status := "SUCCESS"
    startedAt := readings.time .reingestStarted
    completedAt := readings.time (.attemptRecorded "RE_INGESTING")
    sourceReference := some ports.sourceReference
    recoveredEventCount := sink.recordsWritten })
  enter readings (stage incidentId attempt .resuming
    "Validation passed and data re-ingested. Preparing pipeline resume.")
  enter readings (stage incidentId attempt .running
    "Self-healing recovery completed successfully. Pipeline resumed.")
  lift (onOutside fun w => (.ok (), ports.resumeJob w))
  lift (log .flinkResumed)
  lift (saveIncident { incident with
    status := .recovered
    resolvedAt := some (readings.time .resolved) })
  lift (recordAttempt {
    incidentId := incidentId
    attemptNumber := attempt
    stage := "COMPLETE"
    status := "SUCCESS"
    startedAt := readings.time .started
    completedAt := readings.time .resolved
    sourceReference := some ports.sourceReference
    recoveredEventCount := result.validCount })
  pure {
    incidentId := incidentId
    success := true
    stage := "COMPLETE"
    attempt := attempt
    recoveredEvents := result.validCount
    failedEvents := result.invalidCount
    startedAt := readings.time .started
    completedAt := readings.time .resolved }

def reprocessAndReingest (incident : Incident) (attempt : ℕ) (events : List Dict) :
    Program φ RemediationResult := do
  enter readings (stage incidentId attempt .reprocessing
    (text s!"Reprocessing {events.length} recovered events through QualityEngine"))
  let result ← lift (revalidate ports incidentId events attempt)
  enter readings (stage incidentId attempt .validating
    (text s!"Validating reprocessing outcome (error_rate={fixed 4 result.errorRate})"))
  let recorded ← lift (recordRecoveryResult readings result.errorRate)
  let proceed ← lift (mayReingest readings result recorded)
  if proceed then
    enter readings (stage incidentId attempt .reIngesting
      (text s!"Re-ingesting {result.validCount} validated events into Lakehouse"))
    let sink ← lift (callSink ports result.validEvents)
    if sink.success then complete ports readings incidentId incident attempt result sink
    else sinkFailed ports readings incidentId incident attempt result sink
  else validationFailed ports readings incidentId incident attempt result

def recover (incident : Incident) (attempt : ℕ) (ctx : Dict) : Program φ RemediationResult := do
  if !verifyQuarantine incident ctx then
    let err := text "Quarantine verification failed. Invalid records not persisted."
    recordFailure readings incidentId incident attempt err
    lift (recordAttempt {
      incidentId := incidentId
      attemptNumber := attempt
      stage := "QUARANTINE_VERIFIED"
      status := "FAILED"
      startedAt := readings.time .started
      completedAt := readings.time (.attemptRecorded "QUARANTINE_VERIFIED")
      error := some err })
    pure (failure readings incidentId "QUARANTINE_VERIFIED" attempt err)
  else
    lift (sendAlert ports readings incidentId incident attempt)
    enter readings (stage incidentId attempt .refetching
      (text "Re-fetching source data from " ++ ports.sourceReference))
    match ← lift (Fallible.attempt (onOutside (ports.fetchForRecovery (.ofContext ctx incidentId)))) with
    | .error e =>
      let err := text "Source re-fetch failed: " ++ e.message
      recordFailure readings incidentId incident attempt err
      pure (failure readings incidentId "REFETCHING" attempt err)
    | .ok events =>
      lift (log (.fetched events))
      reprocessAndReingest ports readings incidentId incident attempt events

def maxAttemptsExceeded (attempt : ℕ) : Program φ RemediationResult := do
  enter readings (Pipeline.failure
    (text "Max recovery attempts (" ++ cfg.maxRecoveryAttempts.shown ++ text ") exceeded")
    (some incidentId) (attempt - 1))
  pure (failure readings incidentId "MAX_ATTEMPTS_EXCEEDED" (attempt - 1)
    "Maximum recovery attempts exceeded")

def remediate (ctx : Dict) : Program φ RemediationResult := do
  let incident ← lift (getOrCreateIncident cfg readings {} (some incidentId))
  let attempt := incident.recoveryAttempt + 1
  if cfg.maxRecoveryAttempts.exceededBy attempt then
    maxAttemptsExceeded cfg readings incidentId attempt
  else
    beginAttempt ports readings incidentId (attempted incident) attempt
    recover ports readings incidentId (attempted incident) attempt ctx

def executeRemediation (ctx : Dict) : Program φ RemediationResult := do
  if ← lift (Fallible.read World.active) then
    pure (failure readings incidentId "IDEMPOTENT_SKIPPED" 0
      "Remediation workflow already in progress for this pipeline")
  else
    lift (Fallible.update fun w => { w with active := true })
    ensuring (remediate ports cfg readings incidentId ctx) fun w => { w with active := false }

end

/-! ## Run alone -/

section

variable {ports : Ports φ} {cfg : ControllerConfig} {readings : Readings}
  {incidentId : IncidentId}

@[simp] theorem alone_enter (t : Transition) :
    (enter readings t : Program φ Unit).alone World.transition = World.enter readings t := by
  rw [enter, alone_bind, alone_request]
  funext w
  cases h : w.pipeline.transitionTo (readings.time (.entered t.toState)) t with
  | ok p =>
    have htransition : World.transition ⟨readings.time (.entered t.toState), t⟩ w =
        (.ok (), { w with pipeline := p }) := by
      simp only [World.transition, h]
    rw [Fallible.bind_ok htransition]
    simp only [World.enter, h]
    rfl
  | error e =>
    have htransition : World.transition ⟨readings.time (.entered t.toState), t⟩ w =
        (.error e, w) := by
      simp only [World.transition, h]
    rw [Fallible.bind_error htransition]
    simp only [World.enter, h]

@[simp] theorem alone_ite {α : Type} (c : Prop) [Decidable c] (p q : Program φ α) :
    (if c then p else q).alone World.transition =
      if c then p.alone World.transition else q.alone World.transition := by
  split <;> rfl

@[simp] theorem alone_recordFailure (incident : Incident) (attempt : ℕ) (error : Text) :
    (recordFailure readings incidentId incident attempt error : Program φ Unit).alone
      World.transition = Remediation.recordFailure readings incidentId incident attempt error := by
  simp only [recordFailure, alone_bind, alone_enter, alone_lift]
  rfl

@[simp] theorem alone_beginAttempt (incident : Incident) (attempt : ℕ) :
    (beginAttempt ports readings incidentId incident attempt).alone World.transition =
      Remediation.beginAttempt ports readings incidentId incident attempt := by
  simp only [beginAttempt, alone_bind, alone_enter, alone_lift]
  rfl

@[simp] theorem alone_validationFailed (incident : Incident) (attempt : ℕ)
    (result : ReprocessResult) :
    (validationFailed ports readings incidentId incident attempt result).alone World.transition =
      Remediation.validationFailed ports readings incidentId incident attempt result := by
  simp only [validationFailed, alone_bind, alone_recordFailure, alone_lift, alone_pure]
  rfl

@[simp] theorem alone_sinkFailed (incident : Incident) (attempt : ℕ) (result : ReprocessResult)
    (sink : IngestionResult) :
    (sinkFailed ports readings incidentId incident attempt result sink).alone World.transition =
      Remediation.sinkFailed ports readings incidentId incident attempt result sink := by
  simp only [sinkFailed, alone_bind, alone_recordFailure, alone_lift, alone_pure]
  rfl

@[simp] theorem alone_complete (incident : Incident) (attempt : ℕ) (result : ReprocessResult)
    (sink : IngestionResult) :
    (complete ports readings incidentId incident attempt result sink).alone World.transition =
      Remediation.complete ports readings incidentId incident attempt result sink := by
  simp only [complete, alone_bind, alone_enter, alone_lift, alone_pure]
  rfl

@[simp] theorem alone_reprocessAndReingest (incident : Incident) (attempt : ℕ)
    (events : List Dict) :
    (reprocessAndReingest ports readings incidentId incident attempt events).alone
      World.transition =
        Remediation.reprocessAndReingest ports readings incidentId incident attempt events := by
  simp only [reprocessAndReingest, alone_bind, alone_enter, alone_lift, alone_ite, alone_complete,
    alone_sinkFailed, alone_validationFailed]
  rfl

@[simp] theorem alone_recover (incident : Incident) (attempt : ℕ) (ctx : Dict) :
    (recover ports readings incidentId incident attempt ctx).alone World.transition =
      Remediation.recover ports readings incidentId incident attempt ctx := by
  unfold recover Remediation.recover
  split
  · simp only [alone_bind, alone_recordFailure, alone_lift, alone_pure]
  · simp only [alone_bind, alone_enter, alone_lift]
    congr 1
    funext u
    congr 1
    funext u
    congr 1
    funext result
    cases result with
    | error e => simp only [alone_bind, alone_recordFailure, alone_pure]
    | ok events => simp only [alone_bind, alone_lift, alone_reprocessAndReingest]

@[simp] theorem alone_remediate (ctx : Dict) :
    (remediate ports cfg readings incidentId ctx).alone World.transition =
      Remediation.remediate ports cfg readings incidentId ctx := by
  simp only [remediate, maxAttemptsExceeded, alone_bind, alone_enter, alone_lift, alone_ite,
    alone_beginAttempt, alone_recover, alone_pure]
  rfl

/-- Run alone, the steps are the workflow. -/
theorem alone_executeRemediation (ctx : Dict) :
    (executeRemediation ports cfg readings incidentId ctx).alone World.transition =
      Remediation.executeRemediation ports cfg readings incidentId ctx := by
  simp only [executeRemediation, alone_bind, alone_lift, alone_ite, alone_ensuring,
    alone_remediate, alone_pure]
  rfl

end

end Stepwise
end IceStream.Remediation
