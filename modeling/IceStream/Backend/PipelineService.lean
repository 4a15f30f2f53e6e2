import IceStream.Remediation.Controller

/-!
# The pipeline service

The operations behind the API's pipeline routes, on the controller's world. The
service is built with a state manager, a breaker and a controller, as its route
builds it.
-/

namespace IceStream.Backend
open Python Remediation

variable {φ : Type}

structure PipelineService (φ : Type) where
  pipelineId : Text
  ports : Ports φ
  cfg : ControllerConfig

/-- What one request reads from its surroundings. -/
structure ServiceReadings where
  breaker : Reading
  control : Readings
  answered : Date

structure PipelineControlResponse where
  pipelineId : Text
  state : PipelineState
  previousState : Option PipelineState
  message : Text
  updatedAt : Date

structure RecoveryResponse where
  incidentId : Text
  status : String
  pipelineState : PipelineState
  recoveryAttempt : ℕ
  message : Text

/-- The exception with its text, in which the status comes first. -/
def httpException (status : ℕ) (detail : Text) : Exc :=
  ⟨"HTTPException", false, text s!"{status}: " ++ detail⟩

def conflict (error message : String) : Exc :=
  httpException 409 (text ("\x7b'error': '" ++ error ++ "', 'message': '" ++ message ++ "'\x7d"))

def recoveryNotRequired : Exc :=
  conflict "RECOVERY_NOT_REQUIRED" "Pipeline is healthy and no active incident requires recovery."

/-- `except ValueError as err: raise HTTPException(400, detail=str(err))` -/
def badRequest {σ α : Type} (x : Fallible σ α) : Fallible σ α :=
  Fallible.catching x fun e =>
    Fallible.raise (if e.isValueError then httpException 400 e.message else e)

/-- `reason or default` -/
def reasonOr (reason : Option Text) (default : Text) : Text :=
  (reason.filter (· ≠ [])).getD default

/-- The states in which `recover` takes a remediation to be under way. -/
def inProgress : PipelineState → Bool
  | .remediating => true
  | .refetching => true
  | .reprocessing => true
  | .validating => true
  | _ => false

namespace PipelineService

section

variable (service : PipelineService φ) (readings : ServiceReadings)

def controlResponse (state : PipelineState) (previousState : Option PipelineState)
    (message : Text) : PipelineControlResponse :=
  ⟨service.pipelineId, state, previousState, message, readings.answered⟩

/-- What Flink reports is not looked at. -/
def pause (reason : Option Text) : WorldM φ PipelineControlResponse := do
  let row ← Fallible.read fun w => w.pipeline.row
  if row.state = .paused then
    pure (service.controlResponse readings .paused row.previousState "Pipeline is already paused.")
  else
    World.onOutside fun o => (.ok (), service.ports.pauseJob o)
    World.log .flinkPaused
    badRequest (World.enter readings.control {
      toState := .paused
      reason := some (reasonOr reason "Manual pause initiated via API") })
    pure (service.controlResponse readings .paused (some row.state)
      "Pipeline paused successfully.")

def resume (reason : Option Text) : WorldM φ PipelineControlResponse := do
  if (← World.circuitState readings.breaker) = .open_ then
    Fallible.raise (conflict "PIPELINE_PROTECTED"
      "Pipeline cannot resume while circuit breaker is OPEN.")
  else
    let row ← Fallible.read fun w => w.pipeline.row
    if row.state = .running then
      pure (service.controlResponse readings .running row.previousState
        "Pipeline is already running.")
    else
      World.onOutside fun o => (.ok (), service.ports.resumeJob o)
      World.log .flinkResumed
      badRequest (World.enter readings.control {
        toState := .running
        reason := some (reasonOr reason "Manual resume initiated via API") })
      pure (service.controlResponse readings .running (some row.state)
        "Pipeline resumed successfully.")

def alreadyRunning (row : PipelineRow) (incidentId : Option IncidentId) : RecoveryResponse where
  incidentId := (incidentId.map Subtype.val).getD "inc_active"
  status := "ALREADY_RUNNING"
  pipelineState := row.state
  recoveryAttempt := row.recoveryAttempt
  message := "Remediation workflow is already in progress."

/-- Whether a request without an incident finds nothing to recover. -/
def healthy (row : PipelineRow) : WorldM φ Bool := do
  if row.state = .running then
    let state ← World.circuitState readings.breaker
    pure (state == .closed)
  else pure false

/-- The incident to remediate. -/
def recoveryIncident (row : PipelineRow) : Option IncidentId → WorldM φ IncidentId
  | some incidentId => pure incidentId
  | none => do
    if ← healthy readings row then Fallible.raise recoveryNotRequired
    else
      let incident ← getOrCreateIncident service.cfg readings.control
        { trigger := "API_RECOVERY" } none
      pure incident.incidentId

def startRemediation (incidentId : IncidentId) (ctx : Dict) : WorldM φ RecoveryResponse := do
  let result ← badRequest
    (executeRemediation service.ports service.cfg readings.control incidentId ctx)
  let resultingState ← Fallible.read fun w => w.pipeline.state
  pure {
    incidentId := incidentId.val
    status := if result.success then "STARTED" else "FAILED"
    pipelineState := resultingState
    recoveryAttempt := result.attempt
    message := reasonOr result.error "Remediation executed successfully." }

/-- A request without an incident falls back on the row's. -/
def recover (incidentId : Option IncidentId) (ctx : Dict) : WorldM φ RecoveryResponse := do
  let row ← Fallible.read fun w => w.pipeline.row
  let requested := incidentId <|> row.activeIncidentId
  if inProgress row.state then pure (alreadyRunning row requested)
  else
    let target ← service.recoveryIncident readings row requested
    service.startRemediation readings target ctx

end

/-! ## What a recovery leaves behind -/

section

variable {σ α : Type} {x : Fallible σ α} {s : σ}

theorem badRequest_ok {a : α} {t : σ} (h : x s = (.ok a, t)) : badRequest x s = (.ok a, t) := by
  rw [badRequest, Fallible.catching_ok h]

theorem badRequest_error {e : Exc} {t : σ} (h : x s = (.error e, t)) :
    badRequest x s = (.error (if e.isValueError then httpException 400 e.message else e), t) := by
  rw [badRequest, Fallible.catching_error h, Fallible.raise_apply]

end

section

variable (service : PipelineService φ) (readings : ServiceReadings) (incidentId : IncidentId)
  (ctx : Dict) (w : World φ)

/-- The request changes what the remediation changes. -/
theorem startRemediation_world :
    (service.startRemediation readings incidentId ctx w).2 =
      (executeRemediation service.ports service.cfg readings.control incidentId ctx w).2 := by
  unfold startRemediation
  rcases hrun : executeRemediation service.ports service.cfg readings.control incidentId ctx w
    with ⟨e | result, w'⟩
  · rw [Fallible.bind_error (badRequest_error hrun)]
  · rw [Fallible.bind_ok (badRequest_ok hrun)]
    rfl

/-- It is answered when the remediation returns. -/
theorem startRemediation_answers {result : RemediationResult}
    (h : (executeRemediation service.ports service.cfg readings.control incidentId ctx w).1 =
      .ok result) :
    ∃ answer, (service.startRemediation readings incidentId ctx w).1 = .ok answer := by
  rcases hrun : executeRemediation service.ports service.cfg readings.control incidentId ctx w
    with ⟨out, w'⟩
  rw [hrun] at h
  obtain rfl : out = .ok result := h
  unfold startRemediation
  rw [Fallible.bind_ok (badRequest_ok hrun)]
  exact ⟨_, rfl⟩

end

end PipelineService
end IceStream.Backend
