import IceStream.Backend.HealthyPipeline
import IceStream.Circuit.Operations
import IceStream.Remediation.Stepwise

/-!
# Entering `RUNNING`

The pipeline and the breaker are two machines. A remediation enters `RUNNING`
behind a breaker that it has closed; `resume` refuses an `OPEN` breaker only, so
that it also enters `RUNNING` behind one that is still probing.
-/

namespace IceStream.Backend
open Python Remediation Streaming Stepping World Resumption

variable {φ : Type}

/-! ## The requests in steps -/

namespace Stepwise

variable (service : PipelineService φ) (readings : ServiceReadings)

/-- `except ValueError as err: raise HTTPException(400, detail=str(err))` -/
def badRequest {α : Type} (p : Program φ α) : Program φ α :=
  p.catching fun e => lift (Fallible.raise (if e.isValueError then httpException 400 e.message else e))

def resume (reason : Option Text) : Program φ PipelineControlResponse := do
  if (← lift (World.circuitState readings.breaker)) = .open_ then
    lift (Fallible.raise (conflict "PIPELINE_PROTECTED"
      "Pipeline cannot resume while circuit breaker is OPEN."))
  else
    let row ← lift (Fallible.read fun w => w.pipeline.row)
    if row.state = .running then
      pure (service.controlResponse readings .running row.previousState
        "Pipeline is already running.")
    else
      lift (World.onOutside fun o => (.ok (), service.ports.resumeJob o))
      lift (World.log .flinkResumed)
      badRequest (Remediation.Stepwise.enter readings.control {
        toState := .running
        reason := some (reasonOr reason "Manual resume initiated via API") })
      pure (service.controlResponse readings .running (some row.state)
        "Pipeline resumed successfully.")

def startRemediation (incidentId : IncidentId) (ctx : Dict) : Program φ RecoveryResponse := do
  let result ← badRequest (Remediation.Stepwise.executeRemediation service.ports service.cfg
    readings.control incidentId ctx)
  let resultingState ← lift (Fallible.read fun w => w.pipeline.state)
  pure {
    incidentId := incidentId.val
    status := if result.success then "STARTED" else "FAILED"
    pipelineState := resultingState
    recoveryAttempt := result.attempt
    message := reasonOr result.error "Remediation executed successfully." }

def recover (incidentId : Option IncidentId) (ctx : Dict) : Program φ RecoveryResponse := do
  let row ← lift (Fallible.read fun w => w.pipeline.row)
  let requested := incidentId <|> row.activeIncidentId
  if inProgress row.state then pure (PipelineService.alreadyRunning row requested)
  else
    let target ← lift (service.recoveryIncident readings row requested)
    startRemediation service readings target ctx

/-! ### Run alone -/

section

variable {service : PipelineService φ} {readings : ServiceReadings}

@[simp] theorem alone_badRequest {α : Type} (p : Program φ α) :
    (badRequest p).alone World.transition = Backend.badRequest (p.alone World.transition) := by
  rw [badRequest, alone_catching]
  rfl

theorem alone_resume (reason : Option Text) :
    (resume service readings reason).alone World.transition = service.resume readings reason := by
  unfold resume PipelineService.resume
  simp only [alone_bind, alone_lift, Remediation.Stepwise.alone_ite, alone_badRequest,
    Remediation.Stepwise.alone_enter, alone_pure]

@[simp] theorem alone_startRemediation (incidentId : IncidentId) (ctx : Dict) :
    (startRemediation service readings incidentId ctx).alone World.transition =
      service.startRemediation readings incidentId ctx := by
  unfold startRemediation PipelineService.startRemediation
  simp only [alone_bind, alone_lift, alone_badRequest,
    Remediation.Stepwise.alone_executeRemediation, alone_pure]

theorem alone_recover (incidentId : Option IncidentId) (ctx : Dict) :
    (recover service readings incidentId ctx).alone World.transition =
      service.recover readings incidentId ctx := by
  unfold recover PipelineService.recover
  simp only [alone_bind, alone_lift, Remediation.Stepwise.alone_ite, alone_startRemediation,
    alone_pure]

end

end Stepwise

/-! ## What a transition into `RUNNING` finds -/

/-- A call that takes the pipeline into `RUNNING` finds a breaker that meets `R`. -/
def RunsBehind (R : Circuit → Prop) (w : World φ) (c : TransitionCall) : Prop :=
  c.transition.toState = .running → w.pipeline.allows c.transition = true → R w.circuit

/-- The breaker is `CLOSED`, and `can_process()` says so unless it takes over a row that
is not. -/
structure Processes (c : Circuit) : Prop where
  closed : c.state = .closed
  permits : ∀ reading : Reading, (∀ row, c.adopted reading = some row → row.state = .closed) →
    (c.perform .canProcess reading).1 = .permitted true

/-- A breaker that is `CLOSED` stays so when it takes over no other row. -/
theorem currentState_of_closed {c : Circuit} (h : c.state = .closed) {reading : Reading}
    (hrow : ∀ row, c.adopted reading = some row → row.state = .closed) :
    (c.currentState reading).state = .closed := by
  have hsync : (c.sync reading).state = .closed := by
    rw [Circuit.sync_state]
    cases hadopted : c.adopted reading with
    | none => exact h
    | some row => exact hrow row hadopted
  simp [Circuit.currentState, Circuit.checkTimeout, hsync]

theorem processes_of_closed {c : Circuit} (h : c.state = .closed) : Processes c := by
  refine ⟨h, ?_⟩
  intro reading hrow
  have hstate := currentState_of_closed h hrow
  cases henabled : c.config.enabled with
  | true => simp [Circuit.perform, henabled, hstate]
  | false => simp [Circuit.perform, henabled]

namespace Stepwise

variable {R : Circuit → Prop} {readings : Readings} {w : World φ}

abbrev Behind {α : Type} (R : Circuit → Prop) (p : Program φ α) (w : World φ) : Prop :=
  p.Calls World.transition (RunsBehind R) w

/-- A transition elsewhere is under no condition. -/
theorem behind_enter {t : Transition} (h : t.toState = .running → R w.circuit) :
    Behind R (Remediation.Stepwise.enter readings t : Program φ Unit) w := by
  apply Calls.bind_any
  · apply calls_request
    intro hrunning _
    exact h hrunning
  · intro _ _
    exact calls_lift _

theorem behind_stage {toState : PipelineState} (h : toState ≠ .running) (incidentId : IncidentId)
    (attempt : ℕ) (reason : Text) : Behind R
      (Remediation.Stepwise.enter readings (stage incidentId attempt toState reason) :
        Program φ Unit) w :=
  behind_enter fun hrunning => absurd hrunning h

theorem behind_recordFailure (incidentId : IncidentId) (incident : Incident) (attempt : ℕ)
    (error : Text) : Behind R
      (Remediation.Stepwise.recordFailure readings incidentId incident attempt error :
        Program φ Unit) w := by
  apply Calls.bind_any
  · apply behind_enter
    intro h
    cases h
  · intro _ _
    exact calls_lift _

/-- A failure that is written to the attempts as well. -/
theorem behind_failed (incidentId : IncidentId) (incident : Incident) (attempt : ℕ) (error : Text)
    (row : RemediationAttempt) (result : RemediationResult) : Behind R (do
      Remediation.Stepwise.recordFailure readings incidentId incident attempt error
      lift (recordAttempt row)
      pure result : Program φ RemediationResult) w := by
  apply (behind_recordFailure incidentId incident attempt error).bind_any
  intro _ _
  apply (calls_lift _).bind_any
  intro _ _
  exact calls_pure _

/-- The breaker is `CLOSED`, and nothing between here and `RUNNING` looks at it. -/
def Closed (w : World φ) : Prop := w.circuit.state = .closed

theorem closed_enter (t : Transition) (hw : Closed w) :
    Closed ((Remediation.Stepwise.enter readings t : Program φ Unit).alone World.transition w).2 := by
  rw [Remediation.Stepwise.alone_enter, World.enter]
  split
  · exact hw
  · exact hw

variable (ports : Ports φ) (incidentId : IncidentId)

theorem behind_complete (incident : Incident) (attempt : ℕ) (result : ReprocessResult)
    (sink : IngestionResult) (hw : Closed w) : Behind Processes
      (Remediation.Stepwise.complete ports readings incidentId incident attempt result sink) w := by
  refine Calls.bind_of_preserves (p := lift (recordAttempt _)) hw (calls_lift _) (fun _ h => h) ?_
  intro _ w₁ h₁
  refine Calls.bind_of_preserves h₁ (behind_stage (by decide) incidentId attempt _)
    (fun _ h => closed_enter _ h) ?_
  intro _ w₂ h₂
  have hclosed : w₂.circuit.state = .closed := h₂
  -- behind `RUNNING` there is no further transition
  exact (behind_enter fun _ => processes_of_closed hclosed).bind_any fun _ _ => trivial

/-- What a recovery result is answered with is the state it leaves the breaker in. -/
theorem recordRecoveryResult_state {errorRate : Float} {state : CircuitState} {w w' : World φ}
    (h : recordRecoveryResult readings errorRate w = (.ok state, w')) :
    w'.circuit.state = state := by
  unfold recordRecoveryResult at h
  rcases hprobe : probe readings w with ⟨e | u, w₁⟩
  · rw [Fallible.bind_error hprobe] at h
    cases h
  rw [Fallible.bind_ok hprobe] at h
  rcases hrecord : (onCircuit (Circuit.recordRecoveryResult (readings.breaker .recoveryResult)
    errorRate none) : WorldM φ CircuitState) w₁ with ⟨e | recorded, w₂⟩
  · rw [Fallible.bind_error hrecord] at h
    cases h
  rw [Fallible.bind_ok hrecord] at h
  have hstate : w₂.circuit.state = recorded := by
    simp only [onCircuit, Circuit.recordRecoveryResult] at hrecord
    split at hrecord
    · cases hrecord
    · cases hrecord
      rfl
  cases h
  exact hstate

/-- Who may re-ingest has seen the breaker `CLOSED`. -/
theorem mayReingest_closed {result : ReprocessResult} {w w' : World φ}
    (h : mayReingest readings result w.circuit.state w = (.ok true, w')) : Closed w' := by
  unfold mayReingest at h
  split at h
  · cases h
  · split at h
    · rename_i hclosed
      cases h
      exact hclosed
    · have hread : (World.circuitState (readings.breaker .decision) : WorldM φ CircuitState) w =
          (.ok (w.circuit.currentState (readings.breaker .decision)).state,
            { w with circuit := w.circuit.currentState (readings.breaker .decision) }) := rfl
      rw [Fallible.bind_ok hread] at h
      cases hstate : (w.circuit.currentState (readings.breaker .decision)).state with
      | closed =>
        rw [hstate] at h
        cases h
        exact hstate
      | open_ =>
        rw [hstate] at h
        cases h
      | halfOpen =>
        rw [hstate] at h
        cases h

theorem closed_callSink {events : List Dict} {sink : IngestionResult} {w w' : World φ}
    (hw : Closed w) (h : callSink ports events w = (.ok sink, w')) : Closed w' := by
  cases h
  exact hw

theorem behind_reprocessAndReingest (incident : Incident) (attempt : ℕ) (events : List Dict) :
    Behind Processes (Remediation.Stepwise.reprocessAndReingest ports readings incidentId incident
      attempt events) w := by
  apply (behind_stage (by decide) incidentId attempt _).bind_any
  intro _ _
  apply (calls_lift _).bind_any
  intro result _
  apply (behind_stage (by decide) incidentId attempt _).bind_any
  intro _ _
  apply (calls_lift _).bind
  intro recorded w₁ hrecorded
  obtain rfl := recordRecoveryResult_state hrecorded
  apply (calls_lift _).bind
  intro proceed w₂ hproceed
  cases proceed with
  | false => exact behind_failed incidentId incident attempt _ _ _
  | true =>
    have hclosed : Closed w₂ := mayReingest_closed hproceed
    refine Calls.bind_of_preserves hclosed (behind_stage (by decide) incidentId attempt _)
      (fun _ h => closed_enter _ h) ?_
    intro _ w₃ h₃
    apply (calls_lift _).bind
    intro sink w₄ hsink
    have h₄ := closed_callSink ports h₃ hsink
    split
    · exact behind_complete ports incidentId incident attempt result sink h₄
    · exact behind_failed incidentId incident attempt _ _ _

theorem behind_recover (incident : Incident) (attempt : ℕ) (ctx : Dict) :
    Behind Processes (Remediation.Stepwise.recover ports readings incidentId incident attempt ctx)
      w := by
  unfold Remediation.Stepwise.recover
  split
  · exact behind_failed incidentId incident attempt _ _ _
  · apply (calls_lift _).bind_any
    intro _ _
    apply (behind_stage (by decide) incidentId attempt _).bind_any
    intro _ _
    apply (calls_lift _).bind_any
    intro fetched _
    cases fetched with
    | error e =>
      apply (behind_recordFailure incidentId incident attempt _).bind_any
      intro _ _
      exact calls_pure _
    | ok events =>
      apply (calls_lift _).bind_any
      intro _ _
      exact behind_reprocessAndReingest ports incidentId incident attempt events

/-- A remediation enters `RUNNING` behind a breaker that is `CLOSED`. -/
theorem behind_executeRemediation (cfg : ControllerConfig) (ctx : Dict) :
    Behind Processes
      (Remediation.Stepwise.executeRemediation ports cfg readings incidentId ctx) w := by
  apply (calls_lift _).bind_any
  intro active _
  split
  · exact calls_pure _
  · apply (calls_lift _).bind_any
    intro _ _
    apply Calls.ensuring
    apply (calls_lift _).bind_any
    intro incident _
    dsimp only
    split
    · apply (behind_enter fun h => by cases h).bind_any
      intro _ _
      exact calls_pure _
    · have hbegin (w : World φ) : Behind Processes (Remediation.Stepwise.beginAttempt ports
          readings incidentId (attempted incident) (incident.recoveryAttempt + 1)) w := by
        apply (calls_lift _).bind_any
        intro _ _
        exact (behind_enter fun h => by cases h).bind_any fun _ _ => trivial
      apply (hbegin _).bind_any
      intro _ _
      exact behind_recover ports incidentId _ _ ctx

end Stepwise

namespace PipelineService

variable (service : PipelineService φ) (readings : ServiceReadings)

theorem behind_recover (incidentId : Option IncidentId) (ctx : Dict) (w : World φ) :
    Stepwise.Behind Processes (Stepwise.recover service readings incidentId ctx) w := by
  apply (calls_lift _).bind_any
  intro row _
  dsimp only
  split
  · exact calls_pure _
  · apply (calls_lift _).bind_any
    intro target _
    have hrun (w : World φ) : Stepwise.Behind Processes
        (Remediation.Stepwise.executeRemediation service.ports service.cfg readings.control target
          ctx) w := Stepwise.behind_executeRemediation _ _ _ _
    apply ((hrun _).catching fun _ _ => calls_lift _).bind_any
    intro _ _
    exact (calls_lift _).bind_any fun _ _ => calls_pure _

/-- What `resume` has just read. -/
def NotOpen (c : Circuit) (reading : Reading) (read : Circuit) : Prop :=
  read = c.currentState reading ∧ read.state ≠ .open_

theorem behind_resume (reason : Option Text) (w : World φ) :
    Stepwise.Behind (NotOpen w.circuit readings.breaker)
      (Stepwise.resume service readings reason) w := by
  apply (calls_lift _).bind
  intro state w₁ hread
  cases hread
  split
  · exact calls_lift _
  · rename_i hopen
    apply (calls_lift _).bind
    intro row w₂ hrow
    cases hrow
    split
    · exact calls_pure _
    · -- neither Flink nor the trace is the breaker
      apply (calls_lift _).bind
      intro _ w₃ h₃
      cases h₃
      apply (calls_lift _).bind
      intro _ w₄ h₄
      cases h₄
      apply Calls.bind_any
      · apply Calls.catching
        · apply Stepwise.behind_enter
          intro _
          exact ⟨rfl, hopen⟩
        · intro _ _
          exact calls_lift _
      · intro _ _
        exact calls_pure _

variable {service readings}

/-- A `resume` that is not refused makes its transition behind the breaker it has read. -/
theorem of_behind_resume {R : Circuit → Prop} {reason : Option Text} {w : World φ}
    (h : Stepwise.Behind R (Stepwise.resume service readings reason) w)
    (hread : (w.circuit.currentState readings.breaker).state ≠ .open_)
    (hvalid : PipelineState.running ∈ w.pipeline.state.validTransitions) :
    R (w.circuit.currentState readings.breaker) := by
  have hstate : w.pipeline.row.state ≠ .running := by
    intro hrunning
    change PipelineState.running ∈ w.pipeline.row.state.validTransitions at hvalid
    rw [hrunning] at hvalid
    revert hvalid
    decide
  change Calls _ _ (if (w.circuit.currentState readings.breaker).state = .open_ then _ else _) _
    at h
  rw [if_neg hread] at h
  change Calls _ _ (if w.pipeline.row.state = .running then _ else _) _ at h
  rw [if_neg hstate] at h
  exact h.1 rfl (Pipeline.allows_of_valid hvalid)

/-! ## Runs -/

inductive ControlAction
  | service (a : ServiceAction)
  | breaker (op : Operation) (reading : Reading)

section

variable (service : PipelineService φ) (v : StreamQualityValidator φ)

def controlStep (s : StreamWorld φ) : ControlAction → Option (StreamWorld φ)
  | .service a => serviceStep service v s a
  | .breaker op reading => some { s with
      control := { s.control with circuit := (s.control.circuit.perform op reading).2 } }

/-- What `resume` and the remediations find where they enter `RUNNING`: these a breaker that
processes, and `resume` one that is `Resumable` at its reading. -/
def EntersRunning (Resumable : Circuit → Reading → Circuit → Prop) (s : StreamWorld φ)
    (a : ControlAction) (_ : StreamWorld φ) : Prop :=
  match a with
  | .service (.resume reason readings) =>
    Stepwise.Behind (Resumable s.control.circuit readings.breaker)
      (Stepwise.resume service readings reason) s.control
  | .service (.remediate incidentId ctx readings) =>
    Stepwise.Behind Processes (Remediation.Stepwise.executeRemediation service.ports service.cfg
      readings incidentId ctx) s.control
  | .service (.recover incidentId ctx readings) =>
    Stepwise.Behind Processes (Stepwise.recover service readings incidentId ctx) s.control
  | _ => True

theorem entersRunning (s : StreamWorld φ) (a : ControlAction) (t : StreamWorld φ) :
    EntersRunning service NotOpen s a t := by
  cases a with
  | breaker op reading => trivial
  | service a =>
    cases a with
    | stream a => trivial
    | pause reason readings => trivial
    | resume reason readings => exact service.behind_resume readings reason s.control
    | remediate incidentId ctx readings =>
      exact Stepwise.behind_executeRemediation service.ports incidentId service.cfg ctx
    | recover incidentId ctx readings =>
      exact service.behind_recover readings incidentId ctx s.control

/-- In every run `resume` enters `RUNNING` only behind a breaker that it has just read, not
`OPEN`, and a remediation only behind one that is `CLOSED`. -/
theorem running_entered_behind_breaker (s : StreamWorld φ) (actions : List ControlAction) :
    AllSteps (controlStep service v) (EntersRunning service NotOpen) s actions := by
  induction actions generalizing s with
  | nil => trivial
  | cons a actions ih =>
    intro t _
    exact ⟨entersRunning service s a t, ih t⟩

end

/-! ### A breaker that is still probing -/

/-- The clock has passed the recovery timeout. -/
def lateRequest : ServiceReadings :=
  ⟨⟨61, 61000000, true, true, true⟩, Remediation.exampleReadings, 61000000⟩

/-- The breaker trips while the pipeline is paused, and its timeout elapses. -/
def pauseTripResume : List ControlAction :=
  [.service (.pause none exampleRequest), .breaker (.evaluate 0.5) exampleReading,
    .service (.resume none lateRequest)]

/-- The read that finds the timeout elapsed makes the breaker `HALF_OPEN`, and `resume` goes on. -/
theorem resumed_behind_halfOpen :
    ¬AllSteps (controlStep exampleService trippingValidator)
      (EntersRunning exampleService fun _ _ => Processes)
      (withNewPipeline 0 .running (exampleStream closedCircuit)) pauseTripResume := by
  intro hall
  obtain ⟨-, hpaused⟩ := hall _ rfl
  obtain ⟨-, htripped⟩ := hpaused _ rfl
  obtain ⟨hresume, -⟩ := htripped _ rfl
  have hprocesses := of_behind_resume hresume (by decide +kernel) (by decide +kernel)
  have hclosed := hprocesses.closed
  revert hclosed
  decide +kernel

end PipelineService
end IceStream.Backend
