import IceStream.Remediation.Controller

/-!
# How a remediation ends

`Stands` is what holds of the world somewhere in the workflow. Each operation
takes a world that stands to one that stands; `executeRemediation_ending` lists
the ways the whole call can end, told apart by what the surroundings answered.
-/

namespace IceStream.Remediation
open Python World

variable {φ : Type}

/-- What holds of a world on the way, whatever the pipeline's state. -/
structure Carries (incidentId : IncidentId) (w₀ w : World φ) (status : IncidentStatus)
    (circuit : Circuit) (outside : φ) (actions : List Action) : Prop where
  status_eq : (w.incidents.getIncident incidentId).map Incident.status = some status
  circuit_eq : w.circuit = circuit
  outside_eq : w.outside = outside
  trace_eq : w.trace = w₀.trace ++ actions

structure Stands (incidentId : IncidentId) (w₀ w : World φ) (state : PipelineState)
    (status : IncidentStatus) (circuit : Circuit) (outside : φ) (actions : List Action) : Prop
    extends Carries incidentId w₀ w status circuit outside actions where
  state_eq : w.pipeline.state = state
  activeIncidentId_eq : w.pipeline.row.activeIncidentId = some incidentId

section

variable {incidentId : IncidentId} {w₀ w : World φ} {state : PipelineState}
  {status : IncidentStatus} {circuit : Circuit} {outside : φ} {actions : List Action}

theorem Stands.congr {actions' : List Action}
    (h : Stands incidentId w₀ w state status circuit outside actions) (ha : actions = actions') :
    Stands incidentId w₀ w state status circuit outside actions' :=
  ha ▸ h

/-- The `finally` clears the flag and nothing else. -/
theorem Stands.idle (h : Stands incidentId w₀ w state status circuit outside actions) :
    Stands incidentId w₀ { w with active := false } state status circuit outside actions :=
  ⟨⟨h.status_eq, h.circuit_eq, h.outside_eq, h.trace_eq⟩, h.state_eq, h.activeIncidentId_eq⟩

theorem enter_of_allows {readings : Readings} {t : Transition} (h : w.pipeline.allows t = true) :
    enter readings t w = (.ok (), { w with
      pipeline := w.pipeline.moved (readings.time (.entered t.toState)) t
      trace := w.trace ++ [.entered t.toState] }) := by
  simp only [enter, Pipeline.transitionTo_of_allows h]

/-- A forced transition goes through from any state. -/
theorem Carries.enter (readings : Readings) {t : Transition}
    (h : Carries incidentId w₀ w status circuit outside actions) (hforce : t.force = true)
    (hid : t.incidentId = some incidentId) :
    ∃ w', enter readings t w = (.ok (), w') ∧ Stands incidentId w₀ w' t.toState status circuit
      outside (actions ++ [.entered t.toState]) := by
  refine ⟨_, enter_of_allows (Pipeline.allows_of_force hforce), ⟨h.status_eq, h.circuit_eq,
    h.outside_eq, ?_⟩, rfl, hid⟩
  rw [h.trace_eq, List.append_assoc]

theorem Stands.enter (readings : Readings) {t : Transition}
    (h : Stands incidentId w₀ w state status circuit outside actions)
    (hvalid : t.toState ∈ state.validTransitions) (hid : t.incidentId = some incidentId) :
    ∃ w', enter readings t w = (.ok (), w') ∧ Stands incidentId w₀ w' t.toState status circuit
      outside (actions ++ [.entered t.toState]) := by
  rw [← h.state_eq] at hvalid
  refine ⟨_, enter_of_allows (Pipeline.allows_of_valid hvalid), ⟨h.status_eq, h.circuit_eq,
    h.outside_eq, ?_⟩, rfl, hid⟩
  rw [h.trace_eq, List.append_assoc]

theorem Stands.enterStage (readings : Readings)
    (h : Stands incidentId w₀ w state status circuit outside actions) (attempt : ℕ)
    {toState : PipelineState} (reason : Text) (hvalid : toState ∈ state.validTransitions) :
    ∃ w', World.enter readings (stage incidentId attempt toState reason) w = (.ok (), w') ∧
      Stands incidentId w₀ w' toState status circuit outside (actions ++ [.entered toState]) :=
  Stands.enter readings h hvalid rfl

theorem Carries.saveIncident (h : Carries incidentId w₀ w status circuit outside actions)
    (incident : Incident) (hid : incident.incidentId = incidentId) :
    ∃ w', saveIncident incident w = (.ok (), w') ∧ w'.pipeline = w.pipeline ∧
      Carries incidentId w₀ w' incident.status circuit outside actions := by
  obtain ⟨row, hrow, hstatus, -⟩ := Incidents.getIncident_createIncident w.incidents incident
  refine ⟨_, rfl, rfl, ?_, h.circuit_eq, h.outside_eq, h.trace_eq⟩
  rw [← hid, hrow, Option.map_some, hstatus]

theorem Stands.saveIncident (h : Stands incidentId w₀ w state status circuit outside actions)
    (incident : Incident) (hid : incident.incidentId = incidentId) :
    ∃ w', saveIncident incident w = (.ok (), w') ∧
      Stands incidentId w₀ w' state incident.status circuit outside actions := by
  obtain ⟨w', hsave, hpipeline, hcarries⟩ := h.toCarries.saveIncident incident hid
  exact ⟨w', hsave, hcarries, by rw [hpipeline, h.state_eq],
    by rw [hpipeline, h.activeIncidentId_eq]⟩

theorem Stands.recordAttempt (h : Stands incidentId w₀ w state status circuit outside actions)
    (row : RemediationAttempt) :
    ∃ w', recordAttempt row w = (.ok (), w') ∧
      Stands incidentId w₀ w' state status circuit outside actions :=
  ⟨_, rfl, ⟨h.status_eq, h.circuit_eq, h.outside_eq, h.trace_eq⟩, h.state_eq,
    h.activeIncidentId_eq⟩

theorem Stands.log (h : Stands incidentId w₀ w state status circuit outside actions)
    (action : Action) :
    ∃ w', log action w = (.ok (), w') ∧
      Stands incidentId w₀ w' state status circuit outside (actions ++ [action]) := by
  refine ⟨_, rfl, ⟨h.status_eq, h.circuit_eq, h.outside_eq, ?_⟩, h.state_eq,
    h.activeIncidentId_eq⟩
  change w.trace ++ [action] = _
  rw [h.trace_eq, List.append_assoc]

theorem Stands.onOutside {α : Type} (x : Fallible φ α)
    (h : Stands incidentId w₀ w state status circuit outside actions) :
    ∃ w', onOutside x w = ((x outside).1, w') ∧
      Stands incidentId w₀ w' state status circuit (x outside).2 actions := by
  obtain ⟨⟨hstatus, hcircuit, rfl, htrace⟩, hstate, hid⟩ := h
  exact ⟨_, rfl, ⟨hstatus, hcircuit, rfl, htrace⟩, hstate, hid⟩

theorem Stands.onCircuit {α : Type} (x : Fallible Circuit α)
    (h : Stands incidentId w₀ w state status circuit outside actions) :
    ∃ w', onCircuit x w = ((x circuit).1, w') ∧
      Stands incidentId w₀ w' state status (x circuit).2 outside actions := by
  obtain ⟨⟨hstatus, rfl, houtside, htrace⟩, hstate, hid⟩ := h
  exact ⟨_, rfl, ⟨hstatus, rfl, houtside, htrace⟩, hstate, hid⟩

theorem Stands.onCircuit_ok {α : Type} {x : Fallible Circuit α} {a : α} {circuit' : Circuit}
    (h : Stands incidentId w₀ w state status circuit outside actions)
    (hx : x circuit = (.ok a, circuit')) :
    ∃ w', World.onCircuit x w = (.ok a, w') ∧
      Stands incidentId w₀ w' state status circuit' outside actions := by
  obtain ⟨w', hrun, h'⟩ := h.onCircuit x
  rw [hx] at hrun h'
  exact ⟨w', hrun, h'⟩

theorem Stands.circuitState (h : Stands incidentId w₀ w state status circuit outside actions)
    (reading : Reading) :
    ∃ w', circuitState reading w = (.ok (circuit.currentState reading).state, w') ∧
      Stands incidentId w₀ w' state status (circuit.currentState reading) outside actions := by
  obtain ⟨⟨hstatus, rfl, houtside, htrace⟩, hstate, hid⟩ := h
  exact ⟨_, rfl, ⟨hstatus, rfl, houtside, htrace⟩, hstate, hid⟩

end

/-! ## The stages -/

section

variable {incidentId : IncidentId} {w₀ w : World φ} {state : PipelineState}
  {status : IncidentStatus} {circuit : Circuit} {outside : φ} {actions : List Action}
  {incident : Incident}
variable (ports : Ports φ) (readings : Readings)

theorem Stands.recordFailure (h : Stands incidentId w₀ w state status circuit outside actions)
    (incident : Incident) (hid : incident.incidentId = incidentId) (attempt : ℕ) (error : Text) :
    ∃ w', recordFailure readings incidentId incident attempt error w = (.ok (), w') ∧
      Stands incidentId w₀ w' .recoveryFailed .recoveryFailed circuit outside
        (actions ++ [.entered .recoveryFailed]) := by
  obtain ⟨w₁, henter, h₁⟩ := h.toCarries.enter readings
    (t := Pipeline.failure error (some incidentId) attempt) rfl rfl
  obtain ⟨w₂, hsave, h₂⟩ := h₁.saveIncident
    { incident with status := .recoveryFailed, lastError := some error } hid
  exact ⟨w₂, by rw [Remediation.recordFailure, Fallible.bind_ok henter, hsave], h₂⟩

theorem Stands.validationFailed
    (h : Stands incidentId w₀ w state status circuit outside actions)
    (hid : incident.incidentId = incidentId) (attempt : ℕ) (result : ReprocessResult) :
    ∃ answer w', validationFailed ports readings incidentId incident attempt result w =
        (.ok answer, w') ∧ answer.success = false ∧
      Stands incidentId w₀ w' .recoveryFailed .recoveryFailed circuit outside
        (actions ++ [.entered .recoveryFailed]) := by
  unfold Remediation.validationFailed
  obtain ⟨w₁, hfail, h₁⟩ := h.recordFailure readings incident hid attempt
    (text s!"Validation or recovery threshold check failed (error_rate={fixed 4 result.errorRate})")
  rw [Fallible.bind_ok hfail]
  exact ⟨_, _, rfl, rfl, ⟨h₁.status_eq, h₁.circuit_eq, h₁.outside_eq, h₁.trace_eq⟩, h₁.state_eq,
    h₁.activeIncidentId_eq⟩

theorem Stands.sinkFailed (h : Stands incidentId w₀ w state status circuit outside actions)
    (hid : incident.incidentId = incidentId) (attempt : ℕ) (result : ReprocessResult)
    (sink : IngestionResult) :
    ∃ answer w', sinkFailed ports readings incidentId incident attempt result sink w =
        (.ok answer, w') ∧ answer.success = false ∧
      Stands incidentId w₀ w' .recoveryFailed .recoveryFailed circuit outside
        (actions ++ [.entered .recoveryFailed]) := by
  unfold Remediation.sinkFailed
  obtain ⟨w₁, hfail, h₁⟩ := h.recordFailure readings incident hid attempt
    (text "Lakehouse re-ingestion failed: " ++ sink.error.getD "None")
  rw [Fallible.bind_ok hfail]
  exact ⟨_, _, rfl, rfl, ⟨h₁.status_eq, h₁.circuit_eq, h₁.outside_eq, h₁.trace_eq⟩, h₁.state_eq,
    h₁.activeIncidentId_eq⟩

theorem Stands.complete (h : Stands incidentId w₀ w .reIngesting status circuit outside actions)
    (hid : incident.incidentId = incidentId) (attempt : ℕ) (result : ReprocessResult)
    (sink : IngestionResult) :
    ∃ answer w', complete ports readings incidentId incident attempt result sink w =
        (.ok answer, w') ∧ answer.success = true ∧
      Stands incidentId w₀ w' .running .recovered circuit (ports.resumeJob outside)
        (actions ++ [.entered .resuming, .entered .running, .flinkResumed]) := by
  unfold Remediation.complete
  obtain ⟨w₁, hrecord, h₁⟩ := h.recordAttempt _
  rw [Fallible.bind_ok hrecord]
  obtain ⟨w₂, hresuming, h₂⟩ := h₁.enterStage readings attempt
    "Validation passed and data re-ingested. Preparing pipeline resume."
    (show PipelineState.resuming ∈ _ by decide)
  rw [Fallible.bind_ok hresuming]
  obtain ⟨w₃, hrunning, h₃⟩ := h₂.enterStage readings attempt
    "Self-healing recovery completed successfully. Pipeline resumed."
    (show PipelineState.running ∈ _ by decide)
  rw [Fallible.bind_ok hrunning]
  obtain ⟨w₄, hresume, h₄⟩ := h₃.onOutside fun w => (.ok (), ports.resumeJob w)
  rw [Fallible.bind_ok hresume]
  obtain ⟨w₅, hlog, h₅⟩ := h₄.log .flinkResumed
  rw [Fallible.bind_ok hlog]
  obtain ⟨w₆, hsave, h₆⟩ := h₅.saveIncident { incident with
    status := .recovered
    resolvedAt := some (readings.time .resolved) } hid
  rw [Fallible.bind_ok hsave]
  refine ⟨_, _, rfl, rfl, ⟨h₆.status_eq, h₆.circuit_eq, h₆.outside_eq, ?_⟩, h₆.state_eq,
    h₆.activeIncidentId_eq⟩
  have htrace := h₆.trace_eq
  simp only [List.append_assoc, List.cons_append, List.nil_append] at htrace
  exact htrace

theorem Stands.sendAlert (h : Stands incidentId w₀ w state status circuit outside actions)
    (incident : Incident) (attempt : ℕ) :
    ∃ w', sendAlert ports readings incidentId incident attempt w = (.ok (), w') ∧
      Stands incidentId w₀ w' state status circuit (ports.sendAlert incident outside).2
        actions := by
  unfold Remediation.sendAlert
  obtain ⟨w₁, hsend, h₁⟩ := h.onOutside fun w =>
    (.ok (ports.sendAlert incident w).1, (ports.sendAlert incident w).2)
  rw [Fallible.bind_ok hsend]
  exact h₁.recordAttempt _

theorem Carries.maxAttemptsExceeded
    (h : Carries incidentId w₀ w status circuit outside actions) (cfg : ControllerConfig)
    (attempt : ℕ) :
    ∃ answer w', maxAttemptsExceeded cfg readings incidentId attempt w = (.ok answer, w') ∧
      answer.success = false ∧
      Stands incidentId w₀ w' .recoveryFailed status circuit outside
        (actions ++ [.entered .recoveryFailed]) := by
  unfold Remediation.maxAttemptsExceeded
  obtain ⟨w₁, henter, h₁⟩ := h.enter readings
    (t := Pipeline.failure (text "Max recovery attempts (" ++ cfg.maxRecoveryAttempts.shown ++
      text ") exceeded") (some incidentId) (attempt - 1)) rfl rfl
  rw [Fallible.bind_ok henter]
  exact ⟨_, w₁, rfl, rfl, h₁⟩

/-- Before the attempt begins the pipeline may be in any state. -/
theorem Carries.beginAttempt
    (h : Carries incidentId w₀ w status circuit outside actions) (incident : Incident)
    (hid : incident.incidentId = incidentId) (attempt : ℕ) :
    ∃ w', beginAttempt ports readings incidentId incident attempt w = (.ok (), w') ∧
      Stands incidentId w₀ w' .remediating incident.status circuit (ports.pauseJob outside)
        (actions ++ [.entered .remediating, .flinkPaused]) := by
  unfold Remediation.beginAttempt
  obtain ⟨w₁, hsave, -, h₁⟩ := h.saveIncident incident hid
  rw [Fallible.bind_ok hsave]
  obtain ⟨w₂, henter, h₂⟩ := h₁.enter readings
    (t := { stage incidentId attempt .remediating
      (text s!"Starting remediation attempt {attempt}") with force := true }) rfl rfl
  rw [Fallible.bind_ok henter]
  obtain ⟨w₃, hpause, h₃⟩ := h₂.onOutside fun w => (.ok (), ports.pauseJob w)
  rw [Fallible.bind_ok hpause]
  obtain ⟨w₄, hlog, h₄⟩ := h₃.log .flinkPaused
  rw [List.append_assoc] at h₄
  exact ⟨w₄, hlog, h₄⟩

/-- The actions the verdicts of a re-validation become. -/
def verdictActions (verdicts : Reprocessor.Verdicts) : List Action :=
  verdicts.map fun v => .revalidated v.1 v.2

/-- Re-validation ends as the reprocessor does, and leaves its verdicts. -/
theorem Stands.revalidate (h : Stands incidentId w₀ w state status circuit outside actions)
    (events : List Dict) (attempt : ℕ) :
    ∃ verdicts w',
      revalidate ports incidentId events attempt w =
        ((ports.reprocessor.process events incidentId attempt outside).1, w') ∧
      Stands incidentId w₀ w' state status circuit
        (ports.reprocessor.process events incidentId attempt outside).2
        (actions ++ verdictActions verdicts) ∧
      ∀ result, (ports.reprocessor.process events incidentId attempt outside).1 = .ok result →
        verdicts.map Prod.fst = events ∧ result.totalProcessed = events.length ∧
        Reprocessor.Reports incidentId attempt result verdicts := by
  obtain ⟨⟨hstatus, hcircuit, rfl, htrace⟩, hstate, hincident⟩ := h
  obtain ⟨out, outside', verdicts, hplain, hlogged, hend⟩ :=
    ports.reprocessor.process_logged incidentId attempt events w.outside
  rw [hplain]
  refine ⟨verdicts, { w with
    outside := outside'
    trace := w.trace ++ verdictActions verdicts }, ?_,
    ⟨⟨hstatus, hcircuit, rfl, by rw [htrace, List.append_assoc]⟩, hstate, hincident⟩, ?_⟩
  · simp only [Remediation.revalidate, hlogged]
    rfl
  · intro result hok
    obtain ⟨hfst, htotal, hreports, -⟩ := hend result hok
    exact ⟨hfst, htotal, hreports⟩

/-- Whether the sink takes the events. -/
def sinkSucceeds (events : List Dict) (outside : φ) : Bool :=
  match (ports.writeEvents events outside).1 with
  | .ok result => result.success
  | .error _ => false

theorem Stands.callSink (h : Stands incidentId w₀ w state status circuit outside actions)
    (events : List Dict) :
    ∃ sink w', callSink ports events w = (.ok sink, w') ∧
      sink.success = sinkSucceeds ports events outside ∧
      Stands incidentId w₀ w' state status circuit (ports.writeEvents events outside).2
        (actions ++ [.sinkCalled events (sinkSucceeds ports events outside)]) := by
  unfold Remediation.callSink
  obtain ⟨w₁, hwrite, h₁⟩ := h.onOutside (ports.writeEvents events)
  rw [Fallible.attempt_bind, hwrite]
  rcases hresult : (ports.writeEvents events outside).1 with e | result
  · have hsucceeds : sinkSucceeds ports events outside = false := by
      simp only [sinkSucceeds, hresult]
    rw [hsucceeds]
    obtain ⟨w₂, hlog, h₂⟩ := h₁.log (.sinkCalled events false)
    exact ⟨⟨0, false, some e.message⟩, w₂, Fallible.bind_ok hlog, rfl, h₂⟩
  · have hsucceeds : sinkSucceeds ports events outside = result.success := by
      simp only [sinkSucceeds, hresult]
    rw [hsucceeds]
    obtain ⟨w₂, hlog, h₂⟩ := h₁.log (.sinkCalled events result.success)
    exact ⟨result, w₂, Fallible.bind_ok hlog, rfl, h₂⟩

end

/-! ## The breaker's part -/

section

variable (readings : Readings) (c : Circuit) (result : ReprocessResult)

/-- The breaker after the probe, which takes it from `OPEN` to `HALF_OPEN`. -/
def probedCircuit : Circuit :=
  let c := c.currentState (readings.breaker .probe)
  if c.state = .open_ then
    c.moved (readings.breaker .probeTransition) .halfOpen "remediation_probe" none .none
  else c

/-- The breaker after it was told the outcome in `HALF_OPEN`. -/
def recordedCircuit : Circuit :=
  let c := probedCircuit readings c
  (c.observed result.errorRate).recovered (readings.breaker .recoveryResult) result.errorRate
    (decide (result.errorRate ≤ c.config.errorThreshold))

/-- Whether the breaker is read once more before the decision. -/
def readsAgain : Bool :=
  result.isFullyValid && (recordedCircuit readings c result).state != .closed

def decidedCircuit : Circuit :=
  if readsAgain readings c result then
    (recordedCircuit readings c result).currentState (readings.breaker .decision)
  else recordedCircuit readings c result

def decisionActions : List Action :=
  .recoveryRecorded (recordedCircuit readings c result).state ::
    if readsAgain readings c result then [.breakerRead (decidedCircuit readings c result).state]
    else []

/-- A breaker that reads `CLOSED` is left so; any other is `HALF_OPEN` behind the probe. -/
theorem probedCircuit_state :
    (probedCircuit readings c).state =
      if (c.currentState (readings.breaker .probe)).state = .closed then .closed
      else .halfOpen := by
  unfold probedCircuit
  cases h : (c.currentState (readings.breaker .probe)).state <;> simp [h]

theorem recordedCircuit_state :
    (recordedCircuit readings c result).state =
      if result.errorRate ≤ (probedCircuit readings c).config.errorThreshold then .closed
      else .open_ := by
  simp [recordedCircuit, Circuit.recovered_state]

theorem recordedCircuit_eq (h : (c.currentState (readings.breaker .probe)).state ≠ .closed) :
    Circuit.recordRecoveryResult (readings.breaker .recoveryResult) result.errorRate none
      (probedCircuit readings c) =
      (.ok (recordedCircuit readings c result).state, recordedCircuit readings c result) := by
  have hhalf : (probedCircuit readings c).state = .halfOpen := by
    rw [probedCircuit_state, if_neg h]
  rw [Circuit.recordRecoveryResult_of_halfOpen _ _ hhalf, recordedCircuit_state]
  simp only [Option.getD_none, decide_eq_true_eq]
  rfl

end

section

variable {incidentId : IncidentId} {w₀ w : World φ} {state : PipelineState}
  {status : IncidentStatus} {circuit : Circuit} {outside : φ} {actions : List Action}
variable (readings : Readings)

theorem Stands.probe (h : Stands incidentId w₀ w state status circuit outside actions) :
    ∃ w', probe readings w = (.ok (), w') ∧
      Stands incidentId w₀ w' state status (probedCircuit readings circuit) outside actions := by
  unfold Remediation.probe
  obtain ⟨w₁, hread, h₁⟩ := h.circuitState (readings.breaker .probe)
  rw [Fallible.bind_ok hread]
  by_cases hopen : (circuit.currentState (readings.breaker .probe)).state = .open_
  · rw [if_pos hopen, probedCircuit, if_pos hopen]
    apply h₁.onCircuit_ok
    rw [Circuit.transitionTo_of_valid _ _ (by rw [hopen]; decide) (by rw [hopen]; rfl)]
  · rw [if_neg hopen]
    refine ⟨w₁, rfl, ?_⟩
    rw [probedCircuit, if_neg hopen]
    exact h₁

/-- A breaker that reads `CLOSED` refuses the result. -/
theorem Stands.recordRecoveryResult_closed
    (h : Stands incidentId w₀ w state status circuit outside actions) (rate : Float)
    (hclosed : (circuit.currentState (readings.breaker .probe)).state = .closed) :
    ∃ e w', recordRecoveryResult readings rate w = (.error e, w') ∧
      Stands incidentId w₀ w' state status ((probedCircuit readings circuit).observed rate) outside
        actions := by
  unfold Remediation.recordRecoveryResult
  obtain ⟨w₁, hprobe, h₁⟩ := h.probe readings
  rw [Fallible.bind_ok hprobe]
  obtain ⟨w₂, hrecord, h₂⟩ := h₁.onCircuit
    (Circuit.recordRecoveryResult (readings.breaker .recoveryResult) rate none)
  have hne : (probedCircuit readings circuit).state ≠ .halfOpen := by
    rw [probedCircuit_state, if_pos hclosed]
    decide
  rw [Circuit.recordRecoveryResult_of_ne _ _ hne] at hrecord h₂
  exact ⟨_, w₂, Fallible.bind_error hrecord, h₂⟩

theorem Stands.recordRecoveryResult
    (h : Stands incidentId w₀ w state status circuit outside actions) (result : ReprocessResult)
    (hclosed : (circuit.currentState (readings.breaker .probe)).state ≠ .closed) :
    ∃ w', recordRecoveryResult readings result.errorRate w =
        (.ok (recordedCircuit readings circuit result).state, w') ∧
      Stands incidentId w₀ w' state status (recordedCircuit readings circuit result) outside
        (actions ++ [.recoveryRecorded (recordedCircuit readings circuit result).state]) := by
  unfold Remediation.recordRecoveryResult
  obtain ⟨w₁, hprobe, h₁⟩ := h.probe readings
  rw [Fallible.bind_ok hprobe]
  obtain ⟨w₂, hrecord, h₂⟩ := h₁.onCircuit
    (Circuit.recordRecoveryResult (readings.breaker .recoveryResult) result.errorRate none)
  rw [recordedCircuit_eq readings circuit result hclosed] at hrecord h₂
  rw [Fallible.bind_ok hrecord]
  obtain ⟨w₃, hlog, h₃⟩ :=
    h₂.log (.recoveryRecorded (recordedCircuit readings circuit result).state)
  exact ⟨w₃, Fallible.bind_ok hlog, h₃⟩

/-- The events go on when they are all valid and the breaker is `CLOSED` by then. -/
theorem Stands.mayReingest {result : ReprocessResult}
    (h : Stands incidentId w₀ w state status (recordedCircuit readings circuit result) outside
      (actions ++ [.recoveryRecorded (recordedCircuit readings circuit result).state])) :
    ∃ w', mayReingest readings result (recordedCircuit readings circuit result).state w =
        (.ok (result.isFullyValid && (decidedCircuit readings circuit result).state == .closed),
          w') ∧
      Stands incidentId w₀ w' state status (decidedCircuit readings circuit result) outside
        (actions ++ decisionActions readings circuit result) := by
  unfold Remediation.mayReingest
  cases hvalid : result.isFullyValid with
  | false =>
    have hreads : readsAgain readings circuit result = false := by simp [readsAgain, hvalid]
    refine ⟨w, rfl, ?_⟩
    simpa [decidedCircuit, decisionActions, hreads] using h
  | true =>
    by_cases hclosed : (recordedCircuit readings circuit result).state = .closed
    · have hreads : readsAgain readings circuit result = false := by simp [readsAgain, hclosed]
      refine ⟨w, ?_, ?_⟩
      · simp [decidedCircuit, hreads, hclosed]
      · simpa [decidedCircuit, decisionActions, hreads] using h
    · have hreads : readsAgain readings circuit result = true := by
        simp [readsAgain, hvalid, hclosed]
      obtain ⟨w₁, hread, h₁⟩ := h.circuitState (readings.breaker .decision)
      have hdecided : (recordedCircuit readings circuit result).currentState
          (readings.breaker .decision) = decidedCircuit readings circuit result := by
        simp [decidedCircuit, hreads]
      rw [hdecided] at hread h₁
      obtain ⟨w₂, hlog, h₂⟩ := h₁.log (.breakerRead (decidedCircuit readings circuit result).state)
      refine ⟨w₂, ?_, ?_⟩
      · simp only [Bool.not_true, Bool.false_eq_true, ↓reduceIte, hclosed, Bool.true_and]
        rw [Fallible.bind_ok hread, Fallible.bind_ok hlog]
        rfl
      · simpa [decisionActions, hreads] using h₂

end

/-! ## The whole call -/

section

variable (ports : Ports φ) (cfg : ControllerConfig) (readings : Readings)
  (incidentId : IncidentId) (ctx : Dict)

/-- The incident the call works on: the stored one, or a new one. -/
def loadedIncident (w : World φ) : Incident :=
  match w.incidents.getIncident incidentId with
  | some incident => incident
  | none =>
    let incident := newIncident cfg {} incidentId (readings.time .incidentCreated)
      (w.circuit.currentState (readings.breaker .incidentCreated)).state
    ((w.incidents.createIncident incident).getIncident incidentId).getD incident

/-- Creating an incident reads the breaker. -/
def loadedCircuit (w : World φ) : Circuit :=
  match w.incidents.getIncident incidentId with
  | some _ => w.circuit
  | none => w.circuit.currentState (readings.breaker .incidentCreated)

def attemptNumber (w : World φ) : ℕ :=
  (loadedIncident cfg readings incidentId w).recoveryAttempt + 1

/-- No remediation is running and the limit of attempts is not exceeded. -/
def PassesGuards (w : World φ) : Prop :=
  w.active = false ∧
    cfg.maxRecoveryAttempts.exceededBy (attemptNumber cfg readings incidentId w) = false

/-- `verify_quarantine` on the incident as the attempt saved it. -/
def quarantineVerified (w : World φ) : Bool :=
  verifyQuarantine (attempted (loadedIncident cfg readings incidentId w)) ctx

/-- What the source answers, once Flink is paused and the alert is sent. -/
def fetchOutcome (w : World φ) : Except Exc (List Dict) × φ :=
  ports.fetchForRecovery (.ofContext ctx incidentId)
    (ports.sendAlert (attempted (loadedIncident cfg readings incidentId w))
      (ports.pauseJob w.outside)).2

/-- The call gets as far as having events to re-validate. -/
structure Fetches (w : World φ) (events : List Dict) (outside : φ) : Prop where
  guards : PassesGuards cfg readings incidentId w
  quarantined : quarantineVerified cfg readings incidentId ctx w = true
  fetched : fetchOutcome ports cfg readings incidentId ctx w = (.ok events, outside)

/-- The call gets as far as having re-validated the events. -/
structure Revalidates (w : World φ) (events : List Dict) (result : ReprocessResult)
    (outside : φ) : Prop where
  fetches : ∃ o, Fetches ports cfg readings incidentId ctx w events o ∧
    ports.reprocessor.process events incidentId (attemptNumber cfg readings incidentId w) o =
      (.ok result, outside)

/-- The verdicts are those on `events`, and the result reports them. -/
structure Judged (attempt : ℕ) (events : List Dict) (verdicts : Reprocessor.Verdicts)
    (result : ReprocessResult) : Prop where
  events_eq : verdicts.map Prod.fst = events
  total_eq : result.totalProcessed = events.length
  reports : Reprocessor.Reports incidentId attempt result verdicts

def fetchActions (events : List Dict) : List Action :=
  [.entered .remediating, .flinkPaused, .entered .refetching, .fetched events,
    .entered .reprocessing]

/-- The ways a call ends: what it returns or raises, and the world it leaves. -/
inductive Ending (w : World φ) : Except Exc RemediationResult → World φ → Prop
  | skipped {answer} (hactive : w.active = true) (hfail : answer.success = false) :
    Ending w (.ok answer) w
  | exceeded {answer w'} (hactive : w.active = false)
    (hlimit : cfg.maxRecoveryAttempts.exceededBy (attemptNumber cfg readings incidentId w) = true)
    (hfail : answer.success = false) (hidle : w'.active = false)
    (h : Stands incidentId w w' .recoveryFailed (loadedIncident cfg readings incidentId w).status
      (loadedCircuit readings incidentId w) w.outside [.entered .recoveryFailed]) :
    Ending w (.ok answer) w'
  | quarantineFailed {answer w' o} (hguards : PassesGuards cfg readings incidentId w)
    (hquarantine : quarantineVerified cfg readings incidentId ctx w = false)
    (hfail : answer.success = false) (hidle : w'.active = false)
    (h : Stands incidentId w w' .recoveryFailed .recoveryFailed
      (loadedCircuit readings incidentId w) o
      [.entered .remediating, .flinkPaused, .entered .recoveryFailed]) :
    Ending w (.ok answer) w'
  | refetchFailed {answer w' e o} (hguards : PassesGuards cfg readings incidentId w)
    (hquarantine : quarantineVerified cfg readings incidentId ctx w = true)
    (hfetch : (fetchOutcome ports cfg readings incidentId ctx w).1 = .error e)
    (hfail : answer.success = false) (hidle : w'.active = false)
    (h : Stands incidentId w w' .recoveryFailed .recoveryFailed
      (loadedCircuit readings incidentId w) o
      [.entered .remediating, .flinkPaused, .entered .refetching, .entered .recoveryFailed]) :
    Ending w (.ok answer) w'
  | reprocessRaised {events verdicts w' e o o'}
    (hfetches : Fetches ports cfg readings incidentId ctx w events o)
    (hraised : (ports.reprocessor.process events incidentId
      (attemptNumber cfg readings incidentId w) o).1 = .error e)
    (hidle : w'.active = false)
    (h : Stands incidentId w w' .reprocessing .remediating (loadedCircuit readings incidentId w)
      o' (fetchActions events ++ verdictActions verdicts)) :
    Ending w (.error e) w'
  | breakerRaised {events verdicts result w' e o}
    (hrevalidates : Revalidates ports cfg readings incidentId ctx w events result o)
    (hclosed : ((loadedCircuit readings incidentId w).currentState
      (readings.breaker .probe)).state = .closed)
    (hidle : w'.active = false)
    (h : Stands incidentId w w' .validating .remediating
      ((probedCircuit readings (loadedCircuit readings incidentId w)).observed result.errorRate) o
      (fetchActions events ++ verdictActions verdicts ++ [.entered .validating])) :
    Ending w (.error e) w'
  | validationFailed {events verdicts result answer w' o}
    (hrevalidates : Revalidates ports cfg readings incidentId ctx w events result o)
    (hjudged : Judged incidentId (attemptNumber cfg readings incidentId w) events verdicts result)
    (hopen : ((loadedCircuit readings incidentId w).currentState
      (readings.breaker .probe)).state ≠ .closed)
    (hstop : ¬(result.isFullyValid = true ∧
      (decidedCircuit readings (loadedCircuit readings incidentId w) result).state = .closed))
    (hfail : answer.success = false) (hidle : w'.active = false)
    (h : Stands incidentId w w' .recoveryFailed .recoveryFailed
      (decidedCircuit readings (loadedCircuit readings incidentId w) result) o
      (fetchActions events ++ verdictActions verdicts ++ [.entered .validating] ++
        decisionActions readings (loadedCircuit readings incidentId w) result ++
        [.entered .recoveryFailed])) :
    Ending w (.ok answer) w'
  | sinkFailed {events verdicts result answer w' o o'}
    (hrevalidates : Revalidates ports cfg readings incidentId ctx w events result o)
    (hjudged : Judged incidentId (attemptNumber cfg readings incidentId w) events verdicts result)
    (hopen : ((loadedCircuit readings incidentId w).currentState
      (readings.breaker .probe)).state ≠ .closed)
    (hvalid : result.isFullyValid = true)
    (hclosed : (decidedCircuit readings (loadedCircuit readings incidentId w) result).state =
      .closed)
    (hsink : sinkSucceeds ports result.validEvents o = false)
    (hfail : answer.success = false) (hidle : w'.active = false)
    (h : Stands incidentId w w' .recoveryFailed .recoveryFailed
      (decidedCircuit readings (loadedCircuit readings incidentId w) result) o'
      (fetchActions events ++ verdictActions verdicts ++ [.entered .validating] ++
        decisionActions readings (loadedCircuit readings incidentId w) result ++
        [.entered .reIngesting, .sinkCalled result.validEvents false,
          .entered .recoveryFailed])) :
    Ending w (.ok answer) w'
  | completed {events verdicts result answer w' o o'}
    (hrevalidates : Revalidates ports cfg readings incidentId ctx w events result o)
    (hjudged : Judged incidentId (attemptNumber cfg readings incidentId w) events verdicts result)
    (hopen : ((loadedCircuit readings incidentId w).currentState
      (readings.breaker .probe)).state ≠ .closed)
    (hvalid : result.isFullyValid = true)
    (hclosed : (decidedCircuit readings (loadedCircuit readings incidentId w) result).state =
      .closed)
    (hsink : sinkSucceeds ports result.validEvents o = true)
    (hsuccess : answer.success = true) (hidle : w'.active = false)
    (h : Stands incidentId w w' .running .recovered
      (decidedCircuit readings (loadedCircuit readings incidentId w) result) o'
      (fetchActions events ++ verdictActions verdicts ++ [.entered .validating] ++
        decisionActions readings (loadedCircuit readings incidentId w) result ++
        [.entered .reIngesting, .sinkCalled result.validEvents true, .entered .resuming,
          .entered .running, .flinkResumed])) :
    Ending w (.ok answer) w'

variable {w w₁ : World φ}

theorem getOrCreateIncident_carries (w : World φ) :
    ∃ w', getOrCreateIncident cfg readings {} (some incidentId) w =
        (.ok (loadedIncident cfg readings incidentId w), w') ∧
      Carries incidentId w w' (loadedIncident cfg readings incidentId w).status
        (loadedCircuit readings incidentId w) w.outside [] ∧
      (loadedIncident cfg readings incidentId w).incidentId = incidentId := by
  simp only [getOrCreateIncident, Fallible.read_bind]
  cases hstored : w.incidents.getIncident incidentId with
  | some incident =>
    have hload : loadedIncident cfg readings incidentId w = incident := by
      simp only [loadedIncident, hstored]
    refine ⟨w, by rw [hload]; rfl, ⟨by rw [hload, hstored]; rfl, ?_, rfl, by simp⟩, ?_⟩
    · simp only [loadedCircuit, hstored]
    · rw [hload]
      exact Incidents.getIncident_id hstored
  | none =>
    let incident := newIncident cfg {} incidentId (readings.time .incidentCreated)
      (w.circuit.currentState (readings.breaker .incidentCreated)).state
    -- an incident that was created is found again under its id
    obtain ⟨row, hcreated, -, -⟩ := Incidents.getIncident_createIncident w.incidents incident
    have hrow : (w.incidents.createIncident incident).getIncident incidentId = some row := hcreated
    have hload : loadedIncident cfg readings incidentId w = row := by
      simp only [loadedIncident, hstored]
      exact congrArg (Option.getD · incident) hrow
    have hcreate : createIncident cfg readings {} incidentId w =
        (.ok (((w.incidents.createIncident incident).getIncident incidentId).getD incident),
          { w with
            circuit := w.circuit.currentState (readings.breaker .incidentCreated)
            incidents := w.incidents.createIncident incident }) := rfl
    rw [hrow, Option.getD_some] at hcreate
    refine ⟨{ w with
      circuit := w.circuit.currentState (readings.breaker .incidentCreated)
      incidents := w.incidents.createIncident incident }, ?_, ⟨?_, ?_, rfl, by simp⟩, ?_⟩
    · rw [hload]
      exact hcreate
    · rw [hload]
      exact congrArg (Option.map Incident.status) hrow
    · simp only [loadedCircuit, hstored]
    · rw [hload]
      exact Incidents.getIncident_id hrow

variable {ports cfg readings incidentId ctx}

/-- From the recovered payloads on, the call ends in one of the last five ways. -/
theorem reprocessAndReingest_ending {incident : Incident} {events : List Dict} {o : φ}
    (hfetches : Fetches ports cfg readings incidentId ctx w events o)
    (hid : incident.incidentId = incidentId)
    (h : Stands incidentId w w₁ .refetching .remediating (loadedCircuit readings incidentId w) o
      [.entered .remediating, .flinkPaused, .entered .refetching, .fetched events]) :
    ∃ out w', reprocessAndReingest ports readings incidentId incident
        (attemptNumber cfg readings incidentId w) events w₁ = (out, w') ∧
      Ending ports cfg readings incidentId ctx w out { w' with active := false } := by
  unfold reprocessAndReingest
  obtain ⟨w₂, henter, h₂⟩ := h.enterStage readings (attemptNumber cfg readings incidentId w)
    (text s!"Reprocessing {events.length} recovered events through QualityEngine")
    (show PipelineState.reprocessing ∈ _ by decide)
  rw [Fallible.bind_ok henter]
  obtain ⟨verdicts, w₃, hrevalidate, h₃, hjudged⟩ :=
    h₂.revalidate ports events (attemptNumber cfg readings incidentId w)
  rcases hprocess : ports.reprocessor.process events incidentId
    (attemptNumber cfg readings incidentId w) o with ⟨e | result, o'⟩
    -- nothing catches what the re-validation raises
  · rw [hprocess] at hrevalidate h₃
    refine ⟨.error e, w₃, Fallible.bind_error hrevalidate, ?_⟩
    exact .reprocessRaised hfetches (by rw [hprocess]) rfl h₃.idle
  rw [hprocess] at hrevalidate h₃ hjudged
  obtain ⟨hevents, htotal, hreports⟩ := hjudged result rfl
  have hrevalidates : Revalidates ports cfg readings incidentId ctx w events result o' :=
    ⟨o, hfetches, hprocess⟩
  rw [Fallible.bind_ok hrevalidate]
  obtain ⟨w₄, hvalidating, h₄⟩ := h₃.enterStage readings (attemptNumber cfg readings incidentId w)
    (text s!"Validating reprocessing outcome (error_rate={fixed 4 result.errorRate})")
    (show PipelineState.validating ∈ _ by decide)
  rw [Fallible.bind_ok hvalidating]
  by_cases hopen : ((loadedCircuit readings incidentId w).currentState
    (readings.breaker .probe)).state = .closed
    -- a result is not accepted by a `CLOSED` breaker
  · obtain ⟨e, w₅, hrefused, h₅⟩ := h₄.recordRecoveryResult_closed readings result.errorRate hopen
    exact ⟨.error e, w₅, Fallible.bind_error hrefused,
      .breakerRaised hrevalidates hopen rfl h₅.idle⟩
  obtain ⟨w₅, hrecord, h₅⟩ := h₄.recordRecoveryResult readings result hopen
  rw [Fallible.bind_ok hrecord]
  obtain ⟨w₆, hmay, h₆⟩ := h₅.mayReingest readings
  rw [Fallible.bind_ok hmay]
  by_cases hproceed : (result.isFullyValid &&
    (decidedCircuit readings (loadedCircuit readings incidentId w) result).state == .closed) = true
  · rw [if_pos hproceed]
    obtain ⟨hvalid, hclosed⟩ := by simpa using hproceed
    obtain ⟨w₇, hreingest, h₇⟩ := h₆.enterStage readings
      (attemptNumber cfg readings incidentId w)
      (text s!"Re-ingesting {result.validCount} validated events into Lakehouse")
      (show PipelineState.reIngesting ∈ _ by decide)
    rw [Fallible.bind_ok hreingest]
    obtain ⟨sink, w₈, hcall, hsuccess, h₈⟩ := h₇.callSink ports result.validEvents
    rw [Fallible.bind_ok hcall, hsuccess]
    cases hsink : sinkSucceeds ports result.validEvents o' with
    | true =>
      rw [hsink] at h₈
      obtain ⟨answer, w₉, hcomplete, hsuccess, h₉⟩ := h₈.complete ports readings hid
        (attemptNumber cfg readings incidentId w) result sink
      refine ⟨.ok answer, w₉, by rw [if_pos rfl, hcomplete], .completed hrevalidates
        ⟨hevents, htotal, hreports⟩ hopen hvalid hclosed hsink hsuccess rfl
        (h₉.idle.congr (by simp [fetchActions]))⟩
    | false =>
      rw [hsink] at h₈
      obtain ⟨answer, w₉, hfailed, hfail, h₉⟩ := h₈.sinkFailed ports readings hid
        (attemptNumber cfg readings incidentId w) result sink
      refine ⟨.ok answer, w₉, by rw [if_neg Bool.false_ne_true, hfailed], .sinkFailed hrevalidates
        ⟨hevents, htotal, hreports⟩ hopen hvalid hclosed hsink hfail rfl
        (h₉.idle.congr (by simp [fetchActions]))⟩
  · rw [if_neg hproceed]
    obtain ⟨answer, w₇, hfailed, hfail, h₇⟩ := h₆.validationFailed ports readings hid
      (attemptNumber cfg readings incidentId w) result
    refine ⟨.ok answer, w₇, hfailed, .validationFailed hrevalidates
      ⟨hevents, htotal, hreports⟩ hopen (by simpa using hproceed) hfail rfl (h₇.idle.congr (by simp [fetchActions]))⟩

theorem recover_ending {o : φ} (hguards : PassesGuards cfg readings incidentId w)
    (hid : (loadedIncident cfg readings incidentId w).incidentId = incidentId)
    (ho : o = ports.pauseJob w.outside)
    (h : Stands incidentId w w₁ .remediating .remediating (loadedCircuit readings incidentId w) o
      [.entered .remediating, .flinkPaused]) :
    ∃ out w', recover ports readings incidentId
        (attempted (loadedIncident cfg readings incidentId w))
        (attemptNumber cfg readings incidentId w) ctx w₁ = (out, w') ∧
      Ending ports cfg readings incidentId ctx w out { w' with active := false } := by
  unfold recover
  cases hquarantine : quarantineVerified cfg readings incidentId ctx w with
  | false =>
    have hverify : verifyQuarantine (attempted (loadedIncident cfg readings incidentId w)) ctx =
      false := hquarantine
    simp only [hverify, Bool.not_false, ↓reduceIte]
    obtain ⟨w₂, hfailed, h₂⟩ := h.recordFailure readings
      (attempted (loadedIncident cfg readings incidentId w)) hid
      (attemptNumber cfg readings incidentId w)
      "Quarantine verification failed. Invalid records not persisted."
    rw [Fallible.bind_ok hfailed]
    obtain ⟨w₃, hrecord, h₃⟩ := h₂.recordAttempt _
    rw [Fallible.bind_ok hrecord]
    exact ⟨_, _, rfl, .quarantineFailed hguards hquarantine rfl rfl (h₃.idle.congr rfl)⟩
  | true =>
    have hverify : verifyQuarantine (attempted (loadedIncident cfg readings incidentId w)) ctx =
      true := hquarantine
    simp only [hverify, Bool.not_true, Bool.false_eq_true, ↓reduceIte]
    obtain ⟨w₂, hsend, h₂⟩ := h.sendAlert ports readings
      (attempted (loadedIncident cfg readings incidentId w))
      (attemptNumber cfg readings incidentId w)
    rw [Fallible.bind_ok hsend]
    obtain ⟨w₃, henter, h₃⟩ := h₂.enterStage readings (attemptNumber cfg readings incidentId w)
      (text "Re-fetching source data from " ++ ports.sourceReference)
      (show PipelineState.refetching ∈ _ by decide)
    rw [Fallible.bind_ok henter]
    obtain ⟨w₄, hfetch, h₄⟩ := h₃.onOutside (ports.fetchForRecovery (.ofContext ctx incidentId))
    rw [Fallible.attempt_bind, hfetch]
    subst ho
    rcases hfetched : fetchOutcome ports cfg readings incidentId ctx w with ⟨e | events, o'⟩
    · have hfetched' := hfetched
      unfold fetchOutcome at hfetched'
      rw [hfetched'] at h₄ ⊢
      obtain ⟨w₅, hfailed, h₅⟩ := h₄.recordFailure readings
        (attempted (loadedIncident cfg readings incidentId w)) hid
        (attemptNumber cfg readings incidentId w) (text "Source re-fetch failed: " ++ e.message)
      simp only
      rw [Fallible.bind_ok hfailed]
      exact ⟨_, _, rfl, .refetchFailed hguards hquarantine (by rw [hfetched]) rfl rfl
        (h₅.idle.congr rfl)⟩
    · have hfetched' := hfetched
      unfold fetchOutcome at hfetched'
      rw [hfetched'] at h₄ ⊢
      obtain ⟨w₅, hlog, h₅⟩ := h₄.log (.fetched events)
      simp only
      rw [Fallible.bind_ok hlog]
      exact reprocessAndReingest_ending ⟨hguards, hquarantine, hfetched⟩ hid h₅

theorem executeRemediation_ends (w : World φ) :
    ∃ out w', executeRemediation ports cfg readings incidentId ctx w = (out, w') ∧
      Ending ports cfg readings incidentId ctx w out w' := by
  simp only [executeRemediation, Fallible.read_bind]
  cases hactive : w.active with
  | true => exact ⟨_, _, rfl, .skipped hactive rfl⟩
  | false =>
    simp only [Bool.false_eq_true, ↓reduceIte, Fallible.update_bind, Fallible.ensuring]
    -- the flag is cleared however the workflow ends
    suffices h : ∃ out w', remediate ports cfg readings incidentId ctx { w with active := true } =
        (out, w') ∧ Ending ports cfg readings incidentId ctx w out { w' with active := false } by
      obtain ⟨out, w', hrun, hending⟩ := h
      exact ⟨out, _, by rw [hrun], hending⟩
    unfold remediate
    obtain ⟨w₁, hload, h₁, hid⟩ :=
      getOrCreateIncident_carries cfg readings incidentId { w with active := true }
    rw [Fallible.bind_ok hload]
    have hcarries : Carries incidentId w w₁ (loadedIncident cfg readings incidentId w).status
        (loadedCircuit readings incidentId w) w.outside [] :=
      ⟨h₁.status_eq, h₁.circuit_eq, h₁.outside_eq, h₁.trace_eq⟩
    change ∃ out w', (if cfg.maxRecoveryAttempts.exceededBy
      (attemptNumber cfg readings incidentId w) = true then _ else _ : WorldM φ RemediationResult)
      w₁ = (out, w') ∧ _
    by_cases hlimit : cfg.maxRecoveryAttempts.exceededBy
      (attemptNumber cfg readings incidentId w) = true
    · rw [if_pos hlimit]
      obtain ⟨answer, w₂, hexceeded, hfail, h₂⟩ :=
        hcarries.maxAttemptsExceeded readings cfg (attemptNumber cfg readings incidentId w)
      exact ⟨_, w₂, hexceeded, .exceeded hactive hlimit hfail rfl h₂.idle⟩
    · rw [if_neg hlimit]
      obtain ⟨w₂, hbegin, h₂⟩ := hcarries.beginAttempt ports readings
        (attempted (loadedIncident cfg readings incidentId w)) hid
        (attemptNumber cfg readings incidentId w)
      obtain ⟨out, w₃, (hrecover : recover ports readings incidentId _ _ ctx w₂ = _), hending⟩ :=
        recover_ending ⟨hactive, by simpa using hlimit⟩ hid rfl h₂
      exact ⟨out, w₃, (Fallible.bind_ok hbegin).trans hrecover, hending⟩

variable (ports cfg readings incidentId ctx)

/-- Every call ends in one of the listed ways. -/
theorem executeRemediation_ending (w : World φ) :
    Ending ports cfg readings incidentId ctx w
      (executeRemediation ports cfg readings incidentId ctx w).1
      (executeRemediation ports cfg readings incidentId ctx w).2 := by
  obtain ⟨out, w', hrun, hending⟩ :
      ∃ out w', executeRemediation ports cfg readings incidentId ctx w = (out, w') ∧ _ :=
    executeRemediation_ends w
  rw [hrun]
  exact hending

end
end IceStream.Remediation
