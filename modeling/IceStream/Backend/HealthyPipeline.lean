import IceStream.Backend.PipelineService
import IceStream.Lib.Preserves
import IceStream.Remediation.Outcomes
import IceStream.Streaming.TripLaw

/-!
# Recovering a healthy pipeline

A request without an incident should be refused while the pipeline is `RUNNING`
and the breaker `CLOSED`. It falls back on the incident that the row names, and
a remediation that succeeded leaves its own there.
-/

namespace IceStream.Backend
open Python Metrics Remediation Streaming Stepping

variable {φ : Type}

/-- A `RUNNING` pipeline names no incident. -/
def Discharged (w : World φ) : Prop :=
  w.pipeline.state = .running → w.pipeline.row.activeIncidentId = none

theorem discharged_of_state {w : World φ} (h : w.pipeline.state ≠ .running) : Discharged w :=
  fun hrunning => absurd hrunning h

/-- A transition that leaves `RUNNING` out, or names no incident. -/
theorem preserves_enter (readings : Readings) {t : Transition}
    (h : t.toState = .running → t.incidentId = none) :
    Fallible.Preserves (Discharged (φ := φ)) (World.enter readings t) := by
  intro w hw
  cases hallows : w.pipeline.allows t with
  | true =>
    rw [enter_of_allows hallows]
    exact h
  | false =>
    have hraise : (World.enter readings t w).2 = w := by
      simp only [World.enter, Pipeline.transitionTo, hallows, Bool.false_eq_true, ↓reduceIte]
    rw [hraise]
    exact hw

theorem preserves_getOrCreateIncident (cfg : ControllerConfig) (readings : Readings)
    (request : IncidentRequest) (id : Option IncidentId) :
    Fallible.Preserves (Discharged (φ := φ)) (getOrCreateIncident cfg readings request id) := by
  refine (Fallible.preserves_read _).bind fun incidents => ?_
  dsimp only
  split
  · exact Fallible.preserves_pure _
  · unfold createIncident
    refine Fallible.Preserves.bind (fun _ hw => hw) fun state => ?_
    refine Fallible.Preserves.bind (fun _ hw => hw) fun _ => ?_
    exact Fallible.preserves_read _

/-! ## The validator's calls -/

section

variable (v : StreamQualityValidator φ) (readings : StreamReadings)

/-- What the validator changes besides the pipeline's row does not count. -/
abbrev Streams (s : StreamWorld φ) : Prop := Discharged s.control

theorem preserves_onControl {α : Type} {x : WorldM φ α}
    (hx : Fallible.Preserves Discharged x) :
    Fallible.Preserves Streams (StreamWorld.onControl x) :=
  fun s hs => hx s.control hs

theorem preserves_autoRoute (d : Dict) (summary : ValidationSummary) :
    Fallible.Preserves Streams (autoRoute v readings d summary) := by
  unfold autoRoute
  split
  · exact Fallible.Preserves.bind (fun _ hs => hs) fun _ => Fallible.preserves_pure _
  · exact Fallible.preserves_pure _

theorem preserves_circuitState (reading : Reading) :
    Fallible.Preserves (Streams (φ := φ)) (StreamWorld.onControl (World.circuitState reading)) :=
  preserves_onControl fun _ hw => hw

theorem preserves_handleMalformedPayload (payload errorMsg : Text) :
    Fallible.Preserves Streams (handleMalformedPayload v readings payload errorMsg) := by
  unfold handleMalformedPayload
  refine Fallible.Preserves.bind (fun _ hs => hs) fun _ => ?_
  refine (preserves_autoRoute v readings _ _).bind fun _ => ?_
  refine Fallible.Preserves.bind (fun _ hs => hs) fun _ => ?_
  exact (preserves_circuitState _).bind fun _ => Fallible.preserves_pure _

theorem preserves_openIncident (metrics : ErrorRateMetrics) :
    Fallible.Preserves Streams (openIncident v readings metrics) := by
  unfold openIncident
  split
  · exact Fallible.preserves_pure _
  · refine (preserves_onControl (preserves_getOrCreateIncident _ _ _ _)).bind fun incident => ?_
    cases v.autoRemediate with
    | true => exact Fallible.Preserves.bind (fun _ hs => hs) fun _ => Fallible.preserves_pure _
    | false => exact Fallible.preserves_pure _

/-- A trip takes the pipeline to `CIRCUIT_OPEN`, or nowhere. -/
theorem preserves_tripped (metrics : ErrorRateMetrics) :
    Fallible.Preserves Streams (tripped v readings metrics) := by
  unfold tripped
  refine (preserves_openIncident v readings metrics).attempt.bind fun opened => ?_
  dsimp only
  split
  · have henter : Fallible.Preserves Discharged (World.enter readings.control
        (circuitOpenTransition metrics opened.toOption.join) : WorldM φ Unit) :=
      preserves_enter _ fun h => by cases h
    exact (preserves_onControl henter).attempt.bind fun _ => Fallible.preserves_pure _
  · exact Fallible.preserves_pure _

theorem preserves_evaluateCircuit (metrics : ErrorRateMetrics) :
    Fallible.Preserves Streams (evaluateCircuit v readings metrics) := by
  unfold evaluateCircuit
  refine (preserves_circuitState _).bind fun oldState => ?_
  refine Fallible.Preserves.bind (fun _ hs => hs) fun newState => ?_
  refine (Fallible.preserves_read _).bind fun threshold => ?_
  split
  · exact Fallible.Preserves.bind (fun _ hs => hs) fun _ => Fallible.preserves_pure _
  · split
    · exact preserves_tripped v readings metrics
    · exact Fallible.preserves_pure _

theorem preserves_invalidExit (d : Dict) (eventId : Json) (summary : ValidationSummary) :
    Fallible.Preserves Streams (invalidExit v readings d eventId summary) := by
  unfold invalidExit
  refine (preserves_autoRoute v readings _ _).attempt.bind fun routed => ?_
  refine Fallible.Preserves.bind (fun _ hs => hs) fun metrics => ?_
  dsimp only
  split
  · refine (preserves_evaluateCircuit v readings metrics).bind fun incidentId => ?_
    exact (preserves_circuitState _).bind fun _ => Fallible.preserves_pure _
  · refine (Fallible.preserves_pure none).bind fun incidentId => ?_
    exact (preserves_circuitState _).bind fun _ => Fallible.preserves_pure _

theorem preserves_validateDict (raw : Option Dict) (eventId : Json) :
    Fallible.Preserves Streams (validateDict v readings raw eventId) := by
  unfold validateDict
  refine Fallible.Preserves.bind (fun _ hs => hs) fun validated => ?_
  cases validated with
  | error e => exact preserves_handleMalformedPayload v readings _ _
  | ok summary =>
    refine Fallible.Preserves.bind (fun _ hs => hs) fun _ => ?_
    split
    · refine (preserves_circuitState _).bind fun _ => ?_
      exact Fallible.Preserves.bind (fun _ hs => hs) fun _ => Fallible.preserves_pure _
    · exact preserves_invalidExit v readings _ _ _

theorem preserves_validateEvent (payload : Payload) :
    Fallible.Preserves Streams (validateEvent v readings payload) := by
  unfold validateEvent
  split
  · exact preserves_handleMalformedPayload v readings _ _
  · exact preserves_validateDict v readings _ _
  · exact preserves_validateDict v readings _ _
  · exact Fallible.preserves_raise _

end

/-! ## The service's requests -/

namespace PipelineService

section

variable (service : PipelineService φ) (readings : ServiceReadings)

theorem preserves_badRequest {α : Type} {x : WorldM φ α} (hx : Fallible.Preserves Discharged x) :
    Fallible.Preserves Discharged (badRequest x) :=
  hx.catching fun _ => Fallible.preserves_raise _

/-- The transitions of `pause` and `resume` name no incident. -/
theorem preserves_pause (reason : Option Text) :
    Fallible.Preserves Discharged (service.pause readings reason) := by
  unfold pause
  refine (Fallible.preserves_read _).bind fun row => ?_
  split
  · exact Fallible.preserves_pure _
  · refine Fallible.Preserves.bind (fun _ hw => hw) fun _ => ?_
    refine Fallible.Preserves.bind (fun _ hw => hw) fun _ => ?_
    exact (preserves_badRequest (preserves_enter _ fun _ => rfl)).bind fun _ =>
      Fallible.preserves_pure _

theorem preserves_resume (reason : Option Text) :
    Fallible.Preserves Discharged (service.resume readings reason) := by
  unfold resume
  refine Fallible.Preserves.bind (fun _ hw => hw) fun state => ?_
  split
  · exact Fallible.preserves_raise _
  · refine (Fallible.preserves_read _).bind fun row => ?_
    split
    · exact Fallible.preserves_pure _
    · refine Fallible.Preserves.bind (fun _ hw => hw) fun _ => ?_
      refine Fallible.Preserves.bind (fun _ hw => hw) fun _ => ?_
      exact (preserves_badRequest (preserves_enter _ fun _ => rfl)).bind fun _ =>
        Fallible.preserves_pure _

theorem preserves_recoveryIncident (row : PipelineRow) (requested : Option IncidentId) :
    Fallible.Preserves Discharged (service.recoveryIncident readings row requested) := by
  cases requested with
  | some incidentId => exact Fallible.preserves_pure _
  | none =>
    have hhealthy : Fallible.Preserves (Discharged (φ := φ)) (healthy readings row) := by
      unfold healthy
      split
      · exact Fallible.Preserves.bind (fun _ hw => hw) fun _ => Fallible.preserves_pure _
      · exact Fallible.preserves_pure _
    refine hhealthy.bind fun refuses => ?_
    split
    · exact Fallible.preserves_raise _
    · exact (preserves_getOrCreateIncident _ _ _ _).bind fun _ => Fallible.preserves_pure _

/-- A remediation that does not heal leaves the pipeline as it was or not `RUNNING`. -/
theorem discharged_executeRemediation (cfg : ControllerConfig) (ports : Ports φ)
    (readings : Readings) (incidentId : IncidentId) (ctx : Dict) {w : World φ}
    (hw : Discharged w) (hheals : ¬Heals ports cfg readings incidentId ctx w) :
    Discharged (executeRemediation ports cfg readings incidentId ctx w).2 := by
  have hending := executeRemediation_ending ports cfg readings incidentId ctx w
  have hfail := Bool.eq_false_iff.mpr fun hsuccess => hheals (hending.success_iff.mp hsuccess)
  obtain hsame | hstate := hending.of_failure hfail
  · rw [hsame]
    exact hw
  · exact discharged_of_state hstate

/-- The remediation that a request starts heals the pipeline. -/
def RecoverHeals (incidentId : Option IncidentId) (ctx : Dict) (w : World φ) : Prop :=
  inProgress w.pipeline.state = false ∧ ∃ target w₁,
    service.recoveryIncident readings w.pipeline.row (incidentId <|> w.pipeline.row.activeIncidentId)
      w = (.ok target, w₁) ∧
    Heals service.ports service.cfg readings.control target ctx w₁

/-- What a request does once it has read the row. -/
theorem recover_eq (incidentId : Option IncidentId) (ctx : Dict) (w : World φ) :
    service.recover readings incidentId ctx w =
      (if inProgress w.pipeline.state then
        pure (alreadyRunning w.pipeline.row (incidentId <|> w.pipeline.row.activeIncidentId))
      else service.recoveryIncident readings w.pipeline.row
        (incidentId <|> w.pipeline.row.activeIncidentId) >>= fun target =>
          service.startRemediation readings target ctx : WorldM φ RecoveryResponse) w := rfl

theorem recover_of_target {incidentId : Option IncidentId} {ctx : Dict} {w w₁ : World φ}
    {target : IncidentId} (hprogress : inProgress w.pipeline.state = false)
    (htarget : service.recoveryIncident readings w.pipeline.row
      (incidentId <|> w.pipeline.row.activeIncidentId) w = (.ok target, w₁)) :
    service.recover readings incidentId ctx w =
      service.startRemediation readings target ctx w₁ := by
  rw [recover_eq, hprogress, if_neg Bool.false_ne_true, Fallible.bind_ok htarget]

theorem recover_of_error {incidentId : Option IncidentId} {ctx : Dict} {w w₁ : World φ} {e : Exc}
    (hprogress : inProgress w.pipeline.state = false)
    (hrefused : service.recoveryIncident readings w.pipeline.row
      (incidentId <|> w.pipeline.row.activeIncidentId) w = (.error e, w₁)) :
    service.recover readings incidentId ctx w = (.error e, w₁) := by
  rw [recover_eq, hprogress, if_neg Bool.false_ne_true, Fallible.bind_error hrefused]

theorem discharged_recover (incidentId : Option IncidentId) (ctx : Dict) {w : World φ}
    (hw : Discharged w) (hheals : ¬service.RecoverHeals readings incidentId ctx w) :
    Discharged (service.recover readings incidentId ctx w).2 := by
  cases hprogress : inProgress w.pipeline.state with
  | true =>
    rw [recover_eq, hprogress, if_pos rfl]
    exact hw
  | false =>
    have hincident := service.preserves_recoveryIncident readings w.pipeline.row
      (incidentId <|> w.pipeline.row.activeIncidentId) w hw
    rcases htarget : service.recoveryIncident readings w.pipeline.row
      (incidentId <|> w.pipeline.row.activeIncidentId) w with ⟨e | target, w₁⟩
    · rw [htarget] at hincident
      rw [service.recover_of_error readings hprogress htarget]
      exact hincident
    · rw [htarget] at hincident
      rw [service.recover_of_target readings hprogress htarget, startRemediation_world]
      exact discharged_executeRemediation _ _ _ _ _ hincident
        fun hheals' => hheals ⟨hprogress, target, w₁, htarget, hheals'⟩

end

/-! ## The refusal -/

/-- What a refused request must leave alone. -/
structure Untouched (w w' : World φ) : Prop where
  pipeline : w'.pipeline = w.pipeline
  incidents : w'.incidents = w.incidents
  outside : w'.outside = w.outside
  trace : w'.trace = w.trace

/-- Whoever asks without an incident while the pipeline is `RUNNING` and the
breaker reads `CLOSED` is refused. -/
def RefusesRecovery (service : PipelineService φ) (w : World φ) : Prop :=
  w.pipeline.state = .running → ∀ readings : ServiceReadings, ∀ ctx : Dict,
    (w.circuit.currentState readings.breaker).state = .closed →
    ∃ w', service.recover readings none ctx w = (.error recoveryNotRequired, w') ∧ Untouched w w'

section

variable {service : PipelineService φ} {w : World φ}

theorem refusesRecovery_of_discharged (h : Discharged w) : service.RefusesRecovery w := by
  intro hrunning readings ctx hclosed
  have hprogress : inProgress w.pipeline.state = false := by rw [hrunning]; rfl
  have hhealthy : healthy readings w.pipeline.row w =
      (.ok true, { w with circuit := w.circuit.currentState readings.breaker }) := by
    have hread : World.circuitState readings.breaker w = (.ok .closed,
        { w with circuit := w.circuit.currentState readings.breaker }) := by
      simp only [World.circuitState, hclosed]
    rw [healthy, if_pos hrunning, Fallible.bind_ok hread]
    rfl
  refine ⟨{ w with circuit := w.circuit.currentState readings.breaker }, ?_, rfl, rfl, rfl, rfl⟩
  apply service.recover_of_error readings hprogress
  rw [h hrunning]
  change (healthy readings w.pipeline.row >>= _) w = _
  rw [Fallible.bind_ok hhealthy]
  rfl

/-- A reading of the breaker at which its row does not answer. -/
theorem exists_reading_closed (h : w.circuit.state = .closed) :
    ∃ reading, (w.circuit.currentState reading).state = .closed := by
  -- a read that fails leaves the copy as it is
  refine ⟨⟨0, 0, false, true, true⟩, ?_⟩
  have hunadopted : w.circuit.adopted ⟨0, 0, false, true, true⟩ = none := by
    simp [Circuit.adopted]
  have hsync : (w.circuit.sync ⟨0, 0, false, true, true⟩).state = .closed := by
    rw [Circuit.sync_state, hunadopted]
    exact h
  simp [Circuit.currentState, Circuit.checkTimeout, hsync]

/-- While the row names an incident the request starts a remediation. -/
theorem not_refusesRecovery (hrunning : w.pipeline.state = .running)
    (hnamed : w.pipeline.row.activeIncidentId.isSome = true)
    (hclosed : w.circuit.state = .closed) : ¬service.RefusesRecovery w := by
  intro hrefuses
  obtain ⟨incidentId, hid⟩ := Option.isSome_iff_exists.mp hnamed
  obtain ⟨reading, hreading⟩ := exists_reading_closed hclosed
  let readings : ServiceReadings := ⟨reading, ⟨fun _ => 0, fun _ => reading, incidentId⟩, 0⟩
  obtain ⟨w', hrefused, huntouched⟩ := hrefuses hrunning readings [] hreading
  have hprogress : inProgress w.pipeline.state = false := by rw [hrunning]; rfl
  have htarget : service.recoveryIncident readings w.pipeline.row
      (none <|> w.pipeline.row.activeIncidentId) w = (.ok incidentId, w) := by
    rw [hid]
    rfl
  rw [service.recover_of_target readings hprogress htarget] at hrefused
  have hworld := service.startRemediation_world readings incidentId [] w
  rw [hrefused] at hworld
  have hending := executeRemediation_ending service.ports service.cfg readings.control incidentId
    [] w
  cases hout : (executeRemediation service.ports service.cfg readings.control incidentId [] w).1
    with
  | ok result =>
    obtain ⟨answer, hanswer⟩ := service.startRemediation_answers readings incidentId [] w hout
    rw [hrefused] at hanswer
    cases hanswer
  | error e =>
    rw [hout, ← hworld] at hending
    -- a remediation that raises has left `RUNNING`, and a refusal changes nothing
    apply hending.of_raised
    rw [← hrunning]
    exact congrArg Pipeline.state huntouched.pipeline

end

/-! ## Runs -/

inductive ServiceAction
  | stream (a : StreamAction)
  | pause (reason : Option Text) (readings : ServiceReadings)
  | resume (reason : Option Text) (readings : ServiceReadings)
  /-- A remediation that the validator's thread starts, or whoever has the controller. -/
  | remediate (incidentId : IncidentId) (ctx : Dict) (readings : Readings)
  | recover (incidentId : Option IncidentId) (ctx : Dict) (readings : ServiceReadings)

section

variable (service : PipelineService φ) (v : StreamQualityValidator φ)

def serviceStep (s : StreamWorld φ) : ServiceAction → Option (StreamWorld φ)
  | .stream a => streamStep v s a
  | .pause reason readings => some (StreamWorld.onControl (service.pause readings reason) s).2
  | .resume reason readings => some (StreamWorld.onControl (service.resume readings reason) s).2
  | .remediate incidentId ctx readings => some (StreamWorld.onControl
      (executeRemediation service.ports service.cfg readings incidentId ctx) s).2
  | .recover incidentId ctx readings =>
    some (StreamWorld.onControl (service.recover readings incidentId ctx) s).2

/-- The step is no remediation that heals the pipeline. -/
def HealsNothing (s : StreamWorld φ) (a : ServiceAction) (_ : StreamWorld φ) : Prop :=
  match a with
  | .remediate incidentId ctx readings =>
    ¬Heals service.ports service.cfg readings incidentId ctx s.control
  | .recover incidentId ctx readings => ¬service.RecoverHeals readings incidentId ctx s.control
  | _ => True

/-- The world with a new pipeline. -/
def withNewPipeline (now : Date) (initialState : PipelineState) (s : StreamWorld φ) :
    StreamWorld φ :=
  { s with control := { s.control with pipeline := .init now initialState } }

variable {service v} {s t : StreamWorld φ} {a : ServiceAction}

theorem discharged_step (hs : Discharged s.control) (ht : serviceStep service v s a = some t)
    (hheals : HealsNothing service s a t) : Discharged t.control := by
  cases a with
  | stream a =>
    cases a with
    | event payload readings =>
      obtain rfl := Option.some.inj ht
      exact preserves_validateEvent v readings payload s hs
    | background breaker storage =>
      obtain rfl := Option.some.inj ht
      exact hs
  | pause reason readings =>
    obtain rfl := Option.some.inj ht
    exact service.preserves_pause readings reason s.control hs
  | resume reason readings =>
    obtain rfl := Option.some.inj ht
    exact service.preserves_resume readings reason s.control hs
  | remediate incidentId ctx readings =>
    obtain rfl := Option.some.inj ht
    exact discharged_executeRemediation _ _ _ _ _ hs hheals
  | recover incidentId ctx readings =>
    obtain rfl := Option.some.inj ht
    exact service.discharged_recover readings incidentId ctx hs hheals

theorem not_refusesRecovery_of_heals {readings : Readings} {incidentId : IncidentId} {ctx : Dict}
    {w : World φ} (h : Heals service.ports service.cfg readings incidentId ctx w) :
    ¬service.RefusesRecovery
      (executeRemediation service.ports service.cfg readings incidentId ctx w).2 := by
  have hending := executeRemediation_ending service.ports service.cfg readings incidentId ctx w
  obtain ⟨hrunning, hid, hclosed⟩ := hending.of_success (hending.success_iff.mpr h)
  exact not_refusesRecovery hrunning (by rw [hid]; rfl) hclosed

/-- A step that heals the pipeline leaves one that recovers again. -/
theorem healsNothing_of_refuses (ht : serviceStep service v s a = some t)
    (hrefuses : service.RefusesRecovery t.control) : HealsNothing service s a t := by
  cases a with
  | remediate incidentId ctx readings =>
    intro hheals
    obtain rfl := Option.some.inj ht
    exact not_refusesRecovery_of_heals hheals hrefuses
  | recover incidentId ctx readings =>
    rintro ⟨hprogress, target, w₁, htarget, hheals⟩
    obtain rfl := Option.some.inj ht
    apply not_refusesRecovery_of_heals hheals
    have hworld : (service.recover readings incidentId ctx s.control).2 =
        (executeRemediation service.ports service.cfg readings.control target ctx w₁).2 := by
      rw [service.recover_of_target readings hprogress htarget, startRemediation_world]
    rw [← hworld]
    exact hrefuses
  | _ => trivial

variable (service v)

/-- From a new pipeline on, a request to recover a healthy pipeline is refused in
every state of a run just in case no remediation of the run heals the pipeline. -/
theorem recovery_refused_iff (now : Date) (initialState : PipelineState) (s : StreamWorld φ)
    (actions : List ServiceAction) :
    service.RefusesRecovery (withNewPipeline now initialState s).control ∧
      AllSteps (serviceStep service v) (fun _ _ t => service.RefusesRecovery t.control)
        (withNewPipeline now initialState s) actions ↔
    AllSteps (serviceStep service v) (HealsNothing service)
      (withNewPipeline now initialState s) actions := by
  have hnew : Discharged (withNewPipeline now initialState s).control := fun _ => rfl
  rw [and_iff_right (refusesRecovery_of_discharged hnew)]
  apply allSteps_iff_of_invariant (I := fun s => Discharged s.control)
  · intro s a t hs ht
    constructor
    · exact healsNothing_of_refuses ht
    · intro hheals
      exact refusesRecovery_of_discharged (discharged_step hs ht hheals)
  · intro s a t hs ht hheals
    exact discharged_step hs ht hheals
  · exact hnew

end

/-! ### A trip and a recovery -/

def exampleService : PipelineService Unit := ⟨"icestream", examplePorts true, exampleConfig⟩

/-- A validator with a controller and a state manager. -/
def trippingValidator : StreamQualityValidator Unit :=
  { exampleValidator with
    controller := some exampleConfig
    hasStateManager := true }

def exampleRequest : ServiceReadings := ⟨exampleReading, Remediation.exampleReadings, 0⟩

/-- An invalid event trips the breaker, and the recovery that is asked for succeeds. -/
def tripAndRecover : List ServiceAction :=
  [.stream (.event (.dict []) Streaming.exampleReadings), .recover none [] exampleRequest]

/-- The row of the recovered pipeline names the incident: the next request starts
another remediation. -/
theorem recovered_pipeline_recovers_again :
    ¬(exampleService.RefusesRecovery
        (withNewPipeline 0 .running (exampleStream closedCircuit)).control ∧
      AllSteps (serviceStep exampleService trippingValidator)
        (fun _ _ t => exampleService.RefusesRecovery t.control)
        (withNewPipeline 0 .running (exampleStream closedCircuit)) tripAndRecover) := by
  rintro ⟨-, hall⟩
  obtain ⟨-, hrest⟩ := hall _ rfl
  obtain ⟨hrefuses, -⟩ := hrest _ rfl
  exact not_refusesRecovery (by decide +kernel) (by decide +kernel) (by decide +kernel) hrefuses

end PipelineService
end IceStream.Backend
