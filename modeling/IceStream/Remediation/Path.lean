import IceStream.Lib.Preserves
import IceStream.Remediation.Stepwise

/-!
# The path of the remediation

Which transition follows which, whatever the services answer: from `REMEDIATING`
along the legal transitions to `RUNNING`, or by force to `RECOVERY_FAILED`. Only
the way to `RUNNING` ends in a success.
-/

namespace IceStream
open Python

namespace Remediation
open World Resumption

variable {φ : Type}

/-- From one state to the next along the legal transitions, or by force. From `RUNNING`
nothing leads on, and nothing raises there. Only a transition touches the pipeline. -/
def healingPath : Protocol (World φ) TransitionCall (Option PipelineState) where
  next c := some c.transition.toState
  Allows entered c := entered ≠ some .running ∧ (c.transition.force = true ∨
    ∃ last, entered = some last ∧ c.transition.toState ∈ last.validTransitions)
  MayRaise entered := entered ≠ some .running
  Private f := ∀ w, (f w).pipeline = w.pipeline

/-- A result is a success just in case the pipeline entered `RUNNING`. -/
def Final (entered : Option PipelineState) (result : RemediationResult) : Prop :=
  result.success = true ↔ entered = some .running

/-- The computation leaves the pipeline alone. -/
def Quiet {α : Type} (x : WorldM φ α) : Prop := ∀ w, (x w).2.pipeline = w.pipeline

theorem Quiet.bind {α β : Type} {x : WorldM φ α} {f : α → WorldM φ β} (hx : Quiet x)
    (hf : ∀ a, Quiet (f a)) : Quiet (x >>= f) := by
  intro w
  have hstep := hx w
  rcases hxw : x w with ⟨e | a, w'⟩
  · rw [Fallible.bind_error hxw]
    rw [hxw] at hstep
    exact hstep
  · rw [Fallible.bind_ok hxw, hf a w']
    rw [hxw] at hstep
    exact hstep

section

variable {ports : Ports φ} {cfg : ControllerConfig} {readings : Readings}
  {incidentId : IncidentId} {entered : Option PipelineState}

theorem quiet_circuitState (reading : Reading) : Quiet (circuitState reading : WorldM φ _) :=
  fun _ => rfl

theorem quiet_getOrCreateIncident (request : IncidentRequest) (id : Option IncidentId) :
    Quiet (getOrCreateIncident cfg readings request id : WorldM φ Incident) := by
  have hcreate (id : IncidentId) :
      Quiet (createIncident cfg readings request id : WorldM φ Incident) := by
    refine (quiet_circuitState _).bind fun state => ?_
    have hsave (incident : Incident) : Quiet (saveIncident incident : WorldM φ Unit) := fun _ => rfl
    exact (hsave _).bind fun _ _ => rfl
  have hread : Quiet (Fallible.read World.incidents : WorldM φ Incidents) := fun _ => rfl
  refine hread.bind fun incidents => ?_
  dsimp only
  split
  · exact fun _ => rfl
  · exact hcreate _

theorem quiet_sendAlert (incident : Incident) (attempt : ℕ) :
    Quiet (sendAlert ports readings incidentId incident attempt) := by
  have houtside : Quiet (onOutside fun w =>
      (.ok (ports.sendAlert incident w).1, (ports.sendAlert incident w).2)) := fun _ => rfl
  exact houtside.bind fun _ _ => rfl

section

variable {I : World φ → Prop} (hcircuit : ∀ w circuit, I w → I { w with circuit := circuit })
  (hlog : ∀ w trace, I w → I { w with trace := trace })

include hcircuit hlog

/-- The breaker's part of the workflow changes the breaker and the trace. -/
theorem preserves_recordRecoveryResult (errorRate : Float) :
    Fallible.Preserves I (recordRecoveryResult readings errorRate) := by
  have hprobe : Fallible.Preserves I (probe readings) := by
    refine Fallible.Preserves.bind (fun w hw => hcircuit w _ hw) fun state => ?_
    split
    · exact fun w hw => hcircuit w _ hw
    · exact Fallible.preserves_pure _
  refine hprobe.bind fun _ => ?_
  refine Fallible.Preserves.bind (fun w hw => hcircuit w _ hw) fun state => ?_
  refine Fallible.Preserves.bind (fun w hw => hlog w _ hw) fun _ => ?_
  exact Fallible.preserves_pure _

theorem preserves_mayReingest (result : ReprocessResult) (recorded : CircuitState) :
    Fallible.Preserves I (mayReingest readings result recorded) := by
  unfold mayReingest
  split
  · exact Fallible.preserves_pure _
  · split
    · exact Fallible.preserves_pure _
    · refine Fallible.Preserves.bind (fun w hw => hcircuit w _ hw) fun state => ?_
      refine Fallible.Preserves.bind (fun w hw => hlog w _ hw) fun _ => ?_
      exact Fallible.preserves_pure _

end

theorem quiet_recordRecoveryResult (errorRate : Float) :
    Quiet (recordRecoveryResult readings errorRate : WorldM φ CircuitState) := fun w =>
  preserves_recordRecoveryResult (I := fun w' => w'.pipeline = w.pipeline) (fun _ _ h => h)
    (fun _ _ h => h) errorRate w rfl

theorem quiet_mayReingest (result : ReprocessResult) (recorded : CircuitState) :
    Quiet (mayReingest readings result recorded : WorldM φ Bool) := fun w =>
  preserves_mayReingest (I := fun w' => w'.pipeline = w.pipeline) (fun _ _ h => h)
    (fun _ _ h => h) result recorded w rfl

theorem quiet_callSink (events : List Dict) : Quiet (callSink ports events) := by
  have hwrite : Quiet (Fallible.attempt (onOutside (ports.writeEvents events))) := fun _ => rfl
  refine hwrite.bind fun result => ?_
  have hlog (result : IngestionResult) :
      Quiet (log (.sinkCalled events result.success) : WorldM φ Unit) := fun _ => rfl
  exact (hlog _).bind fun _ _ => rfl

/-- What cannot raise stays where it is, also in `RUNNING`. -/
theorem keeps_silent {x : WorldM φ Unit} (hx : Quiet x) (htotal : ∀ w, (x w).1 = .ok ()) :
    Keeps healingPath (fun s _ => s = entered) entered (lift x : Program φ Unit) :=
  keeps_lift_total hx (fun w => ⟨(), htotal w⟩) fun _ => rfl

theorem keeps_log (action : Action) :
    Keeps healingPath (fun s _ => s = entered) entered (lift (log action) : Program φ Unit) :=
  keeps_silent (fun _ => rfl) fun _ => rfl

theorem keeps_saveIncident (incident : Incident) :
    Keeps healingPath (fun s _ => s = entered) entered
      (lift (saveIncident incident) : Program φ Unit) :=
  keeps_silent (fun _ => rfl) fun _ => rfl

theorem keeps_recordAttempt (row : RemediationAttempt) :
    Keeps healingPath (fun s _ => s = entered) entered
      (lift (recordAttempt row) : Program φ Unit) :=
  keeps_silent (fun _ => rfl) fun _ => rfl

theorem keeps_enter {t : Transition} (hallowed : (healingPath (φ := φ)).Allows entered
    ⟨readings.time (.entered t.toState), t⟩) :
    Keeps healingPath (fun s _ => s = some t.toState) entered
      (Stepwise.enter readings t : Program φ Unit) := by
  refine (keeps_request (Q := fun s _ => s = some t.toState) hallowed rfl).bind_at fun _ => ?_
  exact keeps_log _

theorem keeps_recordFailure (hentered : entered ≠ some .running) (incident : Incident)
    (attempt : ℕ) (error : Text) :
    Keeps healingPath (fun s _ => s = some .recoveryFailed) entered
      (Stepwise.recordFailure readings incidentId incident attempt error : Program φ Unit) := by
  refine (keeps_enter ⟨hentered, .inl rfl⟩).bind_at fun _ => ?_
  exact keeps_saveIncident _

theorem keeps_beginAttempt (hentered : entered ≠ some .running) (incident : Incident)
    (attempt : ℕ) : Keeps healingPath (fun s _ => s = some .remediating) entered
      (Stepwise.beginAttempt ports readings incidentId incident attempt) := by
  refine (keeps_saveIncident incident).bind_at fun _ => ?_
  refine (keeps_enter ⟨hentered, .inl rfl⟩).bind_at fun _ => ?_
  refine (keeps_silent (fun _ => rfl) fun _ => rfl).bind_at fun _ => ?_
  exact keeps_log _

/-- A failure that is written to the incident and to the attempts ends the remediation. -/
theorem keeps_failed (hentered : entered ≠ some .running) (incident : Incident) (attempt : ℕ)
    (error : Text) (row : RemediationAttempt) {result : RemediationResult}
    (hfails : result.success = false) :
    Keeps healingPath Final entered (do
      Stepwise.recordFailure readings incidentId incident attempt error
      lift (recordAttempt row)
      pure result : Program φ RemediationResult) := by
  refine (keeps_recordFailure hentered incident attempt error).bind_at fun _ => ?_
  refine (keeps_recordAttempt row).bind_at fun _ => ?_
  exact keeps_pure (by simp [Final, hfails])

theorem keeps_validationFailed (hentered : entered ≠ some .running) (incident : Incident)
    (attempt : ℕ) (result : ReprocessResult) : Keeps healingPath Final entered
      (Stepwise.validationFailed ports readings incidentId incident attempt result) :=
  keeps_failed hentered incident attempt _ _ rfl

theorem keeps_sinkFailed (hentered : entered ≠ some .running) (incident : Incident)
    (attempt : ℕ) (result : ReprocessResult) (sink : IngestionResult) :
    Keeps healingPath Final entered
      (Stepwise.sinkFailed ports readings incidentId incident attempt result sink) :=
  keeps_failed hentered incident attempt _ _ rfl

/-- A transition to the next stage. -/
theorem keeps_stage {last toState : PipelineState} (hlast : last ≠ .running)
    (hvalid : toState ∈ last.validTransitions) (attempt : ℕ) (reason : Text) :
    Keeps healingPath (fun s _ => s = some toState) (some last)
      (Stepwise.enter readings (stage incidentId attempt toState reason) : Program φ Unit) :=
  keeps_enter (t := stage incidentId attempt toState reason)
    ⟨fun h => hlast (Option.some.inj h), .inr ⟨last, rfl, hvalid⟩⟩

/-- Once the pipeline has entered `RUNNING`, nothing keeps the remediation from its success. -/
theorem keeps_complete (incident : Incident) (attempt : ℕ) (result : ReprocessResult)
    (sink : IngestionResult) : Keeps healingPath Final (some .reIngesting)
      (Stepwise.complete ports readings incidentId incident attempt result sink) := by
  refine (keeps_recordAttempt _).bind_at fun _ => ?_
  refine (keeps_stage (by decide) (by decide) attempt _).bind_at fun _ => ?_
  refine (keeps_stage (by decide) (by decide) attempt _).bind_at fun _ => ?_
  refine (keeps_silent (fun _ => rfl) fun _ => rfl).bind_at fun _ => ?_
  refine (keeps_log _).bind_at fun _ => ?_
  refine (keeps_saveIncident _).bind_at fun _ => ?_
  refine (keeps_recordAttempt _).bind_at fun _ => ?_
  exact keeps_pure (by simp [Final])

/-- What is not a transition stays where it is. -/
theorem keeps_still {α : Type} {x : WorldM φ α} (hx : Quiet x) (hentered : entered ≠ some .running) :
    Keeps healingPath (fun s _ => s = entered) entered (lift x : Program φ α) :=
  keeps_lift hx hentered fun _ => rfl

theorem keeps_reprocessAndReingest (incident : Incident) (attempt : ℕ) (events : List Dict) :
    Keeps healingPath Final (some .refetching)
      (Stepwise.reprocessAndReingest ports readings incidentId incident attempt events) := by
  refine (keeps_stage (by decide) (by decide) attempt _).bind_at fun _ => ?_
  refine (keeps_still (fun _ => rfl) (by decide)).bind_at fun result => ?_
  refine (keeps_stage (by decide) (by decide) attempt _).bind_at fun _ => ?_
  refine (keeps_still (quiet_recordRecoveryResult _) (by decide)).bind_at fun recorded => ?_
  refine (keeps_still (quiet_mayReingest result _) (by decide)).bind_at fun proceed => ?_
  split
  · refine (keeps_stage (by decide) (by decide) attempt _).bind_at fun _ => ?_
    refine (keeps_still (quiet_callSink _) (by decide)).bind_at fun sink => ?_
    split
    · exact keeps_complete incident attempt result sink
    · exact keeps_sinkFailed (by decide) incident attempt result sink
  · exact keeps_validationFailed (by decide) incident attempt result

theorem keeps_recover (incident : Incident) (attempt : ℕ) (ctx : Dict) :
    Keeps healingPath Final (some .remediating)
      (Stepwise.recover ports readings incidentId incident attempt ctx) := by
  unfold Stepwise.recover
  split
  · exact keeps_failed (by decide) incident attempt _ _ rfl
  · refine (keeps_still (quiet_sendAlert incident attempt) (by decide)).bind_at fun _ => ?_
    refine (keeps_stage (by decide) (by decide) attempt _).bind_at fun _ => ?_
    refine (keeps_still (fun _ => rfl) (by decide)).bind_at fun fetched => ?_
    cases fetched with
    | error e =>
      refine (keeps_recordFailure (by decide) incident attempt _).bind_at fun _ => ?_
      exact keeps_pure (by simp [Final, failure])
    | ok events =>
      refine (keeps_still (fun _ => rfl) (by decide)).bind_at fun _ => ?_
      exact keeps_reprocessAndReingest incident attempt events

/-- The whole remediation keeps to the path. -/
theorem keeps_executeRemediation (ctx : Dict) : Keeps healingPath Final none
    (Stepwise.executeRemediation ports cfg readings incidentId ctx) := by
  refine (keeps_still (fun _ => rfl) (by decide)).bind_at fun active => ?_
  split
  · exact keeps_pure (by simp [Final, failure])
  · refine (keeps_still (fun _ => rfl) (by decide)).bind_at fun _ => ?_
    refine Keeps.ensuring ?_ (fun _ => rfl)
    refine (keeps_still (quiet_getOrCreateIncident _ _) (by decide)).bind_at fun incident => ?_
    dsimp only
    split
    · refine (keeps_enter ⟨by decide, .inl rfl⟩).bind_at fun _ => ?_
      exact keeps_pure (by simp [Final, failure, Pipeline.failure])
    · refine (keeps_beginAttempt (by decide) _ _).bind_at fun _ => ?_
      exact keeps_recover _ _ ctx

end

end Remediation
end IceStream
