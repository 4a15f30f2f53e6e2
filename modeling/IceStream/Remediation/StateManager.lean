import IceStream.Storage.Incidents

/-!
# The pipeline state

The row of `pipeline_state` and the history of its transitions. The manager
writes the row when it is built, so there always is one, and reads it again at
every use.
-/

namespace IceStream
open Python

inductive PipelineState
  | running
  | paused
  | degraded
  | quarantining
  | circuitOpen
  | remediating
  | refetching
  | reprocessing
  | validating
  | reIngesting
  | resuming
  | recoveryFailed
  | recovered
  deriving DecidableEq

namespace PipelineState

def value : PipelineState → String
  | running => "RUNNING"
  | paused => "PAUSED"
  | degraded => "DEGRADED"
  | quarantining => "QUARANTINING"
  | circuitOpen => "CIRCUIT_OPEN"
  | remediating => "REMEDIATING"
  | refetching => "REFETCHING"
  | reprocessing => "REPROCESSING"
  | validating => "VALIDATING"
  | reIngesting => "RE_INGESTING"
  | resuming => "RESUMING"
  | recoveryFailed => "RECOVERY_FAILED"
  | recovered => "RECOVERED"

/-- `VALID_TRANSITIONS` -/
def validTransitions : PipelineState → List PipelineState
  | running => [paused, degraded, quarantining, circuitOpen]
  | paused => [running, resuming]
  | degraded => [running, paused, quarantining, circuitOpen]
  | quarantining => [running, paused, degraded, circuitOpen]
  | circuitOpen => [remediating, refetching, resuming, running, paused]
  | remediating => [refetching, recoveryFailed, circuitOpen]
  | refetching => [reprocessing, recoveryFailed, circuitOpen]
  | reprocessing => [validating, recoveryFailed, circuitOpen]
  | validating => [reIngesting, resuming, recoveryFailed, circuitOpen]
  | reIngesting => [resuming, recoveryFailed, circuitOpen]
  | resuming => [running, recoveryFailed, circuitOpen]
  | recoveryFailed => [circuitOpen, remediating, paused, running]
  | recovered => [running]

end PipelineState

structure PipelineRow where
  state : PipelineState
  previousState : Option PipelineState
  reason : Option Text
  updatedAt : Date
  activeIncidentId : Option IncidentId
  recoveryAttempt : ℕ
  lastError : Option Text

structure StateHistoryRow where
  fromState : PipelineState
  toState : PipelineState
  reason : Option Text
  timestamp : Date
  incidentId : Option IncidentId
  recoveryAttempt : ℕ

structure Pipeline where
  row : PipelineRow
  history : List StateHistoryRow

/-- The arguments of `transition_to`, with its defaults. -/
structure Transition where
  toState : PipelineState
  reason : Option Text := none
  incidentId : Option IncidentId := none
  recoveryAttempt : ℕ := 0
  lastError : Option Text := none
  force : Bool := false

namespace Pipeline

/-- The row a first manager writes. -/
def init (now : Date) (initialState : PipelineState) : Pipeline where
  row := ⟨initialState, none, some "Initial system startup", now, none, 0, none⟩
  history := []

abbrev state (p : Pipeline) : PipelineState := p.row.state

/-- What `transition_to` writes once the transition is let through. -/
def moved (p : Pipeline) (now : Date) (t : Transition) : Pipeline where
  row := ⟨t.toState, some p.state, t.reason, now, t.incidentId, t.recoveryAttempt, t.lastError⟩
  history := p.history ++ [⟨p.state, t.toState, t.reason, now, t.incidentId, t.recoveryAttempt⟩]

def allows (p : Pipeline) (t : Transition) : Bool :=
  t.force || t.toState == p.state || p.state.validTransitions.contains t.toState

/-- `transition_to` -/
def transitionTo (now : Date) (t : Transition) (p : Pipeline) : Except Exc Pipeline :=
  if p.allows t then .ok (p.moved now t)
  else .error (valueError (text
    s!"Invalid pipeline state transition from '{p.state.value}' to '{t.toState.value}'"))

/-- The transition `record_failure` forces. -/
def failure (error : Text) (incidentId : Option IncidentId) (recoveryAttempt : ℕ) : Transition where
  toState := .recoveryFailed
  reason := some (text "Recovery failed: " ++ error)
  incidentId := incidentId
  recoveryAttempt := recoveryAttempt
  lastError := some error
  force := true

@[simp] theorem moved_state (p : Pipeline) (now : Date) (t : Transition) :
    (p.moved now t).state = t.toState := rfl

@[simp] theorem moved_activeIncidentId (p : Pipeline) (now : Date) (t : Transition) :
    (p.moved now t).row.activeIncidentId = t.incidentId := rfl

theorem transitionTo_of_allows {p : Pipeline} {now : Date} {t : Transition}
    (h : p.allows t = true) : p.transitionTo now t = .ok (p.moved now t) := by
  rw [transitionTo, if_pos h]

theorem allows_of_force {p : Pipeline} {t : Transition} (h : t.force = true) :
    p.allows t = true := by
  simp [allows, h]

theorem allows_of_valid {p : Pipeline} {t : Transition}
    (h : t.toState ∈ p.state.validTransitions) : p.allows t = true := by
  simp [allows, h]

end Pipeline
end IceStream
