import IceStream.Lib.Trace
import IceStream.Remediation.Endings

/-!
# What a remediation guarantees

Whether a call settles the pipeline and the incident, whether a failed one keeps
the breaker from `CLOSED`, and in which order a call acts.
-/

namespace IceStream.Remediation
open Python World

variable {φ : Type}

def reportsSuccess : Except Exc RemediationResult → Bool
  | .ok answer => answer.success
  | .error _ => false

section

variable {ports : Ports φ} {cfg : ControllerConfig} {readings : Readings}
  {incidentId : IncidentId} {ctx : Dict} {w : World φ}

theorem Fetches.unique {events events' : List Dict} {o o' : φ}
    (h : Fetches ports cfg readings incidentId ctx w events o)
    (h' : Fetches ports cfg readings incidentId ctx w events' o') : events = events' ∧ o = o' := by
  have heq := h.fetched.symm.trans h'.fetched
  simpa using heq

theorem Revalidates.unique {events events' : List Dict} {result result' : ReprocessResult}
    {o o' : φ} (h : Revalidates ports cfg readings incidentId ctx w events result o)
    (h' : Revalidates ports cfg readings incidentId ctx w events' result' o') :
    events = events' ∧ result = result' ∧ o = o' := by
  obtain ⟨o₁, hfetches, hprocess⟩ := h.fetches
  obtain ⟨o₂, hfetches', hprocess'⟩ := h'.fetches
  obtain ⟨rfl, rfl⟩ := hfetches.unique hfetches'
  have heq := hprocess.symm.trans hprocess'
  simpa using heq

/-- A call whose re-validation raises does not get to a result. -/
theorem Revalidates.not_raised {events events' : List Dict} {result : ReprocessResult} {o o' : φ}
    {e : Exc} (h : Revalidates ports cfg readings incidentId ctx w events result o)
    (hfetches : Fetches ports cfg readings incidentId ctx w events' o')
    (hraised : (ports.reprocessor.process events' incidentId
      (attemptNumber cfg readings incidentId w) o').1 = .error e) : False := by
  obtain ⟨o₁, hfetches', hprocess⟩ := h.fetches
  obtain ⟨rfl, rfl⟩ := hfetches'.unique hfetches
  rw [hprocess] at hraised
  cases hraised

theorem Revalidates.guards {events : List Dict} {result : ReprocessResult} {o : φ}
    (h : Revalidates ports cfg readings incidentId ctx w events result o) :
    PassesGuards cfg readings incidentId w := by
  obtain ⟨o₁, hfetches, -⟩ := h.fetches
  exact hfetches.guards

end

/-! ## A call that got past its guards -/

/-- The flag is clear, the pipeline is in the state the report calls for, and
the incident is not left at `REMEDIATING`. -/
structure Settled (incidentId : IncidentId) (out : Except Exc RemediationResult) (w' : World φ) :
    Prop where
  idle : w'.active = false
  state_eq : w'.pipeline.state = if reportsSuccess out then .running else .recoveryFailed
  status_ne : (w'.incidents.getIncident incidentId).map Incident.status ≠ some .remediating

section

variable (ports : Ports φ) (cfg : ControllerConfig) (readings : Readings)
  (incidentId : IncidentId) (ctx : Dict) (w : World φ)

/-- The quarantine check fails, or the source raises, or the re-validation does
not raise and the breaker does not read `CLOSED` when it is probed. -/
def Settles : Prop :=
  quarantineVerified cfg readings incidentId ctx w = false ∨
    (∃ e, (fetchOutcome ports cfg readings incidentId ctx w).1 = .error e) ∨
    ∃ events result o, Revalidates ports cfg readings incidentId ctx w events result o ∧
      (w.circuit.currentState (readings.breaker .probe)).state ≠ .closed

variable {incidentId w}

/-- A remediation of a stored incident that got past its guards settles exactly
when neither the re-validation raises nor the breaker reads `CLOSED`. -/
theorem settled_iff {incident : Incident} (hstored : w.incidents.getIncident incidentId = some incident)
    (hguards : PassesGuards cfg readings incidentId w) :
    Settled incidentId (executeRemediation ports cfg readings incidentId ctx w).1
      (executeRemediation ports cfg readings incidentId ctx w).2 ↔
      Settles ports cfg readings incidentId ctx w := by
  have hcircuit : loadedCircuit readings incidentId w = w.circuit := by
    simp only [loadedCircuit, hstored]
  have hending := executeRemediation_ending ports cfg readings incidentId ctx w
  generalize (executeRemediation ports cfg readings incidentId ctx w).1 = out at hending ⊢
  generalize (executeRemediation ports cfg readings incidentId ctx w).2 = w' at hending ⊢
  cases hending with
  | skipped hactive _ => exact absurd hactive (by simp [hguards.1])
  | exceeded _ hlimit _ _ _ => exact absurd hlimit (by simp [hguards.2])
  | quarantineFailed _ hquarantine hfail hidle h =>
    exact iff_of_true ⟨hidle, by rw [h.state_eq, reportsSuccess, hfail]; rfl,
      by rw [h.status_eq]; decide⟩ (.inl hquarantine)
  | refetchFailed _ _ hfetch hfail hidle h =>
    exact iff_of_true ⟨hidle, by rw [h.state_eq, reportsSuccess, hfail]; rfl,
      by rw [h.status_eq]; decide⟩ (.inr (.inl ⟨_, hfetch⟩))
  | reprocessRaised hfetches hraised _ h =>
    apply iff_of_false
    · intro hsettled
      exact absurd hsettled.state_eq (by rw [h.state_eq]; simp [reportsSuccess])
    · rintro (hquarantine | ⟨e, hfetch⟩ | ⟨events, result, o, hrevalidates, -⟩)
      · exact absurd hfetches.quarantined (by simp [hquarantine])
      · exact absurd hfetch (by simp [hfetches.fetched])
      · exact hrevalidates.not_raised hfetches hraised
  | breakerRaised hrevalidates hclosed _ h =>
    rw [hcircuit] at hclosed
    apply iff_of_false
    · intro hsettled
      exact absurd hsettled.state_eq (by rw [h.state_eq]; simp [reportsSuccess])
    · obtain ⟨o₁, hfetches, -⟩ := hrevalidates.fetches
      rintro (hquarantine | ⟨e, hfetch⟩ | ⟨events, result, o, -, hopen⟩)
      · exact absurd hfetches.quarantined (by simp [hquarantine])
      · exact absurd hfetch (by simp [hfetches.fetched])
      · exact hopen hclosed
  | validationFailed hrevalidates _ hopen _ hfail hidle h =>
    rw [hcircuit] at hopen
    exact iff_of_true ⟨hidle, by rw [h.state_eq, reportsSuccess, hfail]; rfl,
      by rw [h.status_eq]; decide⟩ (.inr (.inr ⟨_, _, _, hrevalidates, hopen⟩))
  | sinkFailed hrevalidates _ hopen _ _ _ hfail hidle h =>
    rw [hcircuit] at hopen
    exact iff_of_true ⟨hidle, by rw [h.state_eq, reportsSuccess, hfail]; rfl,
      by rw [h.status_eq]; decide⟩ (.inr (.inr ⟨_, _, _, hrevalidates, hopen⟩))
  | completed hrevalidates _ hopen _ _ _ hsuccess hidle h =>
    rw [hcircuit] at hopen
    exact iff_of_true ⟨hidle, by rw [h.state_eq, reportsSuccess, hsuccess]; rfl,
      by rw [h.status_eq]; decide⟩ (.inr (.inr ⟨_, _, _, hrevalidates, hopen⟩))

end

/-! ### A controller over one event, in memory -/

section

def exampleIncident : IncidentId := ⟨text "INC-2026-0903-0001", by decide⟩

/-- The source answers with one event, which passes; the sink may refuse it. -/
def examplePorts (sinkAnswers : Bool) : Ports Unit where
  fetchForRecovery _ := pure [[(text "event_id", .str "evt_1")]]
  sourceReference := "replay_fixture:recovery_case_001"
  reprocessor :=
    { validateWithSummary := fun _ => pure (computeValidationSummary [] .null)
      writeInvalidEvent := none }
  writeEvents events := pure ⟨events.length, sinkAnswers, none⟩
  sendAlert _ w := (true, w)
  pauseJob w := w
  resumeJob w := w

def exampleConfig : ControllerConfig := ⟨"icestream", .float (1 / 0)⟩

def exampleReading : Reading := ⟨0, 0, true, true, true⟩

def exampleReadings : Readings := ⟨fun _ => 0, fun _ => exampleReading, exampleIncident⟩

/-- The breaker has tripped, and the incident is stored. -/
def exampleWorld : World Unit where
  pipeline := Pipeline.init 0 .running
  incidents := [newIncident exampleConfig {} exampleIncident 0 .open_]
  attempts := []
  circuit := (Circuit.inMemory .default 0).moved exampleReading .open_
    "error_rate_above_threshold" (some 0.5) .none
  active := false
  outside := ()
  trace := []

def exampleRun (sinkAnswers : Bool) (w : World Unit) :
    Except Exc RemediationResult × World Unit :=
  executeRemediation (examplePorts sinkAnswers) exampleConfig exampleReadings exampleIncident [] w

end

/-- The world after an attempt whose sink refused the events. -/
def refusedWorld : World Unit := (exampleRun false exampleWorld).2

theorem settled_of_first_attempt :
    Settled exampleIncident (exampleRun true exampleWorld).1 (exampleRun true exampleWorld).2 ↔
      Settles (examplePorts true) exampleConfig exampleReadings exampleIncident [] exampleWorld :=
  settled_iff (examplePorts true) exampleConfig exampleReadings []
    (show _ = some (newIncident exampleConfig {} exampleIncident 0 .open_).normalized by
      decide +kernel)
    ⟨rfl, by decide +kernel⟩

/-- The retry finds the breaker `CLOSED` and raises, which leaves the pipeline
validating and the incident remediating. -/
theorem retry_after_refusal_not_settled :
    (refusedWorld.incidents.getIncident exampleIncident).isSome ∧
    PassesGuards exampleConfig exampleReadings exampleIncident refusedWorld ∧
    (exampleRun true refusedWorld).2.pipeline.state = .validating ∧
    ¬Settled exampleIncident (exampleRun true refusedWorld).1 (exampleRun true refusedWorld).2 := by
  refine ⟨by decide +kernel, ⟨by decide +kernel, by decide +kernel⟩, by decide +kernel, ?_⟩
  rintro ⟨-, -, hstatus⟩
  have hremediating : ((exampleRun true refusedWorld).2.incidents.getIncident
      exampleIncident).map Incident.status = some .remediating := by decide +kernel
  exact hstatus hremediating

/-! ## The breaker after a failed call -/

section

variable {readings : Readings} {c : Circuit} {result : ReprocessResult}

theorem probedCircuit_config : (probedCircuit readings c).config = c.config := by
  unfold probedCircuit
  dsimp only
  split
  · rw [Circuit.moved_config, Circuit.currentState_config]
  · rw [Circuit.currentState_config]

theorem probedCircuit_blocked (h : c.Blocked) : (probedCircuit readings c).Blocked := by
  unfold probedCircuit
  dsimp only
  split
  · exact (h.currentState _).moved _ _ _ _ (by decide)
  · exact h.currentState _

/-- An error rate within the threshold closes the breaker, whatever the batch. -/
theorem decidedCircuit_closed (hrate : result.errorRate ≤ c.config.errorThreshold) :
    (decidedCircuit readings c result).state = .closed := by
  have hrecorded : (recordedCircuit readings c result).state = .closed := by
    rw [recordedCircuit_state, probedCircuit_config, if_pos hrate]
  have hreads : readsAgain readings c result = false := by simp [readsAgain, hrecorded]
  rw [decidedCircuit, hreads]
  exact hrecorded

theorem decidedCircuit_blocked (h : c.Blocked)
    (hrate : ¬result.errorRate ≤ c.config.errorThreshold) :
    (decidedCircuit readings c result).Blocked := by
  have hrecorded : (recordedCircuit readings c result).Blocked := by
    unfold recordedCircuit
    dsimp only
    rw [probedCircuit_config, decide_eq_false hrate]
    exact ((probedCircuit_blocked h).observed _).recovered _ _
  unfold decidedCircuit
  split
  · exact hrecorded.currentState _
  · exact hrecorded

end

section

variable (ports : Ports φ) (cfg : ControllerConfig) (readings : Readings)
  (incidentId : IncidentId) (ctx : Dict) {w : World φ}

/-- The re-validation ends with an error rate within the threshold, and yet the
batch is not fully valid (an empty one is not) or the sink does not take it. -/
def ClosesInVain (w : World φ) : Prop :=
  ∃ events result o, Revalidates ports cfg readings incidentId ctx w events result o ∧
    result.errorRate ≤ w.circuit.config.errorThreshold ∧
    ¬(result.isFullyValid = true ∧ sinkSucceeds ports result.validEvents o = true)

theorem loadedCircuit_blocked (h : w.circuit.Blocked) :
    (loadedCircuit readings incidentId w).Blocked := by
  unfold loadedCircuit
  split
  · exact h
  · exact h.currentState _

theorem loadedCircuit_config :
    (loadedCircuit readings incidentId w).config = w.circuit.config := by
  unfold loadedCircuit
  split
  · rfl
  · rw [Circuit.currentState_config]

/-- From a breaker that is not `CLOSED`, a call that reports failure leaves one
that is not `CLOSED`, exactly when it does not close it in vain. -/
theorem blocked_of_failure_iff (hblocked : w.circuit.Blocked) :
    (∀ answer, (executeRemediation ports cfg readings incidentId ctx w).1 = .ok answer →
      answer.success = false →
      (executeRemediation ports cfg readings incidentId ctx w).2.circuit.Blocked) ↔
    ¬ClosesInVain ports cfg readings incidentId ctx w := by
  have hloaded := loadedCircuit_blocked readings incidentId hblocked
  have hconfig := loadedCircuit_config readings incidentId (w := w)
  have hending := executeRemediation_ending ports cfg readings incidentId ctx w
  generalize (executeRemediation ports cfg readings incidentId ctx w).1 = out at hending ⊢
  generalize (executeRemediation ports cfg readings incidentId ctx w).2 = w' at hending ⊢
  cases hending with
  | skipped hactive _ =>
    apply iff_of_true (fun _ _ _ => hblocked)
    rintro ⟨events, result, o, hrevalidates, -⟩
    exact absurd hactive (by simp [hrevalidates.guards.1])
  | exceeded _ hlimit _ _ h =>
    apply iff_of_true (fun _ _ _ => h.circuit_eq ▸ hloaded)
    rintro ⟨events, result, o, hrevalidates, -⟩
    exact absurd hlimit (by simp [hrevalidates.guards.2])
  | quarantineFailed _ hquarantine _ _ h =>
    apply iff_of_true (fun _ _ _ => h.circuit_eq ▸ hloaded)
    rintro ⟨events, result, o, ⟨o₁, hfetches, -⟩, -⟩
    exact absurd hfetches.quarantined (by simp [hquarantine])
  | refetchFailed _ _ hfetch _ _ h =>
    apply iff_of_true (fun _ _ _ => h.circuit_eq ▸ hloaded)
    rintro ⟨events, result, o, ⟨o₁, hfetches, -⟩, -⟩
    exact absurd hfetch (by simp [hfetches.fetched])
  | reprocessRaised hfetches hraised _ _ =>
    apply iff_of_true (fun _ hok => by cases hok)
    rintro ⟨events, result, o, hrevalidates, -⟩
    exact hrevalidates.not_raised hfetches hraised
  | breakerRaised _ hclosed _ _ => exact absurd hclosed (hloaded.currentState _).state_ne
  | @validationFailed _ _ result _ _ _ hrevalidates _ _ hstop hfail _ h =>
    by_cases hrate : result.errorRate ≤ w.circuit.config.errorThreshold
    · have hclosed : (decidedCircuit readings (loadedCircuit readings incidentId w) result).state =
          .closed := decidedCircuit_closed (hconfig ▸ hrate)
      apply iff_of_false
      · intro hall
        exact (hall _ rfl hfail).state_ne (h.circuit_eq ▸ hclosed)
      · intro hvain
        exact hvain ⟨_, _, _, hrevalidates, hrate, fun hboth => hstop ⟨hboth.1, hclosed⟩⟩
    · apply iff_of_true (fun _ _ _ =>
        h.circuit_eq ▸ decidedCircuit_blocked hloaded (hconfig ▸ hrate))
      rintro ⟨events, result', o', hrevalidates', hrate', -⟩
      obtain ⟨-, rfl, -⟩ := hrevalidates.unique hrevalidates'
      exact hrate hrate'
  | @sinkFailed _ _ result _ _ _ _ hrevalidates _ _ _ hclosed hsink hfail _ h =>
    have hrate : result.errorRate ≤ w.circuit.config.errorThreshold := by
      by_contra hrate
      exact (decidedCircuit_blocked hloaded (hconfig ▸ hrate)).state_ne hclosed
    apply iff_of_false
    · intro hall
      exact (hall _ rfl hfail).state_ne (h.circuit_eq ▸ hclosed)
    · intro hvain
      exact hvain ⟨_, _, _, hrevalidates, hrate, fun hboth => by simp [hsink] at hboth⟩
  | completed hrevalidates _ _ hvalid _ hsink hsuccess _ _ =>
    apply iff_of_true
    · rintro answer ⟨rfl⟩ hfail
      exact absurd hfail (by simp [hsuccess])
    · rintro ⟨events, result', o', hrevalidates', -, hfailed⟩
      obtain ⟨-, rfl, rfl⟩ := hrevalidates.unique hrevalidates'
      exact hfailed ⟨hvalid, hsink⟩

end

theorem exampleWorld_blocked : exampleWorld.circuit.Blocked :=
  ⟨by decide, fun _ h => by cases h⟩

theorem blocked_of_first_failure :
    (∀ answer, (exampleRun true exampleWorld).1 = .ok answer → answer.success = false →
      (exampleRun true exampleWorld).2.circuit.Blocked) ↔
    ¬ClosesInVain (examplePorts true) exampleConfig exampleReadings exampleIncident []
      exampleWorld :=
  blocked_of_failure_iff (examplePorts true) exampleConfig exampleReadings exampleIncident []
    exampleWorld_blocked

/-- One valid event, refused by the sink: the call reports failure and leaves the
breaker `CLOSED`. -/
theorem refused_batch_leaves_closed :
    exampleWorld.circuit.state = .open_ ∧
    (exampleRun false exampleWorld).1.isOk = true ∧
    reportsSuccess (exampleRun false exampleWorld).1 = false ∧
    (exampleRun false exampleWorld).2.circuit.state = .closed := by
  decide +kernel

/-! ## When a call succeeds -/

section

variable (ports : Ports φ) (cfg : ControllerConfig) (readings : Readings)
  (incidentId : IncidentId) (ctx : Dict)

/-- The events are re-validated and all pass, the breaker is not `CLOSED` before it
is told the outcome and is afterwards, and the sink takes the events. -/
def Heals (w : World φ) : Prop :=
  ∃ events result o, Revalidates ports cfg readings incidentId ctx w events result o ∧
    ((loadedCircuit readings incidentId w).currentState (readings.breaker .probe)).state ≠
      .closed ∧
    result.isFullyValid = true ∧
    (decidedCircuit readings (loadedCircuit readings incidentId w) result).state = .closed ∧
    sinkSucceeds ports result.validEvents o = true

variable {ports cfg readings incidentId ctx} {w w' : World φ}
  {out : Except Exc RemediationResult}

theorem Ending.success_iff (h : Ending ports cfg readings incidentId ctx w out w') :
    reportsSuccess out = true ↔ Heals ports cfg readings incidentId ctx w := by
  cases h with
  | skipped hactive hfail =>
    apply iff_of_false (by simp [reportsSuccess, hfail])
    rintro ⟨events, result, o, hrevalidates, -⟩
    exact absurd hactive (by simp [hrevalidates.guards.1])
  | exceeded _ hlimit hfail =>
    apply iff_of_false (by simp [reportsSuccess, hfail])
    rintro ⟨events, result, o, hrevalidates, -⟩
    exact absurd hlimit (by simp [hrevalidates.guards.2])
  | quarantineFailed _ hquarantine hfail =>
    apply iff_of_false (by simp [reportsSuccess, hfail])
    rintro ⟨events, result, o, ⟨o₁, hfetches, -⟩, -⟩
    exact absurd hfetches.quarantined (by simp [hquarantine])
  | refetchFailed _ _ hfetch hfail =>
    apply iff_of_false (by simp [reportsSuccess, hfail])
    rintro ⟨events, result, o, ⟨o₁, hfetches, -⟩, -⟩
    exact absurd hfetch (by simp [hfetches.fetched])
  | reprocessRaised hfetches hraised =>
    apply iff_of_false (by simp [reportsSuccess])
    rintro ⟨events, result, o, hrevalidates, -⟩
    exact hrevalidates.not_raised hfetches hraised
  | breakerRaised _ hclosed =>
    apply iff_of_false (by simp [reportsSuccess])
    rintro ⟨events, result, o, -, hopen, -⟩
    exact hopen hclosed
  | validationFailed hrevalidates _ _ hstop hfail =>
    apply iff_of_false (by simp [reportsSuccess, hfail])
    rintro ⟨events, result, o, hrevalidates', -, hvalid, hclosed, -⟩
    obtain ⟨-, rfl, -⟩ := hrevalidates.unique hrevalidates'
    exact hstop ⟨hvalid, hclosed⟩
  | sinkFailed hrevalidates _ _ _ _ hsink hfail =>
    apply iff_of_false (by simp [reportsSuccess, hfail])
    rintro ⟨events, result, o, hrevalidates', -, -, -, htaken⟩
    obtain ⟨-, rfl, rfl⟩ := hrevalidates.unique hrevalidates'
    exact absurd htaken (by simp [hsink])
  | completed hrevalidates _ hopen hvalid hclosed hsink hsuccess =>
    exact iff_of_true hsuccess ⟨_, _, _, hrevalidates, hopen, hvalid, hclosed, hsink⟩

/-- A call that succeeds leaves the incident's id on a `RUNNING` pipeline. -/
theorem Ending.of_success (h : Ending ports cfg readings incidentId ctx w out w')
    (hsuccess : reportsSuccess out = true) :
    w'.pipeline.state = .running ∧ w'.pipeline.row.activeIncidentId = some incidentId ∧
      w'.circuit.state = .closed := by
  cases h with
  | completed _ _ _ _ hclosed _ _ _ h =>
    exact ⟨h.state_eq, h.activeIncidentId_eq, h.circuit_eq ▸ hclosed⟩
  | reprocessRaised => cases hsuccess
  | breakerRaised => cases hsuccess
  | _ => simp_all [reportsSuccess]

/-- No other call that does something leaves the pipeline `RUNNING`. -/
theorem Ending.of_failure (h : Ending ports cfg readings incidentId ctx w out w')
    (hfail : reportsSuccess out = false) : w' = w ∨ w'.pipeline.state ≠ .running := by
  cases h with
  | skipped => exact .inl rfl
  | completed _ _ _ _ _ _ hsuccess => simp [reportsSuccess, hsuccess] at hfail
  | _ =>
    rename_i h
    exact .inr (by rw [h.state_eq]; decide)

/-- A call that raises does so on the way. -/
theorem Ending.of_raised {e : Exc}
    (h : Ending ports cfg readings incidentId ctx w (.error e) w') :
    w'.pipeline.state ≠ .running := by
  cases h with
  | reprocessRaised _ _ _ h => rw [h.state_eq]; decide
  | breakerRaised _ _ _ h => rw [h.state_eq]; decide

end

/-! ## The order of the actions -/

/-- The verdicts among the actions. -/
def revalidations (actions : List Action) : List (Dict × Bool) :=
  actions.filterMap fun
    | .revalidated event passed => some (event, passed)
    | _ => none

def sinkCalls (actions : List Action) : List (List Dict × Bool) :=
  actions.filterMap fun
    | .sinkCalled events success => some (events, success)
    | _ => none

/-- The re-fetched events, of which there are some, have all passed, and the
breaker was `CLOSED` once it knew the outcome. -/
structure Cleared (events : List Dict) (before : List Action) : Prop where
  fetched : .fetched events ∈ before
  ne_nil : events ≠ []
  passed : revalidations before = events.map fun event => (event, true)
  closed : .recoveryRecorded .closed ∈ before ∨ .breakerRead .closed ∈ before

/-- What must have happened before an action. -/
def Allowed (before : List Action) : Action → Prop
  | .sinkCalled _ _ => ∃ events, Cleared events before
  | .entered .running => ∃ events, .sinkCalled events true ∈ before
  | .flinkResumed => ∃ events, .sinkCalled events true ∈ before
  | _ => True

/-- The actions that need nothing before them. -/
def Action.isFree : Action → Bool
  | .sinkCalled _ _ => false
  | .entered .running => false
  | .flinkResumed => false
  | _ => true

theorem allowed_of_isFree {a : Action} (h : a.isFree = true) (before : List Action) :
    Allowed before a := by
  cases a with
  | entered state => cases state <;> trivial
  | _ => trivial

theorem guarded_of_free {before actions : List Action} (h : ∀ a ∈ actions, a.isFree = true) :
    Trace.GuardedFrom Allowed before actions :=
  Trace.guardedFrom_of_free fun a ha => allowed_of_isFree (h a ha)

section

variable {readings : Readings} {c : Circuit} {events : List Dict}
  {verdicts : Reprocessor.Verdicts} {result : ReprocessResult} {incidentId : IncidentId}
  {attempt : ℕ}

theorem isFree_verdictActions : ∀ a ∈ verdictActions verdicts, a.isFree = true := by
  intro a ha
  obtain ⟨v, -, rfl⟩ := List.mem_map.mp ha
  rfl

theorem isFree_decisionActions : ∀ a ∈ decisionActions readings c result, a.isFree = true := by
  intro a ha
  unfold decisionActions at ha
  split at ha
  · simp only [List.mem_cons, List.not_mem_nil, or_false] at ha
    obtain rfl | rfl := ha <;> rfl
  · simp only [List.mem_cons, List.not_mem_nil, or_false] at ha
    subst ha
    rfl

/-- The actions up to the decision whether to re-ingest. -/
def decided (readings : Readings) (c : Circuit) (events : List Dict)
    (verdicts : Reprocessor.Verdicts) (result : ReprocessResult) : List Action :=
  fetchActions events ++ verdictActions verdicts ++ [.entered .validating] ++
    decisionActions readings c result

theorem isFree_fetchActions : ∀ a ∈ fetchActions events, a.isFree = true := by
  intro a ha
  simp only [fetchActions, List.mem_cons, List.not_mem_nil, or_false] at ha
  obtain rfl | rfl | rfl | rfl | rfl := ha <;> rfl

/-- The actions of a re-validation that ended. -/
theorem isFree_validating : ∀ a ∈ fetchActions events ++ verdictActions verdicts ++
    [.entered .validating], a.isFree = true :=
  List.forall_mem_append.mpr ⟨List.forall_mem_append.mpr
    ⟨isFree_fetchActions, isFree_verdictActions⟩, by decide⟩

theorem isFree_decided : ∀ a ∈ decided readings c events verdicts result, a.isFree = true :=
  List.forall_mem_append.mpr ⟨isFree_validating, isFree_decisionActions⟩

theorem revalidations_decided :
    revalidations (decided readings c events verdicts result) = verdicts := by
  have hverdicts : revalidations (verdictActions verdicts) = verdicts := by
    simp [revalidations, verdictActions, List.filterMap_map]
  have hdecision : revalidations (decisionActions readings c result) = [] := by
    unfold decisionActions
    split <;> rfl
  rw [revalidations] at hverdicts hdecision ⊢
  rw [decided, List.filterMap_append, List.filterMap_append, List.filterMap_append, hverdicts,
    hdecision]
  simp [fetchActions]

theorem mem_decisionActions (hclosed : (decidedCircuit readings c result).state = .closed) :
    .recoveryRecorded .closed ∈ decisionActions readings c result ∨
      .breakerRead .closed ∈ decisionActions readings c result := by
  unfold decisionActions
  cases hreads : readsAgain readings c result with
  | true => simp [hclosed]
  | false =>
    have hrecorded : (recordedCircuit readings c result).state = .closed := by
      rwa [decidedCircuit, hreads] at hclosed
    simp [hrecorded]

/-- A fully valid batch behind a closed breaker is cleared for the sink. -/
theorem cleared_decided (hjudged : Judged incidentId attempt events verdicts result)
    (hvalid : result.isFullyValid = true)
    (hclosed : (decidedCircuit readings c result).state = .closed) :
    Cleared events (decided readings c events verdicts result) := by
  simp only [ReprocessResult.isFullyValid, Bool.and_eq_true, decide_eq_true_eq,
    beq_iff_eq] at hvalid
  obtain ⟨hpassed, -⟩ := hjudged.reports.all_valid hvalid.2
  refine ⟨by simp [decided, fetchActions], ?_, ?_, ?_⟩
  · rintro rfl
    rw [hjudged.total_eq] at hvalid
    exact absurd hvalid.1 (by decide)
  · rw [revalidations_decided, ← hjudged.events_eq, List.map_map]
    have hid : ∀ v ∈ verdicts, ((fun event => (event, true)) ∘ Prod.fst) v = v := by
      intro v hv
      exact Prod.ext rfl (hpassed v hv).symm
    exact ((List.map_congr_left hid).trans verdicts.map_id').symm
  · obtain h | h := mem_decisionActions hclosed
    · exact .inl (List.mem_append_right _ h)
    · exact .inr (List.mem_append_right _ h)

theorem sinkCalls_decided : sinkCalls (decided readings c events verdicts result) = [] := by
  have hverdicts : sinkCalls (verdictActions verdicts) = [] := by
    simp [sinkCalls, verdictActions]
  have hdecision : sinkCalls (decisionActions readings c result) = [] := by
    unfold decisionActions
    split <;> rfl
  rw [sinkCalls] at hverdicts hdecision ⊢
  rw [decided, List.filterMap_append, List.filterMap_append, List.filterMap_append, hverdicts,
    hdecision]
  rfl

/-- The last actions of a call whose sink was called. -/
def sinkActions (events : List Dict) (success : Bool) : List Action :=
  [.entered .reIngesting, .sinkCalled events success] ++
    if success then [.entered .resuming, .entered .running, .flinkResumed]
    else [.entered .recoveryFailed]

theorem guarded_sinkActions {before : List Action} {sunk : List Dict} (success : Bool)
    (hfree : ∀ a ∈ before, a.isFree = true) (hcleared : Cleared events before) :
    Trace.Guarded Allowed (before ++ sinkActions sunk success) := by
  have hcleared' : Cleared events (before ++ [.entered .reIngesting]) := by
    obtain ⟨hfetched, hne, hpassed, hclosed⟩ := hcleared
    refine ⟨List.mem_append_left _ hfetched, hne, ?_, ?_⟩
    · rw [← hpassed]
      simp [revalidations]
    · simpa using hclosed
  refine Trace.guardedFrom_append.mpr ⟨guarded_of_free hfree, ?_⟩
  rw [List.nil_append]
  cases success with
  | true =>
    refine ⟨trivial, ⟨events, hcleared'⟩, trivial, ?_, ?_, trivial⟩
    · exact ⟨sunk, by simp⟩
    · exact ⟨sunk, by simp⟩
  | false => exact ⟨trivial, ⟨events, hcleared'⟩, trivial, trivial⟩

end

/-- What a call that reports success must have done. -/
structure SoundSuccess (incidentId : IncidentId) (attempt : ℕ) (actions : List Action)
    (w' : World φ) (events : List Dict) : Prop where
  cleared : ∃ before after, actions = before ++ after ∧ Cleared events before
  breaker_closed : w'.circuit.state = .closed
  /-- The sink was called once, with what was fetched, and took it. -/
  sink : sinkCalls actions = [(events.map (withProvenance incidentId attempt), true)]

theorem soundSuccess_of_sunk {readings : Readings} {c : Circuit} {events : List Dict}
    {verdicts : Reprocessor.Verdicts} {result : ReprocessResult} {incidentId : IncidentId}
    {attempt : ℕ} {w' : World φ} (hjudged : Judged incidentId attempt events verdicts result)
    (hvalid : result.isFullyValid = true)
    (hclosed : (decidedCircuit readings c result).state = .closed)
    (hcircuit : w'.circuit = decidedCircuit readings c result) :
    SoundSuccess incidentId attempt
      (decided readings c events verdicts result ++ sinkActions result.validEvents true) w'
      events := by
  refine ⟨⟨_, _, rfl, cleared_decided hjudged hvalid hclosed⟩, hcircuit ▸ hclosed, ?_⟩
  have hzero : result.invalidCount = 0 := by
    simp only [ReprocessResult.isFullyValid, Bool.and_eq_true, beq_iff_eq] at hvalid
    exact hvalid.2
  have hsunk : result.validEvents = events.map (withProvenance incidentId attempt) := by
    rw [(hjudged.reports.all_valid hzero).2, ← hjudged.events_eq, List.map_map]
    rfl
  rw [hsunk, sinkCalls, List.filterMap_append, ← sinkCalls, sinkCalls_decided]
  rfl

section

variable (ports : Ports φ) (cfg : ControllerConfig) (readings : Readings)
  (incidentId : IncidentId) (ctx : Dict) (w : World φ)

/-- Every call acts in the allowed order, resumes Flink only when it reports
success, and reports success only for a cleared batch that the sink took. -/
theorem success_sound_and_ordered :
    ∃ actions,
      (executeRemediation ports cfg readings incidentId ctx w).2.trace = w.trace ++ actions ∧
      Trace.Guarded Allowed actions ∧
      (reportsSuccess (executeRemediation ports cfg readings incidentId ctx w).1 = false →
        .flinkResumed ∉ actions) ∧
      (reportsSuccess (executeRemediation ports cfg readings incidentId ctx w).1 = true →
        ∃ events, SoundSuccess incidentId (attemptNumber cfg readings incidentId w) actions
          (executeRemediation ports cfg readings incidentId ctx w).2 events) := by
  have hending := executeRemediation_ending ports cfg readings incidentId ctx w
  generalize (executeRemediation ports cfg readings incidentId ctx w).1 = out at hending ⊢
  generalize (executeRemediation ports cfg readings incidentId ctx w).2 = w' at hending ⊢
  -- a call that stops before the sink has taken only actions that need nothing before them
  have hstopped : ∀ actions : List Action, w'.trace = w.trace ++ actions →
      (∀ a ∈ actions, a.isFree = true) → reportsSuccess out = false → ∃ actions,
        w'.trace = w.trace ++ actions ∧ Trace.Guarded Allowed actions ∧
        (reportsSuccess out = false → .flinkResumed ∉ actions) ∧
        (reportsSuccess out = true → ∃ events, SoundSuccess incidentId
          (attemptNumber cfg readings incidentId w) actions w' events) := by
    intro actions htrace hfree hfail
    refine ⟨actions, htrace, guarded_of_free hfree, fun _ hmem => ?_, fun hsuccess => ?_⟩
    · exact absurd (hfree _ hmem) (by decide)
    · exact absurd hsuccess (by simp [hfail])
  cases hending with
  | skipped _ hfail => exact hstopped [] (by simp) (by simp) hfail
  | exceeded _ _ hfail _ h => exact hstopped _ h.trace_eq (by decide) hfail
  | quarantineFailed _ _ hfail _ h => exact hstopped _ h.trace_eq (by decide) hfail
  | refetchFailed _ _ _ hfail _ h => exact hstopped _ h.trace_eq (by decide) hfail
  | reprocessRaised _ _ _ h =>
    exact hstopped _ h.trace_eq
      (List.forall_mem_append.mpr ⟨isFree_fetchActions, isFree_verdictActions⟩) rfl
  | breakerRaised _ _ _ h => exact hstopped _ h.trace_eq isFree_validating rfl
  | validationFailed _ _ _ _ hfail _ h =>
    exact hstopped _ h.trace_eq (List.forall_mem_append.mpr ⟨isFree_decided, by decide⟩) hfail
  | sinkFailed _ hjudged _ hvalid hclosed _ hfail _ h =>
    have hcleared := cleared_decided hjudged hvalid hclosed
    refine ⟨_, h.trace_eq, guarded_sinkActions false isFree_decided hcleared, fun _ hmem => ?_,
      fun hsuccess => ?_⟩
    · obtain hmem | hmem := List.mem_append.mp hmem
      · exact absurd (isFree_decided _ hmem) (by decide)
      · simp at hmem
    · exact absurd hsuccess (by simp [reportsSuccess, hfail])
  | completed _ hjudged _ hvalid hclosed _ hsuccess _ h =>
    refine ⟨_, h.trace_eq, guarded_sinkActions true isFree_decided
      (cleared_decided hjudged hvalid hclosed), fun hfail => ?_,
      fun _ => ⟨_, soundSuccess_of_sunk hjudged hvalid hclosed h.circuit_eq⟩⟩
    exact absurd hfail (by simp [reportsSuccess, hsuccess])

end

/-- A call that reports success fetched what it then sank. -/
theorem Ending.soundSuccess {ports : Ports φ} {cfg : ControllerConfig} {readings : Readings}
    {incidentId : IncidentId} {ctx : Dict} {w w' : World φ} {out : Except Exc RemediationResult}
    (h : Ending ports cfg readings incidentId ctx w out w') (hsuccess : reportsSuccess out = true) :
    ∃ events o actions, Fetches ports cfg readings incidentId ctx w events o ∧
      w'.trace = w.trace ++ actions ∧
      SoundSuccess incidentId (attemptNumber cfg readings incidentId w) actions w' events := by
  cases h with
  | completed hrevalidates hjudged _ hvalid hclosed _ _ _ h =>
    obtain ⟨o, hfetches, -⟩ := hrevalidates.fetches
    exact ⟨_, o, _, hfetches, h.trace_eq, soundSuccess_of_sunk hjudged hvalid hclosed h.circuit_eq⟩
  | reprocessRaised => cases hsuccess
  | breakerRaised => cases hsuccess
  | _ => simp_all [reportsSuccess]

end IceStream.Remediation
