import IceStream.Rules.Engine
import IceStream.Storage.Incidents

/-!
# Re-validation of re-fetched events

The reprocessor stops at the first event whose validation raises; what the
quarantine writer raises is logged.
-/

namespace IceStream.Remediation
open Python

variable {σ : Type}

structure ReprocessResult where
  totalProcessed : ℕ := 0
  validCount : ℕ := 0
  invalidCount : ℕ := 0
  validEvents : List Dict := []
  invalidEvents : List Dict := []
  quarantineResults : List Dict := []
  errorRate : Float := 0

namespace ReprocessResult

def isFullyValid (r : ReprocessResult) : Bool := 0 < r.totalProcessed && r.invalidCount == 0

def accepted (r : ReprocessResult) (event : Dict) : ReprocessResult :=
  { r with
    validCount := r.validCount + 1
    validEvents := r.validEvents ++ [event] }

def rejected (r : ReprocessResult) (event : Dict) (quarantined : List Dict) : ReprocessResult :=
  { r with
    invalidCount := r.invalidCount + 1
    invalidEvents := r.invalidEvents ++ [event]
    quarantineResults := r.quarantineResults ++ quarantined }

end ReprocessResult

structure Reprocessor (σ : Type) where
  validateWithSummary : Dict → Fallible σ ValidationSummary
  /-- `write_invalid_event` of the quarantine writer, given the failed rules. -/
  writeInvalidEvent : Option (Dict → List Text → Fallible σ Dict)

/-- The copy of a valid event that goes on to the sink. -/
def withProvenance (incidentId : IncidentId) (attemptNumber : ℕ) (event : Dict) : Dict :=
  (event.set "_remediation_incident_id" (.str incidentId.val)).set "_remediation_attempt"
    (.int attemptNumber)

namespace Reprocessor

def quarantine (r : Reprocessor σ) (event : Dict) (summary : ValidationSummary) :
    Fallible σ (List Dict) :=
  match r.writeInvalidEvent with
  | none => pure []
  | some write => Fallible.catching
      (do
        let result ← write event (summary.failedResults.map ValidationResult.ruleName)
        pure [result])
      fun _ => pure []

/-- The body of the loop in `process`. -/
def processEvent (r : Reprocessor σ) (incidentId : IncidentId) (attemptNumber : ℕ)
    (result : ReprocessResult) (event : Dict) : Fallible σ ReprocessResult := do
  let summary ← r.validateWithSummary event
  if summary.failedRules = 0 then
    pure (result.accepted (withProvenance incidentId attemptNumber event))
  else
    let quarantined ← r.quarantine event summary
    pure (result.rejected event quarantined)

def processAll (r : Reprocessor σ) (incidentId : IncidentId) (attemptNumber : ℕ) :
    ReprocessResult → List Dict → Fallible σ ReprocessResult
  | result, [] => pure result
  | result, event :: events => do
    let result ← r.processEvent incidentId attemptNumber result event
    r.processAll incidentId attemptNumber result events

def process (r : Reprocessor σ) (recoveredEvents : List Dict) (incidentId : IncidentId)
    (attemptNumber : ℕ) : Fallible σ ReprocessResult := do
  if recoveredEvents.isEmpty then pure {}
  else
    let result ← r.processAll incidentId attemptNumber
      { totalProcessed := recoveredEvents.length } recoveredEvents
    pure { result with
      errorRate := Float.ofNat result.invalidCount / Float.ofNat result.totalProcessed }

/-! ## The verdicts of a run -/

/-- Events that were validated, each with whether it passed. -/
abbrev Verdicts := List (Dict × Bool)

/-- The same reprocessor, keeping a log of the verdicts next to its state. -/
def logged (r : Reprocessor σ) : Reprocessor (σ × Verdicts) where
  validateWithSummary event := fun (s, log) =>
    match r.validateWithSummary event s with
    | (.ok summary, s') => (.ok summary, s', log ++ [(event, summary.failedRules == 0)])
    | (.error e, s') => (.error e, s', log)
  writeInvalidEvent := r.writeInvalidEvent.map fun write event failedRules (s, log) =>
    ((write event failedRules s).1, (write event failedRules s).2, log)

/-- What a result says of the verdicts it was computed from. -/
structure Reports (incidentId : IncidentId) (attemptNumber : ℕ) (result : ReprocessResult)
    (verdicts : Verdicts) : Prop where
  validCount_eq : result.validCount = (verdicts.filter Prod.snd).length
  invalidCount_eq : result.invalidCount = (verdicts.filter fun v => !v.2).length
  validEvents_eq : result.validEvents =
    (verdicts.filter Prod.snd).map fun v => withProvenance incidentId attemptNumber v.1

section

variable (r : Reprocessor σ) (incidentId : IncidentId) (attemptNumber : ℕ)

theorem quarantine_none (h : r.writeInvalidEvent = none) (event : Dict)
    (summary : ValidationSummary) : r.quarantine event summary = pure [] := by
  rw [quarantine, h]

theorem quarantine_some {write : Dict → List Text → Fallible σ Dict}
    (h : r.writeInvalidEvent = some write) (event : Dict) (summary : ValidationSummary) (s : σ) :
    r.quarantine event summary s =
      match write event (summary.failedResults.map ValidationResult.ruleName) s with
      | (.ok result, s') => (.ok [result], s')
      | (.error _, s') => (.ok [], s') := by
  rw [quarantine, h]
  rcases hwrite : write event (summary.failedResults.map ValidationResult.ruleName) s
    with ⟨_ | _, s'⟩
  · exact Fallible.catching_error (Fallible.bind_error hwrite)
  · exact Fallible.catching_ok (Fallible.bind_ok hwrite)

/-- Quarantining never raises, and leaves the log alone. -/
theorem quarantine_logged (event : Dict) (summary : ValidationSummary) (s : σ) (log : Verdicts) :
    ∃ results s', r.quarantine event summary s = (.ok results, s') ∧
      r.logged.quarantine event summary (s, log) = (.ok results, s', log) := by
  cases hwrite : r.writeInvalidEvent with
  | none =>
    have hwrite' : r.logged.writeInvalidEvent = none := by
      change Option.map _ r.writeInvalidEvent = none
      rw [hwrite]
      rfl
    exact ⟨[], s, by rw [r.quarantine_none hwrite]; rfl, by rw [quarantine_none _ hwrite']; rfl⟩
  | some write =>
    have hwrite' : r.logged.writeInvalidEvent = some fun event failedRules (s, log) =>
        ((write event failedRules s).1, (write event failedRules s).2, log) := by
      change Option.map _ r.writeInvalidEvent = _
      rw [hwrite]
      rfl
    rw [r.quarantine_some hwrite, quarantine_some _ hwrite']
    rcases hresult : write event (summary.failedResults.map ValidationResult.ruleName) s
      with ⟨_ | result, s'⟩
    · exact ⟨[], s', rfl, by simp only [hresult]⟩
    · exact ⟨[result], s', rfl, by simp only [hresult]⟩

/-- One event adds one verdict, and the result reports it, unless its
validation raises. -/
theorem processEvent_logged (result : ReprocessResult) (event : Dict) (s : σ) (log : Verdicts) :
    (∃ e s', r.processEvent incidentId attemptNumber result event s = (.error e, s') ∧
      r.logged.processEvent incidentId attemptNumber result event (s, log) =
        (.error e, s', log)) ∨
    ∃ result' s' passed,
      r.processEvent incidentId attemptNumber result event s = (.ok result', s') ∧
      r.logged.processEvent incidentId attemptNumber result event (s, log) =
        (.ok result', s', log ++ [(event, passed)]) ∧
      result'.totalProcessed = result.totalProcessed ∧
      ∀ verdicts, Reports incidentId attemptNumber result verdicts →
        Reports incidentId attemptNumber result' (verdicts ++ [(event, passed)]) := by
  rcases hvalidate : r.validateWithSummary event s with ⟨e | summary, s₁⟩
  · refine .inl ⟨e, s₁, Fallible.bind_error hvalidate, ?_⟩
    have hlogged : r.logged.validateWithSummary event (s, log) = (.error e, s₁, log) := by
      simp only [logged, hvalidate]
    exact Fallible.bind_error hlogged
  · right
    have hlogged : r.logged.validateWithSummary event (s, log) =
        (.ok summary, s₁, log ++ [(event, summary.failedRules == 0)]) := by
      simp only [logged, hvalidate]
    unfold processEvent
    rw [Fallible.bind_ok hvalidate, Fallible.bind_ok hlogged]
    by_cases hpass : summary.failedRules = 0
    · refine ⟨result.accepted (withProvenance incidentId attemptNumber event), s₁, true,
        by rw [if_pos hpass]; rfl, ?_, rfl, ?_⟩
      · rw [if_pos hpass, hpass]
        rfl
      · rintro verdicts ⟨hvalid, hinvalid, hevents⟩
        constructor <;> simp [ReprocessResult.accepted, hvalid, hinvalid, hevents]
    · obtain ⟨results, s₂, hquarantine, hquarantine'⟩ := r.quarantine_logged event summary s₁
        (log ++ [(event, summary.failedRules == 0)])
      refine ⟨result.rejected event results, s₂, false,
        by rw [if_neg hpass, Fallible.bind_ok hquarantine]; rfl, ?_, rfl, ?_⟩
      · rw [if_neg hpass, Fallible.bind_ok hquarantine', beq_false_of_ne hpass]
        rfl
      · rintro verdicts ⟨hvalid, hinvalid, hevents⟩
        constructor <;> simp [ReprocessResult.rejected, hvalid, hinvalid, hevents]

/-- A run judges the events in order; one that ends has judged them all. -/
theorem processAll_logged (events : List Dict) (result : ReprocessResult) (s : σ)
    (log : Verdicts) :
    ∃ out s' judged,
      r.processAll incidentId attemptNumber result events s = (out, s') ∧
      r.logged.processAll incidentId attemptNumber result events (s, log) =
        (out, s', log ++ judged) ∧
      ∀ result', out = .ok result' → judged.map Prod.fst = events ∧
        result'.totalProcessed = result.totalProcessed ∧
        ∀ verdicts, Reports incidentId attemptNumber result verdicts →
          Reports incidentId attemptNumber result' (verdicts ++ judged) := by
  induction events generalizing result s log with
  | nil =>
    refine ⟨.ok result, s, [], rfl, by rw [List.append_nil]; rfl, ?_⟩
    rintro _ ⟨rfl⟩
    exact ⟨rfl, rfl, fun verdicts h => by rwa [List.append_nil]⟩
  | cons event events ih =>
    obtain ⟨e, s₁, hplain, hlogged⟩ | ⟨result₁, s₁, passed, hplain, hlogged, htotal, hreports⟩ :=
      r.processEvent_logged incidentId attemptNumber result event s log
    · refine ⟨.error e, s₁, [], Fallible.bind_error hplain, ?_, fun _ h => by cases h⟩
      rw [List.append_nil]
      exact Fallible.bind_error hlogged
    · obtain ⟨out, s₂, judged, hplain', hlogged', hend⟩ := ih result₁ s₁ (log ++ [(event, passed)])
      refine ⟨out, s₂, (event, passed) :: judged, ?_, ?_, ?_⟩
      · rw [processAll, Fallible.bind_ok hplain, hplain']
      · rw [processAll, Fallible.bind_ok hlogged, hlogged', List.append_assoc]
        rfl
      · intro result' hok
        obtain ⟨hfst, htotal', hreports'⟩ := hend result' hok
        refine ⟨by rw [List.map_cons, hfst], htotal'.trans htotal, fun verdicts h => ?_⟩
        have := hreports' _ (hreports verdicts h)
        rwa [List.append_assoc] at this

/-- `process` judges the events in order; when it returns it has judged them
all, and its result reports the verdicts. -/
theorem process_logged (events : List Dict) (s : σ) :
    ∃ out s' judged,
      r.process events incidentId attemptNumber s = (out, s') ∧
      r.logged.process events incidentId attemptNumber (s, []) = (out, s', judged) ∧
      ∀ result, out = .ok result → judged.map Prod.fst = events ∧
        result.totalProcessed = events.length ∧ Reports incidentId attemptNumber result judged ∧
        (events ≠ [] → result.errorRate =
          Float.ofNat result.invalidCount / Float.ofNat result.totalProcessed) := by
  cases events with
  | nil =>
    refine ⟨.ok {}, s, [], rfl, rfl, ?_⟩
    rintro _ ⟨rfl⟩
    exact ⟨rfl, rfl, ⟨rfl, rfl, rfl⟩, fun h => (h rfl).elim⟩
  | cons event events =>
    obtain ⟨out, s', judged, hplain, hlogged, hend⟩ := r.processAll_logged incidentId attemptNumber
      (event :: events) { totalProcessed := (event :: events).length } s []
    rw [List.nil_append] at hlogged
    cases out with
    | error e =>
      exact ⟨.error e, s', judged, Fallible.bind_error hplain, Fallible.bind_error hlogged,
        fun _ h => by cases h⟩
    | ok result =>
      obtain ⟨hfst, htotal, hreports⟩ := hend result rfl
      refine ⟨_, s', judged, Fallible.bind_ok hplain, Fallible.bind_ok hlogged, ?_⟩
      rintro _ ⟨rfl⟩
      obtain ⟨hvalid, hinvalid, hevents⟩ := hreports [] ⟨rfl, rfl, rfl⟩
      exact ⟨hfst, htotal, ⟨hvalid, hinvalid, hevents⟩, fun _ => rfl⟩

end

/-- A fully valid result reports that every event passed, in order. -/
theorem Reports.all_valid {incidentId : IncidentId} {attemptNumber : ℕ} {result : ReprocessResult}
    {verdicts : Verdicts} (h : Reports incidentId attemptNumber result verdicts)
    (hzero : result.invalidCount = 0) :
    (∀ v ∈ verdicts, v.2 = true) ∧
      result.validEvents = verdicts.map fun v => withProvenance incidentId attemptNumber v.1 := by
  have hnone : verdicts.filter (fun v => !v.2) = [] :=
    List.length_eq_zero_iff.mp (h.invalidCount_eq ▸ hzero)
  have hall : ∀ v ∈ verdicts, v.2 = true := by
    intro v hv
    simpa using List.filter_eq_nil_iff.mp hnone v hv
  refine ⟨hall, ?_⟩
  rw [h.validEvents_eq, List.filter_eq_self.mpr hall]

end Reprocessor
end IceStream.Remediation
