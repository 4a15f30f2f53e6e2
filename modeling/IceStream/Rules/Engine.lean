import IceStream.Rules.Base

/-!
# The quality engine

A rule may raise and may keep state, both in the surroundings `φ`; the engine
turns what it raises into a failed result. Recording the summary in the metrics
collector is the one thing behind the rules that may raise.
-/

namespace IceStream
open Python

variable {φ : Type}

/-- A rule answers with a result, or with an object of some other type. -/
structure QualityRule (φ : Type) where
  name : Text
  enabled : Bool := true
  validate : QualityEvent → Fallible φ (Except String ValidationResult)

/-- `EventIdNotNullRule` -/
def eventIdNotNullRule (u : Unicode) (severity : Severity) : QualityRule φ where
  name := "event_id_not_null"
  validate event :=
    let eventId := event.value .eventId
    let shown := strip (eventId.toText u)
    let unpopulated := (eventId matches .null) || shown == [] || lower shown == text "none"
    pure (.ok {
      ruleName := "event_id_not_null"
      passed := !unpopulated
      severity := severity
      message := if unpopulated then "event_id is null, empty, or unpopulated"
        else "event_id is present and valid"
      field := some "event_id"
      eventId := if unpopulated then .null else .str (eventId.toText u) })

def defaultSeverity : QualityField → Severity
  | .eventId => .critical
  | .amount => .critical
  | _ => .high

/-- What `NotNullRule` takes for null. -/
def isNull : Json → Bool
  | .null => true
  | .str s => strip s == [] || lower (strip s) == text "none"
  | _ => false

/-- `NotNullRule` -/
def notNullRule (field : QualityField) (severity : Option Severity) : QualityRule φ where
  name := field.key ++ "_not_null"
  validate event :=
    let value := event.getField field
    pure (.ok {
      ruleName := field.key ++ "_not_null"
      passed := !isNull value
      severity := severity.getD (defaultSeverity field)
      message := if isNull value then s!"Field '{field.key}' is null or unpopulated"
        else s!"Field '{field.key}' is present and valid"
      field := some field.key
      eventId := event.value .eventId })

structure QualityEngine (φ : Type) where
  rules : List (QualityRule φ)
  recordEventSummary : ValidationSummary → Json → Fallible φ Unit

namespace QualityEngine

def ruleFailure (rule : QualityRule φ) (eventId : Json) (e : Exc) : ValidationResult where
  ruleName := rule.name
  passed := false
  severity := .critical
  message := text "Rule execution failure: " ++ text e.name ++ text ": " ++ e.message
  eventId := eventId

def runRule (event : QualityEvent) (rule : QualityRule φ) : Fallible φ ValidationResult :=
  Fallible.catching
    (do
      match ← rule.validate event with
      | .ok result => pure result
      | .error typeName => Fallible.raise (typeError
          (text "Rule " ++ rule.name ++
            text s!" returned {typeName}, expected ValidationResult")))
    fun e => pure (ruleFailure rule (event.value .eventId) e)

def runRules (event : QualityEvent) : List (QualityRule φ) → Fallible φ (List ValidationResult)
  | [] => pure []
  | rule :: rules => do
    let result ← runRule event rule
    let results ← runRules event rules
    pure (result :: results)

def getActiveRules (engine : QualityEngine φ) : List (QualityRule φ) :=
  engine.rules.filter QualityRule.enabled

def validateEvent (engine : QualityEngine φ) (event : QualityEvent) :
    Fallible φ ValidationSummary := do
  let results ← runRules event engine.getActiveRules
  let summary := computeValidationSummary results (event.value .eventId)
  engine.recordEventSummary summary (event.value .eventTime)
  pure summary

/-- `validate_with_summary` on a value that came out of JSON; the list of
results is the one in the summary. -/
def validateWithSummary (u : Unicode) (engine : QualityEngine φ) (event : Json) :
    Fallible φ ValidationSummary :=
  match event with
  | .obj data =>
    match QualityEvent.fromDict u data with
    | .ok event => engine.validateEvent event
    | .error e => Fallible.raise e
  | v => Fallible.raise (typeError (text s!"Expected QualityEvent or dict, got {v.typeName}"))

/-- No rule stops the engine. -/
theorem runRules_total (event : QualityEvent) (rules : List (QualityRule φ)) (w : φ) :
    ∃ results w', runRules event rules w = (.ok results, w') := by
  induction rules generalizing w with
  | nil => exact ⟨[], w, rfl⟩
  | cons rule rules ih =>
    obtain ⟨result, w₁, hrule⟩ : ∃ result w₁, runRule event rule w = (.ok result, w₁) :=
      Fallible.catching_total (fun _ _ => ⟨_, _, rfl⟩) w
    obtain ⟨results, w₂, hrules⟩ := ih w₁
    refine ⟨result :: results, w₂, ?_⟩
    rw [runRules, Fallible.bind_ok hrule, Fallible.bind_ok hrules]
    rfl

/-- A summary the engine returns is the one computed from its results. -/
theorem summary_of_validateWithSummary {u : Unicode} {engine : QualityEngine φ} {event : Json}
    {w w' : φ} {summary : ValidationSummary}
    (h : engine.validateWithSummary u event w = (.ok summary, w')) :
    ∃ eventId, summary = computeValidationSummary summary.results eventId := by
  cases event with
  | obj data =>
    simp only [validateWithSummary] at h
    cases hdict : QualityEvent.fromDict u data with
    | error e =>
      rw [hdict] at h
      cases h
    | ok event =>
      obtain ⟨results, w₁, hrules⟩ := runRules_total event engine.getActiveRules w
      simp only [hdict, validateEvent] at h
      rw [Fallible.bind_ok hrules] at h
      rcases hrecord : engine.recordEventSummary
        (computeValidationSummary results (event.value .eventId)) (event.value .eventTime) w₁
        with ⟨e | _, w₂⟩
      · rw [Fallible.bind_error hrecord] at h
        cases h
      · rw [Fallible.bind_ok hrecord] at h
        cases h
        exact ⟨_, rfl⟩
  | _ => cases h

end QualityEngine
end IceStream
