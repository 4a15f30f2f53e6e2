import IceStream.Schemas.Event

/-!
# Validation results

What one rule says about an event, and the summary over all of them.
-/

namespace IceStream
open Python

/-- `BREAKING` is another name of `CRITICAL`. -/
inductive Severity
  | info
  | low
  | medium
  | high
  | warning
  | critical
  deriving DecidableEq

/-- The event id is whatever the event had for it. -/
structure ValidationResult where
  ruleName : Text
  passed : Bool
  severity : Severity
  message : Text
  field : Option Text := none
  eventId : Json := .null

inductive EventStatus
  | healthy
  | warning
  | failed
  deriving DecidableEq

structure ValidationSummary where
  eventId : Json
  totalRules : ℕ
  passedRules : ℕ
  failedRules : ℕ
  criticalFailures : ℕ
  overallStatus : EventStatus
  results : List ValidationResult

def ValidationResult.isCriticalFailure (r : ValidationResult) : Bool :=
  !r.passed && (r.severity == .critical || r.severity == .high)

/-- `compute_validation_summary` -/
def computeValidationSummary (results : List ValidationResult) (eventId : Json) :
    ValidationSummary :=
  let failed := (results.filter fun r => !r.passed).length
  let critical := (results.filter ValidationResult.isCriticalFailure).length
  { eventId := eventId
    totalRules := results.length
    passedRules := (results.filter fun r => r.passed).length
    failedRules := failed
    criticalFailures := critical
    overallStatus := if failed = 0 then .healthy else if 0 < critical then .failed else .warning
    results := results }

namespace ValidationSummary

/-- The test the stream validator and the error-rate engine share. -/
def isValid (s : ValidationSummary) : Bool :=
  s.overallStatus == .healthy || s.overallStatus == .warning

def failedResults (s : ValidationSummary) : List ValidationResult :=
  s.results.filter fun r => !r.passed

end ValidationSummary

section

variable (results : List ValidationResult) (eventId : Json)

@[simp] theorem computeValidationSummary_results :
    (computeValidationSummary results eventId).results = results := rfl

/-- A critical failure is a failure. -/
theorem criticalFailures_le_failedRules :
    (computeValidationSummary results eventId).criticalFailures ≤
      (computeValidationSummary results eventId).failedRules := by
  have hsub : results.filter ValidationResult.isCriticalFailure =
      (results.filter fun r => !r.passed).filter ValidationResult.isCriticalFailure := by
    rw [List.filter_filter]
    apply List.filter_congr
    intro r _
    cases hr : r.passed <;> simp [ValidationResult.isCriticalFailure, hr]
  change (results.filter ValidationResult.isCriticalFailure).length ≤ _
  rw [hsub]
  exact List.length_filter_le _ _

/-- An event is invalid when some failure is critical. -/
theorem isValid_eq_false_iff :
    (computeValidationSummary results eventId).isValid = false ↔
      0 < (computeValidationSummary results eventId).criticalFailures := by
  have hle := criticalFailures_le_failedRules results eventId
  have hstatus : (computeValidationSummary results eventId).overallStatus =
      if (computeValidationSummary results eventId).failedRules = 0 then .healthy
      else if 0 < (computeValidationSummary results eventId).criticalFailures then .failed
      else .warning := rfl
  simp only [ValidationSummary.isValid, hstatus]
  split
  · rename_i hzero
    simp only [beq_self_eq_true, Bool.true_or, Bool.true_eq_false, false_iff]
    omega
  · split
    · rename_i hcritical
      simpa using hcritical
    · rename_i hcritical
      simpa using hcritical

/-- An invalid event has a failed result. -/
theorem failedResults_ne_nil
    (h : (computeValidationSummary results eventId).isValid = false) :
    (computeValidationSummary results eventId).failedResults ≠ [] := by
  have hcritical := (isValid_eq_false_iff results eventId).mp h
  have hle := criticalFailures_le_failedRules results eventId
  have hlen : (computeValidationSummary results eventId).failedRules =
      (computeValidationSummary results eventId).failedResults.length := rfl
  intro hnil
  rw [hnil, List.length_nil] at hlen
  omega

end
end IceStream
