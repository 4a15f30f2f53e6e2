import IceStream.Rules.Base

/-!
# Error codes

The failed results of an event, ordered by weight and then by name, decide its
error code and its message.
-/

namespace IceStream.Quarantine
open Python

def defaultFallbackErrorCode : String := "DATA_QUALITY_FAILURE"

def ruleErrorCodeMap : List (String × String) :=
  [("amount_not_null", "NULL_AMOUNT"),
   ("order_id_not_null", "NULL_ORDER_ID"),
   ("customer_id_not_null", "NULL_CUSTOMER_ID"),
   ("product_id_not_null", "NULL_PRODUCT_ID"),
   ("session_id_not_null", "NULL_SESSION_ID"),
   ("payment_status_not_null", "NULL_PAYMENT_STATUS"),
   ("currency_not_null", "NULL_CURRENCY"),
   ("device_not_null", "NULL_DEVICE"),
   ("country_not_null", "NULL_COUNTRY"),
   ("event_id_not_null", "NULL_EVENT_ID"),
   ("event_time_not_null", "NULL_EVENT_TIME"),
   ("amount_positive", "INVALID_AMOUNT"),
   ("currency_valid", "INVALID_CURRENCY"),
   ("currency_allowed_values", "INVALID_CURRENCY"),
   ("payment_status_valid", "INVALID_PAYMENT_STATUS"),
   ("payment_status_allowed_values", "INVALID_PAYMENT_STATUS"),
   ("event_time_valid", "INVALID_TIMESTAMP"),
   ("ingestion_time_not_null", "MISSING_INGESTION_TIME"),
   ("ingestion_time_valid", "INVALID_INGESTION_TIME"),
   ("duplicate_event", "DUPLICATE_EVENT"),
   ("duplicate_order", "DUPLICATE_ORDER"),
   ("impossible_amount", "IMPOSSIBLE_AMOUNT"),
   ("future_timestamp", "FUTURE_TIMESTAMP"),
   ("late_event", "LATE_EVENT"),
   ("schema_drift", "SCHEMA_DRIFT"),
   ("malformed_json", "MALFORMED_JSON"),
   ("syntax_error", "MALFORMED_JSON")]

def severityWeight : Severity → ℕ
  | .critical => 400
  | .high => 300
  | .warning => 200
  | .medium => 200
  | .low => 100
  | .info => 100

def errorCodeForRule (ruleName : Text) : String :=
  match ruleErrorCodeMap.find? fun p => text p.1 = ruleName with
  | some p => p.2
  | none => defaultFallbackErrorCode

/-- The order of the sort key `(-weight, rule_name)`. -/
def Precedes (r r' : ValidationResult) : Prop :=
  severityWeight r'.severity < severityWeight r.severity ∨
    (severityWeight r.severity = severityWeight r'.severity ∧ r.ruleName ≤ r'.ruleName)

instance (r r' : ValidationResult) : Decidable (Precedes r r') :=
  inferInstanceAs (Decidable (_ ∨ _))

def sortFailedResults (failedResults : List ValidationResult) : List ValidationResult :=
  failedResults.insertionSort Precedes

/-- What a record says about its failures. -/
structure PrimaryError where
  errorCode : String
  errorMessage : Text
  failedRules : List Text

def determinePrimaryError (failedResults : List ValidationResult) : PrimaryError :=
  match sortFailedResults failedResults with
  | [] => ⟨"NONE", "No failures", []⟩
  | [r] => ⟨errorCodeForRule r.ruleName, r.message, [r.ruleName]⟩
  | r :: rs =>
    { errorCode := errorCodeForRule r.ruleName
      errorMessage := (text " | ").intercalate
        ((r :: rs).map fun r => r.ruleName ++ text ": " ++ r.message)
      failedRules := (r :: rs).map ValidationResult.ruleName }

theorem failedRules_determinePrimaryError (failedResults : List ValidationResult) :
    (determinePrimaryError failedResults).failedRules =
      (sortFailedResults failedResults).map ValidationResult.ruleName := by
  unfold determinePrimaryError
  split <;> rename_i h <;> simp [h]

/-- Every failed rule is named, once for each of its results. -/
theorem failedRules_perm (failedResults : List ValidationResult) :
    (determinePrimaryError failedResults).failedRules.Perm
      (failedResults.map ValidationResult.ruleName) := by
  rw [failedRules_determinePrimaryError]
  exact (List.perm_insertionSort Precedes failedResults).map _

instance : Std.Total Precedes where
  total r r' := by
    obtain h | h | h := lt_trichotomy (severityWeight r.severity) (severityWeight r'.severity)
    · exact .inr (.inl h)
    · obtain hle | hle := le_total r.ruleName r'.ruleName
      · exact .inl (.inr ⟨h, hle⟩)
      · exact .inr (.inr ⟨h.symm, hle⟩)
    · exact .inl (.inl h)

instance : IsTrans ValidationResult Precedes where
  trans r r' r'' := by
    rintro (h | ⟨h, hle⟩) (h' | ⟨h', hle'⟩)
    · exact .inl (h'.trans h)
    · exact .inl (h' ▸ h)
    · exact .inl (h ▸ h')
    · exact .inr ⟨h.trans h', hle.trans hle'⟩

/-- The error code is that of a failure no other one outweighs. -/
theorem errorCode_of_heaviest {failedResults : List ValidationResult} (h : failedResults ≠ []) :
    ∃ r ∈ failedResults, (∀ r' ∈ failedResults, Precedes r r' ∨ r' = r) ∧
      (determinePrimaryError failedResults).errorCode = errorCodeForRule r.ruleName := by
  have hperm := List.perm_insertionSort Precedes failedResults
  have hsorted := List.pairwise_insertionSort Precedes failedResults
  rcases hs : failedResults.insertionSort Precedes with _ | ⟨r, rs⟩
  · rw [hs] at hperm
    exact absurd hperm.nil_eq.symm h
  · rw [hs] at hperm hsorted
    refine ⟨r, hperm.subset List.mem_cons_self, fun r' hr' => ?_, ?_⟩
    · obtain heq | hmem := List.mem_cons.mp (hperm.symm.subset hr')
      · exact .inr heq
      · exact .inl (List.rel_of_pairwise_cons hsorted hmem)
    · cases rs <;> simp only [determinePrimaryError, sortFailedResults, hs]

end IceStream.Quarantine
