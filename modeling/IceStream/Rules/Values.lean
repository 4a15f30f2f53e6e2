import IceStream.Lib.Decimal
import IceStream.Lib.Text
import IceStream.Rules.Clock
import IceStream.Rules.Engine

/-!
# Rules about one value

Each of them reads one field of the event, after its conversion, and keeps no state.
-/

namespace IceStream
open Python

variable {φ : Type}

/-- A rule that keeps no state. -/
def statelessRule (name : Text) (check : QualityEvent → Except Exc ValidationResult) :
    QualityRule φ where
  name := name
  validate event := raising ((check event).map Except.ok)

section

variable (u : Unicode) (field : QualityField) (severity : Severity)

/-- A result about a field of the event. -/
def fieldResult (name : Text) (event : QualityEvent) (passed : Bool) (message : Text) :
    ValidationResult where
  ruleName := name
  passed := passed
  severity := severity
  message := message
  field := some field.key
  eventId := event.value .eventId

/-- Comparing with `NaN`. -/
def invalidOperation : Exc := ⟨"InvalidOperation", false, "[<class 'decimal.InvalidOperation'>]"⟩

/-! ## `AmountPositiveRule` -/

def positiveName : Text := text field.key ++ text "_positive"

/-- `validate` -/
def checkPositive (event : QualityEvent) : Except Exc ValidationResult :=
  let value := event.getField field
  let named := text s!"Field '{field.key}'"
  let result := fieldResult field severity (positiveName field) event
  let compared (positive : Bool) : ValidationResult :=
    if positive then result true (named ++ text " is positive (" ++ value.toText u ++ text ")")
    else result false (named ++ text " must be greater than 0, got " ++ value.toText u)
  match value with
  | .null => .ok (result false (named ++ text " is null, must be greater than 0"))
  | .bool _ => .ok (result false (named ++ text " has invalid boolean type"))
  | .int i => (floatOfInt i).map fun x => compared (0 < x)
  | .float x => .ok (compared (0 < x))
  | .str s => match decimalOfText u (strip s) with
    | none => .ok (result false
        (named ++ text " value '" ++ s ++ text "' has invalid non-numeric format"))
    | some .notANumber => .error invalidOperation
    | some number => .ok (compared number.isPositive)
  | v => .ok (result false (named ++ text s!" has unsupported type '{v.typeName}'"))

/-- `AmountPositiveRule` -/
def amountPositiveRule : QualityRule φ :=
  statelessRule (positiveName field) (checkPositive u field severity)

/-! ## `AllowedValuesRule` -/

def isBlank : Json → Bool
  | .null => true
  | .str s => strip s == []
  | _ => false

/-- `validate` -/
def checkAllowed (name : Text) (allowed : List String) (event : QualityEvent) : ValidationResult :=
  let value := event.getField field
  let named := text s!"Field '{field.key}'"
  let values := Json.repr u (.arr (allowed.map fun v => .str v))
  let result := fieldResult field severity name event
  let shown := value.toText u
  if isBlank value then result false (named ++ text " is null or empty, expected one of " ++ values)
  else if shown ∈ allowed.map text then
    result true (named ++ text " value '" ++ shown ++ text "' is valid")
  else result false
    (named ++ text " value '" ++ shown ++ text "' is invalid. Allowed values: " ++ values)

/-- `AllowedValuesRule` -/
def allowedValuesRule (name : Text) (allowed : List String) : QualityRule φ :=
  statelessRule name fun event => .ok (checkAllowed u field severity name allowed event)

def currencies : List String := ["INR", "USD", "EUR"]

/-- `CurrencyValidRule` -/
def currencyValidRule : QualityRule φ :=
  allowedValuesRule u .currency .high "currency_valid" currencies

def paymentStatuses : List String := ["SUCCESS", "FAILED", "PENDING", "CANCELLED"]

/-- `PaymentStatusValidRule` -/
def paymentStatusValidRule : QualityRule φ :=
  allowedValuesRule u .paymentStatus .high "payment_status_valid" paymentStatuses

/-! ## `TimestampValidRule` -/

def timestampName : Text := text field.key ++ text "_valid"

/-- The timestamp the rule reads; it takes a `Z` for the offset wherever that stands. -/
def readTimestamp (s : Text) : Option DateTime :=
  fromisoformat (replaceText (text "Z") (text "+00:00") (strip s))

/-- `validate` -/
def checkTimestamp (event : QualityEvent) : ValidationResult :=
  let value := event.getField field
  let named := text s!"Timestamp field '{field.key}'"
  let result := fieldResult field severity (timestampName field) event
  if isBlank value then result false (named ++ text " is null or missing")
  else match value with
    | .str s => match readTimestamp s with
      | some dt => result true (named ++ text " is valid (" ++ text dt.isoformat ++ text ")")
      | none => result false
          (named ++ text " value '" ++ s ++ text "' is malformed or unparseable ISO-8601")
    | v => result false (named ++ text s!" has invalid non-string type '{v.typeName}'")

/-- `TimestampValidRule` -/
def timestampValidRule : QualityRule φ :=
  statelessRule (timestampName field) fun event => .ok (checkTimestamp field severity event)

/-- The rule passes the texts it reads. -/
theorem checkTimestamp_passed_iff {event : QualityEvent} :
    (checkTimestamp field severity event).passed = true ↔
      ∃ s dt, event.getField field = .str s ∧ readTimestamp s = some dt := by
  rw [checkTimestamp]
  cases hvalue : event.getField field with
  | str s =>
    simp only [isBlank, beq_iff_eq]
    by_cases hblank : strip s = []
    · rw [if_pos hblank]
      refine iff_of_false nofun ?_
      rintro ⟨s', dt, hs', hdt⟩
      cases hs'
      rw [readTimestamp, hblank] at hdt
      cases hdt
    · rw [if_neg hblank]
      cases hdate : readTimestamp s with
      | none =>
        refine iff_of_false nofun ?_
        rintro ⟨s', dt, hs', hdt⟩
        cases hs'
        rw [hdate] at hdt
        cases hdt
      | some dt => exact iff_of_true rfl ⟨s, dt, rfl, hdate⟩
  | _ => exact iff_of_false nofun nofun

end

end IceStream
