import IceStream.Detectors.Duplicate

/-!
# Anomalies

An amount above the business limit, and an event time that lies too far from the time of
ingestion. What cannot be read is passed over.
-/

namespace IceStream
open Python

variable {φ ρ : Type}

/-! ## `ImpossibleAmountRule` -/

/-- Commas between the thousands, from the right. -/
def groupThousands : List Char → List Char
  | a :: b :: c :: d :: rest => a :: b :: c :: ',' :: groupThousands (d :: rest)
  | cs => cs

/-- `f"{x:,.2f}"`, of an `x` that is not negative. -/
def withCommas (x : Float) : String :=
  let shown := (fixed 2 x).toList
  let whole := shown.takeWhile (· ≠ '.')
  String.ofList ((groupThousands whole.reverse).reverse ++ shown.drop whole.length)

section

variable (u : Unicode) (maxValue : Float) (field : QualityField) (severity : Severity)

/-- `validate` -/
def checkImpossibleAmount (event : QualityEvent) : Except Exc ValidationResult :=
  let value := event.getField field
  let result := fieldResult field severity "impossible_amount" event
  let limit := text (" (" ++ withCommas maxValue ++ ")")
  if isUnpopulated u value then
    .ok (result true (text s!"Skipped impossible_amount check for null {field.key}"))
  else match value.toFloat u with
    | .error e =>
      if e.isValueError || e.name == "TypeError" then
        .ok (result true (text s!"Skipped impossible_amount check for non-numeric {field.key}"))
      else .error e
    | .ok amount =>
      if maxValue < amount then .ok (result false (text "amount exceeds maximum business limit" ++ limit))
      else .ok (result true (text "amount is within acceptable business limit" ++ limit))

end

/-- `ImpossibleAmountRule` -/
def impossibleAmountRule (u : Unicode) (maxValue : Float := 500000) : QualityRule φ :=
  statelessRule "impossible_amount" (checkImpossibleAmount u maxValue .amount .high)

/-! ## `FutureTimestampRule` and `LateEventRule` -/

/-- `ingestion_dt or self._clock.now()` -/
def referenceTime (platform : Platform) (event : QualityEvent) : Fallible RuleWorld Instant := do
  match ← raising (parseIsoTimestamp platform (event.getField .ingestionTime)) with
  | some ingestion => pure ingestion
  | none => RuleWorld.now

/-- How a rule bounds the time of an event: `delta` from the reference time, on one side. -/
structure TimeBound where
  name : String
  /-- What it calls its check where it makes none. -/
  check : String
  severity : Severity
  delta : ℤ
  beyond : Instant → Instant → Bool
  violated : String
  respected : String

def boundedTimeRule (platform : Platform) (field : QualityField) (bound : TimeBound) :
    QualityRule (RuleWorld × ρ) where
  name := bound.name
  validate event := RuleWorld.onRules do
    let result := fieldResult field bound.severity bound.name event
    match ← raising (parseIsoTimestamp platform (event.getField field)) with
    | none => pure (.ok (result true
        (text s!"Skipped {bound.check} check for missing/invalid {field.key}")))
    | some eventTime =>
      let reference ← referenceTime platform event
      let allowed ← raising (addMicros reference bound.delta)
      if bound.beyond eventTime allowed then pure (.ok (result false bound.violated))
      else pure (.ok (result true bound.respected))

def futureBound (toleranceSeconds : ℤ) : TimeBound where
  name := "future_timestamp"
  check := "future timestamp"
  severity := .high
  delta := toleranceSeconds * 1000000
  beyond eventTime allowed := allowed < eventTime
  violated := "event_time is beyond allowed clock skew"
  respected := "event_time is within acceptable clock skew tolerance"

/-- `FutureTimestampRule` -/
def futureTimestampRule (platform : Platform) (toleranceSeconds : ℤ := 30) :
    QualityRule (RuleWorld × ρ) :=
  boundedTimeRule platform .eventTime (futureBound toleranceSeconds)

def lateBound (allowedLatenessSeconds : ℤ) : TimeBound where
  name := "late_event"
  check := "late event"
  severity := .medium
  delta := -(allowedLatenessSeconds * 1000000)
  beyond eventTime allowed := eventTime < allowed
  violated := "event arrived later than allowed lateness"
  respected := "event arrived within allowed lateness threshold"

/-- `LateEventRule` -/
def lateEventRule (platform : Platform) (allowedLatenessSeconds : ℤ := 120) :
    QualityRule (RuleWorld × ρ) :=
  boundedTimeRule platform .eventTime (lateBound allowedLatenessSeconds)

example : withCommas 500000 = "500,000.00" := by decide +kernel

end IceStream
