import IceStream.Rules.Values

/-!
# Duplicates

An id that was seen within the window is a duplicate. Ids are compared as texts.
-/

namespace IceStream
open Python

variable {ρ : Type}

/-- Where a detector keeps the ids it has seen, with the times. -/
structure SeenIds where
  get : RuleWorld → List (Text × Instant)
  set : List (Text × Instant) → RuleWorld → RuleWorld

def seenEvents : SeenIds := ⟨RuleWorld.seenEvents, fun seen s => { s with seenEvents := seen }⟩

def seenOrders : SeenIds := ⟨RuleWorld.seenOrders, fun seen s => { s with seenOrders := seen }⟩

/-- `v is None or str(v).strip() == "" or str(v).strip().lower() == "none"` -/
def isUnpopulated (u : Unicode) (v : Json) : Bool :=
  (v matches .null) || strip (v.toText u) == [] || lower (strip (v.toText u)) == text "none"

/-- `_purge_expired` -/
def purgeExpired (windowSeconds : ℤ) (refTime : Instant) (seen : List (Text × Instant)) :
    Except Exc (List (Text × Instant)) :=
  (addMicros refTime (-(windowSeconds * 1000000))).map fun cutoff =>
    seen.filter fun p => cutoff ≤ p.2

/-- Whether an id is new in the window; one that is new is kept. -/
def isUnique (seen : SeenIds) (windowSeconds : ℤ) (id : Text) : Fallible RuleWorld Bool := do
  let now ← RuleWorld.now
  let before ← Fallible.read seen.get
  let kept ← raising (purgeExpired windowSeconds now before)
  if (kept.lookup id).isSome then
    Fallible.update (seen.set kept)
    return false
  else
    Fallible.update (seen.set (kept ++ [(id, now)]))
    return true

/-- The rules differ in the id a result has, when the event has no id and when it has one. -/
def duplicateRule (u : Unicode) (name : Text) (field : QualityField) (severity : Severity)
    (seen : SeenIds) (resultId : QualityEvent → Option Text → Json) (windowSeconds : ℤ) :
    QualityRule (RuleWorld × ρ) where
  name := name
  validate event := RuleWorld.onRules do
    let id := event.value field
    let result (shown : Option Text) (passed : Bool) (message : Text) : ValidationResult :=
      { fieldResult field severity name event passed message with eventId := resultId event shown }
    if isUnpopulated u id then
      return .ok (result none true (text s!"Skipped duplicate check for null/empty {field.key}"))
    else
      let shown := id.toText u
      if ← isUnique seen windowSeconds shown then
        return .ok (result (some shown) true (text s!"{field.key} is unique in active window"))
      else return .ok (result (some shown) false (text s!"duplicate {field.key} detected"))

/-- `DuplicateEventRule` -/
def duplicateEventRule (u : Unicode) (windowSeconds : ℤ := 300) : QualityRule (RuleWorld × ρ) :=
  duplicateRule u "duplicate_event" .eventId .critical seenEvents
    (fun _ shown => match shown with
      | none => .null
      | some id => .str id) windowSeconds

/-- `DuplicateOrderRule` -/
def duplicateOrderRule (u : Unicode) (windowSeconds : ℤ := 300) : QualityRule (RuleWorld × ρ) :=
  duplicateRule u "duplicate_order" .orderId .high seenOrders
    (fun event _ => event.value .eventId) windowSeconds

end IceStream
