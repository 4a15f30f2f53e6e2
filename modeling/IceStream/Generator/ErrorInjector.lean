import IceStream.Generator.DataGenerator

/-!
# The error injector of old

One error is put into a copy of an event. An engine without a rate for any mode would turn to it.
-/

namespace IceStream.Generator
open Python Fallible

structure ErrorInjector (K : Type) where
  rnd : Python.Random K
  errorTypes : List Text
  recentEventIds : List Json := []

namespace ErrorInjector

variable {K : Type}

/-- `__init__`; what the seed determines is a parameter. -/
def init (errorTypes : List Text) (rnd : Python.Random K) : ErrorInjector K :=
  { rnd := rnd, errorTypes := if errorTypes = [] then allErrorTypes else errorTypes }

/-- The injector draws from its own numbers. -/
def withRandom {α : Type} (x : Fallible (Python.Random K) α) : Fallible (ErrorInjector K) α :=
  fun injector => ((x injector.rnd).1, { injector with rnd := (x injector.rnd).2 })

/-- `record_valid_event_id`; the oldest of a thousand ids is dropped. -/
def recordValidEventId (eventId : Json) : Fallible (ErrorInjector K) Unit :=
  update fun injector =>
    if eventId.truthy then
      let ids := injector.recentEventIds ++ [eventId]
      { injector with recentEventIds := ids.drop (ids.length - 1000) }
    else injector

/-- `-abs(amount)` of a number that is not zero, or else a fixed amount. -/
def negatedAmount : Option Json → Json
  | some (.bool true) => .int (-1)
  | some (.int i) => if i ≠ 0 then .int (-|i|) else .float (-1499)
  | some (.float x) => if x == 0 then .float (-1499) else .float (if isNegative x then x else -x)
  | _ => .float (-1499)

/-- The required fields that the event has, but for its id and its type. -/
def removable (event : Dict) : List Text :=
  requiredFields.filter fun f => event.has f && f ≠ text "event_id" && f ≠ text "event_type"

def removeRequired (event : Dict) : Fallible (Python.Random K) Dict := do
  let field ← if removable event = [] then pure (text "customer_id")
    else Python.Random.choice (removable event)
  if event.has field then pure (erase event field) else raise (keyError field)

def wrongDataType (u : Unicode) (event : Dict) : Fallible (Python.Random K) Dict := do
  let target ← Python.Random.choice [text "quantity", text "amount", text "unit_price"]
  if target = text "quantity" then pure (event.set "quantity" (.str "two"))
  else if target = text "amount" then
    pure (event.set "amount" (.str ((event.getD "amount" (.str "1499.00")).toText u)))
  else
    pure (event.set "unit_price" (.str ((event.getD "unit_price" (.str "749.50")).toText u)))

/-- The event with the error of a type. -/
def corrupted (u : Unicode) (now : Instant) (recentEventIds : List Json) (event : Dict)
    (errorType : Text) : Fallible (Python.Random K) Dict :=
  if errorType = text "null_amount" then pure (event.set "amount" .null)
  else if errorType = text "null_customer_id" then pure (event.set "customer_id" .null)
  else if errorType = text "negative_amount" then
    pure (event.set "amount" (negatedAmount (event.get? "amount")))
  else if errorType = text "duplicate_event_id" then do
    let id ← if recentEventIds.isEmpty then pure (.str "evt_duplicate_00001")
      else Python.Random.choice recentEventIds
    pure (event.set "event_id" id)
  else if errorType = text "invalid_currency" then do
    let currency ← Python.Random.choice [text "XXX", text "INVALID", text "USD_BAD"]
    pure (event.set "currency" (.str currency))
  else if errorType = text "missing_required_field" then removeRequired event
  else if errorType = text "wrong_data_type" then wrongDataType u event
  else if errorType = text "future_timestamp" then
    match addMicros now 3600000000 with
    | .ok t => pure (event.set "event_time" (.str (shownTime t)))
    | .error e => raise e
  else raise (valueError (text "Unknown error type: " ++ errorType))

/-- `inject_error` -/
def injectError (u : Unicode) (now : Instant) (event : Dict) (targetErrorType : Option Text) :
    Fallible (ErrorInjector K) (Dict × Text) := do
  let injector ← read id
  let errorType ← if targetErrorType.getD [] = [] then
      withRandom (Python.Random.choice injector.errorTypes)
    else pure (targetErrorType.getD [])
  let corruptedEvent ← withRandom (corrupted u now injector.recentEventIds event errorType)
  pure (corruptedEvent, errorType)

end ErrorInjector

end IceStream.Generator
