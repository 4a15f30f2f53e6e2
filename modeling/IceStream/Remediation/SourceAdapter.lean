import IceStream.Remediation.Reprocessor

/-!
# Re-fetching source events

The local adapter answers from the first of four sources that yields an event:
the fixtures of the named ids, corrections of the failed events, the default
events, and one synthesised event.
-/

namespace IceStream.Remediation
open Python

/-- A context the controller has put the incident into. -/
structure RecoveryContext where
  dict : Dict
  incidentId : IncidentId
  incident_set : dict.get? "incident_id" = some (.str incidentId.val)

namespace RecoveryContext

/-- What the controller makes of the context it was called with. -/
def ofContext (ctx : Dict) (incidentId : IncidentId) : RecoveryContext :=
  let ctx := if !ctx.has "failed_events" && ctx.has "failed_event" then
      ctx.set "failed_events" (.arr [ctx.getD "failed_event" .null])
    else ctx
  ⟨ctx.set "incident_id" (.str incidentId.val), incidentId, Dict.get?_set _ _ _⟩

/-- `context.get("event_ids", [])` -/
def eventIds (ctx : RecoveryContext) : Json := ctx.dict.getD "event_ids" (.arr [])

/-- `context.get("failed_events", [])` -/
def failedEvents (ctx : RecoveryContext) : Json := ctx.dict.getD "failed_events" (.arr [])

end RecoveryContext

/-- `make_valid_checkout_event` -/
def makeValidCheckoutEvent (u : Unicode) (ts : Text) (eventId : Json) (customerId : Text)
    (amount : Json) (currency : Text) : Dict :=
  [("event_id", eventId),
    ("event_type", .str "checkout"),
    ("event_time", .str ts),
    ("customer_id", .str customerId),
    ("session_id", .str (text "sess_" ++ customerId)),
    ("order_id", .str (text "ord_" ++ eventId.toText u)),
    ("product_id", .str "prod_100"),
    ("quantity", .int 1),
    ("unit_price", amount),
    ("amount", amount),
    ("currency", .str currency),
    ("payment_method", .str "credit_card"),
    ("payment_status", .str "SUCCESS"),
    ("device", .str "desktop"),
    ("country", .str "IN"),
    ("source", .str "icestream_web"),
    ("source_version", .str "v1.0"),
    ("ingestion_time", .str ts),
    ("schema_version", .str "v1.0")]

/-- `make_valid_checkout_event` with its defaults for all but the id. -/
def defaultCheckoutEvent (u : Unicode) (ts : Text) (eventId : Json) : Dict :=
  makeValidCheckoutEvent u ts eventId "cust_recovery_001" (.float 1499) "INR"

structure LocalSourceAdapter where
  sourceReference : Text := "replay_fixture:recovery_case_001"
  fixtures : List (Text × Dict) := []
  defaultCorrectedEvents : List Dict := []

namespace LocalSourceAdapter

variable (u : Unicode) (clock : ℕ → Text) (a : LocalSourceAdapter) (ctx : RecoveryContext)

/-- `self._fixtures[evt_id] if evt_id in self._fixtures` -/
def fixture : Json → Except Exc (Option Dict)
  | .str id => .ok (a.fixtures.lookup id)
  | .arr _ => .error (typeError "unhashable type: 'list'")
  | .obj _ => .error (typeError "unhashable type: 'dict'")
  | _ => .ok none

def matchFixtures : List Json → Except Exc (List Dict)
  | [] => .ok []
  | id :: ids => do
    let found ← a.fixture id
    let rest ← matchFixtures ids
    pure (found.toList ++ rest)

def repairedAmount (amount : Json) : Json :=
  match amount with
  | .bool true => amount
  | .int i => if i ≤ 0 then .float 1499 else amount
  | .float f => if f ≤ 0 then .float 1499 else amount
  | _ => .float 1499

def repairedCurrency (currency : Json) : Text :=
  match currency with
  | .str c => if [text "INR", text "USD", text "EUR"].contains c then c else "INR"
  | _ => "INR"

def repairedId (incidentId : Text) (failed : Dict) : Text :=
  (Dict.getD failed "event_id" (.str (text "evt_repaired_" ++ incidentId.take 8))).toText u

/-- The correction of a failed event. -/
def repaired (incidentId ts : Text) : Json → Except Exc Dict
  | .obj failed => .ok (makeValidCheckoutEvent u ts (.str (repairedId u incidentId failed))
      (((Dict.getD failed "customer_id" .null).orElse (.str "cust_repaired_001")).toText u)
      (repairedAmount (Dict.getD failed "amount" .null))
      (repairedCurrency (Dict.getD failed "currency" .null)))
  | v => .error (attributeError (text s!"'{v.typeName}' object has no attribute 'get'"))

/-- The `n`-th correction reads the clock for the `n`-th time. -/
def repairAll (incidentId : Text) : ℕ → List Json → Except Exc (List Dict)
  | _, [] => .ok []
  | n, failed :: rest => do
    let event ← repaired u incidentId (clock n) failed
    let events ← repairAll incidentId (n + 1) rest
    pure (event :: events)

/-- The id of the event made up when there is nothing to recover from. -/
def fallbackId : Json :=
  ctx.dict.getD "event_id" (.str (text "evt_recovery_" ++ ctx.incidentId.val.take 8))

/-- `fetch_for_recovery` -/
def fetchForRecovery : Except Exc (List Dict) := do
  let ids ← ctx.eventIds.iter
  let recovered ← a.matchFixtures ids
  let recovered ← if recovered.isEmpty && ctx.failedEvents.truthy then do
      let failed ← ctx.failedEvents.iter
      repairAll u clock ctx.incidentId.val 0 failed
    else pure recovered
  let recovered := if recovered.isEmpty then a.defaultCorrectedEvents else recovered
  pure (if recovered.isEmpty then [defaultCheckoutEvent u (clock 0) (fallbackId ctx)]
    else recovered)

end LocalSourceAdapter
end IceStream.Remediation
