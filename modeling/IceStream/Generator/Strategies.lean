import IceStream.Generator.Config
import IceStream.Lib.Dates
import IceStream.Lib.Preserves
import IceStream.Lib.Random

/-!
# Fault strategies

Each of them gives a changed copy of an event; the choices among fields and values are
random. What they need of the Unicode database and the clock are parameters.
-/

namespace IceStream.Generator
open Python Fallible

variable {K : Type}

/-- `del d[k]` where `k` is in `d`. -/
def erase (d : Dict) (k : Text) : Dict := d.filter fun p => p.1 ≠ k

def keyError (k : Text) : Exc := ⟨"KeyError", false, text "'" ++ k ++ text "'"⟩

/-! ## `NullFaultStrategy` -/

def nullableTargetFields : List Text :=
  ["customer_id", "session_id", "order_id", "product_id", "amount", "currency", "payment_method",
    "payment_status"]

def nullMutate (event : Dict) : Fallible (Python.Random K) Dict := do
  let targetField ← Python.Random.choice nullableTargetFields
  pure (event.set targetField .null)

/-! ## `DuplicateFaultStrategy` -/

/-- The history is bounded: the oldest of its events is dropped. -/
def recordEvent (maxHistory : ℕ) (history : List Dict) (event : Dict) : List Dict :=
  (history ++ [event]).drop (history.length + 1 - maxHistory)

def duplicateMutate (history : List Dict) (event : Dict) : Fallible (Python.Random K) Dict :=
  if history = [] then pure (event.set "event_id" (.str "evt_duplicate_00001"))
  else Python.Random.choice history

/-! ## `NegativeFaultStrategy` -/

/-- `-abs(curr) if curr != 0 else default` -/
def negated (default : Json) : Json → Except Exc Json
  | .bool b => .ok (if b then .int (-1) else default)
  | .int i => .ok (if i ≠ 0 then .int (-|i|) else default)
  | .float x => .ok (if x == 0 then default else .float (if isNegative x then x else -x))
  | v => .error (typeError (text s!"bad operand type for abs(): '{v.typeName}'"))

/-- The fields that may be negated, what is taken where they are missing and what a nought
is replaced by. -/
def negativeTargets : List (Text × Json × Json) :=
  [("amount", .float 1499, .float (-1499)), ("unit_price", .float 749.5, .float (-749.5)),
    ("quantity", .int 2, .int (-2))]

def negativeMutate (event : Dict) : Fallible (Python.Random K) Dict := do
  let target ← Python.Random.choice negativeTargets
  match negated target.2.2 (event.getD target.1 target.2.1) with
  | .ok v => pure (event.set target.1 v)
  | .error e => raise e

/-! ## `InvalidEnumFaultStrategy` -/

def invalidPaymentMethods : List Text := ["CRYPTO_UNKNOWN", "BITCOIN_PAY", "BARTER"]
def invalidPaymentStatuses : List Text := ["UNKNOWN_STATUS_X", "PROCESSING_EXPIRED", "UNKNOWN"]

def invalidEnumMutate (event : Dict) : Fallible (Python.Random K) Dict := do
  let target ← Python.Random.choice [text "payment_method", text "payment_status"]
  if target = text "payment_method" then do
    let v ← Python.Random.choice invalidPaymentMethods
    pure (event.set "payment_method" (.str v))
  else do
    let v ← Python.Random.choice invalidPaymentStatuses
    pure (event.set "payment_status" (.str v))

/-! ## `SchemaDriftFaultStrategy` -/

def addField (event : Dict) : Fallible (Python.Random K) Dict := do
  let segment ← Python.Random.choice [text "premium", text "gold", text "vip"]
  pure ((event.set "customer_segment" (.str segment)).set "source_version" (.str "v2"))

/-- One of the candidates that the event has, or else the first. -/
def fieldToRemove (event : Dict) : Fallible (Python.Random K) Text :=
  let candidates := [text "payment_status", text "device", text "country"].filter event.has
  if candidates = [] then pure "payment_status" else Python.Random.choice candidates

def removeField (event : Dict) : Fallible (Python.Random K) Dict := do
  let field ← fieldToRemove event
  if event.has field then pure ((erase event field).set "source_version" (.str "v2"))
  else raise (keyError field)

def renameField (event : Dict) : Dict :=
  let renamed := match event.get? "customer_id", event.get? "order_id" with
    | some v, _ => (erase event "customer_id").set "client_id" v
    | none, some v => (erase event "order_id").set "purchase_order_id" v
    | none, none => event
  renamed.set "source_version" (.str "v2")

def schemaDriftMutate (allowedDriftTypes : List Text) (event : Dict) : Fallible (Python.Random K) Dict := do
  let driftType ← Python.Random.choice allowedDriftTypes
  if driftType = text "ADD_FIELD" then addField event
  else if driftType = text "REMOVE_FIELD" then removeField event
  else if driftType = text "RENAME_FIELD" then pure (renameField event)
  else pure event

/-! ## `TypeChangeFaultStrategy` -/

section

variable (u : Unicode) (isdigit : CodePoint → Bool)

/-- The number in a customer's identifier. -/
def customerNumber (v : Json) : Except Exc ℤ :=
  let numericPart := (v.toText u).filter isdigit
  if numericPart = [] then .ok 123 else intOfText u numericPart

def typeChangeMutate (event : Dict) : Fallible (Python.Random K) Dict := do
  let target ← Python.Random.choice [text "quantity", text "amount", text "customer_id"]
  if target = text "quantity" then
    pure (event.set "quantity" (.str ((event.getD "quantity" (.int 2)).toText u)))
  else if target = text "amount" then
    pure (event.set "amount" (.str ((event.getD "amount" (.float 1499)).toText u)))
  else match customerNumber u isdigit (event.getD "customer_id" (.str "CUS000123")) with
    | .ok n => pure (event.set "customer_id" (.int n))
    | .error e => raise e

end

/-! ## `TimestampDriftFaultStrategy` -/

/-- The variants, as microseconds from now: two hours, 30 days ago and a quarter. -/
def timestampDrifts : List ℤ := [7200000000, -2592000000000, 900000000]

/-- `%Y-%m-%dT%H:%M:%S`, the milliseconds and a `Z`. -/
def shownTime (t : Instant) : String :=
  let micros := (t - minInstant).toNat
  let seconds := micros / 1000000
  let (year, month, day) := fromOrdinal (seconds / 86400 + 1)
  padLeft 4 (toString year) ++ "-" ++ padLeft 2 (toString month) ++ "-" ++
    padLeft 2 (toString day) ++ "T" ++ padLeft 2 (toString (seconds / 3600 % 24)) ++ ":" ++
    padLeft 2 (toString (seconds / 60 % 60)) ++ ":" ++ padLeft 2 (toString (seconds % 60)) ++
    "." ++ padLeft 3 (toString (micros % 1000000 / 1000)) ++ "Z"

def timestampDriftMutate (now : Instant) (event : Dict) : Fallible (Python.Random K) Dict := do
  let drift ← Python.Random.choice timestampDrifts
  match addMicros now drift with
  | .ok t => pure (event.set "event_time" (.str (shownTime t)))
  | .error e => raise e

example : shownTime 1789905600123456 = "2026-09-20T12:00:00.123Z" := by decide +kernel

end IceStream.Generator
