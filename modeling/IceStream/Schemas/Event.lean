import IceStream.Lib.Convert

/-!
# The event model

A field of an event holds whatever the payload had under its name; only the
three numeric ones are converted, and stay as they are when that fails with a
`ValueError` or a `TypeError`.
-/

namespace IceStream
open Python

inductive QualityField
  | eventId
  | eventTime
  | customerId
  | sessionId
  | orderId
  | productId
  | quantity
  | unitPrice
  | amount
  | currency
  | paymentMethod
  | paymentStatus
  | device
  | country
  | source
  | sourceVersion
  | ingestionTime
  deriving DecidableEq

namespace QualityField

def key : QualityField → String
  | eventId => "event_id"
  | eventTime => "event_time"
  | customerId => "customer_id"
  | sessionId => "session_id"
  | orderId => "order_id"
  | productId => "product_id"
  | quantity => "quantity"
  | unitPrice => "unit_price"
  | amount => "amount"
  | currency => "currency"
  | paymentMethod => "payment_method"
  | paymentStatus => "payment_status"
  | device => "device"
  | country => "country"
  | source => "source"
  | sourceVersion => "source_version"
  | ingestionTime => "ingestion_time"

/-- The order in which `to_dict` lists them. -/
def all : List QualityField :=
  [eventId, eventTime, customerId, sessionId, orderId, productId, quantity, unitPrice, amount,
    currency, paymentMethod, paymentStatus, device, country, source, sourceVersion, ingestionTime]

end QualityField

/-- What the payload has for a field. -/
def given (d : Dict) (f : QualityField) : Json := Dict.getD d (text f.key) .null

/-- A field that is not given is `None`. -/
structure QualityEvent where
  value : QualityField → Json
  rawPayload : Dict

namespace QualityEvent

/-- `except (ValueError, TypeError): pass` -/
def unlessUnconvertible (v : Json) (converted : Except Exc Json) : Except Exc Json :=
  match converted with
  | .ok w => .ok w
  | .error e => if e.isValueError || e.name == "TypeError" then .ok v else .error e

/-- The numeric conversion of a field that is present. -/
def convert (u : Unicode) (f : QualityField) (v : Json) : Except Exc Json :=
  match f, v with
  | _, .null => .ok .null
  | .quantity, v => unlessUnconvertible v ((v.toInt u).map Json.int)
  | .amount, v => unlessUnconvertible v ((v.toFloat u).map Json.float)
  | .unitPrice, v => unlessUnconvertible v ((v.toFloat u).map Json.float)
  | _, v => .ok v

/-- `from_dict` -/
def fromDict (u : Unicode) (data : Dict) : Except Exc QualityEvent := do
  let get (f : QualityField) : Json := data.getD (text f.key) .null
  let quantity ← convert u .quantity (get .quantity)
  let amount ← convert u .amount (get .amount)
  let unitPrice ← convert u .unitPrice (get .unitPrice)
  pure {
    value := fun
      | .quantity => quantity
      | .amount => amount
      | .unitPrice => unitPrice
      | f => get f
    rawPayload := data }

/-- `to_dict`: the fields, then what else the payload had. -/
def toDict (e : QualityEvent) : Dict :=
  let fields := QualityField.all.map fun f => (text f.key, e.value f)
  fields ++ e.rawPayload.filter fun p => !Dict.has fields p.1

/-- `get_field` -/
def getField (e : QualityEvent) (f : QualityField) : Json :=
  match e.value f with
  | .null => e.rawPayload.getD (text f.key) .null
  | v => v

end QualityEvent
end IceStream
