import IceStream.Generator.Strategies
import IceStream.Lib.Bytes
import IceStream.Lib.Calendar

/-!
# Clean events

An event is drawn from a catalog of products and a pool of customers. Its ids are random
numbers, and it carries the time at which it was generated.
-/

namespace IceStream.Generator
open Python Fallible

/-! ## What events are drawn from -/

structure Product where
  id : Text
  price : Float

/-- `PRODUCT_CATALOG`; the names of the products are not part of an event. -/
def productCatalog : List Product :=
  [⟨"PROD001", 54990⟩, ⟨"PROD002", 24990⟩, ⟨"PROD003", 2990⟩, ⟨"PROD004", 14990⟩,
    ⟨"PROD005", 1990⟩, ⟨"PROD006", 990⟩, ⟨"PROD007", 4990⟩, ⟨"PROD008", 19990⟩,
    ⟨"PROD009", 1490⟩, ⟨"PROD010", 44990⟩]

/-- The methods with their weights. -/
def weightedPaymentMethods : List (Text × ℚ) :=
  [("UPI", 0.50), ("CREDIT_CARD", 0.20), ("DEBIT_CARD", 0.15), ("NET_BANKING", 0.08),
    ("WALLET", 0.05), ("COD", 0.02)]

def weightedPaymentStatuses : List (Text × ℚ) :=
  [("SUCCESS", 0.85), ("FAILED", 0.10), ("PENDING", 0.05)]

def weightedDevices : List (Text × ℚ) := [("mobile", 0.60), ("desktop", 0.30), ("tablet", 0.10)]

def weightedQuantities : List (ℤ × ℚ) := [(1, 0.65), (2, 0.20), (3, 0.08), (4, 0.05), (5, 0.02)]

/-- `self.customers` -/
def customerPool (size : ℕ) : List Text :=
  (List.range size).map fun i => text "CUS" ++ padded 6 (i + 1)

theorem shown_of_mem_customerPool {size : ℕ} {c : Text} (h : c ∈ customerPool size) :
    ∃ n, c = text "CUS" ++ padded 6 n := by
  obtain ⟨i, -, rfl⟩ := List.mem_map.mp h
  exact ⟨i + 1, rfl⟩

/-! ## Events -/

structure CheckoutEvent where
  eventId : Text
  eventTime : Text
  eventType : Text
  customerId : Text
  sessionId : Text
  orderId : Text
  productId : Text
  quantity : ℤ
  unitPrice : Float
  amount : Float
  currency : Text
  paymentMethod : Text
  paymentStatus : Text
  device : Text
  country : Text
  source : Text
  sourceVersion : Text

/-- `to_dict` -/
def CheckoutEvent.toDict (e : CheckoutEvent) : Dict :=
  [("event_id", .str e.eventId), ("event_time", .str e.eventTime), ("event_type", .str e.eventType),
    ("customer_id", .str e.customerId), ("session_id", .str e.sessionId),
    ("order_id", .str e.orderId), ("product_id", .str e.productId), ("quantity", .int e.quantity),
    ("unit_price", .float e.unitPrice), ("amount", .float e.amount), ("currency", .str e.currency),
    ("payment_method", .str e.paymentMethod), ("payment_status", .str e.paymentStatus),
    ("device", .str e.device), ("country", .str e.country), ("source", .str e.source),
    ("source_version", .str e.sourceVersion)]

/-- `REQUIRED_FIELDS` -/
def requiredFields : List Text :=
  ["event_id", "event_time", "event_type", "customer_id", "session_id", "order_id", "product_id",
    "quantity", "unit_price", "amount", "currency", "payment_method", "payment_status", "device",
    "country", "source", "source_version"]

theorem CheckoutEvent.keys_toDict (e : CheckoutEvent) :
    e.toDict.map Prod.fst = requiredFields := rfl

/-- The last `width` hexadecimal digits of a number. -/
def hexText : ℕ → ℕ → Text
  | 0, _ => []
  | width + 1, n => hexText width (n / 16) ++ text (String.singleton (hexDigit (n % 16)))

/-- `uuid.UUID(int=n).hex` -/
def uuidHex (n : ℕ) : Text := hexText 32 n

section

variable {K : Type} [LinearOrder K] [RatCast K]

/-- The event of `generate_valid_event`, with the fields in the order in which they are drawn. -/
def drawEvent (customers : List Text) (now : Instant) : Fallible (Python.Random K) CheckoutEvent := do
  let customerId ← Python.Random.choice customers
  let product ← Python.Random.choice productCatalog
  let quantity ← Python.Random.choices weightedQuantities
  let paymentMethod ← Python.Random.choices weightedPaymentMethods
  let paymentStatus ← Python.Random.choices weightedPaymentStatuses
  let device ← Python.Random.choices weightedDevices
  let eventBits ← Python.Random.getrandbits 128
  let sessionNumber ← Python.Random.randint 100000 999999
  let orderNumber ← Python.Random.randint 1000000 9999999
  pure {
    eventId := text "evt_" ++ (uuidHex eventBits).take 16
    eventTime := shownTime now
    eventType := "checkout"
    customerId := customerId
    sessionId := text "SES" ++ digits sessionNumber
    orderId := text "ORD" ++ digits orderNumber
    productId := product.id
    quantity := quantity
    unitPrice := product.price
    amount := roundTo 2 (Float.ofInt quantity * product.price)
    currency := "INR"
    paymentMethod := paymentMethod
    paymentStatus := paymentStatus
    device := device
    country := "IN"
    source := "web"
    sourceVersion := "v1" }

/-- `generate_valid_event` -/
def generateValidEvent (customers : List Text) (now : Instant) : Fallible (Python.Random K) Dict := do
  let event ← drawEvent customers now
  pure event.toDict

end

/-! ## What is drawn -/

/-- An event as the generator makes them. -/
structure CheckoutEvent.Clean (customers : List Text) (now : Instant) (e : CheckoutEvent) : Prop where
  eventId : ∃ n, e.eventId = text "evt_" ++ (uuidHex n).take 16
  eventTime : e.eventTime = text (shownTime now)
  eventType : e.eventType = text "checkout"
  customerId : e.customerId ∈ customers
  sessionId : ∃ n, e.sessionId = text "SES" ++ digits n
  orderId : ∃ n, e.orderId = text "ORD" ++ digits n
  product : ∃ p ∈ productCatalog, e.productId = p.id ∧ e.unitPrice = p.price
  quantity : e.quantity ∈ weightedQuantities.map Prod.fst
  amount : e.amount = roundTo 2 (Float.ofInt e.quantity * e.unitPrice)
  currency : e.currency = text "INR"
  paymentMethod : e.paymentMethod ∈ weightedPaymentMethods.map Prod.fst
  paymentStatus : e.paymentStatus ∈ weightedPaymentStatuses.map Prod.fst
  device : e.device ∈ weightedDevices.map Prod.fst
  country : e.country = text "IN"
  source : e.source = text "web"
  sourceVersion : e.sourceVersion = text "v1"

section

variable {K : Type} [LinearOrder K] [RatCast K] {customers : List Text} {now : Instant}

omit [LinearOrder K] [RatCast K] in
theorem returns_choice {α : Type} (xs : List α) :
    Returns (· ∈ xs) (Python.Random.choice xs : Fallible (Python.Random K) α) :=
  fun _ _ _ hrun => Python.Random.mem_of_choice hrun

theorem returns_choices {α : Type} (weighted : List (α × ℚ)) :
    Returns (· ∈ weighted.map Prod.fst)
      (Python.Random.choices weighted : Fallible (Python.Random K) α) :=
  fun _ _ _ hrun => Python.Random.mem_of_choices hrun

theorem drawEvent_clean :
    Returns (CheckoutEvent.Clean customers now)
      (drawEvent customers now : Fallible (Python.Random K) CheckoutEvent) := by
  unfold drawEvent
  refine (returns_choice customers).bind fun customerId hcustomer => ?_
  refine (returns_choice productCatalog).bind fun product hproduct => ?_
  refine (returns_choices _).bind fun quantity hquantity => ?_
  refine (returns_choices _).bind fun paymentMethod hmethod => ?_
  refine (returns_choices _).bind fun paymentStatus hstatus => ?_
  refine (returns_choices _).bind fun device hdevice => ?_
  refine returns_bind fun eventBits => ?_
  refine returns_bind fun sessionNumber => ?_
  refine returns_bind fun orderNumber => ?_
  apply returns_pure
  constructor
  case eventId => exact ⟨eventBits, rfl⟩
  case customerId => exact hcustomer
  case sessionId => exact ⟨sessionNumber, rfl⟩
  case orderId => exact ⟨orderNumber, rfl⟩
  case product => exact ⟨product, hproduct, rfl, rfl⟩
  case quantity => exact hquantity
  case paymentMethod => exact hmethod
  case paymentStatus => exact hstatus
  case device => exact hdevice
  all_goals dsimp only

/-- What the generator returns is the dict of a clean event. -/
theorem generateValidEvent_clean :
    Returns (fun d => ∃ e : CheckoutEvent, d = e.toDict ∧ e.Clean customers now)
      (generateValidEvent customers now : Fallible (Python.Random K) Dict) :=
  drawEvent_clean.bind fun e he => returns_pure ⟨e, rfl, he⟩

/-- With a customer at hand an event is generated. -/
theorem generateValidEvent_total (hcustomers : customers ≠ []) :
    Total (generateValidEvent customers now : Fallible (Python.Random K) Dict) := by
  have hchoice {α : Type} {xs : List α} (h : xs ≠ []) :
      Total (Python.Random.choice xs : Fallible (Python.Random K) α) := by
    intro r
    obtain ⟨x, -, hpick⟩ := Python.Random.exists_pick r h
    exact ⟨x, _, Python.Random.choice_of_pick hpick⟩
  have hchoices {α : Type} {weighted : List (α × ℚ)} (h : weighted ≠ []) :
      Total (Python.Random.choices weighted : Fallible (Python.Random K) α) := by
    intro r
    obtain ⟨x, -, r', hrun⟩ := Python.Random.exists_choices h r
    exact ⟨x, r', hrun⟩
  have hdraw : Total (drawEvent customers now : Fallible (Python.Random K) CheckoutEvent) := by
    refine (hchoice hcustomers).bind fun customerId => ?_
    refine (hchoice (List.cons_ne_nil _ _)).bind fun product => ?_
    refine (hchoices (List.cons_ne_nil _ _)).bind fun quantity => ?_
    refine (hchoices (List.cons_ne_nil _ _)).bind fun paymentMethod => ?_
    refine (hchoices (List.cons_ne_nil _ _)).bind fun paymentStatus => ?_
    refine (hchoices (List.cons_ne_nil _ _)).bind fun device => ?_
    exact fun r => ⟨_, _, rfl⟩
  exact hdraw.bind fun e => total_pure _

end

end IceStream.Generator
