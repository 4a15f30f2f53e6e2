import IceStream.Schema.Compatibility

/-!
# The schema registry

Schemas by version. A version that is not loaded yet is looked for in the directory of the
schemas; failing that, its major version is.
-/

namespace IceStream.Schema
open Python

/-- What `load_schema` makes of the file of a version; `none` where there is no such file. -/
abbrev SchemaFiles := Text → Except Exc (Option EventSchema)

structure SchemaRegistry where
  schemas : List (Text × EventSchema)

namespace SchemaRegistry

/-- The schema of a version, by a file of its own where it has not been loaded. -/
def find (files : SchemaFiles) (version : Text) : Fallible SchemaRegistry (Option EventSchema) :=
  fun r => match r.schemas.lookup version with
  | some schema => (.ok (some schema), r)
  | none => match files version with
    | .ok (some schema) => (.ok (some schema), ⟨r.schemas ++ [(version, schema)]⟩)
    | .ok none => (.ok none, r)
    | .error e => (.error e, r)

/-- `version_str.split(".")[0]` -/
def majorVersion (version : Text) : Text := version.takeWhile (·.val != 0x2E)

def notFound (version : Text) : Exc :=
  ⟨"KeyError", false, text "Schema version " ++ quoted version ++ text " not found in registry"⟩

/-- `get` -/
def get (files : SchemaFiles) (version : Text) : Fallible SchemaRegistry EventSchema := do
  match ← find files version with
  | some schema => pure schema
  | none =>
    if version.any (·.val == 0x2E) then
      match ← find files (majorVersion version) with
      | some schema => pure schema
      | none => Fallible.raise (notFound version)
    else Fallible.raise (notFound version)

end SchemaRegistry

/-! ## The schemas -/

def field (name type : String) (required : Bool := true) (enum : Option (List String) := none) :
    Text × FieldSchema :=
  (text name, ⟨text type, required, enum.map fun values => values.map text⟩)

def paymentMethods : List String :=
  ["UPI", "CREDIT_CARD", "DEBIT_CARD", "NET_BANKING", "WALLET", "COD"]

/-- The original checkout event. -/
def v1 : EventSchema where
  schemaVersion := "v1"
  fields := [field "event_id" "string", field "event_time" "timestamp", field "event_type" "string",
    field "customer_id" "string", field "session_id" "string", field "order_id" "string",
    field "product_id" "string", field "quantity" "integer", field "unit_price" "float",
    field "amount" "float", field "currency" "string",
    field "payment_method" "string" true (some paymentMethods),
    field "payment_status" "string" true (some ["SUCCESS", "FAILED", "PENDING"]),
    field "device" "string", field "country" "string", field "source" "string",
    field "source_version" "string"]
  nodup := by decide +kernel

/-- With optional fields, and refunds. -/
def v2 : EventSchema where
  schemaVersion := "v2"
  fields := [field "event_id" "string", field "event_time" "timestamp", field "event_type" "string",
    field "customer_id" "string", field "session_id" "string", field "order_id" "string",
    field "product_id" "string", field "quantity" "integer", field "unit_price" "float",
    field "amount" "float", field "currency" "string",
    field "payment_method" "string" true (some paymentMethods),
    field "payment_status" "string" true (some ["SUCCESS", "FAILED", "PENDING", "REFUNDED"]),
    field "device" "string", field "device_model" "string" false, field "country" "string",
    field "coupon_code" "string" false, field "source" "string", field "source_version" "string"]
  nodup := by decide +kernel

/-- The amount is a text. -/
def v3 : EventSchema where
  schemaVersion := "v3"
  fields := [field "event_id" "string", field "event_time" "timestamp", field "event_type" "string",
    field "customer_id" "string", field "session_id" "string", field "order_id" "string",
    field "product_id" "string", field "quantity" "integer", field "unit_price" "float",
    field "amount" "string", field "currency" "string",
    field "payment_method" "string" true (some paymentMethods),
    field "payment_status" "string" true (some ["SUCCESS", "FAILED", "PENDING", "REFUNDED"]),
    field "device" "string", field "device_model" "string" false, field "country" "string",
    field "coupon_code" "string" false, field "source" "string", field "source_version" "string"]
  nodup := by decide +kernel

/-- A registry of the directory as it is. -/
def SchemaRegistry.loaded : SchemaRegistry := ⟨[("v1", v1), ("v2", v2), ("v3", v3)]⟩

/-! ## A schema and itself -/

theorem typeChange_self (what name : Text) (f : FieldSchema) : typeChange what name f f = [] :=
  if_pos rfl

theorem requiredChange_self (name : Text) (f : FieldSchema) : requiredChange name f f = [] :=
  if_pos rfl

theorem enumChange_self (name : Text) (f : FieldSchema) : enumChange name f f = [] := by
  have hnone : f.enumSet.filter (· ∉ f.enumSet) = [] := by simp
  unfold enumChange
  split_ifs
  · rfl
  · simp only [hnone, sortedSet, List.dedup_nil, List.insertionSort_nil, List.isEmpty_nil, ↓reduceIte,
      List.append_nil]

/-- A schema that no field of the map is renamed in has not drifted from itself. -/
theorem compare_self {comparator : SchemaComparator} {s : EventSchema}
    (h : ∀ p ∈ s.fields, renamedTo comparator.renameMap s p.1 = none) :
    (comparator.compare s s).changes = [] := by
  have hfield : ∀ p ∈ s.fields, inspectField comparator.renameMap s p = ([], some p.1) := by
    intro p hp
    rw [inspectField, h p hp, field?_eq_some_iff.mpr hp]
    simp only [typeChange_self, requiredChange_self, enumChange_self, List.append_nil]
  have hchanges : (s.fields.map (inspectField comparator.renameMap s)).flatMap Prod.fst = [] := by
    rw [List.flatMap_eq_nil_iff]
    intro inspected hinspected
    obtain ⟨p, hp, rfl⟩ := List.mem_map.mp hinspected
    rw [hfield p hp]
  have hadded (matched : List Text) : s.fields.filter (fun p => isNew s matched p.1) = [] := by
    rw [List.filter_eq_nil_iff]
    intro p hp
    rw [isNew, field?_eq_some_iff.mpr hp]
    simp
  change _ ++ List.map _ _ = []
  rw [Option.getD_none, hchanges, hadded]
  rfl

end IceStream.Schema
