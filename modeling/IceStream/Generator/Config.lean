import IceStream.Lib.Convert
import Mathlib.Algebra.Order.Ring.Rat
import Mathlib.Data.Rat.Cast.Order

/-!
# The settings of the event generator

An error rate for all the faults, or a rate for each of them, in percent. Rates are
rational.
-/

namespace IceStream.Generator
open Python

/-! ## Modes -/

inductive FaultMode
  | null
  | duplicate
  | negative
  | invalidEnum
  | schemaDrift
  | typeChange
  | timestampDrift
  deriving DecidableEq

namespace FaultMode

def value : FaultMode → Text
  | null => "NULL"
  | duplicate => "DUPLICATE"
  | negative => "NEGATIVE"
  | invalidEnum => "INVALID_ENUM"
  | schemaDrift => "SCHEMA_DRIFT"
  | typeChange => "TYPE_CHANGE"
  | timestampDrift => "TIMESTAMP_DRIFT"

def all : List FaultMode :=
  [null, duplicate, negative, invalidEnum, schemaDrift, typeChange, timestampDrift]

/-- The mode with this name. -/
def ofValue? (name : Text) : Option FaultMode := all.find? fun mode => mode.value = name

theorem value_injective : Function.Injective value := by
  intro a b h
  cases a <;> cases b <;> first | rfl | exact absurd h (by decide)

theorem ofValue?_value (mode : FaultMode) : ofValue? mode.value = some mode := by
  cases mode <;> rfl

end FaultMode

/-- `ALL_FAULT_MODES` -/
def allFaultModes : List Text := FaultMode.all.map FaultMode.value

/-- `ALL_SCHEMA_DRIFT_TYPES` -/
def allSchemaDriftTypes : List Text := ["ADD_FIELD", "REMOVE_FIELD", "RENAME_FIELD"]

/-- `ALL_ERROR_TYPES` -/
def allErrorTypes : List Text :=
  ["null_amount", "null_customer_id", "negative_amount", "duplicate_event_id", "invalid_currency",
    "missing_required_field", "wrong_data_type", "future_timestamp"]

/-- `names if names else default` -/
def givenOr (names : Option (List Text)) (default : List Text) : List Text :=
  if names.getD [] = [] then default else names.getD []

/-! ## `GeneratorConfig` -/

structure GeneratorConfig where
  rate : ℤ := 1000
  errorRate : ℚ := 0
  errorTypes : List Text := allErrorTypes
  nullRate : Option ℚ := none
  duplicateRate : Option ℚ := none
  negativeRate : Option ℚ := none
  invalidEnumRate : Option ℚ := none
  schemaDriftRate : Option ℚ := none
  typeChangeRate : Option ℚ := none
  timestampDriftRate : Option ℚ := none
  faultModes : Option (List Text) := none
  schemaDriftTypes : Option (List Text) := none

/-- `if not condition: raise ValueError(message)` -/
def require (condition : Prop) [Decidable condition] (message : Text) : Except Exc Unit :=
  if condition then .ok () else .error (valueError message)

theorem require_eq_ok_iff {condition : Prop} [Decidable condition] {message : Text} :
    require condition message = .ok () ↔ condition := by
  unfold require
  split_ifs with h
  · exact iff_of_true rfl h
  · exact iff_of_false nofun h

/-- The names that are not among those supported are named. -/
def requireSupported (u : Unicode) (what which : Text) (names supported : List Text) :
    Except Exc Unit :=
  let shown (names : List Text) : Text := Json.repr u (.arr (names.map Json.str))
  let invalid := names.filter fun name => name ∉ supported
  require (invalid = []) (text "Unsupported " ++ what ++ text ": " ++ shown invalid ++
    text ". Supported " ++ which ++ text " are: " ++ shown supported)

theorem supported_of_requireSupported {u : Unicode} {what which : Text} {names supported : List Text}
    (h : requireSupported u what which names supported = .ok ()) : ∀ name ∈ names, name ∈ supported := by
  intro name hname
  have hinvalid := List.filter_eq_nil_iff.mp (require_eq_ok_iff.mp h) name hname
  simpa using hinvalid

namespace GeneratorConfig

variable (c : GeneratorConfig)

/-- The individual rates, by the name of the field and by mode. -/
def individualRates : List (Text × FaultMode × Option ℚ) :=
  [("null_rate", .null, c.nullRate), ("duplicate_rate", .duplicate, c.duplicateRate),
    ("negative_rate", .negative, c.negativeRate),
    ("invalid_enum_rate", .invalidEnum, c.invalidEnumRate),
    ("schema_drift_rate", .schemaDrift, c.schemaDriftRate),
    ("type_change_rate", .typeChange, c.typeChangeRate),
    ("timestamp_drift_rate", .timestampDrift, c.timestampDriftRate)]

/-- `has_indiv` -/
def hasIndividual : Bool := c.individualRates.any fun r => r.2.2.isSome

/-- A percentage that is given lies between 0 and 100. -/
def requirePercentage (r : Text × FaultMode × Option ℚ) : Except Exc Unit :=
  require (∀ rate ∈ r.2.2, 0 ≤ rate ∧ rate ≤ 100)
    (r.1 ++ text " must be between 0.0 and 100.0 (percentage).")

/-- `__post_init__` -/
def postInit (u : Unicode) : Except Exc GeneratorConfig := do
  require (0 < c.rate) "Target rate must be a positive integer."
  require (0 ≤ c.errorRate ∧ c.errorRate ≤ 100)
    "Error rate must be between 0.0 and 100.0 (percentage)."
  require (c.hasIndividual = true → c.errorRate ≤ 0)
    (text "ERROR: --error-rate cannot be combined with individual fault rates. " ++
      text "Use either --error-rate or explicit fault rates.")
  forM c.individualRates requirePercentage
  requireSupported u "fault modes" "modes" (c.faultModes.getD []) allFaultModes
  requireSupported u "schema drift types" "types" (c.schemaDriftTypes.getD []) allSchemaDriftTypes
  if c.errorTypes = [] then pure { c with errorTypes := allErrorTypes }
  else do
    requireSupported u "error types" "types" c.errorTypes allErrorTypes
    pure c

/-- The modes an error rate is distributed over. -/
def activeModes : List Text := givenOr c.faultModes allFaultModes

/-- `get_fault_mode_rates` -/
def getFaultModeRates : List (Text × ℚ) :=
  if c.hasIndividual then c.individualRates.map fun r => (r.2.1.value, r.2.2.getD 0)
  else if 0 < c.errorRate then
    let perModeRate := c.errorRate / c.activeModes.length
    allFaultModes.map fun mode => (mode, if mode ∈ c.activeModes then perModeRate else 0)
  else allFaultModes.map fun mode => (mode, 0)

/-- What `__post_init__` lets pass. -/
structure Valid : Prop where
  errorRate : 0 ≤ c.errorRate ∧ c.errorRate ≤ 100
  oneKind : c.hasIndividual = true → c.errorRate = 0
  rates : ∀ r ∈ c.individualRates, ∀ rate ∈ r.2.2, 0 ≤ rate ∧ rate ≤ 100
  faultModes : ∀ mode ∈ c.faultModes.getD [], mode ∈ allFaultModes

end GeneratorConfig

theorem forM_eq_ok_iff {α : Type} {f : α → Except Exc Unit} {xs : List α} :
    forM xs f = .ok () ↔ ∀ x ∈ xs, f x = .ok () := by
  induction xs with
  | nil => exact iff_of_true rfl fun _ hx => absurd hx List.not_mem_nil
  | cons x xs ih =>
    rw [List.forM_cons, List.forall_mem_cons, ← ih]
    constructor
    · intro h
      obtain ⟨_, hx, hrest⟩ := bind_eq_ok h
      exact ⟨hx, hrest⟩
    · rintro ⟨hx, hrest⟩
      rw [hx]
      exact hrest

/-- A configuration that is built is valid. -/
theorem valid_of_postInit {u : Unicode} {args config : GeneratorConfig}
    (h : args.postInit u = .ok config) : config.Valid := by
  obtain ⟨_, -, h⟩ := bind_eq_ok h
  obtain ⟨_, hrange, h⟩ := bind_eq_ok h
  obtain ⟨_, hkind, h⟩ := bind_eq_ok h
  obtain ⟨_, hrates, h⟩ := bind_eq_ok h
  obtain ⟨_, hmodes, h⟩ := bind_eq_ok h
  obtain ⟨_, -, h⟩ := bind_eq_ok h
  have hvalid : args.Valid := {
    errorRate := require_eq_ok_iff.mp hrange
    oneKind := fun hindividual =>
      le_antisymm (require_eq_ok_iff.mp hkind hindividual) (require_eq_ok_iff.mp hrange).1
    rates := fun r hr => require_eq_ok_iff.mp (forM_eq_ok_iff.mp hrates r hr)
    faultModes := supported_of_requireSupported hmodes }
  split at h
  · obtain rfl := Except.ok.inj h
    exact ⟨hvalid.errorRate, hvalid.oneKind, hvalid.rates, hvalid.faultModes⟩
  · obtain ⟨_, -, h⟩ := bind_eq_ok h
    obtain rfl := Except.ok.inj h
    exact hvalid

end IceStream.Generator
