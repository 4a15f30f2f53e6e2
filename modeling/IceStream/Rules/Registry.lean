import IceStream.Detectors.Anomaly
import IceStream.Detectors.SchemaDrift

/-!
# The rule registry

Rules by name, in the order in which they were registered.
-/

namespace IceStream
open Python

variable {φ ρ : Type}

/-- The names are the keys of a `dict`. -/
structure RuleRegistry (φ : Type) where
  rules : List (QualityRule φ)
  nodup : (rules.map QualityRule.name).Nodup

namespace RuleRegistry

def empty : RuleRegistry φ := ⟨[], List.nodup_nil⟩

/-- `register`, without `overwrite` -/
def register (registry : RuleRegistry φ) (rule : QualityRule φ) : Except Exc (RuleRegistry φ) :=
  if rule.name.isEmpty then .error (valueError "Rule name must be a non-empty string")
  else if h : rule.name ∈ registry.rules.map QualityRule.name then
    .error (valueError (text "Rule '" ++ rule.name ++
      text "' is already registered. Use overwrite=True to replace."))
  else .ok ⟨registry.rules ++ [rule], by
    rw [List.map_append, List.map_singleton, List.nodup_append_comm]
    exact List.nodup_cons.mpr ⟨h, registry.nodup⟩⟩

end RuleRegistry

/-- The severity of `NotNullRule` is given with every field. -/
def notNullFields : List (QualityField × Severity) :=
  [(.customerId, .high), (.sessionId, .high), (.orderId, .high), (.productId, .high),
    (.amount, .critical), (.currency, .high), (.paymentMethod, .high), (.paymentStatus, .high),
    (.device, .high), (.country, .high), (.sourceVersion, .high), (.eventTime, .high),
    (.ingestionTime, .high)]

/-- The rules that keep no state. -/
def valueRules (platform : Platform) : List (QualityRule φ) :=
  eventIdNotNullRule platform.unicode .critical ::
    (notNullFields.map fun p => notNullRule p.1 (some p.2)) ++
    [amountPositiveRule platform.unicode .amount .high,
      currencyValidRule platform.unicode,
      paymentStatusValidRule platform.unicode,
      timestampValidRule .eventTime .high,
      timestampValidRule .ingestionTime .high]

def detectors (platform : Platform) : List (QualityRule (RuleWorld × ρ)) :=
  [duplicateEventRule platform.unicode,
    duplicateOrderRule platform.unicode,
    impossibleAmountRule platform.unicode,
    futureTimestampRule platform,
    lateEventRule platform,
    schemaDriftRule platform]

/-- The rules in the order of their registration. -/
def defaultRules (platform : Platform) : List (QualityRule (RuleWorld × ρ)) :=
  valueRules platform ++ detectors platform

/-- `create_default_registry` -/
def createDefaultRegistry (platform : Platform) : Except Exc (RuleRegistry (RuleWorld × ρ)) :=
  (defaultRules platform).foldlM RuleRegistry.register RuleRegistry.empty

namespace RuleRegistry

theorem register_eq {registry : RuleRegistry φ} {rule : QualityRule φ}
    (hname : rule.name ≠ []) (hnew : rule.name ∉ registry.rules.map QualityRule.name) :
    ∃ registry', registry.register rule = .ok registry' ∧
      registry'.rules = registry.rules ++ [rule] := by
  have hname : rule.name.isEmpty = false := by simpa using hname
  rw [register, hname, dif_neg hnew]
  exact ⟨_, rfl, rfl⟩

/-- Rules with names of their own are all registered. -/
theorem foldlM_register (rules : List (QualityRule φ)) (registry : RuleRegistry φ)
    (hnames : ∀ rule ∈ rules, rule.name ≠ [])
    (hnodup : ((registry.rules ++ rules).map QualityRule.name).Nodup) :
    ∃ registry', rules.foldlM register registry = .ok registry' ∧
      registry'.rules = registry.rules ++ rules := by
  induction rules generalizing registry with
  | nil => exact ⟨registry, rfl, (List.append_nil _).symm⟩
  | cons rule rules ih =>
    have hnew : rule.name ∉ registry.rules.map QualityRule.name := by
      rw [List.map_append, List.map_cons, List.nodup_append] at hnodup
      intro hmem
      exact hnodup.2.2 _ hmem _ List.mem_cons_self rfl
    obtain ⟨next, hregister, hrules⟩ := register_eq (hnames rule List.mem_cons_self) hnew
    have happend : next.rules ++ rules = registry.rules ++ rule :: rules := by
      rw [hrules, List.append_assoc, List.singleton_append]
    obtain ⟨last, hlast, hall⟩ := ih next (fun r hr => hnames r (List.mem_cons_of_mem _ hr))
      (happend ▸ hnodup)
    refine ⟨last, ?_, hall.trans happend⟩
    rw [List.foldlM_cons, hregister]
    exact hlast

end RuleRegistry

theorem names_defaultRules (platform : Platform) :
    (defaultRules platform : List (QualityRule (RuleWorld × ρ))).map QualityRule.name =
      (["event_id_not_null", "customer_id_not_null", "session_id_not_null", "order_id_not_null",
        "product_id_not_null", "amount_not_null", "currency_not_null", "payment_method_not_null",
        "payment_status_not_null", "device_not_null", "country_not_null",
        "source_version_not_null", "event_time_not_null", "ingestion_time_not_null",
        "amount_positive", "currency_valid", "payment_status_valid", "event_time_valid",
        "ingestion_time_valid", "duplicate_event", "duplicate_order", "impossible_amount",
        "future_timestamp", "late_event", "schema_drift"] : List String).map text := by
  rfl

/-- The default registry is there, and holds the rules as they are listed. -/
theorem createDefaultRegistry_eq (platform : Platform) :
    ∃ registry : RuleRegistry (RuleWorld × ρ), createDefaultRegistry platform = .ok registry ∧
      registry.rules = defaultRules platform := by
  have hnodup : ((defaultRules platform : List (QualityRule (RuleWorld × ρ))).map
      QualityRule.name).Nodup := by
    rw [names_defaultRules]
    decide +kernel
  refine RuleRegistry.foldlM_register _ RuleRegistry.empty ?_ hnodup
  intro rule hrule
  have hmem := List.mem_map_of_mem (f := QualityRule.name) hrule
  rw [names_defaultRules] at hmem
  intro hempty
  rw [hempty] at hmem
  revert hmem
  decide +kernel

end IceStream
