import IceStream.Lib.Keyed
import IceStream.Lib.Yaml
import IceStream.Rules.Base

/-!
# Rules as objects

What a registry holds and a configuration changes: the class of each rule with
what its constructor kept, whether it is enabled, and its severity.
-/

namespace IceStream
open Python

/-- The class of a rule, and what its constructor keeps. Six classes have a name of their own. -/
inductive RuleKind
  | eventIdNotNull
  | notNull (name : Text) (field : Yaml)
  | amountPositive (name : Text) (field : Yaml)
  | allowedValues (name : Text) (field : Yaml) (allowedValues : List Yaml)
  | timestampValid (name : Text) (field : Yaml)
  | duplicateEvent (windowSeconds : Yaml)
  | duplicateOrder (windowSeconds : Yaml)
  | impossibleAmount (maxValue : Float) (field : Yaml)
  | futureTimestamp (toleranceSeconds : Float) (field : Yaml)
  | lateEvent (allowedLatenessSeconds : Float) (field : Yaml)
  | schemaDrift (baselineVersion renameMap : Yaml)
  /-- A class of the user's, without settings. -/
  | custom (name : Text) (defaultSeverity : Severity)

/-- What a configuration may set on an object that has it. -/
inductive Setting
  | windowSeconds
  | maxValue
  | toleranceSeconds
  | allowedLatenessSeconds
  deriving DecidableEq

/-- The attribute, and the key of the configuration. -/
def Setting.key : Setting → Text
  | .windowSeconds => "window_seconds"
  | .maxValue => "max_value"
  | .toleranceSeconds => "tolerance_seconds"
  | .allowedLatenessSeconds => "allowed_lateness_seconds"

namespace RuleKind

def name : RuleKind → Text
  | .eventIdNotNull => "event_id_not_null"
  | .notNull name _ => name
  | .amountPositive name _ => name
  | .allowedValues name _ _ => name
  | .timestampValid name _ => name
  | .duplicateEvent _ => "duplicate_event"
  | .duplicateOrder _ => "duplicate_order"
  | .impossibleAmount _ _ => "impossible_amount"
  | .futureTimestamp _ _ => "future_timestamp"
  | .lateEvent _ _ => "late_event"
  | .schemaDrift _ _ => "schema_drift"
  | .custom name _ => name

/-- `self.field in ("event_id", "amount")` -/
def isKeyField : Yaml → Bool
  | .str s => s == text "event_id" || s == text "amount"
  | _ => false

def defaultSeverity : RuleKind → Severity
  | .eventIdNotNull => .critical
  | .notNull _ field => if isKeyField field then .critical else .high
  | .amountPositive _ _ => .high
  | .allowedValues _ _ _ => .high
  | .timestampValid _ _ => .high
  | .duplicateEvent _ => .critical
  | .duplicateOrder _ => .high
  | .impossibleAmount _ _ => .high
  | .futureTimestamp _ _ => .high
  | .lateEvent _ _ => .medium
  | .schemaDrift _ _ => .critical
  | .custom _ severity => severity

/-- The setter, where the class has the attribute. -/
def setter? (u : Unicode) : RuleKind → Setting → Option (Yaml → Except Exc RuleKind)
  | .duplicateEvent _, .windowSeconds =>
    some fun v => (v.toInt u).map fun i => .duplicateEvent (.int i)
  | .duplicateOrder _, .windowSeconds =>
    some fun v => (v.toInt u).map fun i => .duplicateOrder (.int i)
  | .impossibleAmount _ field, .maxValue =>
    some fun v => (v.toFloat u).map fun x => .impossibleAmount x field
  | .futureTimestamp _ field, .toleranceSeconds =>
    some fun v => (v.toFloat u).map fun x => .futureTimestamp x field
  | .lateEvent _ field, .allowedLatenessSeconds =>
    some fun v => (v.toFloat u).map fun x => .lateEvent x field
  | _, _ => none

end RuleKind

/-- `_severity_override` and `_enabled` are what the base class keeps. -/
structure RuleObject where
  kind : RuleKind
  severityOverride : Option Severity := none
  enabled : Bool := true

namespace RuleObject

def name (rule : RuleObject) : Text := rule.kind.name

def severity (rule : RuleObject) : Severity :=
  rule.severityOverride.getD rule.kind.defaultSeverity

end RuleObject

/-- The rules of a registry by name. -/
abbrev RuleObjects := Keyed RuleObject.name

namespace RuleObjects

/-- `register` of a rule object -/
def register (rule : RuleObject) (overwrite : Bool) : Fallible RuleObjects Unit := do
  if rule.name.isEmpty then Fallible.raise (valueError "Rule name must be a non-empty string")
  let taken ← Fallible.read fun s => (s.get? rule.name).isSome
  if taken && !overwrite then
    Fallible.raise (valueError (text "Rule '" ++ rule.name ++
      text "' is already registered. Use overwrite=True to replace."))
  Fallible.update fun s => s.put rule

/-- Overwriting puts the rule under its name. -/
theorem register_overwrite {rule : RuleObject} (hname : rule.name.isEmpty = false)
    (s : RuleObjects) : register rule true s = (.ok (), s.put rule) := by
  rw [register, hname]
  simp

end RuleObjects

end IceStream
