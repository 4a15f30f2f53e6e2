import IceStream.Rules.Values
import IceStream.Schema.Conformance

/-!
# Schema drift

The version an event names is compared with the baseline. Only an event that names none is
compared by its own fields.
-/

namespace IceStream
open Python Schema

variable {ρ : Type}

def Severity.ofSchema : Schema.Severity → Severity
  | .info => .info
  | .low => .low
  | .medium => .medium
  | .high => .high
  | .warning => .warning
  | .critical => .critical

structure SchemaDriftRule where
  baselineVersion : Text := "v1"
  renameMap : List (Text × Text) := [("customer_id", "customer")]

namespace SchemaDriftRule

/-- `infer_event_schema`; the keys of a payload are distinct. -/
def inferEventSchema (event : QualityEvent) (versionTag : Text) : EventSchema where
  schemaVersion := versionTag
  fields := (event.toDict.pwFilter fun p q => p.1 ≠ q.1).map fun p =>
    (p.1, ⟨inferTypeFromValue p.2, true, none⟩)
  nodup := by
    rw [List.map_map]
    exact List.pairwise_map.mpr (List.pairwise_pwFilter _)

/-- The baseline schema; one that is not found is replaced by `v1`. -/
def expectedSchema (rule : SchemaDriftRule) (files : SchemaFiles) :
    Fallible SchemaRegistry EventSchema :=
  Fallible.catching (SchemaRegistry.get files rule.baselineVersion) fun e =>
    if e.name = "KeyError" then SchemaRegistry.get files "v1" else Fallible.raise e

/-- The text of the version an event names; `none` for an event that does not. -/
def providedVersion (u : Unicode) (event : QualityEvent) : Option Text :=
  match (event.getField .sourceVersion).orElse (event.value .sourceVersion) with
  | .null => none
  | v => some (strip (v.toText u))

/-- The schema of the version an event names, or how its absence is reported. -/
def actualSchema (u : Unicode) (files : SchemaFiles) (event : QualityEvent) :
    Fallible SchemaRegistry (Except Text EventSchema) :=
  match providedVersion u event with
  | none => pure (.ok (inferEventSchema event "inferred"))
  | some version =>
    if version.isEmpty ∨ lower version = text "none" then
      pure (.ok (inferEventSchema event "missing_version"))
    else
      Fallible.catching (do pure (.ok (← SchemaRegistry.get files version))) fun e =>
        if e.name = "KeyError" then pure (.error version) else Fallible.raise e

/-- The result of a comparison. Its message is that of the first of the severest changes. -/
def driftResult (event : QualityEvent) (diff : CompatibilityResult) : ValidationResult :=
  let result (passed : Bool) (severity : Severity) (message : Text) (field : Option Text) :
      ValidationResult :=
    ⟨"schema_drift", passed, severity, message, field, event.value .eventId⟩
  match diff.changes.find? fun c => c.severity == diff.overallSeverity with
  | none => result true .info (text "No schema drift detected between " ++ diff.oldVersion ++
      text " and " ++ diff.newVersion) none
  | some primary => result (diff.overallSeverity == .info) (.ofSchema diff.overallSeverity)
      primary.message (some primary.field)

/-- `validate` -/
def check (rule : SchemaDriftRule) (u : Unicode) (files : SchemaFiles) (event : QualityEvent) :
    Fallible SchemaRegistry ValidationResult := do
  let expected ← rule.expectedSchema files
  match ← actualSchema u files event with
  | .error version => pure ⟨"schema_drift", false, .critical,
      text "Unknown schema version: " ++ version, none, event.value .eventId⟩
  | .ok actual => pure (driftResult event ((SchemaComparator.mk rule.renameMap).compare expected actual))

end SchemaDriftRule

/-- `SchemaDriftRule` -/
def schemaDriftRule (platform : Platform) (rule : SchemaDriftRule := {}) :
    QualityRule (RuleWorld × ρ) where
  name := "schema_drift"
  validate event := RuleWorld.onRules (RuleWorld.onSchemas do
    pure (.ok (← rule.check platform.unicode platform.schemaFiles event)))

end IceStream
