import IceStream.Lib.Text
import IceStream.Rules.Clock
import IceStream.Rules.RuleObjects

/-!
# Loading a rule configuration

A configuration lists entries. An entry with a type registers a new rule, one
without changes the rule that it names. The entries are read and applied one by
one, and reading the file is the caller's: a missing file is `none`.
-/

namespace IceStream
open Python

namespace Severity

def value : Severity → String
  | .info => "INFO"
  | .low => "LOW"
  | .medium => "MEDIUM"
  | .high => "HIGH"
  | .warning => "WARNING"
  | .critical => "CRITICAL"

/-- The members; `BREAKING` is another name for `CRITICAL`. -/
def all : List Severity := [.info, .low, .medium, .high, .warning, .critical]

/-- `Severity(t)` -/
def ofValue? (t : Text) : Option Severity := all.find? fun severity => text severity.value == t

end Severity

/-- `RULE_TYPE_MAP` -/
inductive RuleType
  | notNull
  | positive
  | allowedValues
  | timestamp
  | duplicateEvent
  | duplicateOrder
  | impossibleAmount
  | futureTimestamp
  | lateEvent
  | schemaDrift
  deriving DecidableEq

namespace RuleType

def key : RuleType → String
  | .notNull => "not_null"
  | .positive => "positive"
  | .allowedValues => "allowed_values"
  | .timestamp => "timestamp"
  | .duplicateEvent => "duplicate_event"
  | .duplicateOrder => "duplicate_order"
  | .impossibleAmount => "impossible_amount"
  | .futureTimestamp => "future_timestamp"
  | .lateEvent => "late_event"
  | .schemaDrift => "schema_drift"

def all : List RuleType :=
  [.notNull, .positive, .allowedValues, .timestamp, .duplicateEvent, .duplicateOrder,
    .impossibleAmount, .futureTimestamp, .lateEvent, .schemaDrift]

/-- `RULE_TYPE_MAP.get(v)`, of a value that has a hash -/
def ofYaml? : Yaml → Option RuleType
  | .str s => all.find? fun type => text type.key == s
  | _ => none

end RuleType

section

variable (u : Unicode) (path name : Text) (cfg : YamlDict)

/-! ## Reading an entry -/

/-- The flag of an entry -/
def readEnabled : Except Exc Bool :=
  match cfg.get? "enabled" with
  | none => .ok true
  | some (.bool b) => .ok b
  | some v => .error (valueError (text "Invalid 'enabled' value for rule '" ++ name ++
      text s!"': expected boolean, got {v.typeName}"))

/-- The severity of an entry, where it gives one -/
def readSeverity : Except Exc (Option Severity) :=
  match cfg.get? "severity" with
  | none => .ok none
  | some v => match Severity.ofValue? (upperText (v.toText u)) with
    | some severity => .ok (some severity)
    | none => .error (valueError (text "Invalid severity '" ++ v.toText u ++ text "' for rule '" ++
        name ++ text "'. Allowed: " ++
        Yaml.repr u (.list (Severity.all.map fun severity => .str severity.value))))

/-- `allowed_values` of an entry -/
def readAllowedValues : Except Exc (List Yaml) :=
  let required := valueError (text "Rule '" ++ name ++
    text "' of type 'allowed_values' requires a non-empty 'allowed_values' list")
  match cfg.get? "allowed_values" with
  | some (.list values) => if values.isEmpty then .error required else .ok values
  | _ => .error required

/-- The class of each type, with what the entry gives its constructor. -/
def constructKind (type : RuleType) : Except Exc RuleKind :=
  let field := cfg.getD "field" (.str (if text "event" <:+: name then "event_id" else "amount"))
  match type with
  | .notNull => .ok (.notNull name field)
  | .positive => .ok (.amountPositive name field)
  | .allowedValues => do
    let values ← readAllowedValues name cfg
    values.forM Yaml.hashed
    .ok (.allowedValues name field values)
  | .timestamp => .ok (.timestampValid name field)
  | .duplicateEvent => .ok (.duplicateEvent (cfg.getD "window_seconds" (.int 300)))
  | .duplicateOrder => .ok (.duplicateOrder (cfg.getD "window_seconds" (.int 300)))
  | .impossibleAmount => do
    let maxValue ← (cfg.getD "max_value" (.int 500000)).toFloat u
    .ok (.impossibleAmount maxValue field)
  | .futureTimestamp => do
    let tolerance ← (cfg.getD "tolerance_seconds" (.int 30)).toFloat u
    .ok (.futureTimestamp tolerance field)
  | .lateEvent => do
    let lateness ← (cfg.getD "allowed_lateness_seconds" (.int 120)).toFloat u
    .ok (.lateEvent lateness field)
  | .schemaDrift =>
    let byDefault : Yaml := .dict [(.str "customer_id", .str "customer")]
    let renameMap := cfg.getD "rename_map" byDefault
    .ok (.schemaDrift (cfg.getD "baseline_version" (.str "v1"))
      (if renameMap.truthy then renameMap else byDefault))

/-- The type of an entry, where it gives one -/
def readType : Except Exc (Option RuleType) :=
  match cfg.get? "type" with
  | none => .ok none
  | some v =>
    if !v.truthy then .ok none
    else do
      v.hashed
      match RuleType.ofYaml? v with
      | some type => .ok (some type)
      | none => .error (valueError (text "Unknown rule type '" ++ v.toText u ++
          text "' for rule '" ++ name ++ text "'. Allowed: " ++
          Yaml.repr u (.list (RuleType.all.map fun type => .str type.key))))

/-- The rule that an entry constructs, where it has a type -/
def readRule (severity : Option Severity) (enabled : Bool) : Except Exc (Option RuleObject) := do
  match ← readType u name cfg with
  | none => .ok none
  | some type => (constructKind u name cfg type).map fun kind => some ⟨kind, severity, enabled⟩

end

/-- An entry as it is applied: with the rule that it constructs, where it has a type. -/
structure EntryConfig where
  name : Text
  enabled : Bool
  severity : Option Severity
  rule : Option RuleObject
  settings : YamlDict

section

variable (u : Unicode) (path : Text)

/-- The name of an entry -/
def readName (index : ℕ) (cfg : YamlDict) : Except Exc Text :=
  match cfg.get? "name" with
  | some (.str s) =>
    if s.isEmpty then .error (valueError s!"Rule entry #{index} missing valid 'name' field")
    else .ok s
  | _ => .error (valueError s!"Rule entry #{index} missing valid 'name' field")

/-- What is checked of an entry before anything is changed, and the rule that it constructs. -/
def readEntry (seen : List Text) (index : ℕ) (entry : Yaml) : Except Exc EntryConfig :=
  match entry with
  | .dict cfg => do
    let name ← readName index cfg
    if name ∈ seen then
      .error (valueError (text "Duplicate rule '" ++ name ++
        text "' declared in configuration " ++ path))
    else do
      let enabled ← readEnabled name cfg
      let severity ← readSeverity u name cfg
      let rule ← readRule u name cfg severity enabled
      .ok {
        name := name
        enabled := enabled
        severity := severity
        rule := rule
        settings := cfg }
  | _ => .error (valueError (text s!"Rule entry #{index} in " ++ path ++
      text " must be a dictionary"))

/-! ## Applying an entry -/

/-- `setattr`, where the rule has the attribute and the entry gives it -/
def assign (cfg : YamlDict) (setting : Setting) (rule : RuleObject) :
    Fallible RuleObjects RuleObject :=
  match rule.kind.setter? u setting, cfg.get? setting.key with
  | some setter, some v => do
    let kind ← raising (setter v)
    let rule := { rule with kind := kind }
    Fallible.update fun s => s.put rule
    pure rule
  | _, _ => pure rule

/-- The settings one by one -/
def assignAll (cfg : YamlDict) : List Setting → RuleObject → Fallible RuleObjects Unit
  | [], _ => pure ()
  | setting :: settings, rule => do
    let rule ← assign u cfg setting rule
    assignAll cfg settings rule

/-- An entry without a type, on the rule that it names -/
def configure (config : EntryConfig) (rule : RuleObject) : Fallible RuleObjects Unit := do
  let rule := { rule with enabled := config.enabled }
  Fallible.update fun s => s.put rule
  let rule := { rule with severityOverride := config.severity.or rule.severityOverride }
  Fallible.update fun s => s.put rule
  assignAll u config.settings
    [.windowSeconds, .maxValue, .toleranceSeconds, .allowedLatenessSeconds] rule

def unknownRule (name : Text) : Exc :=
  ⟨"KeyError", false, reprText u (text "Unknown rule: " ++ name ++
    text ". Rule must be registered before configuration.")⟩

def applyEntry (config : EntryConfig) : Fallible RuleObjects Unit :=
  match config.rule with
  | some rule => RuleObjects.register rule true
  | none => do
    match ← Fallible.read fun s => s.get? config.name with
    | some rule => configure u config rule
    | none => Fallible.raise (unknownRule u config.name)

/-- The loop over the entries; `seen` are the names of those before. -/
def loadEntries : List Text → ℕ → List Yaml → Fallible RuleObjects Unit
  | _, _, [] => pure ()
  | seen, index, entry :: entries => do
    let config ← raising (readEntry u path seen index entry)
    applyEntry u config
    loadEntries (config.name :: seen) (index + 1) entries

/-! ## The document -/

/-- The entries under a key of the document -/
def entriesUnder (data : YamlDict) (key : Text) : List Yaml :=
  match data.get? key with
  | some (.list entries) => entries
  | _ => []

def allRuleEntries (data : Yaml) : Except Exc (List Yaml) :=
  match data with
  | .dict d =>
    let entries := entriesUnder d "rules" ++ entriesUnder d "anomaly_rules"
    if entries.isEmpty then
      .error (valueError (text "Configuration in " ++ path ++
        text " must contain a 'rules' or 'anomaly_rules' list"))
    else .ok entries
  | _ => .error (valueError (text "Invalid configuration root in " ++ path ++
      text ": expected mapping/dict"))

end

/-- A registry of the caller's own, or the global one. -/
inductive RegistryRef
  | own
  | shared
  deriving DecidableEq

structure Registries where
  own : RuleObjects
  shared : RuleObjects

namespace Registries

def get (w : Registries) : RegistryRef → RuleObjects
  | .own => w.own
  | .shared => w.shared

def set (w : Registries) (ref : RegistryRef) (rules : RuleObjects) : Registries :=
  match ref with
  | .own => { w with own := rules }
  | .shared => { w with shared := rules }

/-- `registry or default_registry`: a registry without rules is falsy. -/
def target (w : Registries) : Option RegistryRef → RegistryRef
  | some ref => if (w.get ref).items.isEmpty then .shared else ref
  | none => .shared

def on {α : Type} (ref : RegistryRef) (x : Fallible RuleObjects α) : Fallible Registries α :=
  fun w => ((x (w.get ref)).1, w.set ref (x (w.get ref)).2)

end Registries

def loadRuleConfig (u : Unicode) (path : Text) (file : Option (Except Exc Yaml))
    (registry : Option RegistryRef) : Fallible Registries RegistryRef := do
  let target ← Fallible.read fun w => w.target registry
  match file with
  | none => Fallible.raise ⟨"FileNotFoundError", false,
      text "Configuration file not found: " ++ path⟩
  | some (.error e) => Fallible.raise (valueError (text "Failed to parse YAML file " ++ path ++
      text ": " ++ e.message))
  | some (.ok data) =>
    let entries ← raising (allRuleEntries path data)
    Registries.on target (loadEntries u path [] 0 entries)
    pure target

end IceStream
