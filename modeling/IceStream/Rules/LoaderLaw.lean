import IceStream.Rules.Loader

/-!
# What a configuration does to a registry

An accepted entry puts one rule into the registry. A document is a run of such
steps: it stops at the first entry that is rejected, and what the entries before
it did stays.
-/

namespace IceStream
open Python Stepping

variable {u : Unicode} {path : Text} {cfg : YamlDict} {rule rule' : RuleObject} {setting : Setting}
  {config : EntryConfig} {s t : RuleObjects}

/-! ## A rule and its one setting -/

namespace RuleKind

variable {kind kind' : RuleKind} {setter : Yaml → Except Exc RuleKind} {v : Yaml}

/-- The attribute of a class that a configuration may set. -/
def setting? : RuleKind → Option Setting
  | .duplicateEvent _ => some .windowSeconds
  | .duplicateOrder _ => some .windowSeconds
  | .impossibleAmount _ _ => some .maxValue
  | .futureTimestamp _ _ => some .toleranceSeconds
  | .lateEvent _ _ => some .allowedLatenessSeconds
  | _ => none

theorem setter?_of_ne (h : kind.setting? ≠ some setting) : kind.setter? u setting = none := by
  cases kind <;> cases setting <;> first
    | rfl
    | exact absurd rfl h

/-- A setter keeps the class, and with it the name and the attribute. -/
theorem name_setter (hsetter : kind.setter? u setting = some setter) (h : setter v = .ok kind') :
    kind'.name = kind.name ∧ kind'.setting? = kind.setting? := by
  cases kind <;> cases setting <;> first
    | (cases hsetter
       obtain ⟨x, -, rfl⟩ := map_eq_ok h
       exact ⟨rfl, rfl⟩)
    | cases hsetter

end RuleKind

namespace RuleObject

/-- The rule with what the configuration gives for the attribute. -/
def set (u : Unicode) (cfg : YamlDict) (rule : RuleObject) (setting : Setting) :
    Except Exc RuleObject :=
  match rule.kind.setter? u setting, cfg.get? setting.key with
  | some setter, some v => (setter v).map fun kind => { rule with kind := kind }
  | _, _ => .ok rule

theorem set_keeps (h : rule.set u cfg setting = .ok rule') :
    rule'.name = rule.name ∧ rule'.kind.setting? = rule.kind.setting? ∧
      rule'.enabled = rule.enabled ∧ rule'.severityOverride = rule.severityOverride := by
  unfold set at h
  cases hsetter : rule.kind.setter? u setting with
  | none =>
    rw [hsetter] at h
    cases h
    exact ⟨rfl, rfl, rfl, rfl⟩
  | some setter =>
    cases hv : cfg.get? setting.key with
    | none =>
      rw [hsetter, hv] at h
      cases h
      exact ⟨rfl, rfl, rfl, rfl⟩
    | some v =>
      rw [hsetter, hv] at h
      dsimp only at h
      cases hkind : setter v with
      | error e =>
        rw [hkind] at h
        cases h
      | ok kind =>
        rw [hkind] at h
        cases h
        obtain ⟨hname, hsetting⟩ := RuleKind.name_setter hsetter hkind
        exact ⟨hname, hsetting, rfl, rfl⟩

end RuleObject

theorem assign_of_ne (h : rule.kind.setting? ≠ some setting) :
    assign u cfg setting rule = pure rule := by
  rw [assign, RuleKind.setter?_of_ne h]

/-- Setting an attribute puts the changed rule in place of the old one. -/
theorem assign_eq : assign u cfg setting rule (s.put rule) =
    match rule.set u cfg setting with
    | .ok rule' => (.ok rule', s.put rule')
    | .error e => (.error e, s.put rule) := by
  unfold assign RuleObject.set
  cases hsetter : rule.kind.setter? u setting with
  | none => rfl
  | some setter =>
    cases hv : cfg.get? setting.key with
    | none => rfl
    | some v =>
      dsimp only
      cases hkind : setter v with
      | error e =>
        rw [Fallible.bind_error (raising_error rfl _)]
        rfl
      | ok kind =>
        have hname : rule.name = RuleObject.name { rule with kind := kind } :=
          (RuleKind.name_setter hsetter hkind).1.symm
        rw [Fallible.bind_ok (raising_ok rfl _), Fallible.update_bind, Keyed.put_put s hname]
        rfl

theorem assignAll_of_notMem {settings : List Setting}
    (h : ∀ setting ∈ settings, rule.kind.setting? ≠ some setting) :
    assignAll u cfg settings rule = pure () := by
  induction settings with
  | nil => rfl
  | cons setting settings ih =>
    rw [assignAll, assign_of_ne (h setting List.mem_cons_self), Fallible.pure_bind]
    exact ih fun other hother => h other (List.mem_cons_of_mem setting hother)

/-- Of all the settings, the one that the class has is set. -/
theorem assignAll_eq {settings : List Setting} (hnodup : settings.Nodup)
    (hmem : setting ∈ settings) (hsetting : rule.kind.setting? = some setting) :
    assignAll u cfg settings rule (s.put rule) =
      match rule.set u cfg setting with
      | .ok rule' => (.ok (), s.put rule')
      | .error e => (.error e, s.put rule) := by
  induction settings with
  | nil => cases hmem
  | cons first settings ih =>
    obtain ⟨hfirst, hnodup⟩ := List.nodup_cons.mp hnodup
    rw [assignAll]
    obtain rfl | hlater := List.mem_cons.mp hmem
    · have hstep := @assign_eq u cfg rule setting s
      cases hset : rule.set u cfg setting with
      | error e =>
        rw [hset] at hstep
        exact Fallible.bind_error hstep
      | ok rule' =>
        rw [hset] at hstep
        rw [Fallible.bind_ok hstep, assignAll_of_notMem]
        · rfl
        · intro other hother heq
          rw [(RuleObject.set_keeps hset).2.1, hsetting] at heq
          cases heq
          exact hfirst hother
    · have hne : rule.kind.setting? ≠ some first := by
        rw [hsetting]
        rintro heq
        cases heq
        exact hfirst hlater
      rw [assign_of_ne hne, Fallible.pure_bind]
      exact ih hnodup hlater

/-! ## What an entry does -/

namespace EntryConfig

/-- The rule with the flag and the severity of an entry. -/
def flagged (config : EntryConfig) (rule : RuleObject) : RuleObject :=
  { rule with
    enabled := config.enabled
    severityOverride := config.severity.or rule.severityOverride }

/-- The rule that an entry without a type makes of the one that it names. -/
def configured (u : Unicode) (config : EntryConfig) (rule : RuleObject) : Except Exc RuleObject :=
  match rule.kind.setting? with
  | none => .ok (config.flagged rule)
  | some setting => (config.flagged rule).set u config.settings setting

/-- What an accepted entry makes of the rules. -/
def effect (u : Unicode) (s : RuleObjects) (config : EntryConfig) : Option RuleObjects :=
  match config.rule with
  | some rule => some (s.put rule)
  | none => (s.get? config.name).bind fun rule => (config.configured u rule).toOption.map s.put

/-- The name whose rule the entry puts. -/
def writes (config : EntryConfig) : Text :=
  match config.rule with
  | some rule => rule.name
  | none => config.name

/-- The rule is one the entry may leave behind. -/
def Leaves (config : EntryConfig) (rule : RuleObject) : Prop :=
  match config.rule with
  | some constructed => rule = constructed
  | none => rule.enabled = config.enabled ∧
      ∀ severity, config.severity = some severity → rule.severity = severity

theorem configured_keeps (h : config.configured u rule = .ok rule') :
    rule'.name = rule.name ∧ rule'.enabled = config.enabled ∧
      rule'.severityOverride = config.severity.or rule.severityOverride := by
  unfold configured at h
  cases hsetting : rule.kind.setting? with
  | none =>
    rw [hsetting] at h
    cases h
    exact ⟨rfl, rfl, rfl⟩
  | some setting =>
    rw [hsetting] at h
    obtain ⟨hname, -, henabled, hseverity⟩ := RuleObject.set_keeps h
    exact ⟨hname, henabled, hseverity⟩

/-- An accepted entry puts one rule, under the name that it writes. -/
theorem puts_effect : Keyed.Puts (effect u) writes Leaves := by
  intro s config t h
  unfold effect at h
  unfold writes Leaves
  cases hrule : config.rule with
  | some rule =>
    rw [hrule] at h
    exact ⟨rule, rfl, rfl, (Option.some.inj h).symm⟩
  | none =>
    rw [hrule] at h
    obtain ⟨rule, hget, h⟩ := Option.bind_eq_some_iff.mp h
    obtain ⟨rule', hconfigured, rfl⟩ := Option.map_eq_some_iff.mp h
    have hconfigured : config.configured u rule = .ok rule' := by
      cases hc : config.configured u rule with
      | error e =>
        rw [hc] at hconfigured
        cases hconfigured
      | ok rule'' =>
        rw [hc] at hconfigured
        exact congrArg Except.ok (Option.some.inj hconfigured)
    obtain ⟨hname, henabled, hoverride⟩ := configured_keeps hconfigured
    refine ⟨rule', hname.trans (Keyed.key_of_get? hget), ⟨henabled, ?_⟩, rfl⟩
    intro severity hseverity
    rw [RuleObject.severity, hoverride, hseverity]
    rfl

end EntryConfig

theorem configure_eq : configure u config rule s =
    match config.configured u rule with
    | .ok rule' => (.ok (), s.put rule')
    | .error e => (.error e, s.put (config.flagged rule)) := by
  have hname : RuleObject.name { rule with enabled := config.enabled } =
      (config.flagged rule).name := rfl
  have hassign : configure u config rule s = assignAll u config.settings
      [.windowSeconds, .maxValue, .toleranceSeconds, .allowedLatenessSeconds]
      (config.flagged rule) (s.put (config.flagged rule)) := by
    rw [← Keyed.put_put s hname]
    rfl
  rw [hassign]
  unfold EntryConfig.configured
  cases hsetting : rule.kind.setting? with
  | none =>
    rw [assignAll_of_notMem]
    · rfl
    · intro setting hmem heq
      cases hsetting.symm.trans heq
  | some setting =>
    refine assignAll_eq (by decide) ?_ hsetting
    cases setting <;> decide

/-- A rejected entry leaves the rules alone, except for a flag and a severity that were assigned
before the setter refused its value. -/
theorem applyEntry_cases (hname : ∀ rule, config.rule = some rule → rule.name.isEmpty = false) :
    (∃ t, applyEntry u config s = (.ok (), t) ∧ config.effect u s = some t) ∨
    (applyEntry u config s = (.error (unknownRule u config.name), s) ∧
      config.rule = none ∧ s.get? config.name = none) ∨
    ∃ e rule, applyEntry u config s = (.error e, s.put (config.flagged rule)) ∧
      config.rule = none ∧ s.get? config.name = some rule ∧ config.configured u rule = .error e := by
  unfold applyEntry EntryConfig.effect
  cases hrule : config.rule with
  | some rule => exact .inl ⟨_, RuleObjects.register_overwrite (hname rule hrule) s, rfl⟩
  | none =>
    dsimp only
    rw [Fallible.read_bind]
    cases hget : s.get? config.name with
    | none => exact .inr (.inl ⟨rfl, rfl, rfl⟩)
    | some rule =>
      dsimp only
      rw [configure_eq]
      cases hconfigured : config.configured u rule with
      | ok rule' =>
        refine .inl ⟨_, rfl, ?_⟩
        rw [Option.bind_some, hconfigured]
        rfl
      | error e => exact .inr (.inr ⟨e, rule, rfl, rfl, rfl, hconfigured⟩)

/-! ## What an entry says -/

namespace RuleType

/-- The name and the default severity of the six classes whose name is fixed. -/
def ownRule? : RuleType → Option (Text × Severity)
  | .duplicateEvent => some ("duplicate_event", .critical)
  | .duplicateOrder => some ("duplicate_order", .high)
  | .impossibleAmount => some ("impossible_amount", .high)
  | .futureTimestamp => some ("future_timestamp", .high)
  | .lateEvent => some ("late_event", .medium)
  | .schemaDrift => some ("schema_drift", .critical)
  | _ => none

end RuleType

def entryName (cfg : YamlDict) : Text :=
  match cfg.get? "name" with
  | some (.str s) => s
  | _ => []

/-- An entry is enabled where it does not say. -/
def entryEnabled (cfg : YamlDict) : Bool :=
  match cfg.get? "enabled" with
  | some (.bool b) => b
  | _ => true

def entrySeverity (u : Unicode) (cfg : YamlDict) : Option Severity :=
  (cfg.get? "severity").bind fun v => Severity.ofValue? (upperText (v.toText u))

def entryType (cfg : YamlDict) : Option RuleType := (cfg.get? "type").bind RuleType.ofYaml?

/-- The name under which the entry's rule is registered. -/
def writtenName (cfg : YamlDict) : Text :=
  match (entryType cfg).bind RuleType.ownRule? with
  | some (name, _) => name
  | none => entryName cfg

/-- The severity of the rule that an entry leaves, where the entry settles it by itself. -/
def leftSeverity (u : Unicode) (cfg : YamlDict) : Option Severity :=
  (entrySeverity u cfg).or (((entryType cfg).bind RuleType.ownRule?).map Prod.snd)

/-- An entry in its applied form. -/
structure EntryConfig.ReadFrom (u : Unicode) (config : EntryConfig) : Prop where
  name : config.settings.get? "name" = some (.str config.name)
  nonempty : config.name.isEmpty = false
  enabled : entryEnabled config.settings = config.enabled
  severity : entrySeverity u config.settings = config.severity
  rule : config.rule = none ∧ entryType config.settings = none ∨
    ∃ type kind, entryType config.settings = some type ∧
      constructKind u config.name config.settings type = .ok kind ∧
      config.rule = some ⟨kind, config.severity, config.enabled⟩

theorem entryEnabled_eq {name : Text} {b : Bool} (h : readEnabled name cfg = .ok b) :
    entryEnabled cfg = b := by
  unfold readEnabled at h
  unfold entryEnabled
  split at h
  · cases h
    rename_i hnone
    rw [hnone]
  · cases h
    rename_i hbool
    rw [hbool]
  · cases h

theorem entrySeverity_eq {name : Text} {severity : Option Severity}
    (h : readSeverity u name cfg = .ok severity) : entrySeverity u cfg = severity := by
  unfold readSeverity at h
  unfold entrySeverity
  cases hv : cfg.get? "severity" with
  | none =>
    rw [hv] at h
    exact Except.ok.inj h
  | some v =>
    rw [hv] at h
    dsimp only at h
    rw [Option.bind_some]
    cases hseverity : Severity.ofValue? (upperText (v.toText u)) with
    | none =>
      rw [hseverity] at h
      cases h
    | some found =>
      rw [hseverity] at h
      exact Except.ok.inj h

/-- No type has a falsy key. -/
theorem ofYaml?_of_falsy {v : Yaml} (h : v.truthy = false) : RuleType.ofYaml? v = none := by
  cases v with
  | str s =>
    obtain rfl : s = [] := by simpa [Yaml.truthy] using h
    decide
  | _ => rfl

theorem entryType_eq {name : Text} {type : Option RuleType} (h : readType u name cfg = .ok type) :
    entryType cfg = type := by
  unfold readType at h
  unfold entryType
  cases hv : cfg.get? "type" with
  | none =>
    rw [hv] at h
    exact Except.ok.inj h
  | some v =>
    rw [hv] at h
    dsimp only at h
    rw [Option.bind_some]
    cases htruthy : v.truthy with
    | false =>
      rw [htruthy] at h
      exact (ofYaml?_of_falsy htruthy).trans (Except.ok.inj h)
    | true =>
      rw [htruthy] at h
      obtain ⟨-, -, h⟩ := bind_eq_ok h
      cases htype : RuleType.ofYaml? v with
      | none =>
        rw [htype] at h
        cases h
      | some found =>
        rw [htype] at h
        exact Except.ok.inj h

theorem readName_ok {index : ℕ} {name : Text} (h : readName index cfg = .ok name) :
    cfg.get? "name" = some (.str name) ∧ name.isEmpty = false := by
  unfold readName at h
  split at h
  · rename_i s hs
    cases hempty : s.isEmpty with
    | true =>
      rw [hempty] at h
      cases h
    | false =>
      rw [hempty] at h
      cases h
      exact ⟨hs, hempty⟩
  · cases h

theorem readRule_ok {name : Text} {severity : Option Severity} {enabled : Bool}
    {rule : Option RuleObject} (h : readRule u name cfg severity enabled = .ok rule) :
    rule = none ∧ entryType cfg = none ∨
      ∃ type kind, entryType cfg = some type ∧ constructKind u name cfg type = .ok kind ∧
        rule = some ⟨kind, severity, enabled⟩ := by
  obtain ⟨type, htype, h⟩ := bind_eq_ok h
  rw [entryType_eq htype]
  cases type with
  | none => exact .inl ⟨(Except.ok.inj h).symm, rfl⟩
  | some type =>
    obtain ⟨kind, hkind, rfl⟩ := map_eq_ok h
    exact .inr ⟨type, kind, rfl, hkind, rfl⟩

theorem readEntry_ok {seen : List Text} {index : ℕ} {entry : Yaml}
    (h : readEntry u path seen index entry = .ok config) :
    entry = .dict config.settings ∧ config.name ∉ seen ∧ config.ReadFrom u := by
  cases entry with
  | dict cfg =>
    obtain ⟨name, hname, h⟩ := bind_eq_ok h
    by_cases hseen : name ∈ seen
    · rw [if_pos hseen] at h
      cases h
    · rw [if_neg hseen] at h
      obtain ⟨enabled, henabled, h⟩ := bind_eq_ok h
      obtain ⟨severity, hseverity, h⟩ := bind_eq_ok h
      obtain ⟨rule, hrule, h⟩ := bind_eq_ok h
      cases h
      obtain ⟨hget, hnonempty⟩ := readName_ok hname
      exact ⟨rfl, hseen, hget, hnonempty, entryEnabled_eq henabled, entrySeverity_eq hseverity,
        readRule_ok hrule⟩
  | _ => cases h

/-- The class that a type constructs is registered under the name of the type, or of the entry. -/
theorem constructKind_ok {name : Text} {type : RuleType} {kind : RuleKind}
    (h : constructKind u name cfg type = .ok kind) :
    match type.ownRule? with
    | some (own, severity) => kind.name = own ∧ kind.defaultSeverity = severity
    | none => kind.name = name := by
  cases type with
  | notNull | positive | timestamp =>
    cases h
    rfl
  | allowedValues =>
    obtain ⟨values, -, h⟩ := bind_eq_ok h
    obtain ⟨-, -, h⟩ := bind_eq_ok h
    cases h
    rfl
  | duplicateEvent | duplicateOrder | schemaDrift =>
    cases h
    exact ⟨rfl, rfl⟩
  | impossibleAmount | futureTimestamp | lateEvent =>
    obtain ⟨x, -, h⟩ := bind_eq_ok h
    cases h
    exact ⟨rfl, rfl⟩

namespace EntryConfig

variable {last : EntryConfig}

theorem ReadFrom.entryName (hread : config.ReadFrom u) :
    entryName config.settings = config.name := by
  rw [IceStream.entryName, hread.name]

theorem ReadFrom.writes (hread : config.ReadFrom u) :
    config.writes = writtenName config.settings := by
  unfold EntryConfig.writes writtenName
  obtain ⟨hrule, htype⟩ | ⟨type, kind, htype, hkind, hrule⟩ := hread.rule
  · rw [hrule, htype]
    exact hread.entryName.symm
  · rw [hrule, htype, Option.bind_some, hread.entryName]
    have hname := constructKind_ok hkind
    cases hown : type.ownRule? with
    | none =>
      rw [hown] at hname
      exact hname
    | some own =>
      rw [hown] at hname
      exact hname.1

theorem ReadFrom.name_ne_nil (hread : config.ReadFrom u) (hrule : config.rule = some rule) :
    rule.name.isEmpty = false := by
  obtain ⟨hnone, -⟩ | ⟨type, kind, htype, hkind, hsome⟩ := hread.rule
  · cases hnone.symm.trans hrule
  · cases hsome.symm.trans hrule
    have hname := constructKind_ok hkind
    cases type <;> first
      | (obtain ⟨hname, -⟩ := hname
         rw [RuleObject.name, hname]
         decide)
      | (rw [RuleObject.name, hname]
         exact hread.nonempty)

/-- The flag and the severity of the rule that an entry leaves. -/
theorem Leaves.flags (hread : last.ReadFrom u) (h : last.Leaves rule) :
    rule.enabled = entryEnabled last.settings ∧
      (∀ severity, leftSeverity u last.settings = some severity → rule.severity = severity) ∧
      (leftSeverity u last.settings = none → last.severity = none ∧ last.writes = last.name) := by
  unfold Leaves at h
  unfold leftSeverity EntryConfig.writes
  rw [hread.enabled, hread.severity]
  obtain ⟨hrule, htype⟩ | ⟨type, kind, htype, hkind, hrule⟩ := hread.rule
  · rw [hrule] at h ⊢
    rw [htype]
    refine ⟨h.1, ?_, ?_⟩
    · intro severity hseverity
      exact h.2 severity (by simpa using hseverity)
    · intro hnone
      exact ⟨by simpa using hnone, rfl⟩
  · rw [hrule] at h ⊢
    rw [htype, Option.bind_some]
    obtain rfl := h
    have hname := constructKind_ok hkind
    cases hown : type.ownRule? with
    | none =>
      rw [hown] at hname
      refine ⟨rfl, ?_, ?_⟩
      · intro severity hseverity
        have hseverity : last.severity = some severity := by simpa using hseverity
        rw [RuleObject.severity, hseverity]
        rfl
      · intro hnone
        exact ⟨by simpa using hnone, hname⟩
    | some own =>
      rw [hown] at hname
      refine ⟨rfl, ?_, ?_⟩
      · intro severity hseverity
        rw [RuleObject.severity, hname.2]
        cases hlast : last.severity with
        | none =>
          rw [hlast] at hseverity
          exact Option.some.inj hseverity
        | some s =>
          rw [hlast] at hseverity
          exact Option.some.inj hseverity
      · intro hnone
        cases hlast : last.severity with
        | none =>
          rw [hlast] at hnone
          cases hnone
        | some s =>
          rw [hlast] at hnone
          cases hnone

end EntryConfig

end IceStream
