import IceStream.Rules.LoaderLaw

/-!
# Loading a whole document

An accepted document is a run of its entries. A rejected one has run up to the
entry that was rejected, and nothing is taken back.
-/

namespace IceStream
open Python Stepping

variable {u : Unicode} {path : Text} {seen : List Text} {index : ℕ} {s t : RuleObjects}

/-- The entries that were applied, as they stand in the document. -/
def applied (configs : List EntryConfig) : List Yaml :=
  configs.map fun config => .dict config.settings

/-- Entries read one after the other, with names of their own, whose effects follow each other. -/
structure RanThrough (u : Unicode) (seen : List Text) (configs : List EntryConfig)
    (s t : RuleObjects) : Prop where
  read : ∀ config ∈ configs, config.ReadFrom u
  nodup : (configs.map EntryConfig.name).Nodup
  unseen : ∀ config ∈ configs, config.name ∉ seen
  exec : exec (EntryConfig.effect u) s configs = some t

theorem ranThrough_nil : RanThrough u seen [] s s where
  read _ h := absurd h List.not_mem_nil
  nodup := List.nodup_nil
  unseen _ h := absurd h List.not_mem_nil
  exec := rfl

theorem RanThrough.cons {config : EntryConfig} {configs : List EntryConfig} {r : RuleObjects}
    (hread : config.ReadFrom u) (hunseen : config.name ∉ seen)
    (heffect : config.effect u s = some r) (h : RanThrough u (config.name :: seen) configs r t) :
    RanThrough u seen (config :: configs) s t where
  read := by
    intro c hc
    obtain rfl | hc := List.mem_cons.mp hc
    · exact hread
    · exact h.read c hc
  nodup := by
    rw [List.map_cons]
    refine List.nodup_cons.mpr ⟨?_, h.nodup⟩
    intro hmem
    obtain ⟨c, hc, hname⟩ := List.mem_map.mp hmem
    apply h.unseen c hc
    rw [hname]
    exact List.mem_cons_self
  unseen := by
    intro c hc
    obtain rfl | hc := List.mem_cons.mp hc
    · exact hunseen
    · exact fun hmem => h.unseen c hc (List.mem_cons_of_mem _ hmem)
  exec := by
    rw [exec_cons, heffect]
    exact h.exec

/-- The entry that ends a run, what it raises, and the rules that it leaves. -/
inductive Rejects (u : Unicode) (path : Text) (seen : List Text) (index : ℕ) (entry : Yaml)
    (e : Exc) (rules : RuleObjects) : RuleObjects → Prop
  /-- It did not pass the checks. -/
  | unread (h : readEntry u path seen index entry = .error e) :
    Rejects u path seen index entry e rules rules
  /-- It has no type, and names no rule. -/
  | unknown {config : EntryConfig} (h : readEntry u path seen index entry = .ok config)
      (hrule : config.rule = none) (hget : rules.get? config.name = none)
      (he : e = unknownRule u config.name) :
    Rejects u path seen index entry e rules rules
  /-- It has no type, and the rule that it names refuses its setting: the flag and the severity of
  that rule are assigned by then. -/
  | refused {config : EntryConfig} {rule : RuleObject}
      (h : readEntry u path seen index entry = .ok config) (hrule : config.rule = none)
      (hget : rules.get? config.name = some rule) (hset : config.configured u rule = .error e) :
    Rejects u path seen index entry e rules (rules.put (config.flagged rule))

/-- A run over entries that none of them ends is the run of their effects. -/
theorem loadEntries_ok {entries : List Yaml}
    (h : loadEntries u path seen index entries s = (.ok (), t)) :
    ∃ configs, entries = applied configs ∧ RanThrough u seen configs s t := by
  induction entries generalizing seen index s with
  | nil =>
    cases h
    exact ⟨[], rfl, ranThrough_nil⟩
  | cons entry entries ih =>
    rw [loadEntries] at h
    cases hread : readEntry u path seen index entry with
    | error e =>
      rw [hread, Fallible.bind_error (raising_error rfl s)] at h
      cases h
    | ok config =>
      rw [hread, Fallible.bind_ok (raising_ok rfl s)] at h
      obtain ⟨hentry, hunseen, hfrom⟩ := readEntry_ok hread
      obtain ⟨r, happly, heffect⟩ | ⟨happly, -⟩ | ⟨e, rule, happly, -⟩ :=
        applyEntry_cases (u := u) (s := s) fun rule hrule => hfrom.name_ne_nil hrule
      · rw [Fallible.bind_ok happly] at h
        obtain ⟨configs, rfl, hran⟩ := ih h
        exact ⟨config :: configs, by rw [hentry]; rfl, hran.cons hfrom hunseen heffect⟩
      · rw [Fallible.bind_error happly] at h
        cases h
      · rw [Fallible.bind_error happly] at h
        cases h

/-- A run that raises is the run of the effects before the entry that ended it, with what that
entry left. -/
theorem loadEntries_error {entries : List Yaml} {e : Exc}
    (h : loadEntries u path seen index entries s = (.error e, t)) :
    ∃ configs entry rest rules, entries = applied configs ++ entry :: rest ∧
      RanThrough u seen configs s rules ∧
      Rejects u path ((configs.map EntryConfig.name).reverse ++ seen) (index + configs.length)
        entry e rules t := by
  induction entries generalizing seen index s with
  | nil => cases h
  | cons entry entries ih =>
    rw [loadEntries] at h
    cases hread : readEntry u path seen index entry with
    | error e' =>
      rw [hread, Fallible.bind_error (raising_error rfl s)] at h
      cases h
      exact ⟨[], entry, entries, _, rfl, ranThrough_nil, .unread hread⟩
    | ok config =>
      rw [hread, Fallible.bind_ok (raising_ok rfl s)] at h
      obtain ⟨hentry, hunseen, hfrom⟩ := readEntry_ok hread
      obtain ⟨r, happly, heffect⟩ | ⟨happly, hrule, hget⟩ | ⟨e', rule, happly, hrule, hget, hset⟩ :=
        applyEntry_cases (u := u) (s := s) fun rule hrule => hfrom.name_ne_nil hrule
      · rw [Fallible.bind_ok happly] at h
        obtain ⟨configs, last, rest, rules, rfl, hran, hrejects⟩ := ih h
        refine ⟨config :: configs, last, rest, rules, ?_, hran.cons hfrom hunseen heffect, ?_⟩
        · rw [hentry]
          rfl
        · rw [List.map_cons, List.reverse_cons, List.append_assoc, List.length_cons,
            Nat.add_comm configs.length, ← Nat.add_assoc]
          exact hrejects
      · rw [Fallible.bind_error happly] at h
        cases h
        exact ⟨[], entry, entries, _, rfl, ranThrough_nil, .unknown hread hrule hget rfl⟩
      · rw [Fallible.bind_error happly] at h
        cases h
        exact ⟨[], entry, entries, _, rfl, ranThrough_nil, .refused hread hrule hget hset⟩

/-! ## Documents -/

/-- The entries of a document that are mappings. -/
def entriesOf (data : Yaml) : List YamlDict :=
  match data with
  | .dict d => (entriesUnder d "rules" ++ entriesUnder d "anomaly_rules").filterMap fun entry =>
      match entry with
      | .dict cfg => some cfg
      | _ => none
  | _ => []

theorem entriesOf_eq {data : Yaml} {entries : List Yaml}
    (h : allRuleEntries path data = .ok entries) :
    entriesOf data = entries.filterMap fun entry =>
      match entry with
      | .dict cfg => some cfg
      | _ => none := by
  cases data with
  | dict d =>
    unfold allRuleEntries at h
    dsimp only at h
    split at h
    · cases h
    · cases h
      rfl
  | _ => cases h

theorem filterMap_applied (configs : List EntryConfig) :
    (applied configs).filterMap (fun entry =>
      match entry with
      | .dict cfg => some cfg
      | _ => none) = configs.map EntryConfig.settings := by
  induction configs with
  | nil => rfl
  | cons config configs ih => exact congrArg (config.settings :: ·) ih

namespace Registries

variable {w : Registries} {ref : RegistryRef} {rules : RuleObjects}

theorem get_set : (w.set ref rules).get ref = rules := by
  cases ref <;> rfl

theorem get_set_of_ne {other : RegistryRef} (h : other ≠ ref) :
    (w.set ref rules).get other = w.get other := by
  cases ref <;> cases other <;> first
    | rfl
    | exact absurd rfl h

theorem target_of_ne_nil (h : (w.get ref).items ≠ []) : w.target (some ref) = ref := by
  rw [target, if_neg]
  simpa using h

end Registries

/-- What a rejected document leaves of the registry `s`. -/
inductive LeavesBehind (u : Unicode) (path : Text) (file : Option (Except Exc Yaml)) (e : Exc)
    (s : RuleObjects) : RuleObjects → Prop
  /-- No entry was looked at. -/
  | early (h : ∀ data entries, file = some (.ok data) → allRuleEntries path data ≠ .ok entries) :
    LeavesBehind u path file e s s
  /-- An entry ended the run, behind those that were applied. -/
  | late {data : Yaml} {configs : List EntryConfig} {entry : Yaml} {rest : List Yaml}
      {rules t : RuleObjects} (hfile : file = some (.ok data))
      (hentries : allRuleEntries path data = .ok (applied configs ++ entry :: rest))
      (hran : RanThrough u [] configs s rules)
      (hrejects : Rejects u path (configs.map EntryConfig.name).reverse configs.length entry e
        rules t) :
    LeavesBehind u path file e s t

variable {file : Option (Except Exc Yaml)} {e : Exc} {w w' : Registries} {ref : RegistryRef}

theorem loadRuleConfig_eq {data : Yaml} {registry : Option RegistryRef} :
    loadRuleConfig u path (some (.ok data)) registry w =
      match allRuleEntries path data with
      | .error e => (.error e, w)
      | .ok entries =>
        let run := loadEntries u path [] 0 entries (w.get (w.target registry))
        (run.1.map fun _ => w.target registry, w.set (w.target registry) run.2) := by
  change (raising (allRuleEntries path data) >>= fun entries =>
    Registries.on (w.target registry) (loadEntries u path [] 0 entries) >>= fun _ =>
      pure (w.target registry)) w = _
  cases hentries : allRuleEntries path data with
  | error e => exact Fallible.bind_error (raising_error rfl w)
  | ok entries =>
    rw [Fallible.bind_ok (raising_ok rfl w)]
    rcases hrun : loadEntries u path [] 0 entries (w.get (w.target registry)) with ⟨e | ⟨⟩, t⟩
    · have hon : Registries.on (w.target registry) (loadEntries u path [] 0 entries) w =
          (.error e, w.set (w.target registry) t) := by
        rw [Registries.on, hrun]
      rw [Fallible.bind_error hon]
      dsimp only
      rw [hrun]
      rfl
    · have hon : Registries.on (w.target registry) (loadEntries u path [] 0 entries) w =
          (.ok (), w.set (w.target registry) t) := by
        rw [Registries.on, hrun]
      rw [Fallible.bind_ok hon]
      dsimp only
      rw [hrun]
      rfl

theorem leavesBehind_of_error (hne : (w.get ref).items ≠ [])
    (h : loadRuleConfig u path file (some ref) w = (.error e, w')) :
    (∀ other, other ≠ ref → w'.get other = w.get other) ∧
      LeavesBehind u path file e (w.get ref) (w'.get ref) := by
  cases hfile : file with
  | none =>
    rw [hfile] at h
    cases h
    exact ⟨fun _ _ => rfl, .early nofun⟩
  | some parsed =>
    cases hparsed : parsed with
    | error e' =>
      rw [hfile, hparsed] at h
      cases h
      exact ⟨fun _ _ => rfl, .early nofun⟩
    | ok data =>
      rw [hfile, hparsed, loadRuleConfig_eq, Registries.target_of_ne_nil hne] at h
      cases hentries : allRuleEntries path data with
      | error e' =>
        rw [hentries] at h
        cases h
        refine ⟨fun _ _ => rfl, .early ?_⟩
        intro data' entries heq hok
        cases heq
        cases hentries.symm.trans hok
      | ok entries =>
        rw [hentries] at h
        dsimp only at h
        rcases hrun : loadEntries u path [] 0 entries (w.get ref) with ⟨e' | ⟨⟩, t⟩
        · rw [hrun] at h
          cases h
          refine ⟨fun other hother => Registries.get_set_of_ne hother, ?_⟩
          rw [Registries.get_set]
          obtain ⟨configs, entry, rest, rules, rfl, hran, hrejects⟩ := loadEntries_error hrun
          rw [List.append_nil, Nat.zero_add] at hrejects
          exact .late rfl hentries hran hrejects
        · rw [hrun] at h
          cases h

/-! ## What a rejected document leaves -/

theorem RanThrough.get?_of_forall_ne {configs : List EntryConfig} {name : Text}
    (hran : RanThrough u seen configs s t)
    (hname : ∀ config ∈ configs, writtenName config.settings ≠ name) : t.get? name = s.get? name := by
  apply Keyed.exec_get?_of_none EntryConfig.puts_effect hran.exec
  rw [Keyed.lastWriter, List.find?_eq_none]
  intro config hconfig heq
  have hconfig := List.mem_reverse.mp hconfig
  apply hname config hconfig
  rw [← (hran.read config hconfig).writes]
  exact of_decide_eq_true heq

/-- A rule that no entry of the document writes is as it was. -/
theorem get?_of_leavesBehind {data : Yaml} {name : Text}
    (h : LeavesBehind u path (some (.ok data)) e s t)
    (hname : ∀ cfg ∈ entriesOf data, writtenName cfg ≠ name) : t.get? name = s.get? name := by
  cases h with
  | early _ => rfl
  | @late data configs entry rest rules t hfile hentries hran hrejects =>
    cases hfile
    rw [entriesOf_eq hentries, List.filterMap_append, filterMap_applied] at hname
    have hrules : rules.get? name = s.get? name := by
      apply hran.get?_of_forall_ne
      intro config hconfig
      exact hname _ (List.mem_append_left _ (List.mem_map_of_mem hconfig))
    cases hrejects with
    | unread _ => exact hrules
    | unknown _ _ _ _ => exact hrules
    | @refused config rule hread hrule hget hset =>
      obtain ⟨rfl, -, hfrom⟩ := readEntry_ok hread
      rw [Keyed.get?_put_of_ne, hrules]
      have hwritten : writtenName config.settings ≠ name := by
        apply hname
        exact List.mem_append_right _ (by simp)
      rw [← hfrom.writes, EntryConfig.writes, hrule] at hwritten
      change name ≠ rule.name
      rw [Keyed.key_of_get? hget]
      exact hwritten.symm

/-- Loading is not all or nothing: a registry that holds rules keeps, of a document that is
rejected, what the entries before the rejected one did, each of them as a whole. -/
theorem rejected_load (hne : (w.get ref).items ≠ [])
    (h : loadRuleConfig u path file (some ref) w = (.error e, w')) :
    (∀ other, other ≠ ref → w'.get other = w.get other) ∧
      LeavesBehind u path file e (w.get ref) (w'.get ref) ∧
      ∀ data, file = some (.ok data) → ∀ name,
        (∀ cfg ∈ entriesOf data, writtenName cfg ≠ name) →
          (w'.get ref).get? name = (w.get ref).get? name := by
  obtain ⟨hother, hleaves⟩ := leavesBehind_of_error hne h
  refine ⟨hother, hleaves, ?_⟩
  rintro data rfl name hname
  exact get?_of_leavesBehind hleaves hname

section

/-- A registry with a rule for the amount, and one for its repetition. -/
def twoRules : RuleObjects :=
  (Keyed.empty.put ⟨.amountPositive "amount_positive" (.str "amount"), none, true⟩).put
    ⟨.duplicateEvent (.int 300), none, true⟩

/-- The document disables the rule for the amount, and then names a rule that there is not. -/
def halfKnown : Yaml :=
  .dict [(.str "rules", .list [
    .dict [(.str "name", .str "amount_positive"), (.str "enabled", .bool false)],
    .dict [(.str "name", .str "nope")]])]

theorem loadRuleConfig_halfKnown :
    ∃ w', loadRuleConfig .ascii "rules.yaml" (some (.ok halfKnown)) (some .own)
      ⟨twoRules, Keyed.empty⟩ = (.error (unknownRule .ascii "nope"), w') ∧
      w'.own.items.map RuleObject.enabled = [false, true] := by
  refine ⟨_, rfl, ?_⟩
  decide +kernel

/-- What a registry shows of its rules: their settings, flags and severities. -/
def shown (s : RuleObjects) : List (RuleKind × Bool × Severity) :=
  s.items.map fun rule => (rule.kind, rule.enabled, rule.severity)

/-- The rejected document has disabled a rule. -/
theorem not_allOrNothing :
    ¬∀ (u : Unicode) (path : Text) (data : Yaml) (ref : RegistryRef) (w w' : Registries) (e : Exc),
      (w.get ref).items ≠ [] →
      loadRuleConfig u path (some (.ok data)) (some ref) w = (.error e, w') →
      shown (w'.get ref) = shown (w.get ref) := by
  intro h
  obtain ⟨w', hload, henabled⟩ := loadRuleConfig_halfKnown
  have hshown := h _ _ _ .own _ w' _ (by decide) hload
  have hflags := congrArg (List.map fun row => row.2.1) hshown
  simp only [shown, List.map_map] at hflags
  change w'.own.items.map RuleObject.enabled = twoRules.items.map RuleObject.enabled at hflags
  rw [henabled] at hflags
  revert hflags
  decide

theorem rejected_load_halfKnown :
    ∃ w' : Registries, LeavesBehind .ascii "rules.yaml" (some (.ok halfKnown)) (unknownRule .ascii "nope")
        twoRules w'.own ∧
      w'.own.get? "duplicate_event" = twoRules.get? "duplicate_event" := by
  obtain ⟨w', hload, -⟩ := loadRuleConfig_halfKnown
  obtain ⟨-, hleaves, hframe⟩ := rejected_load (by decide) hload
  refine ⟨w', hleaves, hframe _ rfl _ ?_⟩
  intro cfg hcfg
  obtain rfl | rfl := List.mem_pair.mp hcfg
  · decide
  · decide

end

/-! ## What an accepted document leaves -/

theorem loaded_of_ok {data : Yaml} {target : RegistryRef}
    (h : loadRuleConfig u path (some (.ok data)) (some ref) w = (.ok target, w')) :
    target = w.target (some ref) ∧
      (∀ other, other ≠ target → w'.get other = w.get other) ∧
      ∃ configs, entriesOf data = configs.map EntryConfig.settings ∧
        RanThrough u [] configs (w.get target) (w'.get target) := by
  rw [loadRuleConfig_eq] at h
  cases hentries : allRuleEntries path data with
  | error e =>
    rw [hentries] at h
    cases h
  | ok entries =>
    rw [hentries] at h
    dsimp only at h
    rcases hrun : loadEntries u path [] 0 entries (w.get (w.target (some ref))) with ⟨e | ⟨⟩, t⟩
    · rw [hrun] at h
      cases h
    · rw [hrun] at h
      cases h
      refine ⟨rfl, fun other hother => Registries.get_set_of_ne hother, ?_⟩
      rw [Registries.get_set]
      obtain ⟨configs, rfl, hran⟩ := loadEntries_ok hrun
      refine ⟨configs, ?_, hran⟩
      rw [entriesOf_eq hentries, filterMap_applied]

/-- The rule has the flag of an entry, and its severity where it gives one. -/
def Configured (u : Unicode) (cfg : YamlDict) (rule : RuleObject) : Prop :=
  rule.enabled = entryEnabled cfg ∧
    ∀ severity, entrySeverity u cfg = some severity → rule.severity = severity

/-- The registry that was passed is the one that is changed and returned, and each entry's name
stands for a rule that is configured as the entry says. -/
structure TakesEffect (u : Unicode) (data : Yaml) (ref target : RegistryRef) (w w' : Registries) :
    Prop where
  same : target = ref
  others : ∀ other, other ≠ ref → w'.get other = w.get other
  configured : ∀ cfg ∈ entriesOf data, ∃ rule,
    (w'.get ref).get? (entryName cfg) = some rule ∧ Configured u cfg rule

/-- The last entry that writes a name is configured as the entry of that name; where no entry
writes it, the registry holds a rule that is so configured already. -/
def LastWordKept (u : Unicode) (entries : List YamlDict) (s : RuleObjects) (cfg : YamlDict) :
    Prop :=
  match Keyed.lastWriter writtenName (entryName cfg) entries with
  | some last => entryEnabled last = entryEnabled cfg ∧
      ∀ severity, entrySeverity u cfg = some severity → leftSeverity u last = some severity
  | none => ∃ rule, s.get? (entryName cfg) = some rule ∧ Configured u cfg rule

theorem lastWriter_settings {configs : List EntryConfig} (name : Text)
    (hread : ∀ config ∈ configs, config.ReadFrom u) :
    Keyed.lastWriter writtenName name (configs.map EntryConfig.settings) =
      (Keyed.lastWriter EntryConfig.writes name configs).map EntryConfig.settings := by
  induction configs using List.reverseRecOn with
  | nil => rfl
  | append_singleton configs config ih =>
    have hwrites := (hread config (List.mem_append_right _ List.mem_cons_self)).writes
    rw [List.map_append, List.map_singleton, Keyed.lastWriter_append_singleton,
      Keyed.lastWriter_append_singleton, ← hwrites,
      ih fun c hc => hread c (List.mem_append_left _ hc)]
    by_cases h : config.writes = name
    · rw [if_pos h, if_pos h]
      rfl
    · rw [if_neg h, if_neg h]

theorem mem_of_lastWriter {configs : List EntryConfig} {name : Text} {last : EntryConfig}
    (h : Keyed.lastWriter EntryConfig.writes name configs = some last) :
    last ∈ configs ∧ last.writes = name :=
  ⟨List.mem_reverse.mp (List.mem_of_find?_eq_some h), by simpa using List.find?_some h⟩

/-- Where the last word on a name is an entry's, what the entry of that name says is kept by that
entry or by none. -/
theorem RanThrough.configured_iff {configs : List EntryConfig} (hran : RanThrough u [] configs s t)
    {config : EntryConfig} (hconfig : config ∈ configs) :
    (∃ rule, t.get? config.name = some rule ∧ Configured u config.settings rule) ↔
      LastWordKept u (configs.map EntryConfig.settings) s config.settings := by
  have hread := hran.read config hconfig
  unfold LastWordKept
  rw [hread.entryName, lastWriter_settings config.name hran.read]
  cases hlast : Keyed.lastWriter EntryConfig.writes config.name configs with
  | none =>
    rw [Keyed.exec_get?_of_none EntryConfig.puts_effect hran.exec hlast]
    rfl
  | some last =>
    obtain ⟨hmem, hwrites⟩ := mem_of_lastWriter hlast
    obtain ⟨rule, hget, hleaves⟩ :=
      Keyed.exec_get?_of_some EntryConfig.puts_effect hran.exec hlast
    obtain ⟨henabled, hleft, hnone⟩ := hleaves.flags (hran.read last hmem)
    rw [hget]
    simp only [Option.some.injEq, exists_eq_left', Option.map_some, Configured, henabled]
    apply and_congr_right
    intro _
    apply forall_congr'
    intro severity
    apply imp_congr_right
    intro hseverity
    cases hown : leftSeverity u last.settings with
    | some own =>
      rw [hleft own hown]
      exact ⟨congrArg some, Option.some.inj⟩
    | none =>
      -- an entry that leaves the severity open writes its own name, so it is this one
      obtain ⟨hopen, hname⟩ := hnone hown
      have hsame : last = config := List.inj_on_of_nodup_map hran.nodup hmem hconfig
        (hname.symm.trans hwrites)
      rw [hread.severity, ← hsame, hopen] at hseverity
      cases hseverity

/-- A load takes effect where the registry has rules, or is the global one, and no entry has the
last word on another's rule with another flag or severity. -/
theorem takesEffect_iff {data : Yaml} {target : RegistryRef}
    (h : loadRuleConfig u path (some (.ok data)) (some ref) w = (.ok target, w')) :
    TakesEffect u data ref target w w' ↔
      ((w.get ref).items ≠ [] ∨ ref = .shared) ∧
        ∀ cfg ∈ entriesOf data, LastWordKept u (entriesOf data) (w.get ref) cfg := by
  obtain ⟨htarget, hothers, configs, hentries, hran⟩ := loaded_of_ok h
  have hsame : target = ref ↔ (w.get ref).items ≠ [] ∨ ref = .shared := by
    rw [htarget, Registries.target]
    cases hitems : (w.get ref).items with
    | nil =>
      change RegistryRef.shared = ref ↔ _
      simp [eq_comm]
    | cons rule rules => simp
  rw [← hsame]
  constructor
  · rintro ⟨rfl, -, hconfigured⟩
    refine ⟨rfl, ?_⟩
    intro cfg hcfg
    have hrule := hconfigured cfg hcfg
    rw [hentries] at hcfg ⊢
    obtain ⟨config, hconfig, rfl⟩ := List.mem_map.mp hcfg
    rw [(hran.read config hconfig).entryName] at hrule
    exact (hran.configured_iff hconfig).mp hrule
  · rintro ⟨rfl, hkept⟩
    refine ⟨rfl, hothers, ?_⟩
    intro cfg hcfg
    have hword := hkept cfg hcfg
    rw [hentries] at hcfg hword
    obtain ⟨config, hconfig, rfl⟩ := List.mem_map.mp hcfg
    rw [(hran.read config hconfig).entryName]
    exact (hran.configured_iff hconfig).mpr hword

section

/-- The document disables the rule for the amount and lowers its severity. -/
def quietAmount : Yaml :=
  .dict [(.str "rules", .list [
    .dict [(.str "name", .str "amount_positive"), (.str "enabled", .bool false),
      (.str "severity", .str "low")]])]

theorem takesEffect_quietAmount :
    ∃ w', loadRuleConfig .ascii "rules.yaml" (some (.ok quietAmount)) (some .own)
        ⟨twoRules, Keyed.empty⟩ = (.ok .own, w') ∧
      TakesEffect .ascii quietAmount .own .own ⟨twoRules, Keyed.empty⟩ w' := by
  refine ⟨_, rfl, (takesEffect_iff rfl).mpr ⟨.inl (by decide), ?_⟩⟩
  intro cfg hcfg
  obtain rfl := List.mem_singleton.mp hcfg
  refine ⟨rfl, ?_⟩
  intro severity hseverity
  exact hseverity

/-- A document that gives the rule for repeated events another name. -/
def renamedDuplicate : Yaml :=
  .dict [(.str "rules", .list [
    .dict [(.str "name", .str "my_dup"), (.str "type", .str "duplicate_event")]])]

/-- Loaded into a registry without rules, it changes the global one. -/
theorem not_takesEffect :
    ¬∀ (u : Unicode) (path : Text) (data : Yaml) (ref target : RegistryRef) (w w' : Registries),
      loadRuleConfig u path (some (.ok data)) (some ref) w = (.ok target, w') →
      TakesEffect u data ref target w w' := by
  intro h
  have heffect := h .ascii "rules.yaml" renamedDuplicate .own .shared
    ⟨Keyed.empty, Keyed.empty⟩ _ rfl
  cases heffect.same

end

end IceStream
