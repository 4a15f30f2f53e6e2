import IceStream.Detectors.SchemaDrift
import IceStream.Rules.OneByOne
import IceStream.Schema.Differences

/-!
# What drift an event's own fields show

Without a version, the schema of an event is inferred from its rendering, which
lists every known field whether the payload had it or not, and its numbers as they
were converted. That is compared with what the payload itself shows.
-/

namespace IceStream
open Python Schema QualityEvent

variable {u : Unicode} {d : Dict} {event : QualityEvent}

/-! ## The rendering of an event -/

/-- Every field of an event is the converted one of the payload. -/
theorem convert_given (h : fromDict u d = .ok event) (f : QualityField) :
    convert u f (given d f) = .ok (event.value f) := by
  obtain ⟨quantity, amount, unitPrice, hquantity, hamount, hprice, rfl⟩ := fromDict_ok u h
  cases f with
  | quantity => exact hquantity
  | amount => exact hamount
  | unitPrice => exact hprice
  | _ => cases hgiven : given d _ <;> simp [convert, converted, hgiven]

theorem rawPayload_of_fromDict (h : fromDict u d = .ok event) : event.rawPayload = d := by
  obtain ⟨quantity, amount, unitPrice, -, -, -, rfl⟩ := fromDict_ok u h
  rfl

theorem mem_all (f : QualityField) : f ∈ QualityField.all := by
  cases f <;> decide

theorem key_injective {f f' : QualityField} (h : text f.key = text f'.key) : f = f' := by
  have hnodup : (QualityField.all.map fun f => text f.key).Nodup := by decide +kernel
  exact List.inj_on_of_nodup_map hnodup (mem_all f) (mem_all f') h

/-- The name is one of the fields that every event has. -/
def Known (name : Text) : Prop := ∃ f : QualityField, name = text f.key

theorem has_fields_iff (event : QualityEvent) (name : Text) :
    Dict.has (QualityField.all.map fun f => (text f.key, event.value f)) name = true ↔
      Known name := by
  rw [Dict.has, List.lookup_isSome_iff]
  constructor
  · rintro ⟨p, hp, hname⟩
    obtain ⟨f, -, rfl⟩ := List.mem_map.mp hp
    exact ⟨f, beq_iff_eq.mp hname⟩
  · rintro ⟨f, rfl⟩
    exact ⟨_, List.mem_map_of_mem (mem_all f), beq_self_eq_true _⟩

theorem mem_toDict_iff {name : Text} {v : Json} :
    (name, v) ∈ event.toDict ↔ (∃ f : QualityField, name = text f.key ∧ v = event.value f) ∨
      ((name, v) ∈ event.rawPayload ∧ ¬Known name) := by
  rw [toDict, List.mem_append, List.mem_map, List.mem_filter, Bool.not_eq_true',
    ← Bool.not_eq_true, has_fields_iff]
  refine or_congr_left ?_
  constructor
  · rintro ⟨f, -, hf⟩
    obtain ⟨rfl, rfl⟩ := Prod.mk.inj hf
    exact ⟨f, rfl, rfl⟩
  · rintro ⟨f, rfl, rfl⟩
    exact ⟨f, mem_all f, rfl⟩

/-- The names of a rendering are distinct where those of the payload are. -/
theorem pairwise_toDict (h : (event.rawPayload.map Prod.fst).Nodup) :
    event.toDict.Pairwise fun p q => p.1 ≠ q.1 := by
  rw [toDict, List.pairwise_append]
  refine ⟨?_, (List.pairwise_map.mp h).filter _, ?_⟩
  · rw [List.pairwise_map]
    have hall : QualityField.all.Pairwise (· ≠ ·) := by decide
    exact hall.imp fun hne hkey => hne (key_injective hkey)
  · intro p hp q hq hname
    obtain ⟨f, -, rfl⟩ := List.mem_map.mp hp
    have hnot := (List.mem_filter.mp hq).2
    rw [Bool.not_eq_true', ← Bool.not_eq_true, has_fields_iff] at hnot
    exact hnot ⟨f, hname.symm⟩

theorem get?_eq_some_iff_mem (h : (d.map Prod.fst).Nodup) {name : Text} {v : Json} :
    d.get? name = some v ↔ (name, v) ∈ d := by
  refine ⟨mem_of_get?_eq_some, fun hmem => ?_⟩
  obtain ⟨w, hw⟩ := get?_of_mem hmem
  obtain ⟨-, rfl⟩ := Prod.mk.inj (List.inj_on_of_nodup_map h (mem_of_get?_eq_some hw) hmem rfl)
  exact hw

theorem map_pwFilter_of_pairwise {α : Type} {d : Dict} (h : d.Pairwise fun p q => p.1 ≠ q.1)
    (f : Text × Json → α) : (d.pwFilter fun p q => p.1 ≠ q.1).map f = d.map f :=
  congrArg (List.map f) (List.pwFilter_eq_self.mpr h)

/-- What the inferred schema says of a name. -/
theorem inferred_field?_iff (hkeys : (event.rawPayload.map Prod.fst).Nodup) {tag name : Text}
    {g : FieldSchema} :
    (SchemaDriftRule.inferEventSchema event tag).field? name = some g ↔
      ∃ v, (name, v) ∈ event.toDict ∧ g = ⟨inferTypeFromValue v, true, none⟩ := by
  have hfields : (SchemaDriftRule.inferEventSchema event tag).fields =
      event.toDict.map fun p => (p.1, ⟨inferTypeFromValue p.2, true, none⟩) := by
    unfold SchemaDriftRule.inferEventSchema
    dsimp only
    exact map_pwFilter_of_pairwise (pairwise_toDict hkeys) _
  rw [field?_eq_some_iff, hfields, List.mem_map]
  constructor
  · rintro ⟨p, hp, hpg⟩
    obtain ⟨rfl, rfl⟩ := Prod.mk.inj hpg
    exact ⟨p.2, hp, rfl⟩
  · rintro ⟨v, hv, rfl⟩
    exact ⟨_, hv, rfl⟩

/-! ## What the rule compares -/

namespace SchemaDriftRule

variable (rule : SchemaDriftRule) (files : SchemaFiles)

/-- The comparison behind the rule's result, whose changes are listed in the metadata; a version
that is not known is compared with nothing. -/
def comparison (u : Unicode) (event : QualityEvent) :
    Fallible SchemaRegistry (Except Text CompatibilityResult) := do
  let expected ← rule.expectedSchema files
  match ← actualSchema u files event with
  | .error version => pure (.error version)
  | .ok actual => pure (.ok ((SchemaComparator.mk rule.renameMap).compare expected actual))

theorem check_eq (u : Unicode) (event : QualityEvent) (registry : SchemaRegistry) :
    rule.check u files event registry = (do
      match ← rule.comparison files u event with
      | .error version => pure ⟨"schema_drift", false, .critical,
          text "Unknown schema version: " ++ version, none, event.value .eventId⟩
      | .ok diff => pure (driftResult event diff) : Fallible SchemaRegistry ValidationResult)
        registry := by
  rcases hexpected : rule.expectedSchema files registry with ⟨e | expected, registry'⟩
  · rw [check, comparison, Fallible.bind_error hexpected,
      Fallible.bind_error (Fallible.bind_error hexpected)]
  · rcases hactual : actualSchema u files event registry' with ⟨e | actual, registry''⟩
    · have hcomparison : rule.comparison files u event registry = (.error e, registry'') := by
        rw [comparison, Fallible.bind_ok hexpected, Fallible.bind_error hactual]
      rw [check, Fallible.bind_ok hexpected, Fallible.bind_error hactual,
        Fallible.bind_error hcomparison]
    · cases actual with
      | error version =>
        have hcomparison : rule.comparison files u event registry =
            (.ok (.error version), registry'') := by
          rw [comparison, Fallible.bind_ok hexpected, Fallible.bind_ok hactual]
          rfl
        rw [check, Fallible.bind_ok hexpected, Fallible.bind_ok hactual,
          Fallible.bind_ok hcomparison]
      | ok actual =>
        have hcomparison : rule.comparison files u event registry =
            (.ok (.ok ((SchemaComparator.mk rule.renameMap).compare expected actual)),
              registry'') := by
          rw [comparison, Fallible.bind_ok hexpected, Fallible.bind_ok hactual]
          rfl
        rw [check, Fallible.bind_ok hexpected, Fallible.bind_ok hactual,
          Fallible.bind_ok hcomparison]

end SchemaDriftRule

/-- An event without a version is compared by its own fields. -/
theorem comparison_of_unversioned {rule : SchemaDriftRule} {files : SchemaFiles}
    {registry registry' : SchemaRegistry} {baseline : EventSchema}
    (hevent : fromDict u d = .ok event) (hversion : given d .sourceVersion = .null)
    (hbaseline : rule.expectedSchema files registry = (.ok baseline, registry')) :
    rule.comparison files u event registry =
      (.ok (.ok ((SchemaComparator.mk rule.renameMap).compare baseline
        (SchemaDriftRule.inferEventSchema event "inferred"))), registry') := by
  have hvalue : event.value .sourceVersion = .null := by
    rw [value_of_fromDict u hevent (by decide), hversion]
  have hfield : event.getField .sourceVersion = .null := by
    rw [getField_of_fromDict u hevent (by decide), hversion]
  have hprovided : SchemaDriftRule.providedVersion u event = none := by
    rw [SchemaDriftRule.providedVersion, hvalue, hfield]
    rfl
  rw [SchemaDriftRule.comparison, Fallible.bind_ok hbaseline, SchemaDriftRule.actualSchema,
    hprovided]
  rfl

/-! ## What the payload shows -/

/-- A value will do for a type: it is inferred to have it, or one that the type is promoted to. -/
def TypeFits (t : Text) (v : Json) : Prop :=
  t = inferTypeFromValue v ∨ isTypeCompatible t (inferTypeFromValue v) = true

/-- A text that holds an ISO instant is a timestamp as well. -/
def ValueFits (t : Text) (v : Json) : Prop :=
  TypeFits t v ∨ t = text "timestamp" ∧ ∃ s dt, v = .str s ∧ readTimestamp s = some dt

/-- The rule reports the required fields that the payload lacks, and as breaking the types of
those whose values do not do for them, and no others. -/
def DriftExact (changes : List SchemaChange) (baseline : EventSchema) (d : Dict) : Prop :=
  ∀ name,
    (ReportsMissing changes name ↔
      ∃ f, baseline.field? name = some f ∧ f.required = true ∧ d.get? name = none) ∧
    (ReportsBreakingType changes name ↔
      ∃ f v, baseline.field? name = some f ∧ d.get? name = some v ∧ ¬ValueFits f.type v)

/-- The rendering of the event shows what the payload does. -/
structure Undisturbed (u : Unicode) (baseline : EventSchema) (d : Dict) : Prop where
  /-- A known field that the payload lacks is an optional text. -/
  absent : ∀ (k : QualityField) f, baseline.field? (text k.key) = some f →
    d.get? (text k.key) = none → f.required = false ∧ f.type = text "string"
  /-- No timestamp holds an instant. -/
  instants : ∀ name f s dt, baseline.field? name = some f → d.get? name = some (.str s) →
    f.type = text "timestamp" → readTimestamp s ≠ some dt
  /-- A value does for the type just as what it is converted to. -/
  converted : ∀ (k : QualityField) f v w, baseline.field? (text k.key) = some f →
    d.get? (text k.key) = some v → convert u k v = .ok w → (TypeFits f.type w ↔ TypeFits f.type v)

/-- No value is inferred to be a timestamp, and nothing else will do for one. -/
theorem not_timestamp_fits (v : Json) : ¬TypeFits (text "timestamp") v := by
  have hmem : inferTypeFromValue v ∈
      ["string", "boolean", "integer", "float", "object", "array"].map text := by
    cases v <;> simp [inferTypeFromValue]
  have hall : ∀ t ∈ ["string", "boolean", "integer", "float", "object", "array"].map text,
      ¬(text "timestamp" = t ∨ isTypeCompatible (text "timestamp") t = true) := by
    decide +kernel
  exact hall _ hmem

/-- Nothing is promoted to a text. -/
theorem typeFits_null_iff (t : Text) : TypeFits t .null ↔ t = text "string" := by
  refine ⟨fun h => ?_, Or.inl⟩
  obtain h | h := h
  · exact h
  · have hmem := List.contains_iff_mem.mp h
    have hall : ∀ p ∈ typeCompatibilityMatrix, p.2 = text "string" → p.1 = text "string" := by
      decide +kernel
    exact hall _ hmem rfl

/-- What stands in the rendering under a name that the payload lacks. -/
theorem rendered_of_absent (hevent : fromDict u d = .ok event) {name : Text}
    (h : d.get? name = none) {w : Json} :
    (name, w) ∈ event.toDict ↔ Known name ∧ w = .null := by
  rw [mem_toDict_iff, rawPayload_of_fromDict hevent]
  constructor
  · rintro (⟨k, rfl, rfl⟩ | ⟨hmem, -⟩)
    · have hconvert := convert_given hevent k
      rw [given, Dict.getD, show List.lookup (text k.key) d = none from h] at hconvert
      refine ⟨⟨k, rfl⟩, ?_⟩
      cases k <;> exact (Except.ok.inj hconvert).symm
    · obtain ⟨v, hv⟩ := get?_of_mem hmem
      rw [h] at hv
      cases hv
  · rintro ⟨⟨k, rfl⟩, rfl⟩
    have hconvert := convert_given hevent k
    rw [given, Dict.getD, show List.lookup (text k.key) d = none from h] at hconvert
    refine Or.inl ⟨k, rfl, ?_⟩
    cases k <;> exact Except.ok.inj hconvert

/-- What stands there under a name that the payload has. -/
theorem rendered_of_present (hevent : fromDict u d = .ok event) (hkeys : (d.map Prod.fst).Nodup)
    {name : Text} {v : Json} (h : d.get? name = some v) {w : Json} :
    (name, w) ∈ event.toDict ↔
      (∃ k : QualityField, name = text k.key ∧ convert u k v = .ok w) ∨ ¬Known name ∧ w = v := by
  have hgiven : ∀ k : QualityField, name = text k.key → given d k = v := by
    rintro k rfl
    rw [given, Dict.getD, show List.lookup (text k.key) d = some v from h]
    rfl
  rw [mem_toDict_iff, rawPayload_of_fromDict hevent]
  refine or_congr (exists_congr fun k => and_congr_right fun hname => ?_) ?_
  · have hconvert := convert_given hevent k
    rw [hgiven k hname] at hconvert
    rw [hconvert, Except.ok.injEq, eq_comm]
  · rw [← get?_eq_some_iff_mem hkeys, h, Option.some.injEq, and_comm, eq_comm]

/-- A value of a field in the baseline meets the claims of its type as the rendering has it. -/
theorem valueFits_iff {t : Text} {v : Json}
    (h : ∀ s dt, v = .str s → t = text "timestamp" → readTimestamp s ≠ some dt) :
    ValueFits t v ↔ TypeFits t v := by
  refine or_iff_left ?_
  rintro ⟨ht, s, dt, hs, hdt⟩
  exact h s dt hs ht hdt

section

variable {baseline : EventSchema} {changes : List SchemaChange}

/-- What the changes say is what the rendering of the event shows. -/
structure ReportsRendered (changes : List SchemaChange) (baseline : EventSchema) (d : Dict)
    (event : QualityEvent) : Prop where
  missing : ∀ name, ReportsMissing changes name ↔ ∃ f, baseline.field? name = some f ∧
    f.required = true ∧ d.get? name = none ∧ ¬Known name
  types : ∀ name, ReportsBreakingType changes name ↔ ∃ f w, baseline.field? name = some f ∧
    (name, w) ∈ event.toDict ∧ ¬TypeFits f.type w

theorem reportsRendered {rule : SchemaDriftRule} (hevent : fromDict u d = .ok event)
    (hkeys : (d.map Prod.fst).Nodup)
    (hrename : ¬RenameApplies rule.renameMap baseline
      (SchemaDriftRule.inferEventSchema event "inferred")) :
    ReportsRendered ((SchemaComparator.mk rule.renameMap).compare baseline
      (SchemaDriftRule.inferEventSchema event "inferred")).changes baseline d event := by
  have hpayload := rawPayload_of_fromDict hevent
  have hactive : (none : Option (List (Text × Text))).getD
      (SchemaComparator.mk rule.renameMap).renameMap = rule.renameMap := rfl
  have hfield : ∀ name g, _ := fun name g =>
    @inferred_field?_iff event (by rwa [hpayload]) "inferred" name g
  constructor
  · intro name
    rw [reportsMissing_iff hactive hrename]
    refine exists_congr fun f => and_congr_right fun _ => and_congr_right fun _ => ?_
    have hnone : (SchemaDriftRule.inferEventSchema event (text "inferred")).field? name = none ↔
        ∀ w, (name, w) ∉ event.toDict := by
      rw [Option.eq_none_iff_forall_ne_some]
      constructor
      · intro h w hw
        exact h _ ((hfield name _).mpr ⟨w, hw, rfl⟩)
      · intro h g hg
        obtain ⟨w, hw, -⟩ := (hfield name g).mp hg
        exact h w hw
    rw [hnone]
    cases hget : d.get? name with
    | none =>
      simp only [rendered_of_absent hevent hget, not_and, true_and]
      exact ⟨fun h hknown => h _ hknown rfl, fun h w hknown => absurd hknown h⟩
    | some v =>
      refine iff_of_false (fun h => ?_) (fun h => nomatch h.1)
      by_cases hknown : Known name
      · obtain ⟨k, hk⟩ := hknown
        exact h _ (mem_toDict_iff.mpr (Or.inl ⟨k, hk, rfl⟩))
      · exact h v ((rendered_of_present hevent hkeys hget).mpr (Or.inr ⟨hknown, rfl⟩))
  · intro name
    rw [reportsBreakingType_iff hactive hrename]
    constructor
    · rintro ⟨f, g, hf, hg, hnot⟩
      obtain ⟨w, hw, rfl⟩ := (hfield name g).mp hg
      exact ⟨f, w, hf, hw, hnot⟩
    · rintro ⟨f, w, hf, hw, hnot⟩
      exact ⟨f, _, hf, (hfield name _).mpr ⟨w, hw, rfl⟩, hnot⟩

/-- Where the rendering shows what the payload does, the reports are exact. -/
theorem driftExact_of_undisturbed (hevent : fromDict u d = .ok event)
    (hkeys : (d.map Prod.fst).Nodup) (hreports : ReportsRendered changes baseline d event)
    (h : Undisturbed u baseline d) : DriftExact changes baseline d := by
  intro name
  rw [hreports.missing, hreports.types]
  have hvalue : ∀ f v, baseline.field? name = some f → d.get? name = some v →
      (ValueFits f.type v ↔ TypeFits f.type v) := by
    intro f v hf hget
    refine valueFits_iff ?_
    rintro s dt rfl ht
    exact h.instants name f s dt hf hget ht
  have hrendered : ∀ f v w, baseline.field? name = some f → d.get? name = some v →
      (name, w) ∈ event.toDict → (TypeFits f.type w ↔ TypeFits f.type v) := by
    intro f v w hf hget hw
    obtain ⟨k, rfl, hconvert⟩ | ⟨-, rfl⟩ := (rendered_of_present hevent hkeys hget).mp hw
    · exact h.converted k f v w hf hget hconvert
    · exact Iff.rfl
  constructor
  · refine exists_congr fun f => and_congr_right fun hf => and_congr_right fun hrequired => ?_
    refine and_iff_left_of_imp fun hget => ?_
    rintro ⟨k, rfl⟩
    rw [(h.absent k f hf hget).1] at hrequired
    cases hrequired
  · constructor
    · rintro ⟨f, w, hf, hw, hnot⟩
      cases hget : d.get? name with
      | none =>
        obtain ⟨⟨k, rfl⟩, rfl⟩ := (rendered_of_absent hevent hget).mp hw
        exact absurd ((typeFits_null_iff _).mpr (h.absent k f hf hget).2) hnot
      | some v =>
        refine ⟨f, v, hf, rfl, ?_⟩
        rwa [hvalue f v hf hget, ← hrendered f v w hf hget hw]
    · rintro ⟨f, v, hf, hget, hnot⟩
      have hw : ∃ w, (name, w) ∈ event.toDict := by
        by_cases hknown : Known name
        · obtain ⟨k, hk⟩ := hknown
          exact ⟨_, mem_toDict_iff.mpr (Or.inl ⟨k, hk, rfl⟩)⟩
        · exact ⟨v, (rendered_of_present hevent hkeys hget).mpr (Or.inr ⟨hknown, rfl⟩)⟩
      obtain ⟨w, hw⟩ := hw
      refine ⟨f, w, hf, hw, ?_⟩
      rwa [hrendered f v w hf hget hw, ← hvalue f v hf hget]

/-- And only there. -/
theorem undisturbed_of_driftExact (hevent : fromDict u d = .ok event)
    (hkeys : (d.map Prod.fst).Nodup) (hreports : ReportsRendered changes baseline d event)
    (h : DriftExact changes baseline d) : Undisturbed u baseline d where
  absent := by
    intro k f hf hget
    obtain ⟨hmissing, htypes⟩ := h (text k.key)
    rw [hreports.missing] at hmissing
    rw [hreports.types] at htypes
    constructor
    · by_contra hrequired
      rw [Bool.not_eq_false] at hrequired
      obtain ⟨f', -, -, -, hunknown⟩ := hmissing.mpr ⟨f, hf, hrequired, hget⟩
      exact hunknown ⟨k, rfl⟩
    · by_contra htype
      have hnull := (rendered_of_absent hevent hget).mpr ⟨⟨k, rfl⟩, rfl⟩
      obtain ⟨f', v, -, hv, -⟩ :=
        htypes.mp ⟨f, .null, hf, hnull, fun hfits => htype ((typeFits_null_iff _).mp hfits)⟩
      rw [hget] at hv
      cases hv
  instants := by
    intro name f s dt hf hget htype hread
    have htypes := (h name).2
    rw [hreports.types] at htypes
    have hw : ∃ w, (name, w) ∈ event.toDict := by
      by_cases hknown : Known name
      · obtain ⟨k, hk⟩ := hknown
        exact ⟨_, mem_toDict_iff.mpr (Or.inl ⟨k, hk, rfl⟩)⟩
      · exact ⟨_, (rendered_of_present hevent hkeys hget).mpr (Or.inr ⟨hknown, rfl⟩)⟩
    obtain ⟨w, hw⟩ := hw
    obtain ⟨f', v, hf', hv, hnot⟩ :=
      htypes.mp ⟨f, w, hf, hw, by rw [htype]; exact not_timestamp_fits w⟩
    rw [hf] at hf'
    rw [hget] at hv
    obtain rfl := Option.some.inj hf'
    obtain rfl := Option.some.inj hv
    exact hnot (Or.inr ⟨htype, s, dt, rfl, hread⟩)
  converted := by
    intro k f v w hf hget hconvert
    have htypes := (h (text k.key)).2
    rw [hreports.types] at htypes
    have hw : (text k.key, w) ∈ event.toDict :=
      (rendered_of_present hevent hkeys hget).mpr (Or.inl ⟨k, rfl, hconvert⟩)
    by_cases htype : f.type = text "timestamp"
    · rw [htype]
      exact iff_of_false (not_timestamp_fits w) (not_timestamp_fits v)
    · have hvalue := valueFits_iff (v := v) fun _ _ _ ht => absurd ht htype
      rw [← hvalue, ← not_iff_not]
      constructor
      · intro hnot
        obtain ⟨f', v', hf', hv', hnot'⟩ := htypes.mp ⟨f, w, hf, hw, hnot⟩
        rw [hf] at hf'
        rw [hget] at hv'
        obtain rfl := Option.some.inj hf'
        obtain rfl := Option.some.inj hv'
        exact hnot'
      · intro hnot
        obtain ⟨f', w', hf', hw', hnot'⟩ := htypes.mpr ⟨f, v, hf, hget, hnot⟩
        rw [hf] at hf'
        obtain rfl := Option.some.inj hf'
        obtain ⟨k', hk', hconvert'⟩ | ⟨hunknown, -⟩ :=
          (rendered_of_present hevent hkeys hget).mp hw'
        · obtain rfl := key_injective hk'
          rw [hconvert] at hconvert'
          obtain rfl := Except.ok.inj hconvert'
          exact hnot'
        · exact absurd ⟨k, rfl⟩ hunknown

end

/-- For an event without a version, what the rule reports is exact just where the rendering of
the event shows of the baseline's fields what the payload does. -/
theorem drift_exact_iff (u : Unicode) (rule : SchemaDriftRule) (files : SchemaFiles)
    {registry registry' : SchemaRegistry} {baseline : EventSchema} {d : Dict}
    {event : QualityEvent}
    (hbaseline : rule.expectedSchema files registry = (.ok baseline, registry'))
    (hkeys : (d.map Prod.fst).Nodup) (hevent : fromDict u d = .ok event)
    (hversion : given d .sourceVersion = .null)
    (hrename : ¬RenameApplies rule.renameMap baseline
      (SchemaDriftRule.inferEventSchema event "inferred")) :
    (∃ diff, (rule.comparison files u event registry).1 = .ok (.ok diff) ∧
      DriftExact diff.changes baseline d) ↔ Undisturbed u baseline d := by
  rw [comparison_of_unversioned hevent hversion hbaseline]
  have hreports := reportsRendered hevent hkeys hrename
  constructor
  · rintro ⟨diff, hdiff, hexact⟩
    obtain rfl := Except.ok.inj (Except.ok.inj hdiff)
    exact undisturbed_of_driftExact hevent hkeys hreports hexact
  · intro h
    exact ⟨_, rfl, driftExact_of_undisturbed hevent hkeys hreports h⟩

/-- A baseline of two fields, the second of which is not one every event has. -/
def countedSchema : EventSchema where
  schemaVersion := "v1"
  fields := [field "event_id" "string", field "count" "integer"]
  nodup := by decide +kernel

def countedRegistry : SchemaRegistry := ⟨[("v1", countedSchema)]⟩

/-- The count is given as a text. -/
def countedPayload : Dict := [("event_id", .str "e1"), ("count", .str "three")]

theorem undisturbed_counted : Undisturbed Unicode.ascii countedSchema countedPayload := by
  have hfields : ∀ name f, countedSchema.field? name = some f →
      (name = text "event_id" ∧ f = ⟨"string", true, none⟩) ∨
        (name = text "count" ∧ f = ⟨"integer", true, none⟩) := by
    intro name f hf
    simpa [countedSchema, field] using field?_eq_some_iff.mp hf
  have hcount : ∀ k : QualityField, text k.key ≠ text "count" := by
    intro k
    cases k <;> decide +kernel
  refine ⟨?_, ?_, ?_⟩
  · intro k f hf hget
    obtain ⟨hname, -⟩ | ⟨hname, -⟩ := hfields _ f hf
    · rw [hname] at hget
      cases hget
    · exact absurd hname (hcount k)
  · intro name f s dt hf _ htype
    obtain ⟨-, rfl⟩ | ⟨-, rfl⟩ := hfields _ f hf
    · exact absurd htype (by decide)
    · exact absurd htype (by decide)
  · intro k f v w hf _ hconvert
    obtain ⟨hname, -⟩ | ⟨hname, -⟩ := hfields _ f hf
    · obtain rfl : k = .eventId := key_injective hname
      have hw : w = v := by
        cases v <;> exact (Except.ok.inj hconvert).symm
      rw [hw]
    · exact absurd hname (hcount k)

/-- A change of type in a field of the payload's own is reported as it is. -/
theorem drift_exact_counted :
    ∃ diff, ((({} : SchemaDriftRule).comparison (fun _ => .ok none) Unicode.ascii
        (QualityEvent.converted countedPayload .null .null .null) countedRegistry).1 =
          .ok (.ok diff)) ∧ DriftExact diff.changes countedSchema countedPayload := by
  refine (drift_exact_iff Unicode.ascii {} (fun _ => .ok none) rfl
    (by decide +kernel) rfl rfl ?_).mpr undisturbed_counted
  rintro ⟨p, hp, hsome⟩
  have hall : ∀ p ∈ countedSchema.fields, (renamedTo ({} : SchemaDriftRule).renameMap
      (SchemaDriftRule.inferEventSchema
        (QualityEvent.converted countedPayload .null .null .null) "inferred") p.1).isSome = false := by
    decide +kernel
  rw [hall p hp] at hsome
  cases hsome

/-- Of an event that says nothing, the rule reports none of the missing columns that every event
is rendered with. -/
theorem drift_not_exact_for_v1 :
    ¬∃ diff, ((({} : SchemaDriftRule).comparison (fun _ => .ok none) Unicode.ascii
        (QualityEvent.converted [] .null .null .null) .loaded).1 = .ok (.ok diff)) ∧
          DriftExact diff.changes v1 [] := by
  rintro ⟨diff, hdiff, hexact⟩
  have hevent : fromDict Unicode.ascii [] = .ok (QualityEvent.converted [] .null .null .null) := rfl
  have hcomparison := @comparison_of_unversioned _ _ _ {} (fun _ => .ok none) .loaded
    _ _ hevent rfl rfl
  rw [hcomparison] at hdiff
  obtain rfl := Except.ok.inj (Except.ok.inj hdiff)
  have hrename : ¬RenameApplies ({} : SchemaDriftRule).renameMap v1
      (SchemaDriftRule.inferEventSchema
        (QualityEvent.converted [] .null .null .null) "inferred") := by
    rintro ⟨p, hp, hsome⟩
    have hall : ∀ p ∈ v1.fields, (renamedTo ({} : SchemaDriftRule).renameMap
        (SchemaDriftRule.inferEventSchema
          (QualityEvent.converted [] .null .null .null) "inferred") p.1).isSome = false := by
      decide +kernel
    rw [hall p hp] at hsome
    cases hsome
  have hreports := reportsRendered hevent List.nodup_nil hrename
  have hmissing := (hexact (text "event_id")).1
  rw [hreports.missing] at hmissing
  obtain ⟨f, -, -, -, hunknown⟩ := hmissing.mpr ⟨⟨"string", true, none⟩, by rfl, rfl, rfl⟩
  exact hunknown ⟨.eventId, rfl⟩

end IceStream
