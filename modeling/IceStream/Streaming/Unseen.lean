import IceStream.Streaming.Gate

/-!
# Events whose ids are new

What the default rules make of an event whose event id and order id they have not seen: they
tolerate it, and keep nothing of it but the two ids.
-/

namespace IceStream.Streaming
open Python Schema Metrics Quarantine QualityEngine Remediation

section

variable {platform : Platform} {event : QualityEvent} {w : EngineWorld}

/-- What a detector keeps it kept before, or it is the id of the event. -/
theorem seen_rule (kind : DuplicateKind) (u : Unicode) (event : QualityEvent) (w : EngineWorld) :
    ∀ p ∈ kind.seen.get ((kind.rule u 300).validate event w).2.1,
      p ∈ kind.seen.get w.1 ∨ kind.idOf u event = some p.1 := by
  intro p hp
  cases hid : kind.idOf u event with
  | none =>
    obtain ⟨r, hr⟩ : ∃ r, (kind.rule u 300).validate event w = (.ok (.ok r), w) := by
      obtain ⟨r, hr, -⟩ := DuplicateKind.validate_of_none hid w
      exact ⟨r, hr⟩
    rw [hr] at hp
    exact .inl hp
  | some id =>
    cases hcutoff : addMicros (w.1.clock w.1.reads) (-(300 * 1000000)) with
    | error e =>
      rw [DuplicateKind.validate_of_error hid (isUnique_of_overflow kind id w.1 hcutoff),
        kind.get_read] at hp
      exact .inl hp
    | ok cutoff =>
      obtain ⟨isNew, hunique, -⟩ := isUnique_of_cutoff kind id w.1 hcutoff
      obtain ⟨r, hr, -⟩ := DuplicateKind.validate_of_ok hid hunique
      have hleft {q : Text × Instant} (hq : q ∈ kind.left cutoff w.1) : q ∈ kind.seen.get w.1 :=
        (List.mem_filter.mp hq).1
      rw [hr] at hp
      dsimp only at hp
      rw [kind.get_set] at hp
      cases isNew with
      | false => exact .inl (hleft hp)
      | true =>
        obtain hp | hp := List.mem_append.mp hp
        · exact .inl (hleft hp)
        · rw [List.mem_singleton.mp hp]
          exact .inr rfl

/-- The id of the event is none of those that are kept. -/
def Unseen (u : Unicode) (event : QualityEvent) (v : RuleWorld) : Prop :=
  ∀ kind : DuplicateKind, ∀ p ∈ kind.seen.get v, kind.idOf u event ≠ some p.1

/-- The clock never reads a time in the first five minutes of all. -/
def Started (v : RuleWorld) : Prop :=
  ∀ n, ∃ cutoff, addMicros (v.clock n) (-(300 * 1000000)) = .ok cutoff

/-- An id that is not kept is not recalled. -/
theorem not_recalls {kind : DuplicateKind} {u : Unicode} {v : RuleWorld} (hstarted : Started v)
    (hunseen : ∀ p ∈ kind.seen.get v, kind.idOf u event ≠ some p.1) : ¬kind.Recalls u event v := by
  rintro ⟨id, hid, hrecalled⟩
  obtain ⟨cutoff, hcutoff⟩ := hstarted v.reads
  obtain ⟨t, ht⟩ := hrecalled cutoff hcutoff
  exact hunseen _ (List.mem_filter.mp ht).1 hid

/-- A rule about the time leaves the world alone where the time of ingestion is read. -/
theorem boundedTimeRule_state {field : QualityField} {bound : TimeBound}
    {eventTime reference : Instant}
    (htime : parseIsoTimestamp platform (event.getField field) = .ok (some eventTime))
    (hreference : parseIsoTimestamp platform (event.getField .ingestionTime) = .ok (some reference)) :
    ((boundedTimeRule platform field bound).validate event w).2 = w := by
  rw [boundedTimeRule_of_some htime, referenceTime_eq, hreference]

/-- The schema that an event names is at hand, and the baseline has only been extended by it. -/
def NamesSchema (platform : Platform) (event : QualityEvent) : Prop :=
  ∃ version schema, SchemaDriftRule.providedVersion platform.unicode event = some version ∧
    ¬(version.isEmpty ∨ lower version = text "none") ∧
    SchemaRegistry.get platform.schemaFiles version .loaded = (.ok schema, .loaded) ∧
    ((SchemaComparator.mk [("customer_id", "customer")]).compare v1 schema).overallSeverity = .info

/-- An event that names such a schema passes, and the schemas stay as they are. -/
theorem schemaDriftRule_of_namesSchema (h : NamesSchema platform event)
    (hschemas : w.1.schemas = .loaded) :
    Passes event (schemaDriftRule platform) w ∧
      ((schemaDriftRule platform : QualityRule EngineWorld).validate event w).2 = w := by
  let rule : SchemaDriftRule := {}
  obtain ⟨version, schema, hversion, hnamed, hgot, hseverity⟩ := h
  have hget : SchemaRegistry.get platform.schemaFiles (text "v1") .loaded = (.ok v1, .loaded) := rfl
  have hexpected : rule.expectedSchema platform.schemaFiles .loaded = (.ok v1, .loaded) :=
    Fallible.catching_ok hget
  have hactual : SchemaDriftRule.actualSchema platform.unicode platform.schemaFiles event .loaded =
      (.ok (.ok schema), .loaded) := by
    rw [SchemaDriftRule.actualSchema, hversion]
    dsimp only
    rw [if_neg hnamed]
    exact Fallible.catching_ok (Fallible.bind_ok hgot)
  let drift := SchemaDriftRule.driftResult event
    ((SchemaComparator.mk rule.renameMap).compare v1 schema)
  have hcheck : (rule.check platform.unicode platform.schemaFiles event >>= fun r =>
      pure (Except.ok r : Except String ValidationResult)) .loaded = (.ok (.ok drift), .loaded) := by
    rw [Fallible.bind_ok (by
      rw [SchemaDriftRule.check, Fallible.bind_ok hexpected, Fallible.bind_ok hactual]
      rfl)]
    rfl
  obtain ⟨⟨clock, reads, events, orders, schemas⟩, collector⟩ := w
  dsimp only at hschemas
  subst hschemas
  have hvalidate : (schemaDriftRule platform : QualityRule EngineWorld).validate event
      (⟨clock, reads, events, orders, .loaded⟩, collector) =
        (((rule.check platform.unicode platform.schemaFiles event >>= fun r =>
            pure (Except.ok r : Except String ValidationResult)) .loaded).1,
          (⟨clock, reads, events, orders, ((rule.check platform.unicode platform.schemaFiles event >>=
            fun r => pure (Except.ok r : Except String ValidationResult)) .loaded).2⟩, collector)) :=
    rfl
  rw [hvalidate, hcheck]
  refine ⟨?_, rfl⟩
  rw [Passes, hvalidate, hcheck]
  change (SchemaDriftRule.driftResult event
    ((SchemaComparator.mk rule.renameMap).compare v1 schema)).passed = true
  have hinfo : ((SchemaComparator.mk rule.renameMap).compare v1 schema).overallSeverity = .info :=
    hseverity
  unfold SchemaDriftRule.driftResult
  dsimp only
  rw [hinfo]
  split
  · rfl
  · rfl

theorem namesSchema_baseline
    (h : SchemaDriftRule.providedVersion platform.unicode event = some (text "v1")) :
    NamesSchema platform event :=
  ⟨text "v1", v1, h, by decide, rfl, by decide +kernel⟩

/-- The second version adds optional fields and a value. -/
theorem namesSchema_second
    (h : SchemaDriftRule.providedVersion platform.unicode event = some (text "v2")) :
    NamesSchema platform event :=
  ⟨text "v2", v2, h, by decide, rfl, by decide +kernel⟩

/-- What the default rules do to the world when they are asked about a clean event. -/
structure Asked (u : Unicode) (event : QualityEvent) (v v' : RuleWorld) : Prop where
  clock : v'.clock = v.clock
  schemas : v'.schemas = v.schemas
  seen : ∀ kind : DuplicateKind, ∀ p ∈ kind.seen.get v',
    p ∈ kind.seen.get v ∨ kind.idOf u event = some p.1

/-- An event whose ids have not been seen is tolerated by all rules. -/
theorem allTolerate_of_unseen {d : Dict} {eventTime reference : Instant}
    (hevent : QualityEvent.fromDict platform.unicode d = .ok event)
    (hversion : NamesSchema platform event) (hpresentable : Presentable platform d)
    (hlimit : ∀ x, (given d .amount).toFloat platform.unicode = .ok x → ¬(500000 : Float) < x)
    (htime : parseIsoTimestamp platform (given d .eventTime) = .ok (some eventTime))
    (hreference : parseIsoTimestamp platform (given d .ingestionTime) = .ok (some reference))
    (hpunctual : Punctual reference eventTime) (hschemas : w.1.schemas = .loaded)
    (hstarted : Started w.1) (hunseen : Unseen platform.unicode event w.1) :
    AllTolerate event (defaultRules platform) w ∧
      Asked platform.unicode event w.1 (afterRules event (defaultRules platform) w).1 := by
  have hgiven {f : QualityField} (hf : f ∉ QualityEvent.numberFields) :
      event.getField f = given d f := QualityEvent.getField_of_fromDict _ hevent hf
  rw [← hgiven (f := .eventTime) (by decide)] at htime
  rw [← hgiven (f := .ingestionTime) (by decide)] at hreference
  have hbounded {bound : TimeBound} (v : EngineWorld)
      (hbound : InBounds bound eventTime reference) :
      Tolerates event (boundedTimeRule platform .eventTime bound) v := by
    refine tolerates_boundedTimeRule_iff.mpr ⟨_, htime, ?_⟩
    intro time htime'
    obtain rfl := Option.some.inj htime'
    exact ⟨_, hreference, hbound⟩
  have hvalue := (@allPass_stateless event (valueRules platform) w w
    fun rule hrule => stateless_valueRules hrule event).2
  set w₁ := ((DuplicateKind.events.rule platform.unicode 300).validate event w).2 with hw₁
  set w₂ := ((DuplicateKind.orders.rule platform.unicode 300).validate event w₁).2 with hw₂
  obtain ⟨hevents, hasks₁⟩ := DuplicateKind.events.rule_passes_iff platform.unicode event w
  obtain ⟨horders, hasks₂⟩ := DuplicateKind.orders.rule_passes_iff platform.unicode event w₁
  have hfuture : ((futureTimestampRule platform).validate event w₂).2 = w₂ :=
    boundedTimeRule_state htime hreference
  have hlate : ((lateEventRule platform).validate event w₂).2 = w₂ :=
    boundedTimeRule_state htime hreference
  have hschemas₂ : w₂.1.schemas = .loaded := by
    rw [hasks₂.schemas, hasks₁.schemas, hschemas]
  obtain ⟨hdrift, hkept⟩ := schemaDriftRule_of_namesSchema hversion hschemas₂
  have hafter : afterRules event (defaultRules platform) w = w₂ := by
    have hsplit : afterRules event (defaultRules platform) w =
        afterRules event (DuplicateKind.events.rule platform.unicode 300 ::
          DuplicateKind.orders.rule platform.unicode 300 :: otherDetectors platform)
            (afterRules event (valueRules platform) w) := by
      rw [defaultRules_eq]
      exact List.foldl_append
    rw [hsplit, hvalue]
    change ((schemaDriftRule platform : QualityRule EngineWorld).validate event
      ((lateEventRule platform).validate event
        ((futureTimestampRule platform).validate event w₂).2).2).2 = w₂
    rw [hfuture, hlate, hkept]
  constructor
  · rw [defaultRules_eq, allTolerate_append, hvalue]
    refine ⟨(allTolerate_valueRules_iff hevent).mpr hpresentable, ?_, ?_, ?_, ?_, ?_, ?_, trivial⟩
    · exact tolerates_of_passes (hevents.mpr (not_recalls hstarted (hunseen .events)))
    · apply tolerates_of_passes
      apply horders.mpr
      apply not_recalls
      · intro n
        rw [hasks₁.clock]
        exact hstarted n
      · rw [hasks₁.others .orders (by intro hkind; cases hkind)]
        exact hunseen .orders
    · exact (tolerates_impossibleAmountRule_iff (QualityEvent.getField_amount _ hevent)).mpr hlimit
    · exact hbounded _ (inBounds_future hpunctual)
    · exact hbounded _ (inBounds_late hpunctual)
    · change Tolerates event (schemaDriftRule platform) ((lateEventRule platform).validate event
        ((futureTimestampRule platform).validate event w₂).2).2
      rw [hfuture, hlate]
      exact tolerates_of_passes hdrift
  · rw [hafter]
    refine ⟨hasks₂.clock.trans hasks₁.clock, hasks₂.schemas.trans hasks₁.schemas, ?_⟩
    intro kind p hp
    cases kind with
    | events =>
      rw [hasks₂.others .events (by intro hkind; cases hkind)] at hp
      exact seen_rule .events platform.unicode event w p hp
    | orders =>
      have hbefore := seen_rule .orders platform.unicode event w₁ p hp
      rwa [hasks₁.others .orders (by intro hkind; cases hkind)] at hbefore

/-! ## A passable payload -/

/-- A validator with the default rules, which reads the objects that the generator sends. -/
structure Default (platform : Platform) (v : StreamQualityValidator EngineWorld) : Prop where
  unicode : v.unicode = platform.unicode
  engine : v.qualityEngine = collectingEngine platform (defaultRules platform)
  nesting : 1 ≤ v.nestingLimit

theorem default_defaultValidator (platform : Platform) :
    Default platform (defaultValidator platform) := by
  constructor
  case unicode => rfl
  case engine => rfl
  case nesting => exact Nat.one_le_ofNat

/-- The validator gives an event this time of ingestion. -/
structure IngestedAt (platform : Platform) (readings : StreamReadings) (reference : Instant) : Prop where
  timestamp : IsTimestamp (.str readings.ingestionTime)
  read : parseIsoTimestamp platform (.str readings.ingestionTime) = .ok (some reference)

/-- The engine finds a passable payload valid that comes in time, names a schema that is at hand
and has ids that are new. -/
theorem validated_of_passable {readings : StreamReadings} {d : Dict} {reference eventTime : Instant}
    (hpassable : Passable platform d) (habsent : d.get? (text "ingestion_time") = none)
    (hpopulated : Populated (.str readings.ingestionTime))
    (hingested : IngestedAt platform readings reference)
    (htime : parseIsoTimestamp platform (given d .eventTime) = .ok (some eventTime))
    (hpunctual : Punctual reference eventTime) (hschemas : w.1.schemas = .loaded)
    (hstarted : Started w.1)
    (hnew : ∀ event, QualityEvent.fromDict platform.unicode (withIngestionTime readings d) = .ok event →
      NamesSchema platform event ∧ Unseen platform.unicode event w.1) :
    ∃ event summary v' c,
      QualityEvent.fromDict platform.unicode (withIngestionTime readings d) = .ok event ∧
      (collectingEngine platform (defaultRules platform)).validateWithSummary platform.unicode
        (.obj (withIngestionTime readings d)) w = (.ok summary, (v', c)) ∧
      summary.isValid = true ∧ Asked platform.unicode event w.1 v' := by
  obtain ⟨event, hevent⟩ : ∃ event,
      QualityEvent.fromDict platform.unicode (withIngestionTime readings d) = .ok event :=
    fromDict_of_passable hpassable
  have hgiven {f : QualityField} (hf : f ≠ .ingestionTime) :
      given (withIngestionTime readings d) f = given d f := given_withIngestionTime hf
  have hingestion : given (withIngestionTime readings d) .ingestionTime =
      .str readings.ingestionTime := by
    obtain ⟨v, hv, -⟩ | ⟨-, hgot⟩ := ingestionTime_cases readings d
    · rw [habsent] at hv
      cases hv
    · exact hgot
  have hpresentable : Presentable platform (withIngestionTime readings d) := by
    constructor
    case populated =>
      intro f hf
      obtain rfl | hf := List.mem_cons.mp hf
      · rw [hingestion]
        exact hpopulated
      · rw [hgiven (guarded_ne_ingestionTime hf)]
        exact hpassable.populated f hf
    case amount =>
      rw [hgiven (by decide)]
      exact ((amount_iff _ _).mpr hpassable.amount).1
    case currency =>
      rw [hgiven (by decide)]
      exact hpassable.currency
    case paymentStatus =>
      rw [hgiven (by decide)]
      exact hpassable.paymentStatus
    case eventTime =>
      rw [hgiven (by decide)]
      exact hpassable.eventTime
    case ingestionTime =>
      rw [hingestion]
      exact hingested.timestamp
  have hlimit : ∀ x, (given (withIngestionTime readings d) .amount).toFloat platform.unicode = .ok x →
      ¬(500000 : Float) < x := by
    rw [hgiven (by decide)]
    exact ((amount_iff _ _).mpr hpassable.amount).2
  have hparsed : parseIsoTimestamp platform (given (withIngestionTime readings d) .eventTime) =
      .ok (some eventTime) := by
    rw [hgiven (by decide)]
    exact htime
  obtain ⟨hversion, hunseen⟩ := hnew event hevent
  obtain ⟨htolerate, hasked⟩ := allTolerate_of_unseen hevent hversion hpresentable hlimit hparsed
    (hingestion ▸ hingested.read) hpunctual hschemas hstarted hunseen
  obtain ⟨results, w₁, hresults⟩ := runRules_total event
    ((defaultRules platform : List (QualityRule EngineWorld)).filter QualityRule.enabled) w
  obtain ⟨c, hvalidate⟩ := validateWithSummary_of_event hevent hresults
  have hone := oneByOne_of_runRules hresults
  have hall : (defaultRules platform : List (QualityRule EngineWorld)).filter QualityRule.enabled =
      defaultRules platform := rfl
  rw [hall] at hone
  refine ⟨event, computeValidationSummary results (event.value .eventId), w₁.1, c, hevent, ?_, ?_, ?_⟩
  · rw [hparsed] at hvalidate
    exact hvalidate
  · rw [isValid_iff]
    exact hone.allTolerate_iff.mpr htolerate
  · rw [hone.state_eq]
    exact hasked

end

end IceStream.Streaming
