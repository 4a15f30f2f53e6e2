import IceStream.Remediation.Repeatable
import IceStream.Rules.Gate
import IceStream.Streaming.TripLaw

/-!
# The gate of the stream

What a validator with the default rules accepts, seen from the payload it was sent.
-/

namespace IceStream.Streaming
open Python Schema Metrics Quarantine QualityEngine Remediation

/-! ## The time of ingestion -/

section

variable {platform : Platform} {readings : StreamReadings} {d : Dict} {event : QualityEvent}

theorem given_withIngestionTime {f : QualityField} (hf : f ≠ .ingestionTime) :
    given (withIngestionTime readings d) f = given d f := by
  rw [withIngestionTime]
  split_ifs
  · rfl
  · have hkey : text f.key ≠ text "ingestion_time" := by
      cases f with
      | ingestionTime => exact absurd rfl hf
      | _ => decide
    change (Dict.get? _ (text f.key)).getD .null = _
    rw [Dict.get?_set_of_ne _ _ hkey]
    rfl

/-- The payload has a time of ingestion already, or it gets one. -/
theorem ingestionTime_cases (readings : StreamReadings) (d : Dict) :
    (∃ v, d.get? (text "ingestion_time") = some v ∧ given d .ingestionTime = v ∧
      withIngestionTime readings d = d) ∨
    d.get? (text "ingestion_time") = none ∧
      given (withIngestionTime readings d) .ingestionTime = .str readings.ingestionTime := by
  rw [withIngestionTime]
  cases hlookup : d.get? (text "ingestion_time") with
  | some v =>
    have hhas : d.has (text "ingestion_time") = true := by
      change (d.get? (text "ingestion_time")).isSome = true
      rw [hlookup]
      rfl
    refine .inl ⟨v, rfl, ?_, if_pos hhas⟩
    change (d.get? (text "ingestion_time")).getD .null = v
    rw [hlookup]
    rfl
  | none =>
    have hhas : ¬d.has (text "ingestion_time") = true := by
      change ¬(d.get? (text "ingestion_time")).isSome = true
      rw [hlookup]
      nofun
    refine .inr ⟨rfl, ?_⟩
    rw [if_neg hhas]
    change (Dict.get? _ (text "ingestion_time")).getD .null = _
    rw [Dict.get?_set]
    rfl

theorem guarded_ne_ingestionTime {f : QualityField} (hf : f ∈ guardedFields) :
    f ≠ .ingestionTime := by
  rintro rfl
  revert hf
  decide

/-- What the rules ask of the event they ask of the payload. -/
theorem passable_of_rules
    (hevent : QualityEvent.fromDict platform.unicode (withIngestionTime readings d) = .ok event)
    (hpresentable : Presentable platform (withIngestionTime readings d))
    (hlimit : ∀ x, (given (withIngestionTime readings d) .amount).toFloat platform.unicode = .ok x →
      ¬(500000 : Float) < x)
    (htimely : Timely platform (withIngestionTime readings d)) : Passable platform d := by
  have hgiven {f : QualityField} (hf : f ≠ .ingestionTime) :
      given (withIngestionTime readings d) f = given d f := given_withIngestionTime hf
  have hquantity := hgiven (f := .quantity) nofun
  have hprice := hgiven (f := .unitPrice) nofun
  have hamount := hgiven (f := .amount) nofun
  have hcurrency := hgiven (f := .currency) nofun
  have hstatus := hgiven (f := .paymentStatus) nofun
  have heventTime := hgiven (f := .eventTime) nofun
  obtain ⟨quantity, amount, unitPrice, hquantity', -, hprice', -⟩ :=
    QualityEvent.fromDict_ok _ hevent
  obtain ⟨time, htime, hreference⟩ := htimely
  have hpositive := hpresentable.amount
  rw [hamount] at hpositive hlimit
  refine ⟨⟨quantity, hquantity ▸ hquantity'⟩, ⟨unitPrice, hprice ▸ hprice'⟩, ?_,
    (amount_iff _ _).mp ⟨hpositive, hlimit⟩, hcurrency ▸ hpresentable.currency,
    hstatus ▸ hpresentable.paymentStatus, heventTime ▸ hpresentable.eventTime,
    ⟨time, heventTime ▸ htime⟩, ?_, ?_⟩
  · intro f hf
    rw [← hgiven (guarded_ne_ingestionTime hf)]
    exact hpresentable.populated f (List.mem_cons_of_mem _ hf)
  · intro v hv
    obtain ⟨v', hv', hvalue, hsame⟩ | ⟨hnone, -⟩ := ingestionTime_cases readings d
    · obtain rfl := Option.some.inj (hv'.symm.trans hv)
      have hpopulated := hpresentable.populated _ List.mem_cons_self
      have htimestamp := hpresentable.ingestionTime
      rw [hsame, hvalue] at hpopulated htimestamp
      exact ⟨hpopulated, htimestamp⟩
    · rw [hnone] at hv
      cases hv
  · intro eventTime hparse
    obtain ⟨-, -, -, hsame⟩ | ⟨hnone, -⟩ := ingestionTime_cases readings d
    · rw [hsame] at htime hreference
      obtain rfl := Except.ok.inj (htime.symm.trans hparse)
      exact hreference eventTime rfl
    · have hnull : given d .ingestionTime = .null := by
        change (d.get? (text "ingestion_time")).getD .null = .null
        rw [hnone]
        rfl
      rw [hnull]
      exact ⟨none, rfl, nofun⟩

/-- A passable payload satisfies the rules, given a late enough time of ingestion where it has
none of its own. -/
theorem rules_of_passable (h : Passable platform d) (hlate : Populated (.str readings.ingestionTime) ∧
      IsTimestamp (.str readings.ingestionTime) ∧
      parseIsoTimestamp platform (.str readings.ingestionTime) = .ok (some (maxInstant - 30000000))) :
    Presentable platform (withIngestionTime readings d) ∧
      (∀ x, (given (withIngestionTime readings d) .amount).toFloat platform.unicode = .ok x →
        ¬(500000 : Float) < x) ∧
      Timely platform (withIngestionTime readings d) := by
  have hgiven {f : QualityField} (hf : f ≠ .ingestionTime) :
      given (withIngestionTime readings d) f = given d f := given_withIngestionTime hf
  obtain ⟨hpositive, hlimit⟩ := (amount_iff _ _).mpr h.amount
  -- the time of ingestion is the payload's own, or the late one
  have hingestion : Populated (given (withIngestionTime readings d) .ingestionTime) ∧
      IsTimestamp (given (withIngestionTime readings d) .ingestionTime) ∧
      (given (withIngestionTime readings d) .ingestionTime = given d .ingestionTime ∨
        given (withIngestionTime readings d) .ingestionTime = .str readings.ingestionTime) := by
    obtain ⟨v, hv, hvalue, hsame⟩ | ⟨-, hgot⟩ := ingestionTime_cases readings d
    · obtain ⟨hpopulated, htimestamp⟩ := h.ingestionTime v hv
      rw [hsame, hvalue]
      exact ⟨hpopulated, htimestamp, .inl rfl⟩
    · rw [hgot]
      exact ⟨hlate.1, hlate.2.1, .inr rfl⟩
  refine ⟨⟨?_, ?_, ?_, ?_, ?_, hingestion.2.1⟩, ?_, ?_⟩
  · intro f hf
    obtain rfl | hf := List.mem_cons.mp hf
    · exact hingestion.1
    · rw [hgiven (guarded_ne_ingestionTime hf)]
      exact h.populated f hf
  · rw [hgiven (f := .amount) nofun]
    exact hpositive
  · rw [hgiven (f := .currency) nofun]
    exact h.currency
  · rw [hgiven (f := .paymentStatus) nofun]
    exact h.paymentStatus
  · rw [hgiven (f := .eventTime) nofun]
    exact h.eventTime
  · rw [hgiven (f := .amount) nofun]
    exact hlimit
  · obtain ⟨time, htime⟩ := h.eventTime_read
    refine ⟨time, (hgiven (f := .eventTime) nofun).symm ▸ htime, ?_⟩
    rintro eventTime rfl
    obtain hown | hgot := hingestion.2.2
    · rw [hown]
      exact h.punctual eventTime htime
    · rw [hgot]
      refine ⟨_, hlate.2.2, ?_⟩
      rintro reference hreference
      cases hreference
      obtain ⟨s, dt, hs, -⟩ := h.eventTime
      rw [hs] at htime
      exact punctual_last (parseIsoTimestamp_le htime)

/-- An amount that is within its bounds is converted. -/
theorem exists_convert_amount {u : Unicode} {v : Json}
    (h : (∃ x, v.toFloat u = .ok x ∧ Within 500000 x) ∨ OnlyDecimal u v) :
    ∃ value, QualityEvent.convert u .amount v = .ok value := by
  obtain ⟨x, hx, -⟩ | ⟨s, e, n, rfl, he, -⟩ := h
  · have hnull : v ≠ .null := by
      rintro rfl
      cases hx
    rw [QualityEvent.convert_amount_eq u hnull, hx]
    exact ⟨.float x, rfl⟩
  · have hfloat : (Json.str s).toFloat u = .error e := he
    rw [QualityEvent.convert_amount_eq u (v := .str s) nofun, hfloat]
    change ∃ value, (if e.isValueError || _ then Except.ok (Json.str s) else .error e) = .ok value
    rw [QualityEvent.floatOfText_error u he]
    exact ⟨.str s, rfl⟩

theorem fromDict_of_passable (h : Passable platform d) :
    ∃ event, QualityEvent.fromDict platform.unicode (withIngestionTime readings d) = .ok event := by
  obtain ⟨quantity, hquantity⟩ := h.quantity
  obtain ⟨unitPrice, hprice⟩ := h.unitPrice
  obtain ⟨amount, hamount⟩ := exists_convert_amount h.amount
  rw [QualityEvent.fromDict_eq, given_withIngestionTime (f := .quantity) nofun,
    given_withIngestionTime (f := .amount) nofun, given_withIngestionTime (f := .unitPrice) nofun,
    hquantity, hamount, hprice]
  exact ⟨_, rfl⟩

end

/-! ## The engine -/

section

variable {platform : Platform} {u : Unicode} {d : Dict} {w : EngineWorld} {summary : ValidationSummary}

/-- What an engine finds valid its rules tolerate. -/
theorem allTolerate_of_isValid {engine : QualityEngine EngineWorld}
    (hrules : engine.rules = defaultRules platform)
    (h : (engine.validateWithSummary u (.obj d) w).1 = .ok summary) (hvalid : summary.isValid = true) :
    ∃ event, QualityEvent.fromDict u d = .ok event ∧ AllTolerate event (defaultRules platform) w := by
  have hactive : engine.getActiveRules = defaultRules platform := by
    rw [getActiveRules, hrules]
    rfl
  cases hevent : QualityEvent.fromDict u d with
  | error e =>
    simp only [validateWithSummary, hevent] at h
    cases h
  | ok event =>
    obtain ⟨results, w₁, hresults⟩ := runRules_total event engine.getActiveRules w
    simp only [validateWithSummary, hevent, QualityEngine.validateEvent] at h
    rw [Fallible.bind_ok hresults] at h
    refine ⟨event, rfl, ?_⟩
    have hsummary : summary = computeValidationSummary results (event.value .eventId) := by
      rcases hrecord : engine.recordEventSummary
        (computeValidationSummary results (event.value .eventId)) (event.value .eventTime) w₁
        with ⟨e | _, w₂⟩
      · rw [Fallible.bind_error hrecord] at h
        cases h
      · rw [Fallible.bind_ok hrecord] at h
        exact (Except.ok.inj h).symm
    rw [hsummary, isValid_iff] at hvalid
    rw [← hactive]
    exact (oneByOne_of_runRules hresults).allTolerate_iff.mp hvalid

/-- Where all rules tolerate an event whose time can be read, the engine finds it valid. -/
theorem isValid_of_allTolerate {event : QualityEvent} {time : Option Instant}
    (hevent : QualityEvent.fromDict platform.unicode d = .ok event)
    (htime : parseIsoTimestamp platform (given d .eventTime) = .ok time)
    (h : AllTolerate event (defaultRules platform) w) :
    ∃ summary, ((collectingEngine platform (defaultRules platform)).validateWithSummary
      platform.unicode (.obj d) w).1 = .ok summary ∧ summary.isValid = true := by
  obtain ⟨results, w₁, hresults⟩ := runRules_total event
    ((defaultRules platform : List (QualityRule EngineWorld)).filter QualityRule.enabled) w
  obtain ⟨c, hvalidate⟩ := validateWithSummary_of_event hevent hresults
  refine ⟨computeValidationSummary results (event.value .eventId), ?_, ?_⟩
  · rw [hvalidate, htime]
    rfl
  · rw [isValid_iff]
    exact (oneByOne_of_runRules hresults).allTolerate_iff.mpr h

end

/-! ## The validator -/

section

variable {v : StreamQualityValidator EngineWorld} {readings : StreamReadings} {payload : Payload}
  {s t : StreamWorld EngineWorld} {d : Dict} {outcome : ValidationOutcome}

/-- What the validator accepts its engine has found valid. -/
theorem isValid_of_accepted (hdecode : decode v.nestingLimit payload = .ok (.obj d))
    (h : validateEvent v readings payload s = (.ok outcome, t)) (haccepted : outcome.isValid = true) :
    ∃ summary, (v.qualityEngine.validateWithSummary v.unicode
      (.obj (withIngestionTime readings d)) s.control.outside).1 = .ok summary ∧
        summary.isValid = true := by
  obtain ⟨s', -, hfollow⟩ := validateEvent_follows v readings payload s
  have hcourse : course v readings payload s = engineCourse v (some (withIngestionTime readings d))
      (Dict.getD d (text "event_id") .null) s := by
    rw [course, hdecode]
  rw [hfollow, hcourse, engineCourse] at h
  cases hengine : (v.qualityEngine.validateWithSummary v.unicode
      (rawValue (some (withIngestionTime readings d))) s.control.outside).1 with
  | error e =>
    rw [hengine] at h
    obtain ⟨-, outcome', t', hrun, hended⟩ | ⟨-, e', t', hrun, -⟩ :=
      handleMalformedPayload_ends v readings
        (text ((rawValue (some (withIngestionTime readings d))).dumps false))
        (text "QualityEngine evaluation failure: " ++ e.message) s'
    · cases hrun.symm.trans h
      rw [hended.isValid] at haccepted
      cases haccepted
    · cases hrun.symm.trans h
  | ok summary =>
    refine ⟨summary, hengine, ?_⟩
    by_contra hinvalid
    rw [hengine] at h
    simp only [hinvalid] at h
    obtain ⟨outcome', t', c', hrun, -, hended⟩ := invalidExit_ends v readings
      (Option.getD (some (withIngestionTime readings d)) []) (Dict.getD d (text "event_id") .null)
      summary s'
    cases hrun.symm.trans h
    rw [hended.isValid] at haccepted
    cases haccepted

/-- What its engine finds valid the validator accepts. -/
theorem accepted_of_isValid {summary : ValidationSummary}
    (h : (v.qualityEngine.validateWithSummary v.unicode
      (.obj (withIngestionTime readings d)) s.control.outside).1 = .ok summary)
    (hvalid : summary.isValid = true) :
    ∃ outcome t, validateEvent v readings (.dict d) s = (.ok outcome, t) ∧
      outcome.isValid = true := by
  obtain ⟨s', -, hfollow⟩ := validateEvent_follows v readings (.dict d) s
  have hcourse : course v readings (.dict d) s =
      .valid (Dict.getD d (text "event_id") .null) summary := by
    change engineCourse v (some (withIngestionTime readings d)) _ s = _
    have hvalue : (v.qualityEngine.validateWithSummary v.unicode
        (rawValue (some (withIngestionTime readings d))) s.control.outside).1 = .ok summary := h
    rw [engineCourse, hvalue]
    exact if_pos hvalid
  obtain ⟨outcome, t, hrun, hended⟩ := validExit_ends v readings
    (Dict.getD d (text "event_id") .null) summary s'
  refine ⟨outcome, t, ?_, hended.isValid⟩
  rw [hfollow, hcourse, hrun]

end

/-! ## The gate -/

/-- A validator with the default rules and a collector. -/
def defaultValidator (platform : Platform) : StreamQualityValidator EngineWorld where
  unicode := platform.unicode
  nestingLimit := 1000
  qualityEngine := collectingEngine platform (defaultRules platform)
  router := exampleRouter
  table := streamTable
  controller := none
  hasStateManager := false

/-- Half a minute before the end of all times. -/
def lateReadings : StreamReadings :=
  { exampleReadings with ingestionTime := "9999-12-31T23:59:29.999999+00:00" }

/-- A stream at its beginning. -/
def freshStream (w : EngineWorld) : StreamWorld EngineWorld where
  metrics := .init fun _ => none
  quarantine := .init streamTable
  control := {
    pipeline := .init 0 .running
    incidents := []
    attempts := []
    circuit := closedCircuit
    active := false
    outside := w
    trace := [] }
  spawned := []

/-- Whatever a validator with the default rules accepts is sound. -/
def GateSound (platform : Platform) (d : Dict) : Prop :=
  ∀ (v : StreamQualityValidator EngineWorld) (readings : StreamReadings) (payload : Payload)
    (s t : StreamWorld EngineWorld) (outcome : ValidationOutcome),
    v.unicode = platform.unicode → v.qualityEngine.rules = defaultRules platform →
      decode v.nestingLimit payload = .ok (.obj d) →
        validateEvent v readings payload s = (.ok outcome, t) → outcome.isValid = true →
          SoundEvent platform d

section

variable {platform : Platform} {d : Dict}

theorem late_ingestionTime (platform : Platform) :
    Populated (.str lateReadings.ingestionTime) ∧ IsTimestamp (.str lateReadings.ingestionTime) ∧
      parseIsoTimestamp platform (.str lateReadings.ingestionTime) =
        .ok (some (maxInstant - 30000000)) := by
  refine ⟨(populated_iff _).mpr rfl, ?_, ?_⟩
  · obtain ⟨dt, hdt⟩ : ∃ dt, readTimestamp lateReadings.ingestionTime = some dt :=
      Option.isSome_iff_exists.mp rfl
    exact ⟨_, dt, rfl, hdt⟩
  · have hread : (parseIsoTimestamp .ascii (.str lateReadings.ingestionTime)).toOption =
        some (some (maxInstant - 30000000)) := by
      decide +kernel
    change parseIsoTimestamp .ascii (.str lateReadings.ingestionTime) = _
    cases hparse : parseIsoTimestamp .ascii (.str lateReadings.ingestionTime) with
    | error e =>
      rw [hparse] at hread
      cases hread
    | ok time =>
      rw [hparse] at hread
      exact congrArg Except.ok (Option.some.inj hread)

/-- A payload that the rules let pass is accepted by a validator that has not seen anything yet. -/
theorem accepted_of_passable (hbaseline : NamesBaseline platform.unicode d)
    (h : Passable platform d) : ∃ outcome t, validateEvent (defaultValidator platform) lateReadings
      (.dict d) (freshStream lastWorld) = (.ok outcome, t) ∧ outcome.isValid = true := by
  obtain ⟨event, hevent⟩ := fromDict_of_passable h
  obtain ⟨hpresentable, hlimit, htimely⟩ := rules_of_passable h (late_ingestionTime platform)
  have hversion : NamesBaseline platform.unicode (withIngestionTime lateReadings d) := by
    rw [NamesBaseline, given_withIngestionTime (f := .sourceVersion) nofun]
    exact hbaseline
  have htolerate := allTolerate_defaultRules hevent
    (providedVersion_of_namesBaseline hversion hevent) hpresentable hlimit htimely
  obtain ⟨time, htime, -⟩ := htimely
  obtain ⟨summary, hengine, hvalid⟩ := isValid_of_allTolerate hevent htime htolerate
  exact accepted_of_isValid hengine hvalid

/-- What a validator with the default rules accepts is passable. -/
theorem passable_of_accepted {v : StreamQualityValidator EngineWorld} {readings : StreamReadings}
    {payload : Payload} {s t : StreamWorld EngineWorld} {outcome : ValidationOutcome}
    (hunicode : v.unicode = platform.unicode) (hrules : v.qualityEngine.rules = defaultRules platform)
    (hdecode : decode v.nestingLimit payload = .ok (.obj d))
    (hrun : validateEvent v readings payload s = (.ok outcome, t)) (h : outcome.isValid = true) :
    Passable platform d := by
  obtain ⟨summary, hengine, hvalid⟩ := isValid_of_accepted hdecode hrun h
  obtain ⟨event, hevent, htolerate⟩ := allTolerate_of_isValid hrules hengine hvalid
  rw [hunicode] at hevent
  obtain ⟨hpresentable, hlimit, htimely⟩ := of_allTolerate hevent htolerate
  exact passable_of_rules hevent hpresentable hlimit htimely

end

def trueAmount : Dict := refetched.set "amount" (.bool true)

end IceStream.Streaming
