import IceStream.Generator.FaultyEvents
import IceStream.Generator.RealDuplicates
import IceStream.Lib.FloatText
import IceStream.Streaming.CleanStream

/-!
# The faults that are caught

A fault is injected into a clean event. Here it is worked out which faults the gate stops, whatever
it has seen before, and which ones it lets through.
-/

namespace IceStream.Streaming
open Python Schema Metrics Quarantine QualityEngine Remediation Generator

/-! ## What is stopped -/

/-- No validator with the default rules accepts the payload, whatever it has seen before. -/
def Stopped (platform : Platform) (readings : StreamReadings) (d : Dict) : Prop :=
  ∀ (v : StreamQualityValidator EngineWorld) (payload : Payload) (s t : StreamWorld EngineWorld)
    (outcome : ValidationOutcome), Default platform v →
      decode v.nestingLimit payload = .ok (.obj d) →
        validateEvent v readings payload s = (.ok outcome, t) → outcome.isValid = false

section

variable {platform : Platform} {readings : StreamReadings} {d : Dict}
  {reference eventTime : Instant}

/-- What is not passable is stopped. -/
theorem stopped_of_not_passable (h : ¬Passable platform d) : Stopped platform readings d := by
  intro v payload s t outcome hv hdecode hrun
  cases haccepted : outcome.isValid with
  | false => rfl
  | true =>
    have hrules : v.qualityEngine.rules = defaultRules platform := by
      rw [hv.engine]
      rfl
    exact absurd (passable_of_accepted hv.unicode hrules hdecode hrun haccepted) h

/-- What comes before its time is stopped. -/
theorem stopped_of_not_punctual (habsent : d.get? (text "ingestion_time") = none)
    (hingested : IngestedAt platform readings reference)
    (htime : parseIsoTimestamp platform (given d .eventTime) = .ok (some eventTime))
    (h : ¬Punctual reference eventTime) : Stopped platform readings d := by
  intro v payload s t outcome hv hdecode hrun
  cases haccepted : outcome.isValid with
  | false => rfl
  | true =>
    have hrules : v.qualityEngine.rules = defaultRules platform := by
      rw [hv.engine]
      rfl
    obtain ⟨summary, hengine, hvalid⟩ := isValid_of_accepted hdecode hrun haccepted
    obtain ⟨event, hevent, htolerate⟩ := allTolerate_of_isValid hrules hengine hvalid
    rw [hv.unicode] at hevent
    obtain ⟨-, -, time, hparsed, hreference⟩ := of_allTolerate hevent htolerate
    have hingestion : given (withIngestionTime readings d) .ingestionTime =
        .str readings.ingestionTime := by
      obtain ⟨v', hv', -⟩ | ⟨-, hgot⟩ := ingestionTime_cases readings d
      · rw [habsent] at hv'
        cases hv'
      · exact hgot
    rw [given_withIngestionTime (by decide), htime] at hparsed
    obtain ⟨ingestion, hread, hpunctual⟩ := hreference eventTime (Except.ok.inj hparsed).symm
    rw [hingestion, hingested.read] at hread
    exact absurd (hpunctual reference (Except.ok.inj hread).symm) h

/-- A passable payload that comes in time is accepted by a validator that has not seen anything. -/
theorem not_stopped_of_passable (hpassable : Passable platform d)
    (habsent : d.get? (text "ingestion_time") = none)
    (hpopulated : Populated (.str readings.ingestionTime))
    (hingested : IngestedAt platform readings reference)
    (htime : parseIsoTimestamp platform (given d .eventTime) = .ok (some eventTime))
    (hpunctual : Punctual reference eventTime)
    (hversion : ∀ event, QualityEvent.fromDict platform.unicode (withIngestionTime readings d) =
      .ok event → NamesSchema platform event) : ¬Stopped platform readings d := by
  intro hstopped
  have hstarted : Started lastWorld.1 :=
    fun _ => ⟨maxInstant - 30000000 + -(300 * 1000000), rfl⟩
  have hnew : ∀ event, QualityEvent.fromDict platform.unicode (withIngestionTime readings d) =
      .ok event → NamesSchema platform event ∧ Unseen platform.unicode event lastWorld.1 := by
    intro event hevent
    refine ⟨hversion event hevent, ?_⟩
    intro kind p hp
    cases kind <;> cases hp
  obtain ⟨event, summary, v', c, -, hvalidate, hvalid, -⟩ :=
    validated_of_passable (w := lastWorld) hpassable habsent hpopulated hingested htime hpunctual rfl
      hstarted hnew
  obtain ⟨outcome, t, hrun, haccepted⟩ := accepted_of_isValid (v := defaultValidator platform)
    (s := freshStream lastWorld) (congrArg Prod.fst hvalidate) hvalid
  have hrejected := hstopped (defaultValidator platform) (.dict d) (freshStream lastWorld) t outcome
    (default_defaultValidator platform) rfl hrun
  rw [haccepted] at hrejected
  cases hrejected

end

/-! ## One field after the other -/

/-- No rule has anything against the value in the field. -/
structure Fits (platform : Platform) (f : QualityField) (v : Json) : Prop where
  populated : f ∈ guardedFields → Populated v
  quantity : f = .quantity → ∃ x, QualityEvent.convert platform.unicode .quantity v = .ok x
  unitPrice : f = .unitPrice → ∃ x, QualityEvent.convert platform.unicode .unitPrice v = .ok x
  amount : f = .amount → (∃ x, v.toFloat platform.unicode = .ok x ∧ Within 500000 x) ∨
    OnlyDecimal platform.unicode v
  currency : f = .currency → ∃ s ∈ currencies, v = .str s
  paymentStatus : f = .paymentStatus → ∃ s ∈ paymentStatuses, v = .str s
  eventTime : f = .eventTime → IsTimestamp v ∧ ∃ time, parseIsoTimestamp platform v = .ok time

section

variable {platform : Platform} {d : Dict}

/-- A payload without a time of ingestion is passable when all its fields are. -/
theorem passable_iff_fits (habsent : d.get? (text "ingestion_time") = none) :
    Passable platform d ↔ ∀ f, f ≠ .ingestionTime → Fits platform f (given d f) := by
  have hnull : given d .ingestionTime = .null := by
    change (d.get? (text "ingestion_time")).getD .null = .null
    rw [habsent]
    rfl
  constructor
  · intro h f _
    constructor
    case populated => exact h.populated f
    case quantity =>
      intro hf
      rw [hf]
      exact h.quantity
    case unitPrice =>
      intro hf
      rw [hf]
      exact h.unitPrice
    case amount =>
      intro hf
      rw [hf]
      exact h.amount
    case currency =>
      intro hf
      rw [hf]
      exact h.currency
    case paymentStatus =>
      intro hf
      rw [hf]
      exact h.paymentStatus
    case eventTime =>
      intro hf
      rw [hf]
      exact ⟨h.eventTime, h.eventTime_read⟩
  · intro h
    constructor
    case quantity => exact (h .quantity (by decide)).quantity rfl
    case unitPrice => exact (h .unitPrice (by decide)).unitPrice rfl
    case populated => exact fun f hf => (h f (guarded_ne_ingestionTime hf)).populated hf
    case amount => exact (h .amount (by decide)).amount rfl
    case currency => exact (h .currency (by decide)).currency rfl
    case paymentStatus => exact (h .paymentStatus (by decide)).paymentStatus rfl
    case eventTime => exact ((h .eventTime (by decide)).eventTime rfl).1
    case eventTime_read => exact ((h .eventTime (by decide)).eventTime rfl).2
    case ingestionTime =>
      intro v hv
      rw [habsent] at hv
      cases hv
    case punctual =>
      intro eventTime _
      rw [hnull]
      exact ⟨none, rfl, fun reference hreference => by cases hreference⟩

end

/-! ## A clean event with one field changed -/

/-- A clean event, and the time of ingestion that it is given; that is not half a minute behind
the event. -/
structure InTime (platform : Platform) (readings : StreamReadings) (reference : Instant) (size : ℕ)
    (now : Instant) (e : CheckoutEvent) : Prop where
  clean : e.Clean (customerPool size) now
  isInstant : IsInstant now
  ingested : IngestedAt platform readings reference
  punctual : Punctual reference (wholeMillis now)

section

variable {platform : Platform} {readings : StreamReadings} {reference now : Instant} {size : ℕ}
  {e : CheckoutEvent} {f : QualityField} {v : Json} {d : Dict}

theorem fits_of_clean (h : InTime platform readings reference size now e)
    (hf : f ≠ .ingestionTime) : Fits platform f (e.valueOf f) := by
  have hpassable := h.clean.passable h.isInstant (fun c hc => shown_of_mem_customerPool hc) platform
  have hfits := (passable_iff_fits (d := e.toDict) rfl).mp hpassable f hf
  rwa [e.given_toDict] at hfits

/-- What does not fit into its field is stopped. -/
theorem stopped_of_not_fits (hchanged : ChangedIn e f v d) (hf : f ≠ .ingestionTime)
    (h : ¬Fits platform f v) : Stopped platform readings d := by
  apply stopped_of_not_passable
  rw [passable_iff_fits hchanged.absent]
  intro hall
  have hfits := hall f hf
  rw [hchanged.given, if_pos rfl] at hfits
  exact h hfits

/-- A value that fits is let through, when the time of the event is that of a punctual one. -/
theorem not_stopped_of_fits (h : InTime platform readings reference size now e) (hchanged : ChangedIn e f v d)
    (hversion : f ≠ .sourceVersion ∨ v = .str (text "v2")) {eventTime : Instant}
    (htime : parseIsoTimestamp platform (given d .eventTime) = .ok (some eventTime))
    (hpunctual : Punctual reference eventTime) (hfits : Fits platform f v) :
    ¬Stopped platform readings d := by
  have hpassable : Passable platform d := by
    rw [passable_iff_fits hchanged.absent]
    intro g hg
    rw [hchanged.given]
    by_cases heq : g = f
    · rw [if_pos heq, heq]
      exact hfits
    · rw [if_neg heq]
      exact fits_of_clean h hg
  apply not_stopped_of_passable hpassable hchanged.absent (populated_of_parsed h.ingested.read)
    h.ingested htime hpunctual
  intro event hevent
  have hprovided : ∀ version : Text, version ≠ [] → strip version = version →
      given d .sourceVersion = .str version →
        SchemaDriftRule.providedVersion platform.unicode event = some version := by
    intro version hne hstrip hgiven
    have hfield : event.getField .sourceVersion = .str version := by
      rw [QualityEvent.getField_of_fromDict _ hevent (by decide),
        given_withIngestionTime (by decide), hgiven]
    have hvalue : event.value .sourceVersion = .str version := by
      rw [QualityEvent.value_of_fromDict _ hevent (by decide),
        given_withIngestionTime (by decide), hgiven]
    rw [SchemaDriftRule.providedVersion, hfield, hvalue, Json.orElse, ite_self]
    change some (strip version) = some version
    rw [hstrip]
  by_cases heq : QualityField.sourceVersion = f
  · apply namesSchema_second
    apply hprovided
    · decide
    · decide
    · rw [hchanged.given, if_pos heq]
      exact hversion.resolve_left fun hne => hne heq.symm
  · apply namesSchema_baseline
    apply hprovided
    · decide
    · decide
    · rw [hchanged.given, if_neg heq, CheckoutEvent.valueOf, h.clean.sourceVersion]

/-- Where the time is left alone, the gate stops what does not fit. -/
theorem stopped_iff_not_fits (h : InTime platform readings reference size now e) (hchanged : ChangedIn e f v d)
    (hf : f ≠ .ingestionTime) (htime : f ≠ .eventTime)
    (hversion : f ≠ .sourceVersion ∨ v = .str (text "v2")) :
    Stopped platform readings d ↔ ¬Fits platform f v := by
  constructor
  · intro hstopped hfits
    refine not_stopped_of_fits h hchanged hversion ?_ h.punctual hfits hstopped
    rw [hchanged.given, if_neg (Ne.symm htime), CheckoutEvent.valueOf, h.clean.eventTime]
    exact parseIsoTimestamp_shownTime platform h.isInstant
  · exact stopped_of_not_fits hchanged hf

/-- An event without a fault is let through. -/
theorem InTime.not_stopped (h : InTime platform readings reference size now e) :
    ¬Stopped platform readings e.toDict := by
  -- nothing has changed, the source least of all
  have hchanged : ChangedIn e .source (e.valueOf .source) e.toDict := by
    refine ⟨rfl, ?_⟩
    intro g
    rw [e.given_toDict]
    split_ifs with hg
    · rw [hg]
    · rfl
  rw [stopped_iff_not_fits h hchanged (by decide) (by decide) (.inl (by decide))]
  exact not_not_intro (fits_of_clean h (by decide))

end

/-! ## What fits -/

section

variable {platform : Platform} {v : Json}

/-- Of most fields it is only asked that they say something. -/
theorem fits_of_populated {f : QualityField}
    (hf : f ∉ [.quantity, .unitPrice, .amount, .currency, .paymentStatus, .eventTime])
    (h : Populated v) : Fits platform f v := by
  constructor
  case populated => exact fun _ => h
  all_goals
    intro hfield
    subst hfield
    exact absurd (by decide) hf

theorem fits_quantity (h : ∀ x, v = .float x → x.isInf = false) : Fits platform .quantity v := by
  constructor
  case populated => exact fun hf => absurd hf (by decide)
  case quantity =>
    intro _
    cases hconvert : QualityEvent.convert platform.unicode .quantity v with
    | ok x => exact ⟨x, rfl⟩
    | error err =>
      obtain ⟨x, hx, hinf⟩ := (QualityEvent.convert_quantity_error_iff _ v).mp ⟨err, hconvert⟩
      rw [h x hx] at hinf
      cases hinf
  all_goals exact fun hf => by cases hf

theorem fits_unitPrice (x : Float) : Fits platform .unitPrice (.float x) := by
  constructor
  case populated => exact fun hf => absurd hf (by decide)
  case unitPrice => exact fun _ => ⟨.float x, rfl⟩
  all_goals exact fun hf => by cases hf

theorem fits_amount {x : Float} (hpopulated : Populated v)
    (h : v.toFloat platform.unicode = .ok x) (hwithin : Within 500000 x) :
    Fits platform .amount v := by
  constructor
  case populated => exact fun _ => hpopulated
  case amount => exact fun _ => .inl ⟨x, h, hwithin⟩
  all_goals exact fun hf => by cases hf

/-- A text that is read as a number says something. -/
theorem populated_of_read {u : Unicode} {t : Text} {x : Float} (h : floatOfText u t = .ok x) :
    Populated (.str t) := by
  refine ⟨(by intro hnull; cases hnull), ?_⟩
  intro s hs
  obtain rfl := Json.str.inj hs
  rw [← not_or]
  intro hblank
  obtain ⟨err, herr⟩ := floatOfText_of_blank u hblank
  rw [h] at herr
  cases herr

/-- An amount that is not positive does not fit. -/
theorem not_fits_amount {x : Float} (h : ¬0 < x) : ¬Fits platform .amount (.float x) := by
  intro hfits
  obtain ⟨x', hx', hwithin⟩ | ⟨t, err, n, ht, -⟩ := hfits.amount rfl
  · obtain rfl : x = x' := Except.ok.inj hx'
    exact h hwithin.pos
  · cases ht

theorem not_fits_null {f : QualityField} (hf : f ∈ guardedFields) : ¬Fits platform f .null :=
  fun hfits => (hfits.populated hf).1 rfl

/-- The text of an instant fits. -/
theorem fits_eventTime {t : Instant} (ht : IsInstant t) :
    Fits platform .eventTime (.str (text (shownTime t))) := by
  have hread := parseIsoTimestamp_shownTime platform ht
  obtain ⟨dt, hdt⟩ := readTimestamp_shownTime ht
  constructor
  case populated => exact fun _ => populated_of_parsed hread
  case eventTime => exact fun _ => ⟨⟨_, dt, rfl, hdt⟩, _, hread⟩
  all_goals exact fun hf => by cases hf

end

/-! ## The faults -/

/-- The faults that are caught: every null, a negative amount, an unknown status of the payment, a
guarded field that is missing, and a time more than half a minute ahead. -/
def Caught (platform : Platform) (reference : Instant) (e : CheckoutEvent) (d : Dict) :
    FaultMode → Prop
  | .null => True
  | .duplicate => False
  | .negative => given d .amount ≠ .float e.amount
  | .invalidEnum => given d .paymentStatus ≠ .str e.paymentStatus
  | .schemaDrift => ∃ f ∈ guardedFields, given d f = .null
  | .typeChange => False
  | .timestampDrift => ∃ t, parseIsoTimestamp platform (given d .eventTime) = .ok (some t) ∧
      reference + 30000000 < t

section

variable {platform : Platform} {readings : StreamReadings} {reference now clock : Instant}
  {size : ℕ} {e : CheckoutEvent} {d : Dict}

theorem stopped_iff_negative (h : InTime platform readings reference size now e)
    (hd : (∃ x, ¬0 < x ∧ ChangedIn e .amount (.float x) d) ∨
      (∃ x, ChangedIn e .unitPrice (.float x) d) ∨ ∃ i, ChangedIn e .quantity (.int i) d) :
    Stopped platform readings d ↔ Caught platform reference e d .negative := by
  obtain ⟨x, hx, hchanged⟩ | ⟨x, hchanged⟩ | ⟨i, hchanged⟩ := hd
  · have hamount : given d .amount = .float x := hchanged.given .amount
    have hpositive : 0 < e.amount := by
      obtain ⟨p, hp, -, hprice⟩ := h.clean.product
      rw [h.clean.amount, hprice]
      exact (within_amount hp h.clean.quantity).pos
    rw [stopped_iff_not_fits h hchanged (by decide) (by decide)
      (.inl (by decide))]
    refine iff_of_true (not_fits_amount hx) ?_
    intro hsame
    rw [hamount] at hsame
    obtain rfl := Json.float.inj hsame
    exact hx hpositive
  · have hamount : given d .amount = .float e.amount := hchanged.given .amount
    rw [stopped_iff_not_fits h hchanged (by decide) (by decide)
      (.inl (by decide))]
    exact iff_of_false (not_not_intro (fits_unitPrice x)) (not_not_intro hamount)
  · have hamount : given d .amount = .float e.amount := hchanged.given .amount
    have hfits : Fits platform .quantity (.int i) := fits_quantity fun x hx => by cases hx
    rw [stopped_iff_not_fits h hchanged (by decide) (by decide)
      (.inl (by decide))]
    exact iff_of_false (not_not_intro hfits) (not_not_intro hamount)

theorem stopped_iff_invalidEnum (h : InTime platform readings reference size now e)
    (hd : (∃ s ∈ invalidPaymentMethods, ChangedIn e .paymentMethod (.str s) d) ∨
      ∃ s ∈ invalidPaymentStatuses, ChangedIn e .paymentStatus (.str s) d) :
    Stopped platform readings d ↔ Caught platform reference e d .invalidEnum := by
  obtain ⟨s, hs, hchanged⟩ | ⟨s, hs, hchanged⟩ := hd
  · have hstatus : given d .paymentStatus = .str e.paymentStatus := hchanged.given .paymentStatus
    have hall : ∀ s ∈ invalidPaymentMethods, isNull (.str s) = false := by decide
    have hfits : Fits platform .paymentMethod (.str s) :=
      fits_of_populated (by decide) ((populated_iff _).mpr (hall s hs))
    rw [stopped_iff_not_fits h hchanged (by decide) (by decide)
      (.inl (by decide))]
    exact iff_of_false (not_not_intro hfits) (not_not_intro hstatus)
  · have hstatus : given d .paymentStatus = .str s := hchanged.given .paymentStatus
    have hknown : ∀ s ∈ weightedPaymentStatuses.map Prod.fst, s ∉ invalidPaymentStatuses := by decide
    have hunknown : ∀ s ∈ invalidPaymentStatuses, ∀ p ∈ paymentStatuses, s ≠ text p := by decide
    rw [stopped_iff_not_fits h hchanged (by decide) (by decide)
      (.inl (by decide))]
    apply iff_of_true
    · intro hfits
      obtain ⟨p, hp, hsame⟩ := hfits.paymentStatus rfl
      exact hunknown s hs p hp (Json.str.inj hsame)
    · intro hsame
      rw [hstatus] at hsame
      obtain rfl := Json.str.inj hsame
      exact hknown _ h.clean.paymentStatus hs

theorem stopped_iff_schemaDrift (h : InTime platform readings reference size now e)
    (hd : (∃ f ∈ guardedFields, given d f = .null) ∨
      ChangedIn e .sourceVersion (.str (text "v2")) d ∨ d = e.toDict) :
    Stopped platform readings d ↔ Caught platform reference e d .schemaDrift := by
  obtain ⟨f, hf, hnull⟩ | hchanged | rfl := hd
  · refine iff_of_true ?_ ⟨f, hf, hnull⟩
    apply stopped_of_not_passable
    intro hpassable
    exact (hpassable.populated f hf).1 hnull
  · have hfits : Fits platform .sourceVersion (.str (text "v2")) :=
      fits_of_populated (by decide) ((populated_iff _).mpr (by decide))
    rw [stopped_iff_not_fits h hchanged (by decide) (by decide)
      (.inr rfl)]
    refine iff_of_false (not_not_intro hfits) ?_
    rintro ⟨f, hf, hnull⟩
    rw [hchanged.given] at hnull
    split_ifs at hnull
    have hpopulated := (fits_of_clean h (guarded_ne_ingestionTime hf)).populated hf
    exact hpopulated.1 hnull
  · refine iff_of_false h.not_stopped ?_
    rintro ⟨f, hf, hnull⟩
    rw [e.given_toDict] at hnull
    have hpopulated := (fits_of_clean h (guarded_ne_ingestionTime hf)).populated hf
    exact hpopulated.1 hnull

theorem stopped_iff_typeChange (h : InTime platform readings reference size now e)
    (hd : (∃ s, ChangedIn e .quantity (.str s) d) ∨
      ChangedIn e .amount (.str (text (floatRepr e.amount))) d ∨
      ∃ i, ChangedIn e .customerId (.int i) d) :
    Stopped platform readings d ↔ Caught platform reference e d .typeChange := by
  refine iff_of_false ?_ id
  obtain ⟨s, hchanged⟩ | hchanged | ⟨i, hchanged⟩ := hd
  · rw [stopped_iff_not_fits h hchanged (by decide) (by decide)
      (.inl (by decide))]
    exact not_not_intro (fits_quantity fun x hx => by cases hx)
  · have hwithin : Within 500000 e.amount := by
      obtain ⟨p, hp, -, hprice⟩ := h.clean.product
      rw [h.clean.amount, hprice]
      exact within_amount hp h.clean.quantity
    -- `float(str(amount))` is the amount
    have hread : (Json.str (text (floatRepr e.amount))).toFloat platform.unicode = .ok e.amount := by
      obtain hinf | ⟨m, k, hpositive⟩ := unpack_of_pos hwithin.pos
      · have hfinite : e.amount.toModel.unpack.isInf = false := hwithin.finite.2
        rw [hinf] at hfinite
        cases hfinite
      · exact hpositive.floatOfText_floatRepr platform.unicode
    have hpopulated : Populated (.str (text (floatRepr e.amount))) := populated_of_read hread
    rw [stopped_iff_not_fits h hchanged (by decide) (by decide)
      (.inl (by decide))]
    exact not_not_intro (fits_amount hpopulated hread hwithin)
  · have hpopulated : Populated (.int i) := (populated_iff _).mpr rfl
    rw [stopped_iff_not_fits h hchanged (by decide) (by decide)
      (.inl (by decide))]
    exact not_not_intro (fits_of_populated (by decide) hpopulated)

theorem stopped_iff_timestampDrift (h : InTime platform readings reference size now e)
    (hd : ∃ t, IsInstant t ∧ ChangedIn e .eventTime (.str (text (shownTime t))) d) :
    Stopped platform readings d ↔ Caught platform reference e d .timestampDrift := by
  obtain ⟨t, ht, hchanged⟩ := hd
  have htime : parseIsoTimestamp platform (given d .eventTime) = .ok (some (wholeMillis t)) := by
    rw [hchanged.given, if_pos rfl]
    exact parseIsoTimestamp_shownTime platform ht
  obtain ⟨⟨latest, hlatest, hle⟩, hearliest⟩ := h.punctual
  have hlatestEq : latest = reference + 30000000 := by
    rw [addMicros] at hlatest
    split_ifs at hlatest
    exact (Except.ok.inj hlatest).symm
  constructor
  · intro hstopped
    refine ⟨wholeMillis t, htime, ?_⟩
    by_contra hearly
    refine not_stopped_of_fits h hchanged (.inl (by decide)) htime ?_ (fits_eventTime ht)
      hstopped
    exact ⟨⟨latest, hlatest, hlatestEq ▸ not_lt.mp hearly⟩, hearliest⟩
  · rintro ⟨t', ht', hlater⟩
    obtain rfl := Option.some.inj (Except.ok.inj (htime.symm.trans ht'))
    apply stopped_of_not_punctual hchanged.absent h.ingested htime
    rintro ⟨⟨latest', hlatest', hle'⟩, -⟩
    obtain rfl := Except.ok.inj (hlatest.symm.trans hlatest')
    rw [hlatestEq] at hle'
    exact absurd hlater (not_lt.mpr hle')

/-- What a strategy returns has what all its results have. -/
theorem of_mutate {K : Type} {P : Dict → Prop} {x : Fallible (Python.Random K) Dict}
    {rnd : Python.Random K} (hx : Fallible.Returns P x) (hrun : (x rnd).1 = .ok d) : P d :=
  hx rnd d (x rnd).2 (Prod.ext hrun rfl)

/-- A fault that a strategy injects into a clean event is stopped when it is one that is caught. -/
theorem stopped_iff_of_mutate {K : Type} {env : Environment} {mode : FaultMode}
    {engine : FaultInjectionEngine K} (h : InTime platform readings reference size now e)
    (hmode : mode ≠ .duplicate)
    (hrun : (FaultInjectionEngine.mutate env clock mode e.toDict engine).1 = .ok d) :
    Stopped platform readings d ↔ Caught platform reference e d mode := by
  cases mode with
  | null =>
    obtain ⟨f, hf, hchanged⟩ := of_mutate (returns_nullMutate e) hrun
    exact iff_of_true (stopped_of_not_fits hchanged (guarded_ne_ingestionTime hf) (not_fits_null hf))
      trivial
  | duplicate => exact absurd rfl hmode
  | negative => exact stopped_iff_negative h (of_mutate (returns_negativeMutate h.clean) hrun)
  | invalidEnum => exact stopped_iff_invalidEnum h (of_mutate (returns_invalidEnumMutate e) hrun)
  | schemaDrift => exact stopped_iff_schemaDrift h (of_mutate (returns_schemaDriftMutate e _) hrun)
  | typeChange =>
    exact stopped_iff_typeChange h
      (of_mutate (returns_typeChangeMutate e env.unicode env.isdigit) hrun)
  | timestampDrift =>
    exact stopped_iff_timestampDrift h (of_mutate (returns_timestampDriftMutate e clock) hrun)

/-- What the fault injection engine makes of a clean event is stopped just in case it has
injected a fault that is caught; duplicates aside, which depend on what was seen before. -/
theorem stopped_iff_caught {K : Type} [LinearOrder K] [RatCast K] {env : Environment}
    {call : FaultInjectionEngine.Call} {engine : FaultInjectionEngine K} {flag : Bool}
    {selected : Option Text} (h : InTime platform readings reference size now e)
    (hcall : call.event = e.toDict)
    (hrun : (FaultInjectionEngine.processEvent env call engine).1 = .ok (d, flag, selected))
    (hselected : selected ≠ some FaultMode.duplicate.value) :
    Stopped platform readings d ↔
      ∃ mode : FaultMode, selected = some mode.value ∧ Caught platform reference e d mode := by
  obtain ⟨chosen, rnd', hchosen⟩ := selectedMode_run call (recorded engine call)
  rw [processEvent_eq hchosen] at hrun
  cases chosen with
  | none =>
    obtain ⟨rfl, -, rfl⟩ : call.event = d ∧ false = flag ∧ none = selected := by
      have hprocessed := Except.ok.inj hrun
      exact ⟨congrArg Prod.fst hprocessed, congrArg (fun p => p.2.1) hprocessed,
        congrArg (fun p => p.2.2) hprocessed⟩
    refine iff_of_false (hcall ▸ h.not_stopped) ?_
    rintro ⟨mode, hnone, -⟩
    cases hnone
  | some name =>
    cases hname : FaultMode.ofValue? name with
    | none =>
      rw [FaultInjectionEngine.applyMode, hname] at hrun
      cases hrun
    | some mode =>
      obtain rfl : mode.value = name := by simpa using List.find?_some hname
      rw [applyMode_eq, hcall] at hrun
      cases hmutate : (FaultInjectionEngine.mutate env call.now mode e.toDict
          { recorded engine call with rnd := rnd' }).1 with
      | error err =>
        rw [hmutate] at hrun
        cases hrun
      | ok d' =>
        rw [hmutate] at hrun
        have hprocessed := Except.ok.inj hrun
        obtain rfl : d' = d := congrArg Prod.fst hprocessed
        have hmode : some mode.value = selected := congrArg (fun p => p.2.2) hprocessed
        subst hmode
        have hne : mode ≠ .duplicate := fun heq => hselected (by rw [heq])
        rw [stopped_iff_of_mutate h hne hmutate]
        constructor
        · exact fun hcaught => ⟨mode, rfl, hcaught⟩
        · rintro ⟨mode', hsame, hcaught⟩
          have hvalue : mode.value = mode'.value := Option.some.inj hsame
          have hback : some mode = some mode' := by
            rw [← FaultMode.ofValue?_value mode, hvalue, FaultMode.ofValue?_value]
          exact Option.some.inj hback ▸ hcaught

end

/-- A null in an event of the beginning of 2026. -/
theorem stopped_iff_caught_newYear : ∃ (m : CleanMessage) (e : CheckoutEvent) (d : Dict),
    m.payload = e.toDict ∧ (FaultInjectionEngine.processEvent exampleEnvironment
        ⟨e.toDict, some FaultMode.null.value, newYear⟩ exampleEngine).1 =
      .ok (d, true, some FaultMode.null.value) ∧
    (Stopped .ascii m.readings d ↔ ∃ mode : FaultMode,
      some FaultMode.null.value = some mode.value ∧
        Caught .ascii m.ingestedAt.wall e d mode) := by
  obtain ⟨m, -⟩ := exists_newYearMessage
  obtain ⟨e, he, hclean⟩ := m.exists_clean
  have hintime : InTime .ascii m.readings m.ingestedAt.wall m.customers m.generatedAt e :=
    ⟨hclean, m.isInstant, m.isIngestedAt .ascii, m.punctual⟩
  have hrun : (FaultInjectionEngine.processEvent exampleEnvironment
      ⟨e.toDict, some FaultMode.null.value, newYear⟩ exampleEngine).1 =
        .ok (e.toDict.set "customer_id" .null, true, some FaultMode.null.value) := rfl
  exact ⟨m, e, _, he, hrun, stopped_iff_caught hintime rfl hrun (by decide)⟩

end IceStream.Streaming
