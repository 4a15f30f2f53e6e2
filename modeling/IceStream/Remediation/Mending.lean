import IceStream.Generator.CleanEvents
import IceStream.Remediation.Healing
import IceStream.Remediation.Repeatable
import IceStream.Streaming.Unseen

/-!
# What can be mended

The local adapter makes a correction of a failed event, which the reprocessor then validates with
the default rules. Here it is worked out which failed events have a correction that passes.
-/

namespace IceStream.Remediation
open Python Schema Metrics QualityEngine Streaming Generator

/-! ## Rules that are strict -/

/-- What the rule tolerates it passes. -/
def Strict (rule : QualityRule EngineWorld) : Prop :=
  ∀ event w, Tolerates event rule w → Passes event rule w

section

variable {platform : Platform} {event : QualityEvent} {w : EngineWorld}

theorem strict_statelessRule {name : Text} {check : QualityEvent → Except Exc ValidationResult}
    (h : ∀ event r, check event = .ok r → r.severity = .high) :
    Strict (statelessRule name check : QualityRule EngineWorld) := by
  intro event w htolerate
  obtain ⟨r, hr, hcritical⟩ := tolerates_statelessRule_iff.mp htolerate
  rw [Passes]
  change (ownResult _ event ((check event).map Except.ok)).passed = true
  rw [hr]
  exact (isCriticalFailure_eq_false_iff (.inr (h event r hr))).mp hcritical

theorem severity_checkPositive (u : Unicode) (field : QualityField) (event : QualityEvent)
    (r : ValidationResult) (h : checkPositive u field .high event = .ok r) : r.severity = .high := by
  have hcompared (b : Bool) (yes no : Text) :
      (if b then fieldResult field .high (positiveName field) event true yes
        else fieldResult field .high (positiveName field) event false no).severity = .high := by
    cases b <;> rfl
  unfold checkPositive at h
  cases hvalue : event.getField field with
  | null =>
    rw [hvalue] at h
    obtain rfl := Except.ok.inj h
    rfl
  | bool b =>
    rw [hvalue] at h
    obtain rfl := Except.ok.inj h
    rfl
  | int i =>
    rw [hvalue] at h
    obtain ⟨x, -, rfl⟩ := map_eq_ok h
    exact hcompared ..
  | float x =>
    rw [hvalue] at h
    obtain rfl := Except.ok.inj h
    exact hcompared ..
  | str s =>
    rw [hvalue] at h
    dsimp only at h
    cases hn : decimalOfText u (strip s) with
    | none =>
      rw [hn] at h
      obtain rfl := Except.ok.inj h
      rfl
    | some n =>
      rw [hn] at h
      cases n with
      | notANumber => cases h
      | _ =>
        obtain rfl := Except.ok.inj h
        exact hcompared ..
  | arr xs =>
    rw [hvalue] at h
    obtain rfl := Except.ok.inj h
    rfl
  | obj kvs =>
    rw [hvalue] at h
    obtain rfl := Except.ok.inj h
    rfl

theorem strict_allowedValuesRule (u : Unicode) (field : QualityField) (name : Text)
    (allowed : List String) :
    Strict (allowedValuesRule u field .high name allowed : QualityRule EngineWorld) := by
  apply strict_statelessRule
  intro event r h
  obtain rfl := Except.ok.inj h
  rw [checkAllowed]
  split
  · rfl
  · split <;> rfl

theorem strict_timestampValidRule (field : QualityField) :
    Strict (timestampValidRule field .high : QualityRule EngineWorld) := by
  apply strict_statelessRule
  intro event r h
  obtain rfl := Except.ok.inj h
  rw [checkTimestamp]
  split
  · rfl
  · split
    · split <;> rfl
    · rfl

theorem strict_impossibleAmountRule (u : Unicode) :
    Strict (impossibleAmountRule u : QualityRule EngineWorld) := by
  apply strict_statelessRule
  intro event r h
  rw [checkImpossibleAmount] at h
  split at h
  · obtain rfl := Except.ok.inj h
    rfl
  · split at h
    · split at h
      · obtain rfl := Except.ok.inj h
        rfl
      · cases h
    · split at h
      · obtain rfl := Except.ok.inj h
        rfl
      · obtain rfl := Except.ok.inj h
        rfl

theorem strict_valueRules {rule : QualityRule EngineWorld} (hrule : rule ∈ valueRules platform) :
    Strict rule := by
  rw [valueRules, List.cons_append, List.mem_cons, List.mem_append, List.mem_map] at hrule
  obtain rfl | ⟨p, hp, rfl⟩ | hrule := hrule
  · exact fun event w h => (isCriticalFailure_eq_false_iff (.inl rfl)).mp h
  · have hseverity : ∀ p ∈ notNullFields, p.2 = .critical ∨ p.2 = .high := by decide
    exact fun event w h => (isCriticalFailure_eq_false_iff (hseverity p hp)).mp h
  · simp only [List.mem_cons, List.not_mem_nil, or_false] at hrule
    obtain rfl | rfl | rfl | rfl | rfl := hrule
    · exact strict_statelessRule (severity_checkPositive platform.unicode .amount)
    · exact strict_allowedValuesRule _ _ _ _
    · exact strict_allowedValuesRule _ _ _ _
    · exact strict_timestampValidRule _
    · exact strict_timestampValidRule _

theorem strict_passes_iff {rule : QualityRule EngineWorld} (h : Strict rule) :
    Passes event rule w ↔ Tolerates event rule w := ⟨tolerates_of_passes, h event w⟩

theorem allPass_valueRules_iff {d : Dict} (h : QualityEvent.fromDict platform.unicode d = .ok event) :
    AllPass event (valueRules platform) w ↔ Presentable platform d := by
  rw [← allTolerate_valueRules_iff (w := w) h]
  have hall (rules : List (QualityRule EngineWorld)) (hrules : ∀ rule ∈ rules, Strict rule)
      (w : EngineWorld) : AllPass event rules w ↔ AllTolerate event rules w := by
    induction rules generalizing w with
    | nil => exact Iff.rfl
    | cons rule rules ih =>
      rw [AllPass, AllTolerate, strict_passes_iff (hrules rule List.mem_cons_self),
        ih fun r hr => hrules r (List.mem_cons_of_mem _ hr)]
  exact hall _ (fun rule hrule => strict_valueRules hrule) w

end

/-! ## Rules that look at more than the event -/

section

variable {platform : Platform} {event : QualityEvent} {w : EngineWorld} {time : Instant}

theorem addMicros_eq {t t' : Instant} {delta : ℤ} (h : addMicros t delta = .ok t') :
    t' = t + delta := by
  rw [addMicros] at h
  split_ifs at h
  exact (Except.ok.inj h).symm

/-- A rule about the time passes an event that is ingested at its own time. -/
theorem passes_boundedTimeRule {bound : TimeBound} {allowed : Instant}
    (htime : parseIsoTimestamp platform (event.getField .eventTime) = .ok (some time))
    (hingestion : parseIsoTimestamp platform (event.getField .ingestionTime) = .ok (some time))
    (hallowed : addMicros time bound.delta = .ok allowed) (hbeyond : bound.beyond time allowed = false) :
    Passes event (boundedTimeRule platform .eventTime bound) w ∧
      ((boundedTimeRule platform .eventTime bound).validate event w).2 = w := by
  refine ⟨?_, boundedTimeRule_state htime hingestion⟩
  rw [Passes, boundedTimeRule_of_some htime, referenceTime_eq, hingestion]
  change (ownResult _ event ((addMicros time bound.delta).map _)).passed = true
  rw [hallowed]
  change (if bound.beyond time allowed = true then _ else _ : ValidationResult).passed = true
  rw [hbeyond]
  rfl

/-- The other rules but for the one about schemas. -/
theorem allPass_otherDetectors_iff {d : Dict}
    (hevent : QualityEvent.fromDict platform.unicode d = .ok event)
    (hversion : NamesSchema platform event) (hschemas : w.1.schemas = .loaded)
    (htime : parseIsoTimestamp platform (given d .eventTime) = .ok (some time))
    (hingestion : parseIsoTimestamp platform (given d .ingestionTime) = .ok (some time))
    (hpunctual : Punctual time time) :
    AllPass event (otherDetectors platform) w ↔
      ∀ x, (given d .amount).toFloat platform.unicode = .ok x → ¬(500000 : Float) < x := by
  rw [← QualityEvent.getField_of_fromDict _ hevent (by decide)] at htime hingestion
  obtain ⟨⟨latest, hlatest, hle⟩, earliest, hearliest⟩ := hpunctual
  have hearly : earliest ≤ time := by
    rw [addMicros_eq hearliest]
    exact add_le_of_nonpos_right (by decide)
  have himpossible := tolerates_impossibleAmountRule_iff (w := w)
    (QualityEvent.getField_amount _ hevent)
  obtain ⟨hfuture, hfutureState⟩ : Passes event (futureTimestampRule platform) w ∧
      ((futureTimestampRule platform).validate event w).2 = w :=
    passes_boundedTimeRule htime hingestion hlatest (decide_eq_false (not_lt.mpr hle))
  obtain ⟨hlate, hlateState⟩ : Passes event (lateEventRule platform) w ∧
      ((lateEventRule platform).validate event w).2 = w :=
    passes_boundedTimeRule htime hingestion hearliest (decide_eq_false (not_lt.mpr hearly))
  obtain ⟨hdrift, -⟩ := schemaDriftRule_of_namesSchema hversion hschemas
  have hstate : ((impossibleAmountRule platform.unicode).validate event w).2 = w := rfl
  rw [← himpossible, ← strict_passes_iff (strict_impossibleAmountRule _), otherDetectors, AllPass,
    hstate]
  refine and_iff_left ⟨hfuture, ?_⟩
  rw [hfutureState]
  refine ⟨hlate, ?_⟩
  rw [hlateState]
  exact ⟨hdrift, trivial⟩

/-- An event that is ingested at its own time passes when its fields do and it is not recalled. -/
theorem allPass_iff_of_simultaneous {d : Dict}
    (hevent : QualityEvent.fromDict platform.unicode d = .ok event)
    (hversion : NamesSchema platform event)
    (hcoherent : SchemaRegistry.Coherent platform.schemaFiles w.1.schemas)
    (htime : parseIsoTimestamp platform (given d .eventTime) = .ok (some time))
    (hingestion : parseIsoTimestamp platform (given d .ingestionTime) = .ok (some time))
    (hpunctual : Punctual time time) :
    AllPass event (defaultRules platform) w ↔
      (Presentable platform d ∧
        ∀ x, (given d .amount).toFloat platform.unicode = .ok x → ¬(500000 : Float) < x) ∧
      ¬Repeats platform.unicode event w.1 := by
  -- whatever schemas have been cached, the verdict is that of a registry fresh from its directory
  let w' : EngineWorld := ({ (askedBoth platform.unicode event w).1 with schemas := .loaded }, w.2)
  have halike : AlikeWorlds platform.schemaFiles (askedBoth platform.unicode event w) w' := by
    refine ⟨rfl, rfl, ?_, coherent_loaded _⟩
    change SchemaRegistry.Coherent _ (DuplicateKind.orders.asked _ event _).schemas
    rw [schemas_asked, schemas_asked]
    exact hcoherent
  have hunaware : ∀ rule ∈ valueRules platform ++ otherDetectors platform,
      Unaware platform.schemaFiles rule := by
    intro rule hrule
    obtain hrule | hrule := List.mem_append.mp hrule
    · exact unaware_valueRules hrule
    · exact unaware_otherDetectors hrule
  have hvalue := (@allPass_stateless event (valueRules platform) w' w'
    fun rule hrule => stateless_valueRules hrule event).2
  rw [allPass_defaultRules_iff hcoherent, FailsOther, not_not, (allPass_alike hunaware halike).1,
    allPass_append, hvalue, allPass_valueRules_iff hevent,
    allPass_otherDetectors_iff hevent hversion rfl htime hingestion hpunctual]

end

/-! ## What is remembered of an event -/

section

variable {platform : Platform} {event : QualityEvent} {rule : QualityRule EngineWorld}

theorem otherDetectors_keep (hrule : rule ∈ otherDetectors platform) (w : EngineWorld) :
    (rule.validate event w).2.1.clock = w.1.clock ∧
      ∀ kind : DuplicateKind, kind.seen.get (rule.validate event w).2.1 = kind.seen.get w.1 := by
  have hbounded (bound : TimeBound) : let w' :=
      ((boundedTimeRule platform .eventTime bound).validate event w).2
      w'.1.clock = w.1.clock ∧ ∀ kind : DuplicateKind, kind.seen.get w'.1 = kind.seen.get w.1 := by
    rcases hparse : parseIsoTimestamp platform (event.getField .eventTime) with e | _ | time
    · rw [boundedTimeRule_of_error hparse]
      exact ⟨rfl, fun kind => rfl⟩
    · obtain ⟨r, -, hr⟩ := boundedTimeRule_of_none (w := w) hparse
      rw [hr]
      exact ⟨rfl, fun kind => rfl⟩
    · rw [boundedTimeRule_of_some hparse, referenceTime_eq]
      rcases parseIsoTimestamp platform (event.getField .ingestionTime) with e | _ | ingestion
      · exact ⟨rfl, fun kind => rfl⟩
      · exact ⟨rfl, fun kind => kind.get_read w.1⟩
      · exact ⟨rfl, fun kind => rfl⟩
  simp only [otherDetectors, List.mem_cons, List.not_mem_nil, or_false] at hrule
  obtain rfl | rfl | rfl | rfl := hrule
  · exact ⟨rfl, fun kind => rfl⟩
  · exact hbounded (futureBound 30)
  · exact hbounded (lateBound 120)
  · obtain ⟨⟨clock, reads, events, orders, schemas⟩, collector⟩ := w
    exact ⟨rfl, fun kind => by cases kind <;> rfl⟩

/-- The default rules remember the ids of the event at most. -/
theorem afterRules_keep (w : EngineWorld) :
    (afterRules event (defaultRules platform) w).1.clock = w.1.clock ∧
      ∀ kind : DuplicateKind, ∀ p ∈ kind.seen.get (afterRules event (defaultRules platform) w).1,
        p ∈ kind.seen.get w.1 ∨ kind.idOf platform.unicode event = some p.1 := by
  have hvalue := (@allPass_stateless event (valueRules platform) w w fun rule hrule =>
    stateless_valueRules hrule event).2
  set w₁ := ((DuplicateKind.events.rule platform.unicode 300).validate event w).2 with hw₁
  set w₂ := ((DuplicateKind.orders.rule platform.unicode 300).validate event w₁).2 with hw₂
  have hasks₁ := (DuplicateKind.events.rule_passes_iff platform.unicode event w).2
  have hasks₂ := (DuplicateKind.orders.rule_passes_iff platform.unicode event w₁).2
  have hsplit : afterRules event (defaultRules platform) w =
      afterRules event (otherDetectors platform) w₂ := by
    rw [defaultRules_eq]
    unfold afterRules at hvalue ⊢
    rw [List.foldl_append, hvalue]
    rfl
  have hothers (rules : List (QualityRule EngineWorld)) (hrules : ∀ r ∈ rules, r ∈ otherDetectors platform)
      (v : EngineWorld) : (afterRules event rules v).1.clock = v.1.clock ∧
        ∀ kind : DuplicateKind, kind.seen.get (afterRules event rules v).1 = kind.seen.get v.1 := by
    induction rules generalizing v with
    | nil => exact ⟨rfl, fun kind => rfl⟩
    | cons rule rules ih =>
      obtain ⟨hclock, hseen⟩ := otherDetectors_keep (hrules rule List.mem_cons_self) v
      obtain ⟨hclock', hseen'⟩ := ih (fun r hr => hrules r (List.mem_cons_of_mem _ hr))
        (rule.validate event v).2
      exact ⟨hclock'.trans hclock, fun kind => (hseen' kind).trans (hseen kind)⟩
  obtain ⟨hclock, hseen⟩ := hothers (otherDetectors platform) (fun r hr => hr) w₂
  rw [hsplit]
  refine ⟨hclock.trans (hasks₂.clock.trans hasks₁.clock), ?_⟩
  intro kind p hp
  rw [hseen] at hp
  cases kind with
  | events =>
    rw [hasks₂.others .events (by intro hkind; cases hkind)] at hp
    exact seen_rule .events platform.unicode event w p hp
  | orders =>
    have hbefore := seen_rule .orders platform.unicode event w₁ p hp
    rwa [hasks₁.others .orders (by intro hkind; cases hkind)] at hbefore

end

/-! ## The correction of an event -/

section

variable {platform : Platform} {u : Unicode} {ts id customer currency : Text} {amount : Json}

/-- What a correction has in its fields. -/
def correctedValue (ts id customer currency : Text) (amount : Json) : QualityField → Json
  | .eventId => .str id
  | .eventTime => .str ts
  | .customerId => .str customer
  | .sessionId => .str (text "sess_" ++ customer)
  | .orderId => .str (text "ord_" ++ id)
  | .productId => .str "prod_100"
  | .quantity => .int 1
  | .unitPrice => amount
  | .amount => amount
  | .currency => .str currency
  | .paymentMethod => .str "credit_card"
  | .paymentStatus => .str "SUCCESS"
  | .device => .str "desktop"
  | .country => .str "IN"
  | .source => .str "icestream_web"
  | .sourceVersion => .str "v1.0"
  | .ingestionTime => .str ts

theorem given_makeValid (f : QualityField) :
    given (makeValidCheckoutEvent u ts (.str id) customer amount currency) f =
      correctedValue ts id customer currency amount f := by
  cases f <;> rfl

/-- A text that begins with a letter other than `n` is not blank. -/
theorem populated_of_head {c : CodePoint} {rest : Text} (hspace : isSpace c = false)
    (hc : lower [c] ≠ text "n") : Populated (.str (c :: rest)) := by
  constructor
  · intro h
    cases h
  · intro s hs
    obtain rfl := Json.str.inj hs
    obtain ⟨rest', hstrip⟩ := strip_cons hspace rest
    rw [hstrip]
    refine ⟨List.cons_ne_nil _ _, ?_⟩
    intro hnone
    apply hc
    exact congrArg (List.take 1) hnone

theorem not_onlyDecimal_repaired (u : Unicode) (amount : Json) :
    ¬OnlyDecimal u (LocalSourceAdapter.repairedAmount amount) := by
  rintro ⟨s, e, n, hs, -⟩
  unfold LocalSourceAdapter.repairedAmount at hs
  split at hs
  · cases hs
  · split_ifs at hs
  · split_ifs at hs
  · cases hs

theorem populated_repaired (amount : Json) : Populated (LocalSourceAdapter.repairedAmount amount) := by
  have hnumber {v : Json} (hnull : v ≠ .null) (hstr : ∀ s, v ≠ .str s) : Populated v :=
    ⟨hnull, fun s hs => absurd hs (hstr s)⟩
  apply hnumber
  · intro hnull
    unfold LocalSourceAdapter.repairedAmount at hnull
    split at hnull
    · cases hnull
    · split_ifs at hnull
    · split_ifs at hnull
    · cases hnull
  · intro s hs
    unfold LocalSourceAdapter.repairedAmount at hs
    split at hs
    · cases hs
    · split_ifs at hs
    · split_ifs at hs
    · cases hs

theorem repairedCurrency_mem (currency : Json) :
    ∃ s ∈ currencies, LocalSourceAdapter.repairedCurrency currency = text s := by
  unfold LocalSourceAdapter.repairedCurrency
  cases currency with
  | str c =>
    dsimp only
    by_cases hc : [text "INR", text "USD", text "EUR"].contains c = true
    · rw [if_pos hc]
      have hmem : c ∈ currencies.map text := List.contains_iff_mem.mp hc
      obtain ⟨s, hs, hshown⟩ := List.mem_map.mp hmem
      exact ⟨s, hs, hshown.symm⟩
    · rw [if_neg hc]
      exact ⟨"INR", List.mem_cons_self, rfl⟩
  | _ => exact ⟨"INR", List.mem_cons_self, rfl⟩

end

/-! ## What can be mended -/

namespace LocalSourceAdapter

/-- The id of the customer, as the correction has it. -/
def repairedCustomer (u : Unicode) (failed : Dict) : Text :=
  ((failed.getD "customer_id" .null).orElse (.str "cust_repaired_001")).toText u

/-- The correction of a failed event. -/
def correction (u : Unicode) (incidentId ts : Text) (failed : Dict) : Dict :=
  makeValidCheckoutEvent u ts (.str (repairedId u incidentId failed)) (repairedCustomer u failed)
    (repairedAmount (failed.getD "amount" .null)) (repairedCurrency (failed.getD "currency" .null))

theorem repaired_obj (u : Unicode) (incidentId ts : Text) (failed : Dict) :
    repaired u incidentId ts (.obj failed) = .ok (correction u incidentId ts failed) := rfl

/-- The ids are more than blanks, and the amount is not beyond the limit. -/
structure Mendable (u : Unicode) (incidentId : Text) (failed : Dict) : Prop where
  id : Populated (.str (repairedId u incidentId failed))
  customer : Populated (.str (repairedCustomer u failed))
  amount : ∃ x, (repairedAmount (failed.getD "amount" .null)).toFloat u = .ok x ∧ Within 500000 x

/-- The amount is not an integer beyond all floats. -/
def Floats (failed : Dict) : Prop :=
  ∀ i e, failed.getD "amount" .null = .int i → floatOfInt i ≠ .error e

/-- A clock shows the time as `datetime.now(timezone.utc)` does, and not that of the first two
minutes nor that of the last thirty seconds of all. -/
def ShowsTime (ts : Text) (time : Instant) : Prop :=
  ∃ dt : DateTime, ts = text dt.isoformat ∧ dt.offset = some 0 ∧ dt.wall = time ∧ Punctual time time

section

variable {platform : Platform} {incidentId ts : Text} {failed : Dict} {time : Instant}
  {event : QualityEvent} {w : EngineWorld}

theorem ShowsTime.parsed (h : ShowsTime ts time) (platform : Platform) :
    parseIsoTimestamp platform (.str ts) = .ok (some time) := by
  obtain ⟨dt, hts, hoffset, htime, -⟩ := h
  rw [hts, ← htime]
  exact parseIsoTimestamp_isoformat platform hoffset

theorem ShowsTime.isTimestamp (h : ShowsTime ts time) : IsTimestamp (.str ts) := by
  obtain ⟨dt, hts, hoffset, -⟩ := h
  rw [hts]
  exact ⟨_, dt, rfl, (readTimestamp_isoformat hoffset).2⟩

theorem ShowsTime.punctual (h : ShowsTime ts time) : Punctual time time := by
  obtain ⟨dt, -, -, -, hpunctual⟩ := h
  exact hpunctual

theorem given_correction (u : Unicode) (f : QualityField) : given (correction u incidentId ts failed) f =
    correctedValue ts (repairedId u incidentId failed) (repairedCustomer u failed)
      (repairedCurrency (failed.getD "currency" .null))
      (repairedAmount (failed.getD "amount" .null)) f :=
  given_makeValid f

/-- A correction is made an event of. -/
theorem exists_event (u : Unicode) (h : Floats failed) :
    ∃ event, QualityEvent.fromDict u (correction u incidentId ts failed) = .ok event := by
  cases hevent : QualityEvent.fromDict u (correction u incidentId ts failed) with
  | ok event => exact ⟨event, rfl⟩
  | error e =>
    have hamount {i : ℤ} {e : Exc} (hint : repairedAmount (failed.getD "amount" .null) = .int i) :
        floatOfInt i ≠ .error e := by
      apply h
      cases hv : failed.getD "amount" .null with
      | int j =>
        rw [hv, repairedAmount] at hint
        split_ifs at hint
        exact hint
      | bool b =>
        rw [hv] at hint
        cases b <;> cases hint
      | float x =>
        rw [hv, repairedAmount] at hint
        split_ifs at hint
      | _ =>
        rw [hv] at hint
        cases hint
    obtain ⟨x, hx, -⟩ | ⟨f, hf, i, e', hint, herror⟩ :=
      (QualityEvent.fromDict_error_iff u _).mp ⟨e, hevent⟩
    · rw [given_correction] at hx
      cases hx
    · rw [given_correction] at hint
      rw [List.mem_cons, List.mem_singleton] at hf
      obtain rfl | rfl := hf
      · exact absurd herror (hamount hint)
      · exact absurd herror (hamount hint)

theorem presentable_correction_iff (h : ShowsTime ts time) :
    (Presentable platform (correction platform.unicode incidentId ts failed) ∧
      ∀ x, (given (correction platform.unicode incidentId ts failed) .amount).toFloat
        platform.unicode = .ok x → ¬(500000 : Float) < x) ↔
      Mendable platform.unicode incidentId failed := by
  have honly := not_onlyDecimal_repaired platform.unicode (failed.getD "amount" .null)
  have hamount := amount_iff platform.unicode (repairedAmount (failed.getD "amount" .null))
  rw [or_iff_left honly, or_iff_left honly] at hamount
  constructor
  · rintro ⟨hpresentable, hlimit⟩
    have hpositive := hpresentable.amount
    rw [given_correction, correctedValue] at hpositive hlimit
    constructor
    case id =>
      have hid := hpresentable.populated .eventId (by decide)
      rwa [given_correction] at hid
    case customer =>
      have hcustomer := hpresentable.populated .customerId (by decide)
      rwa [given_correction] at hcustomer
    case amount => exact hamount.mp ⟨hpositive.resolve_right honly, hlimit⟩
  · intro hmendable
    obtain ⟨hpositive, hlimit⟩ := hamount.mpr hmendable.amount
    refine ⟨?_, by rwa [given_correction]⟩
    have htext := populated_of_parsed (h.parsed platform)
    constructor
    case populated =>
      intro f hf
      rw [given_correction]
      cases f with
      | eventId => exact hmendable.id
      | eventTime => exact htext
      | customerId => exact hmendable.customer
      | sessionId => exact populated_of_head (by decide) (by decide)
      | orderId => exact populated_of_head (by decide) (by decide)
      | amount => exact populated_repaired _
      | currency =>
        obtain ⟨s, hs, hshown⟩ := repairedCurrency_mem (failed.getD "currency" .null)
        rw [correctedValue, hshown]
        have hall : ∀ s ∈ currencies, isNull (.str (text s)) = false := by decide
        exact populated_text (hall s hs)
      | ingestionTime => exact htext
      | productId => exact populated_text (by decide)
      | paymentMethod => exact populated_text (by decide)
      | paymentStatus => exact populated_text (by decide)
      | device => exact populated_text (by decide)
      | country => exact populated_text (by decide)
      | sourceVersion => exact populated_text (by decide)
      | quantity => exact absurd hf (by decide)
      | unitPrice => exact absurd hf (by decide)
      | source => exact absurd hf (by decide)
    case amount =>
      rw [given_correction]
      exact .inl hpositive
    case currency =>
      rw [given_correction]
      obtain ⟨s, hs, hshown⟩ := repairedCurrency_mem (failed.getD "currency" .null)
      exact ⟨s, hs, congrArg Json.str hshown⟩
    case paymentStatus =>
      rw [given_correction]
      exact ⟨"SUCCESS", by decide, rfl⟩
    case eventTime =>
      rw [given_correction]
      exact h.isTimestamp
    case ingestionTime =>
      rw [given_correction]
      exact h.isTimestamp

end

/-! ## Whether it passes -/

/-- What a detector looks an event up by whose id is `id`. -/
def lookedUp (id : Text) : DuplicateKind → Text
  | .events => id
  | .orders => text "ord_" ++ id

theorem lookedUp_injective (kind : DuplicateKind) : Function.Injective fun id => lookedUp id kind := by
  cases kind with
  | events => exact fun id id' h => h
  | orders => exact fun id id' h => List.append_cancel_left h

section

variable {platform : Platform} {incidentId ts : Text} {failed : Dict} {time : Instant}
  {event : QualityEvent} {w : EngineWorld}

theorem idOf_correction {u : Unicode} {id : Text} {kind : DuplicateKind}
    (hevent : QualityEvent.fromDict u (correction u incidentId ts failed) = .ok event)
    (hid : kind.idOf u event = some id) : id = lookedUp (repairedId u incidentId failed) kind := by
  obtain ⟨-, hshown⟩ := DuplicateKind.populated_of_idOf hid
  cases kind with
  | events =>
    rw [DuplicateKind.field, QualityEvent.value_of_fromDict _ hevent (by decide),
      given_correction] at hshown
    exact hshown.symm
  | orders =>
    rw [DuplicateKind.field, QualityEvent.value_of_fromDict _ hevent (by decide),
      given_correction] at hshown
    exact hshown.symm

/-- The version of a correction is a minor one of the baseline, which has no file of its own. -/
theorem namesSchema_correction
    (hevent : QualityEvent.fromDict platform.unicode
      (correction platform.unicode incidentId ts failed) = .ok event)
    (hfile : platform.schemaFiles "v1.0" = .ok none) : NamesSchema platform event := by
  have hfield : (event.getField .sourceVersion).orElse (event.value .sourceVersion) =
      .str "v1.0" := by
    rw [QualityEvent.getField_of_fromDict _ hevent (by decide),
      QualityEvent.value_of_fromDict _ hevent (by decide), given_correction]
    rfl
  have hversion : SchemaDriftRule.providedVersion platform.unicode event = some (text "v1.0") := by
    rw [SchemaDriftRule.providedVersion, hfield]
    change some (strip (text "v1.0")) = _
    exact congrArg some (by decide)
  have hminor : SchemaRegistry.find platform.schemaFiles "v1.0" .loaded = (.ok none, .loaded) := by
    have hlookup : SchemaRegistry.loaded.schemas.lookup (text "v1.0") = none := by rfl
    simp only [SchemaRegistry.find, hlookup, hfile]
  have hget : SchemaRegistry.get platform.schemaFiles "v1.0" .loaded = (.ok v1, .loaded) := by
    rw [SchemaRegistry.get, Fallible.bind_ok hminor]
    rfl
  exact ⟨text "v1.0", v1, hversion, by decide, hget, by decide +kernel⟩

/-- No detector keeps an id of the correction. -/
def Fresh (u : Unicode) (incidentId : Text) (v : RuleWorld) (failed : Dict) : Prop :=
  ∀ kind : DuplicateKind, ∀ p ∈ kind.seen.get v,
    p.1 ≠ lookedUp (repairedId u incidentId failed) kind

theorem not_repeats (hstarted : Started w.1)
    (hevent : QualityEvent.fromDict platform.unicode
      (correction platform.unicode incidentId ts failed) = .ok event)
    (hfresh : Fresh platform.unicode incidentId w.1 failed) :
    ¬Repeats platform.unicode event w.1 := by
  rw [Repeats, not_or]
  constructor
  · apply not_recalls hstarted
    intro p hp hid
    exact hfresh .events p hp (idOf_correction hevent hid)
  · apply not_recalls
    · intro n
      rw [clock_asked]
      exact hstarted n
    · intro p hp hid
      rw [get_asked] at hp
      exact hfresh .orders p hp (idOf_correction hevent hid)

/-- What an engine needs to be like for its verdict on corrections. -/
structure Able (platform : Platform) (w : EngineWorld) : Prop where
  started : Started w.1
  coherent : SchemaRegistry.Coherent platform.schemaFiles w.1.schemas

/-- A correction passes just in case its event can be mended, and is remembered by its ids. -/
theorem validate_correction (hfile : platform.schemaFiles "v1.0" = .ok none) (hable : Able platform w)
    (hshows : ShowsTime ts time) (hfloats : Floats failed)
    (hfresh : Mendable platform.unicode incidentId failed →
      Fresh platform.unicode incidentId w.1 failed) :
    ∃ summary w', validate platform (correction platform.unicode incidentId ts failed) w =
        (.ok summary, w') ∧
      (summary.failedRules = 0 ↔ Mendable platform.unicode incidentId failed) ∧
      Able platform w' ∧ ∀ kind : DuplicateKind, ∀ p ∈ kind.seen.get w'.1,
        p ∈ kind.seen.get w.1 ∨ p.1 = lookedUp (repairedId platform.unicode incidentId failed) kind := by
  set d := correction platform.unicode incidentId ts failed with hd
  obtain ⟨event, hevent⟩ : ∃ event, QualityEvent.fromDict platform.unicode d = .ok event :=
    exists_event platform.unicode hfloats
  obtain ⟨e, herror, -⟩ | ⟨event', summary, c, hevent', hvalidate, hsummary⟩ :=
    validate_eq platform d w
  · rw [hevent] at herror
    cases herror
  obtain rfl := Except.ok.inj (hevent.symm.trans hevent')
  have htime : parseIsoTimestamp platform (given d .eventTime) = .ok (some time) := by
    rw [hd, given_correction]
    exact hshows.parsed platform
  have hingestion : parseIsoTimestamp platform (given d .ingestionTime) = .ok (some time) := by
    rw [hd, given_correction]
    exact hshows.parsed platform
  rw [htime] at hvalidate
  obtain ⟨hclock, hseen⟩ := @afterRules_keep platform event w
  have hcoherent := coherent_validate d hable.coherent
  rw [hvalidate] at hcoherent
  refine ⟨summary, _, hvalidate, ?_, ⟨?_, hcoherent⟩, ?_⟩
  · rw [hsummary, allPass_iff_of_simultaneous hevent (namesSchema_correction hevent hfile)
      hable.coherent htime hingestion hshows.punctual, presentable_correction_iff hshows]
    exact and_iff_left_of_imp fun h => not_repeats hable.started hevent (hfresh h)
  · intro n
    change ∃ cutoff, addMicros ((afterRules event (defaultRules platform) w).1.clock n) _ = .ok cutoff
    rw [hclock]
    exact hable.started n
  · intro kind p hp
    exact (hseen kind p hp).imp_right fun hid => idOf_correction hevent hid

end

/-! ## A whole batch of corrections -/

/-- The corrections of failed events, of which the first is made at the `n`-th reading of the
clock. -/
def corrections (u : Unicode) (clock : ℕ → Text) (incidentId : Text) : ℕ → List Dict → List Dict
  | _, [] => []
  | n, failed :: rest =>
    correction u incidentId (clock n) failed :: corrections u clock incidentId (n + 1) rest

theorem repairAll_obj (u : Unicode) (clock : ℕ → Text) (incidentId : Text) (n : ℕ)
    (fs : List Dict) :
    repairAll u clock incidentId n (fs.map Json.obj) = .ok (corrections u clock incidentId n fs) := by
  induction fs generalizing n with
  | nil => rfl
  | cons failed rest ih =>
    rw [List.map_cons, repairAll, repaired_obj, ih]
    rfl

theorem corrections_eq_nil {u : Unicode} {clock : ℕ → Text} {incidentId : Text} {n : ℕ}
    {fs : List Dict} : corrections u clock incidentId n fs = [] ↔ fs = [] := by
  cases fs with
  | nil => exact iff_of_true rfl rfl
  | cons failed rest => exact iff_of_false (List.cons_ne_nil _ _) (List.cons_ne_nil _ _)

/-- Without fixtures for them, failed events are fetched as their corrections. -/
theorem fetchForRecovery_corrections {u : Unicode} {clock : ℕ → Text} {a : LocalSourceAdapter}
    {ctx : RecoveryContext} {fs : List Dict}
    (hfixtures : ctx.eventIds.iter.bind a.matchFixtures = .ok [])
    (hfailed : ctx.failedEvents = .arr (fs.map Json.obj)) (hsome : fs ≠ []) :
    a.fetchForRecovery u clock ctx = .ok (corrections u clock ctx.incidentId.val 0 fs) := by
  have hnonempty : (corrections u clock ctx.incidentId.val 0 fs).isEmpty = false :=
    List.isEmpty_eq_false_iff.mpr (mt corrections_eq_nil.mp hsome)
  have htruthy : (Json.arr (fs.map Json.obj)).truthy = true := by
    cases fs with
    | nil => exact absurd rfl hsome
    | cons failed rest => rfl
  cases hids : ctx.eventIds.iter with
  | error e =>
    rw [hids] at hfixtures
    cases hfixtures
  | ok ids =>
    rw [hids] at hfixtures
    have hmatched : a.matchFixtures ids = .ok [] := hfixtures
    have hiter : (Json.arr (fs.map Json.obj)).iter = .ok (fs.map Json.obj) := rfl
    rw [fetchForRecovery, hids, hfailed, htruthy, hiter]
    change (a.matchFixtures ids).bind _ = _
    rw [hmatched]
    change (repairAll u clock ctx.incidentId.val 0 (fs.map Json.obj)).bind _ = _
    rw [repairAll_obj]
    change Except.ok (if (if _ then _ else _ : List Dict).isEmpty = true then _ else _) = _
    rw [hnonempty]
    change Except.ok (if (corrections u clock ctx.incidentId.val 0 fs).isEmpty = true then _ else _) = _
    rw [hnonempty]
    rfl

/-- The failed events of an incident: a reprocessor has seen none of their ids, nor does an event
that can be mended have the id of an earlier one. -/
structure Novel (u : Unicode) (incidentId : Text) (v : RuleWorld) (fs : List Dict) : Prop where
  floats : ∀ failed ∈ fs, Floats failed
  fresh : ∀ failed ∈ fs, Mendable u incidentId failed → Fresh u incidentId v failed
  distinct : fs.Pairwise fun earlier failed =>
    Mendable u incidentId failed → repairedId u incidentId earlier ≠ repairedId u incidentId failed

section

variable {platform : Platform} {incidentId : Text} {clock : ℕ → Text} {w : EngineWorld}

/-- Of a batch of corrections those of the events that can be mended pass, and no others. -/
theorem judge_corrections (hfile : platform.schemaFiles "v1.0" = .ok none)
    (hshows : ∀ n, ∃ time, ShowsTime (clock n) time) (n : ℕ) (fs : List Dict)
    (hable : Able platform w) (hnovel : Novel platform.unicode incidentId w.1 fs) :
    List.Forall₂ (fun failed v => v.2 = true ↔ Mendable platform.unicode incidentId failed) fs
        (judge platform w (corrections platform.unicode clock incidentId n fs)) ∧
      (judge platform w (corrections platform.unicode clock incidentId n fs)).map Prod.fst =
        corrections platform.unicode clock incidentId n fs := by
  -- the engine remembers more and more, but only ids of the events that came before
  induction fs generalizing n w with
  | nil => exact ⟨.nil, rfl⟩
  | cons failed rest ih =>
    obtain ⟨hfloats, hfresh, hdistinct⟩ := hnovel
    obtain ⟨hbefore, hlater⟩ := List.pairwise_cons.mp hdistinct
    obtain ⟨time, htime⟩ := hshows n
    obtain ⟨summary, w', hvalidate, hpassed, hable', hseen⟩ := validate_correction hfile hable htime
      (hfloats failed List.mem_cons_self) (hfresh failed List.mem_cons_self)
    have hnovel' : Novel platform.unicode incidentId w'.1 rest := by
      refine ⟨fun f hf => hfloats f (List.mem_cons_of_mem _ hf), ?_, hlater⟩
      intro f hf hmendable kind p hp
      rcases hseen kind p hp with hold | hnew
      · exact hfresh f (List.mem_cons_of_mem _ hf) hmendable kind p hold
      · rw [hnew]
        exact fun hsame => hbefore f hf hmendable (lookedUp_injective kind hsame)
    obtain ⟨hverdicts, hcovered⟩ := ih (n + 1) hable' hnovel'
    rw [corrections, judge, hvalidate]
    constructor
    · refine .cons ?_ hverdicts
      rw [← hpassed]
      exact beq_iff_eq
    · rw [List.map_cons]
      exact congrArg _ hcovered

end

end LocalSourceAdapter

/-! ## The reprocessor on what is fetched -/

section

variable {κ : Type} {platform : Platform}
  {writer : Option (Dict → List Text → Fallible κ Dict)}

/-- A reprocessor whose engine judges all of the events comes to the end of them. -/
theorem processAll_ok (incidentId : IncidentId) (attemptNumber : ℕ) (events : List Dict)
    (result : ReprocessResult) (w : EngineWorld) (k : κ)
    (hall : (judge platform w events).map Prod.fst = events) : ∃ result' s',
      (defaultReprocessor platform writer).processAll incidentId attemptNumber result events (w, k) =
        (.ok result', s') := by
  set r := defaultReprocessor platform writer with hr
  induction events generalizing result w k with
  | nil => exact ⟨result, (w, k), rfl⟩
  | cons event events ih =>
    rcases hvalidate : validate platform event w with ⟨e | summary, w'⟩
    · rw [judge, hvalidate] at hall
      cases hall
    · rw [judge, hvalidate, List.map_cons] at hall
      have hvalidated : r.validateWithSummary event (w, k) = (.ok summary, (w', k)) := by
        simp only [hr, defaultReprocessor, hvalidate]
      obtain ⟨result', k', hevent⟩ : ∃ result' k',
          r.processEvent incidentId attemptNumber result event (w, k) = (.ok result', (w', k')) := by
        rw [Reprocessor.processEvent, Fallible.bind_ok hvalidated]
        by_cases hpass : summary.failedRules = 0
        · rw [if_pos hpass]
          exact ⟨_, k, rfl⟩
        · obtain ⟨results, s', hquarantine, hlogged⟩ := r.quarantine_logged event summary (w', k) []
          obtain ⟨results', k', hlogged'⟩ :=
            @quarantine_engine _ platform writer event summary w' k []
          have hs : s' = (w', k') := congrArg (fun x => x.2.1) (hlogged.symm.trans hlogged')
          rw [if_neg hpass, Fallible.bind_ok hquarantine, hs]
          exact ⟨_, k', rfl⟩
      obtain ⟨result'', s'', hrest⟩ := ih result' w' k' (List.cons.inj hall).2
      refine ⟨result'', s'', ?_⟩
      rw [Reprocessor.processAll, Fallible.bind_ok hevent, hrest]

/-- Such a reprocessor returns a result, which reports the verdicts. -/
theorem process_ok (incidentId : IncidentId) (attemptNumber : ℕ) {events : List Dict}
    {w : EngineWorld} {k : κ} (hsome : events ≠ [])
    (hall : (judge platform w events).map Prod.fst = events) : ∃ result s',
      (defaultReprocessor platform writer).process events incidentId attemptNumber (w, k) =
        (.ok result, s') ∧
      result.totalProcessed = events.length ∧
      Reprocessor.Reports incidentId attemptNumber result (judge platform w events) := by
  obtain ⟨out, s', verdicts, hplain, hlogged, hend⟩ :=
    (defaultReprocessor platform writer).process_logged incidentId attemptNumber events (w, k)
  obtain ⟨k', hjudge⟩ := @process_judge _ platform writer incidentId attemptNumber events w k
  rw [hlogged] at hjudge
  obtain rfl : verdicts = judge platform w events := congrArg Prod.snd hjudge
  obtain ⟨result, s'', hrun⟩ := @processAll_ok _ platform writer incidentId attemptNumber events
    { totalProcessed := events.length } w k hall
  obtain ⟨result', hout⟩ : ∃ result', out = .ok result' := by
    rw [Reprocessor.process, if_neg (by rwa [List.isEmpty_iff]), Fallible.bind_ok hrun] at hplain
    exact ⟨_, (congrArg Prod.fst hplain).symm⟩
  obtain ⟨-, htotal, hreports, -⟩ := hend result' hout
  rw [hout] at hplain
  exact ⟨result', s', hplain, htotal, hreports⟩

theorem forall_iff_of_forall₂ {α β : Type} {P : α → Prop} {Q : β → Prop} {xs : List α}
    {ys : List β} (h : List.Forall₂ (fun x y => Q y ↔ P x) xs ys) :
    (∀ y ∈ ys, Q y) ↔ ∀ x ∈ xs, P x := by
  induction h with
  | nil => exact iff_of_true (List.forall_mem_nil _) (List.forall_mem_nil _)
  | cons hhead _ ih => rw [List.forall_mem_cons, List.forall_mem_cons, hhead, ih]

end

/-! ### An event without an id -/

/-- Whose amount has to be made up. -/
def sparse : Dict := [(text "event_id", .str (text "e1")), (text "customer_id", .str (text "c1"))]

/-- The id of its correction reads `None`. -/
def nameless : Dict := [(text "event_id", .null)]

theorem mendable_sparse (incidentId : Text) :
    LocalSourceAdapter.Mendable .ascii incidentId sparse where
  id := populated_text (s := "e1") (by decide)
  customer := populated_text (s := "c1") (by decide)
  amount := ⟨1499, rfl, unpack_limit.within (by decide +kernel) (by decide +kernel)⟩

theorem not_mendable_nameless (incidentId : Text) :
    ¬LocalSourceAdapter.Mendable .ascii incidentId nameless := by
  rintro ⟨⟨-, hid⟩, -, -⟩
  exact (hid (text "None") rfl).2 (by decide)

def namelessIncident : RecoveryContext :=
  .ofContext [(text "failed_events", .arr ([sparse, nameless].map Json.obj))] refetch.incidentId

theorem novel_nameless (incidentId : Text) : LocalSourceAdapter.Novel .ascii incidentId
    (constructed fun _ => newYear).1 [sparse, nameless] := by
  constructor
  case floats =>
    intro failed hfailed i e hint
    rw [List.mem_cons, List.mem_singleton] at hfailed
    obtain rfl | rfl := hfailed <;> cases hint
  case fresh =>
    intro failed _ _ kind p hp
    cases kind <;> cases hp
  case distinct =>
    refine .cons ?_ (List.pairwise_singleton _ _)
    intro failed hfailed hmendable
    obtain rfl := List.mem_singleton.mp hfailed
    exact absurd hmendable (not_mendable_nameless incidentId)

end IceStream.Remediation
