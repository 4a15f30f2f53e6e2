import IceStream.Metrics.Collector
import IceStream.Rules.Registry

/-!
# What stops an engine

A rule cannot. What stands around the rules can: the numbers of an event are converted before,
and its timestamp is read for the metrics after them.
-/

namespace IceStream
open Python Metrics

variable {φ : Type}

namespace QualityEngine

/-- What the engine makes of what came out of one rule. -/
def ownResult (rule : QualityRule φ) (event : QualityEvent) :
    Except Exc (Except String ValidationResult) → ValidationResult
  | .ok (.ok r) => r
  | .ok (.error typeName) => ruleFailure rule (event.value .eventId)
      (typeError (text "Rule " ++ rule.name ++ text s!" returned {typeName}, expected ValidationResult"))
  | .error e => ruleFailure rule (event.value .eventId) e

/-- The rules in order, each with the result of its own, in the state that those before it left. -/
inductive OneByOne (event : QualityEvent) :
    List (QualityRule φ) → φ → List ValidationResult → φ → Prop
  | nil (w : φ) : OneByOne event [] w [] w
  | cons (rule : QualityRule φ) {rules : List (QualityRule φ)} {w w' : φ}
      {results : List ValidationResult} (h : OneByOne event rules (rule.validate event w).2 results w') :
      OneByOne event (rule :: rules) w
        (ownResult rule event (rule.validate event w).1 :: results) w'

section

variable {event : QualityEvent} {rule : QualityRule φ} {rules : List (QualityRule φ)} {w w' : φ}
  {results : List ValidationResult}

theorem runRule_eq (event : QualityEvent) (rule : QualityRule φ) (w : φ) :
    runRule event rule w =
      (.ok (ownResult rule event (rule.validate event w).1), (rule.validate event w).2) := by
  rcases hvalidate : rule.validate event w with ⟨e | r | typeName, w₁⟩
  · exact runRule_of_error hvalidate
  · apply Fallible.catching_error
    rw [Fallible.bind_ok hvalidate]
    rfl
  · exact runRule_of_ok hvalidate

theorem oneByOne_of_runRules (h : runRules event rules w = (.ok results, w')) :
    OneByOne event rules w results w' := by
  induction rules generalizing w results with
  | nil =>
    cases h
    exact .nil _
  | cons rule rules ih =>
    obtain ⟨rest, w₁, hrest⟩ := runRules_total event rules (rule.validate event w).2
    rw [runRules, Fallible.bind_ok (runRule_eq event rule w), Fallible.bind_ok hrest] at h
    cases h
    exact .cons rule (ih hrest)

/-- There is one result for each rule. -/
theorem OneByOne.length_eq (h : OneByOne event rules w results w') :
    results.length = rules.length := by
  induction h with
  | nil w => rfl
  | cons rule h ih => rw [List.length_cons, List.length_cons, ih]

end

end QualityEngine

/-! ## Around the rules -/

theorem Float.isNaN_of_isInf {x : Float} (h : x.isInf = true) : x.isNaN = false := by
  have hnan : x.isNaN = x.toModel.unpack.isNaN := rfl
  have hinf : x.isInf = x.toModel.unpack.isInf := rfl
  rw [hinf] at h
  rw [hnan]
  cases hx : x.toModel.unpack with
  | infinity s => rfl
  | notANumber => rw [hx] at h; cases h
  | zero s => rfl
  | finite s m e hm => rfl

namespace QualityEvent

/-- A number that no `int` or no `float` is large enough for. -/
def TooLarge (d : Dict) : Prop :=
  (∃ x, given d .quantity = .float x ∧ x.isInf = true) ∨
    ∃ f ∈ ([.amount, .unitPrice] : List QualityField), ∃ i e,
      given d f = .int i ∧ floatOfInt i = .error e

section

variable (u : Unicode)

theorem intOfText_error {t : Text} {e : Exc} (h : intOfText u t = .error e) :
    e.isValueError = true := by
  unfold intOfText at h
  dsimp only at h
  split_ifs at h <;>
  · cases h
    rfl

theorem floatOfText_error {t : Text} {e : Exc} (h : floatOfText u t = .error e) :
    e.isValueError = true := by
  unfold floatOfText at h
  dsimp only at h
  split at h
  · cases h
  · cases h
    rfl

theorem floatOfInt_error {i : ℤ} {e : Exc} (h : floatOfInt i = .error e) :
    e.isValueError = false ∧ e.name = "OverflowError" := by
  unfold floatOfInt at h
  dsimp only at h
  split_ifs at h
  cases h
  exact ⟨rfl, rfl⟩

/-- An exception that is neither a `ValueError` nor a `TypeError` gets through. -/
theorem unlessUnconvertible_error_iff (v : Json) (converted : Except Exc Json) (e : Exc) :
    unlessUnconvertible v converted = .error e ↔
      converted = .error e ∧ e.isValueError = false ∧ e.name ≠ "TypeError" := by
  unfold unlessUnconvertible
  cases converted with
  | ok w => simp
  | error e' =>
    simp only [Except.error.injEq]
    by_cases hcaught : (e'.isValueError || e'.name == "TypeError") = true
    · rw [if_pos hcaught]
      simp only [Bool.or_eq_true, beq_iff_eq] at hcaught
      constructor
      · intro h
        cases h
      · rintro ⟨rfl, hvalue, hname⟩
        rw [hvalue] at hcaught
        simp [hname] at hcaught
    · rw [if_neg hcaught]
      simp only [Bool.or_eq_true, beq_iff_eq, not_or, Bool.not_eq_true] at hcaught
      constructor
      · intro h
        obtain rfl := Except.error.inj h
        exact ⟨rfl, hcaught⟩
      · intro h
        rw [h.1]

theorem convert_quantity_error_iff (v : Json) :
    (∃ e, convert u .quantity v = .error e) ↔ ∃ x, v = .float x ∧ x.isInf = true := by
  cases v with
  | float x =>
    have hconvert : convert u .quantity (.float x) =
        unlessUnconvertible (.float x) (((Json.float x).toInt u).map Json.int) := rfl
    rw [hconvert]
    by_cases hinf : x.isInf = true
    · have hint : (Json.float x).toInt u =
          .error (overflowError "cannot convert float infinity to integer") := by
        rw [Json.toInt, if_neg (by rw [Float.isNaN_of_isInf hinf]; decide), if_pos hinf]
      rw [hint]
      exact iff_of_true ⟨_, rfl⟩ ⟨x, rfl, hinf⟩
    · refine iff_of_false ?_ ?_
      · rintro ⟨e, he⟩
        obtain ⟨hconverted, hvalue, -⟩ := (unlessUnconvertible_error_iff _ _ e).mp he
        rw [Json.toInt] at hconverted
        split_ifs at hconverted
        · obtain rfl := Except.error.inj hconverted
          cases hvalue
        · cases hconverted
      · rintro ⟨y, hy, hinf'⟩
        obtain rfl := Json.float.inj hy
        exact hinf hinf'
  | str s =>
    refine iff_of_false ?_ (fun h => by cases h.choose_spec.1)
    rintro ⟨e, he⟩
    obtain ⟨hconverted, hvalue, -⟩ := (unlessUnconvertible_error_iff _ _ e).mp he
    change (intOfText u s).map Json.int = .error e at hconverted
    cases hint : intOfText u s with
    | ok i =>
      rw [hint] at hconverted
      cases hconverted
    | error e' =>
      rw [hint] at hconverted
      obtain rfl := Except.error.inj hconverted
      rw [intOfText_error u hint] at hvalue
      cases hvalue
  | _ => exact iff_of_false (fun h => by cases h.choose_spec) (fun h => by cases h.choose_spec.1)

theorem convert_float_error_iff {f : QualityField} (hf : f = .amount ∨ f = .unitPrice) (v : Json) :
    (∃ e, convert u f v = .error e) ↔ ∃ i e, v = .int i ∧ floatOfInt i = .error e := by
  have hsame : convert u f v = convert u .amount v := by
    obtain rfl | rfl := hf <;> cases v <;> rfl
  rw [hsame]
  cases v with
  | int i =>
    cases hfloat : floatOfInt i with
    | ok x =>
      refine iff_of_false ?_ ?_
      · rintro ⟨e, he⟩
        have hconverted := ((unlessUnconvertible_error_iff _ _ e).mp he).1
        rw [Json.toFloat, hfloat] at hconverted
        cases hconverted
      · rintro ⟨j, e, hj, he⟩
        obtain rfl := Json.int.inj hj
        rw [hfloat] at he
        cases he
    | error e =>
      refine iff_of_true ⟨e, ?_⟩ ⟨i, e, rfl, hfloat⟩
      obtain ⟨hvalue, hname⟩ := floatOfInt_error hfloat
      apply (unlessUnconvertible_error_iff _ _ e).mpr
      refine ⟨?_, hvalue, by rw [hname]; decide⟩
      rw [Json.toFloat, hfloat]
      rfl
  | str s =>
    refine iff_of_false ?_ (fun h => by cases h.choose_spec.choose_spec.1)
    rintro ⟨e, he⟩
    obtain ⟨hconverted, hvalue, -⟩ := (unlessUnconvertible_error_iff _ _ e).mp he
    change (floatOfText u s).map Json.float = .error e at hconverted
    cases hfloat : floatOfText u s with
    | ok i =>
      rw [hfloat] at hconverted
      cases hconverted
    | error e' =>
      rw [hfloat] at hconverted
      obtain rfl := Except.error.inj hconverted
      rw [floatOfText_error u hfloat] at hvalue
      cases hvalue
  | _ =>
    exact iff_of_false (fun h => by cases h.choose_spec)
      (fun h => by cases h.choose_spec.choose_spec.1)

/-- The event of a payload whose numbers have been converted. -/
def converted (d : Dict) (quantity amount unitPrice : Json) : QualityEvent where
  value
    | .quantity => quantity
    | .amount => amount
    | .unitPrice => unitPrice
    | f => given d f
  rawPayload := d

theorem fromDict_eq (d : Dict) : fromDict u d =
    (convert u .quantity (given d .quantity)).bind fun quantity =>
      (convert u .amount (given d .amount)).bind fun amount =>
        (convert u .unitPrice (given d .unitPrice)).map (converted d quantity amount) := by
  change (convert u .quantity (given d .quantity)).bind _ = _
  cases convert u .quantity (given d .quantity) with
  | error e => rfl
  | ok quantity =>
    change (convert u .amount (given d .amount)).bind _ = Except.bind _ _
    cases convert u .amount (given d .amount) with
    | error e => rfl
    | ok amount =>
      change (convert u .unitPrice (given d .unitPrice)).bind _ = Except.map _ _
      cases convert u .unitPrice (given d .unitPrice) with
      | error e => rfl
      | ok unitPrice => rfl

theorem fromDict_ok {d : Dict} {event : QualityEvent} (h : fromDict u d = .ok event) :
    ∃ quantity amount unitPrice, convert u .quantity (given d .quantity) = .ok quantity ∧
      convert u .amount (given d .amount) = .ok amount ∧
      convert u .unitPrice (given d .unitPrice) = .ok unitPrice ∧
      event = converted d quantity amount unitPrice := by
  rw [fromDict_eq] at h
  cases hquantity : convert u .quantity (given d .quantity) with
  | error e =>
    rw [hquantity] at h
    cases h
  | ok quantity =>
    cases hamount : convert u .amount (given d .amount) with
    | error e =>
      rw [hquantity, hamount] at h
      cases h
    | ok amount =>
      cases hprice : convert u .unitPrice (given d .unitPrice) with
      | error e =>
        rw [hquantity, hamount, hprice] at h
        cases h
      | ok unitPrice =>
        rw [hquantity, hamount, hprice] at h
        exact ⟨quantity, amount, unitPrice, rfl, rfl, rfl, (Except.ok.inj h).symm⟩

/-- The fields that are converted. -/
def numberFields : List QualityField := [.quantity, .amount, .unitPrice]

theorem value_of_fromDict {d : Dict} {event : QualityEvent} {f : QualityField}
    (h : fromDict u d = .ok event) (hf : f ∉ numberFields) : event.value f = given d f := by
  obtain ⟨quantity, amount, unitPrice, -, -, -, rfl⟩ := fromDict_ok u h
  cases f with
  | quantity => exact absurd (by decide) hf
  | amount => exact absurd (by decide) hf
  | unitPrice => exact absurd (by decide) hf
  | _ => rfl

theorem getField_of_fromDict {d : Dict} {event : QualityEvent} {f : QualityField}
    (h : fromDict u d = .ok event) (hf : f ∉ numberFields) : event.getField f = given d f := by
  have hpayload : event.rawPayload = d := by
    obtain ⟨quantity, amount, unitPrice, -, -, -, rfl⟩ := fromDict_ok u h
    rfl
  rw [getField, value_of_fromDict u h hf, hpayload]
  split
  · rfl
  · rfl

/-- How an amount that is not null is converted. -/
theorem convert_amount_eq {v : Json} (h : v ≠ .null) :
    convert u .amount v = unlessUnconvertible v ((v.toFloat u).map Json.float) := by
  cases v with
  | null => exact absurd rfl h
  | _ => rfl

/-- Only null becomes null. -/
theorem eq_null_of_convert_amount {v : Json} (h : convert u .amount v = .ok .null) : v = .null := by
  by_contra hv
  rw [convert_amount_eq u hv] at h
  cases hfloat : v.toFloat u with
  | ok x =>
    rw [hfloat] at h
    cases h
  | error e =>
    rw [hfloat] at h
    change (if e.isValueError || e.name == "TypeError" then Except.ok v else .error e) = _ at h
    split_ifs at h
    exact hv (Except.ok.inj h)

theorem getField_amount {d : Dict} {event : QualityEvent} (h : fromDict u d = .ok event) :
    convert u .amount (given d .amount) = .ok (event.getField .amount) := by
  obtain ⟨quantity, amount, unitPrice, -, hamount, -, rfl⟩ := fromDict_ok u h
  rw [hamount]
  cases amount with
  | null =>
    have hnull := eq_null_of_convert_amount u hamount
    exact congrArg Except.ok hnull.symm
  | _ => rfl

/-- An event is made of a payload unless one of its numbers is too large. -/
theorem fromDict_error_iff (d : Dict) : (∃ e, fromDict u d = .error e) ↔ TooLarge d := by
  have hquantity := convert_quantity_error_iff u (given d .quantity)
  have hamount := convert_float_error_iff u (f := .amount) (.inl rfl) (given d .amount)
  have hprice := convert_float_error_iff u (f := .unitPrice) (.inr rfl) (given d .unitPrice)
  unfold TooLarge
  rw [← hquantity]
  simp only [List.mem_cons, List.not_mem_nil, or_false, exists_eq_or_imp, exists_eq_left,
    ← hamount, ← hprice]
  rw [fromDict_eq]
  cases convert u .quantity (given d .quantity) with
  | error e => exact iff_of_true ⟨e, rfl⟩ (.inl ⟨e, rfl⟩)
  | ok quantity =>
    cases convert u .amount (given d .amount) with
    | error e => exact iff_of_true ⟨e, rfl⟩ (.inr (.inl ⟨e, rfl⟩))
    | ok amount =>
      cases convert u .unitPrice (given d .unitPrice) with
      | error e => exact iff_of_true ⟨e, rfl⟩ (.inr (.inr ⟨e, rfl⟩))
      | ok unitPrice =>
        refine iff_of_false ?_ ?_
        · rintro ⟨e, he⟩
          cases he
        · rintro (⟨e, he⟩ | ⟨e, he⟩ | ⟨e, he⟩) <;> cases he

end

end QualityEvent

namespace QualityEngine

/-- The timestamp of the event is read without an exception. -/
def Dated (platform : Platform) (d : Dict) : Prop :=
  ∃ time, parseIsoTimestamp platform (given d .eventTime) = .ok time

/-- The engine answers with one result for each enabled rule, in order, and each of its own. -/
def Isolates (platform : Platform) (registry : RuleRegistry EngineWorld) (d : Dict)
    (w : EngineWorld) : Prop :=
  ∃ event summary w₁ w₂, QualityEvent.fromDict platform.unicode d = .ok event ∧
    validateWithSummary platform.unicode (collectingEngine platform registry.rules) (.obj d) w =
      (.ok summary, w₂) ∧
    OneByOne event (registry.rules.filter QualityRule.enabled) w summary.results w₁

section

variable {platform : Platform} {registry : RuleRegistry EngineWorld} {d : Dict} {w : EngineWorld}

theorem Isolates.not_tooLarge (h : Isolates platform registry d w) : ¬QualityEvent.TooLarge d := by
  rw [← QualityEvent.fromDict_error_iff platform.unicode]
  obtain ⟨event, summary, w₁, w₂, hevent, -⟩ := h
  rintro ⟨e, he⟩
  rw [hevent] at he
  cases he

/-- What is left to do when the rules have run. -/
theorem validateWithSummary_eq {rules : List (QualityRule EngineWorld)} {event : QualityEvent}
    {results : List ValidationResult} {w₁ : EngineWorld}
    (hevent : QualityEvent.fromDict platform.unicode d = .ok event)
    (hrules : runRules event (rules.filter QualityRule.enabled) w = (.ok results, w₁)) :
    validateWithSummary platform.unicode (collectingEngine platform rules) (.obj d) w =
      (do
        onCollector (MetricsCollector.recordEvent platform
          (computeValidationSummary results (event.value .eventId)) (given d .eventTime))
        pure (computeValidationSummary results (event.value .eventId))) w₁ := by
  have htime : event.value .eventTime = given d .eventTime := by
    obtain ⟨quantity, amount, unitPrice, -, -, -, rfl⟩ := QualityEvent.fromDict_ok _ hevent
    rfl
  rw [← htime]
  simp only [validateWithSummary, hevent]
  exact Fallible.bind_ok hrules

/-- What becomes of a payload: the rules have run, and only the timestamp can stop the engine. -/
theorem validateWithSummary_of_event {rules : List (QualityRule EngineWorld)} {event : QualityEvent}
    {results : List ValidationResult} {w₁ : EngineWorld}
    (hevent : QualityEvent.fromDict platform.unicode d = .ok event)
    (hrules : runRules event (rules.filter QualityRule.enabled) w = (.ok results, w₁)) :
    ∃ c, validateWithSummary platform.unicode (collectingEngine platform rules) (.obj d) w =
      ((parseIsoTimestamp platform (given d .eventTime)).map fun _ =>
        computeValidationSummary results (event.value .eventId), w₁.1, c) := by
  set summary := computeValidationSummary results (event.value .eventId) with hsummary
  rcases hrun : MetricsCollector.recordEvent platform summary (given d .eventTime) w₁.2
    with ⟨answer, c⟩
  have hrecord : onCollector (MetricsCollector.recordEvent platform summary (given d .eventTime))
      w₁ = (answer, (w₁.1, c)) := by
    rw [onCollector, hrun]
  obtain rfl : answer = (parseIsoTimestamp platform (given d .eventTime)).map fun _ => () :=
    (congrArg Prod.fst hrun).symm.trans (MetricsCollector.recordEvent_answer _ _ summary w₁.2)
  refine ⟨c, ?_⟩
  rw [validateWithSummary_eq hevent hrules]
  cases hparse : parseIsoTimestamp platform (given d .eventTime) with
  | error e =>
    rw [hparse] at hrecord
    exact Fallible.bind_error hrecord
  | ok time =>
    rw [hparse] at hrecord
    exact Fallible.bind_ok hrecord

theorem Isolates.dated (h : Isolates platform registry d w) : Dated platform d := by
  obtain ⟨event, summary, w₁, w₂, hevent, hok, -⟩ := h
  obtain ⟨results, w₁, hrules⟩ :=
    runRules_total event (registry.rules.filter QualityRule.enabled) w
  obtain ⟨c, hvalidate⟩ := validateWithSummary_of_event hevent hrules
  rw [hvalidate] at hok
  cases hparse : parseIsoTimestamp platform (given d .eventTime) with
  | error e =>
    rw [hparse] at hok
    cases hok
  | ok time => exact ⟨time, hparse⟩

theorem isolates_of_dated (hlarge : ¬QualityEvent.TooLarge d) (hdated : Dated platform d) :
    Isolates platform registry d w := by
  cases hevent : QualityEvent.fromDict platform.unicode d with
  | error e =>
    exact absurd ((QualityEvent.fromDict_error_iff platform.unicode d).mp ⟨e, hevent⟩) hlarge
  | ok event =>
    obtain ⟨results, w₁, hrules⟩ :=
      runRules_total event (registry.rules.filter QualityRule.enabled) w
    obtain ⟨c, hvalidate⟩ := validateWithSummary_of_event hevent hrules
    obtain ⟨time, hparse⟩ := hdated
    refine ⟨event, computeValidationSummary results (event.value .eventId), w₁, (w₁.1, c), hevent,
      ?_, oneByOne_of_runRules hrules⟩
    rw [hvalidate, hparse]
    rfl

end

/-- Whatever the rules, the engine isolates them just in case no number of the payload is too
large and its timestamp can be read without an exception. -/
theorem isolates_iff (platform : Platform) (registry : RuleRegistry EngineWorld) (d : Dict)
    (w : EngineWorld) :
    Isolates platform registry d w ↔ ¬QualityEvent.TooLarge d ∧ Dated platform d := by
  constructor
  · intro h
    exact ⟨h.not_tooLarge, h.dated⟩
  · rintro ⟨hlarge, hdated⟩
    exact isolates_of_dated hlarge hdated

def exampleEngineWorld : EngineWorld := (⟨fun _ => 0, 0, [], [], .loaded⟩, { clock := fun _ => 0 })

/-- An infinite quantity stops the engine, and so does a time that is before year 1 in UTC. -/
theorem payloads_that_raise : ∃ registry : RuleRegistry EngineWorld,
    createDefaultRegistry .ascii = .ok registry ∧
    ¬Isolates .ascii registry [(text "quantity", .float (1 / 0))] exampleEngineWorld ∧
    ¬Isolates .ascii registry [(text "event_time", .str (text "0001-01-01T00:00:00+05:00"))]
      exampleEngineWorld := by
  obtain ⟨registry, hregistry, -⟩ := createDefaultRegistry_eq (ρ := MetricsCollector) .ascii
  refine ⟨registry, hregistry, ?_, ?_⟩
  · intro h
    exact h.not_tooLarge (.inl ⟨1 / 0, rfl, by decide +kernel⟩)
  · intro h
    obtain ⟨time, htime⟩ := h.dated
    have hraises : (parseIsoTimestamp .ascii (given
        [(text "event_time", .str (text "0001-01-01T00:00:00+05:00"))] .eventTime)).isOk = false := by
      decide +kernel
    rw [htime] at hraises
    cases hraises

end QualityEngine
end IceStream
