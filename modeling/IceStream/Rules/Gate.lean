import IceStream.Lib.FloatBounds
import IceStream.Lib.Shown
import IceStream.Rules.Repeats

/-!
# What the default rules let through

The rules see an event after its conversion. What that says about the payload itself is
worked out here, one field after the other.
-/

namespace IceStream
open Python Schema Metrics

/-! ## What is to hold of an accepted payload -/

/-- The fields a not-null rule guards, but for the one the platform assigns. -/
def guardedFields : List QualityField :=
  (.eventId :: notNullFields.map Prod.fst).filter (· ≠ .ingestionTime)

/-- Neither null nor a text that is blank or says `none`. -/
def Populated (v : Json) : Prop :=
  v ≠ .null ∧ ∀ s, v = .str s → strip s ≠ [] ∧ lower (strip s) ≠ text "none"

/-- A finite number, or a text `float` reads as one, above zero and up to the limit. -/
def SoundAmount (u : Unicode) : Json → Prop
  | .int i => 0 < i ∧ i ≤ 500000
  | .float x => Within 500000 x
  | .str s => ∃ x, floatOfText u s = .ok x ∧ Within 500000 x
  | _ => False

/-- The text of a timestamp that names an instant. -/
def NamesInstant (platform : Platform) (v : Json) : Prop :=
  ∃ s t, v = .str s ∧ parseIsoTimestamp platform (.str s) = .ok (some t)

/-- A payload an accepted event may have come from. -/
structure SoundEvent (platform : Platform) (d : Dict) : Prop where
  populated : ∀ f ∈ guardedFields, ∃ v, d.get? (text f.key) = some v ∧ Populated v
  amount : ∃ v, d.get? (text "amount") = some v ∧ SoundAmount platform.unicode v
  currency : ∃ s ∈ currencies, d.get? (text "currency") = some (.str s)
  paymentStatus : ∃ s ∈ paymentStatuses, d.get? (text "payment_status") = some (.str s)
  eventTime : ∃ v, d.get? (text "event_time") = some v ∧ NamesInstant platform v

/-! ## What the rules let through -/

/-- A text that only `Decimal` reads, and as more than zero. -/
def OnlyDecimal (u : Unicode) (v : Json) : Prop :=
  ∃ s e n, v = .str s ∧ floatOfText u s = .error e ∧ decimalOfText u (strip s) = some n ∧
    n.isPositive = true

/-- A text the timestamp rule reads. -/
def IsTimestamp (v : Json) : Prop := ∃ s dt, v = .str s ∧ readTimestamp s = some dt

/-- Not too far in the future for a reference time that is not at the end of all times. -/
def Punctual (reference eventTime : Instant) : Prop :=
  (∃ latest, addMicros reference 30000000 = .ok latest ∧ eventTime ≤ latest) ∧
    ∃ earliest, addMicros reference (-120000000) = .ok earliest

/-- None of the rules has anything against the payload. -/
structure Passable (platform : Platform) (d : Dict) : Prop where
  quantity : ∃ v, QualityEvent.convert platform.unicode .quantity (given d .quantity) = .ok v
  unitPrice : ∃ v, QualityEvent.convert platform.unicode .unitPrice (given d .unitPrice) = .ok v
  populated : ∀ f ∈ guardedFields, Populated (given d f)
  amount : (∃ x, (given d .amount).toFloat platform.unicode = .ok x ∧ Within 500000 x) ∨
    OnlyDecimal platform.unicode (given d .amount)
  currency : ∃ s ∈ currencies, given d .currency = .str s
  paymentStatus : ∃ s ∈ paymentStatuses, given d .paymentStatus = .str s
  eventTime : IsTimestamp (given d .eventTime)
  eventTime_read : ∃ time, parseIsoTimestamp platform (given d .eventTime) = .ok time
  ingestionTime : ∀ v, d.get? (text "ingestion_time") = some v → Populated v ∧ IsTimestamp v
  punctual : ∀ eventTime, parseIsoTimestamp platform (given d .eventTime) = .ok (some eventTime) →
    ∃ ingestion, parseIsoTimestamp platform (given d .ingestionTime) = .ok ingestion ∧
      ∀ reference, ingestion = some reference → Punctual reference eventTime

/-- An amount that is `true`, one that only `Decimal` reads, or a timestamp that only its
rule reads. -/
def Slips (platform : Platform) (d : Dict) : Prop :=
  given d .amount = .bool true ∨ OnlyDecimal platform.unicode (given d .amount) ∨
    parseIsoTimestamp platform (given d .eventTime) = .ok none

/-! ## Rules that tolerate an event -/

namespace QualityEngine

section

variable {φ : Type} {event : QualityEvent} {rule : QualityRule φ} {rules rules' : List (QualityRule φ)}
  {w w' : φ}

/-- The result of the rule is no critical failure. -/
def Tolerates (event : QualityEvent) (rule : QualityRule φ) (w : φ) : Prop :=
  (ownResult rule event (rule.validate event w).1).isCriticalFailure = false

/-- Each rule tolerates the event, in the state that those before it left. -/
def AllTolerate (event : QualityEvent) : List (QualityRule φ) → φ → Prop
  | [], _ => True
  | rule :: rules, w => Tolerates event rule w ∧ AllTolerate event rules (rule.validate event w).2

theorem OneByOne.allTolerate_iff {results : List ValidationResult}
    (h : OneByOne event rules w results w') :
    (∀ r ∈ results, r.isCriticalFailure = false) ↔ AllTolerate event rules w := by
  induction h with
  | nil w => exact iff_of_true (fun _ hr => absurd hr List.not_mem_nil) trivial
  | cons rule h ih => rw [List.forall_mem_cons, ih, AllTolerate, Tolerates]

theorem allTolerate_append :
    AllTolerate event (rules ++ rules') w ↔
      AllTolerate event rules w ∧ AllTolerate event rules' (afterRules event rules w) := by
  induction rules generalizing w with
  | nil => exact (and_iff_right trivial).symm
  | cons rule rules ih => rw [List.cons_append, AllTolerate, ih, AllTolerate, and_assoc]; rfl

theorem AllTolerate.of_mem (h : AllTolerate event rules w) (hrule : rule ∈ rules) :
    ∃ w', Tolerates event rule w' := by
  induction rules generalizing w with
  | nil => cases hrule
  | cons first rules ih =>
    obtain rfl | hrule := List.mem_cons.mp hrule
    · exact ⟨w, h.1⟩
    · exact ih h.2 hrule

/-- Rules that keep no state are asked one by one. -/
theorem allTolerate_stateless
    (hrules : ∀ rule ∈ rules, ∃ result, rule.validate event = raising result) :
    AllTolerate event rules w ↔ ∀ rule ∈ rules, Tolerates event rule w := by
  induction rules with
  | nil => exact iff_of_true trivial fun _ hrule => absurd hrule List.not_mem_nil
  | cons rule rules ih =>
    obtain ⟨result, hresult⟩ := hrules rule List.mem_cons_self
    have hstate : (rule.validate event w).2 = w := by
      rw [hresult]
      rfl
    rw [AllTolerate, hstate, List.forall_mem_cons, ih fun r hr => hrules r (List.mem_cons_of_mem _ hr)]

theorem isCriticalFailure_eq_false_iff {r : ValidationResult}
    (h : r.severity = .critical ∨ r.severity = .high) :
    r.isCriticalFailure = false ↔ r.passed = true := by
  rw [ValidationResult.isCriticalFailure]
  obtain h | h := h <;> simp [h]

/-- What a rule raises is not tolerated. -/
theorem tolerates_statelessRule_iff {name : Text}
    {check : QualityEvent → Except Exc ValidationResult} :
    Tolerates event (statelessRule name check : QualityRule φ) w ↔
      ∃ r, check event = .ok r ∧ r.isCriticalFailure = false := by
  rw [Tolerates]
  change (ownResult _ event ((check event).map Except.ok)).isCriticalFailure = false ↔ _
  cases check event with
  | error e => exact iff_of_false Bool.true_eq_false.mp nofun
  | ok r =>
    constructor
    · intro h
      exact ⟨r, rfl, h⟩
    · rintro ⟨r', hr', h⟩
      cases hr'
      exact h

end

end QualityEngine

/-! ## Fields and values -/

theorem given_eq {d : Dict} {f : QualityField} (h : given d f ≠ .null) :
    d.get? (text f.key) = some (given d f) := by
  unfold given Dict.getD Dict.get? at *
  cases hlookup : d.lookup (text f.key) with
  | none =>
    rw [hlookup] at h
    exact absurd rfl h
  | some v => rfl

theorem populated_iff (v : Json) : Populated v ↔ isNull v = false := by
  unfold Populated isNull
  cases v with
  | null => simp
  | str s => simp
  | _ => simp

/-- What is no text and not null is shown as neither nothing nor `none`. -/
theorem isUnpopulated_of_not_str (u : Unicode) {v : Json} (hnull : v ≠ .null)
    (hstr : ∀ s, v ≠ .str s) : isUnpopulated u v = false := by
  -- a first character that is neither a space nor an `n` settles it
  have hhead {c : CodePoint} {rest : Text} (hshown : v.toText u = c :: rest)
      (hspace : isSpace c = false) (hn : c.val ≠ 0x6E ∧ c.val ≠ 0x4E) :
      isUnpopulated u v = false := by
    obtain ⟨rest', hstrip⟩ := strip_cons hspace rest
    have hword : lower (c :: rest') ≠ text "none" := by
      intro hnone
      have hhead : (if h : 65 ≤ c.val ∧ c.val ≤ 90 then (⟨c.val + 32, by omega⟩ : CodePoint)
          else c).val = 0x6E := congrArg Fin.val (List.cons.inj hnone).1
      split_ifs at hhead with hcapital
      · change c.val + 32 = 0x6E at hhead
        omega
      · omega
    rw [isUnpopulated, hshown, hstrip, beq_eq_false_iff_ne.mpr hword]
    · rfl
    · exact hnull
  have hdigit {c : CodePoint} (hc : isDigit c = true) :
      isSpace c = false ∧ c.val ≠ 0x6E ∧ c.val ≠ 0x4E := by
    refine ⟨Bool.not_eq_true _ ▸ not_isSpace_of_isDigit hc, ?_⟩
    simp only [isDigit, Bool.and_eq_true, decide_eq_true_eq] at hc
    omega
  cases v with
  | null => exact absurd rfl hnull
  | str s => exact absurd rfl (hstr s)
  | bool b =>
    cases b with
    | true => exact hhead (c := codePoint 0x54) rfl (by decide) (by decide)
    | false => exact hhead (c := codePoint 0x46) rfl (by decide) (by decide)
  | int i =>
    obtain ⟨d, ds, hdigits, hd⟩ := head_digits_isDigit i.natAbs
    have hshown : (Json.int i).toText u = text (toString i) := rfl
    rw [text_toString_int, hdigits] at hshown
    by_cases hneg : i < 0
    · rw [decide_eq_true hneg] at hshown
      exact hhead hshown (by decide) (by decide)
    · rw [decide_eq_false hneg] at hshown
      exact hhead hshown (hdigit hd).1 (hdigit hd).2
  | float x =>
    obtain ⟨d, ds, hrepr, hd⟩ := head_floatRepr x
    have hshown : (Json.float x).toText u = d :: ds := hrepr
    obtain hd | hd | hd | ⟨-, hnan⟩ := hd
    · exact hhead hshown (hdigit hd).1 (hdigit hd).2
    · exact hhead hshown (by simp [isSpace, hd]) (by simp [hd])
    · exact hhead hshown (by simp [isSpace, hd]) (by simp [hd])
    · have hword : (Json.float x).toText u = text "nan" := by
        change text (floatRepr x) = text "nan"
        rw [floatRepr, if_pos hnan]
      rw [isUnpopulated, hword]
      · decide
      · exact hnull
  | arr xs => exact hhead (c := codePoint 0x5B) rfl (by decide) (by decide)
  | obj kvs => exact hhead (c := codePoint 0x7B) rfl (by decide) (by decide)

theorem isUnpopulated_eq_isNull (u : Unicode) (v : Json) : isUnpopulated u v = isNull v := by
  cases v with
  | null => rfl
  | str s => rfl
  | _ => exact isUnpopulated_of_not_str u nofun nofun

/-! ## Rule by rule -/

namespace QualityEngine

section

variable {φ : Type} {u : Unicode} {event : QualityEvent} {field : QualityField} {severity : Severity}
  {w : φ} {v : Json}

theorem tolerates_eventIdNotNullRule_iff :
    Tolerates event (eventIdNotNullRule u .critical) w ↔ Populated (event.value .eventId) := by
  rw [populated_iff, ← isUnpopulated_eq_isNull u, Tolerates,
    isCriticalFailure_eq_false_iff (.inl rfl)]
  change (!isUnpopulated u (event.value .eventId)) = true ↔ _
  rw [Bool.not_eq_true']

theorem tolerates_notNullRule_iff (h : severity = .critical ∨ severity = .high) :
    Tolerates event (notNullRule field (some severity)) w ↔ Populated (event.getField field) := by
  rw [populated_iff, Tolerates, isCriticalFailure_eq_false_iff h]
  change (!isNull (event.getField field)) = true ↔ _
  rw [Bool.not_eq_true']

/-- A rule of high severity tolerates what it passes. -/
theorem tolerates_iff_of_ok {name : Text} {check : QualityEvent → Except Exc ValidationResult}
    {p : Prop} (h : ∃ r, check event = .ok r ∧ r.severity = .high ∧ (r.passed = true ↔ p)) :
    Tolerates event (statelessRule name check : QualityRule φ) w ↔ p := by
  obtain ⟨r, hcheck, hseverity, hpassed⟩ := h
  rw [tolerates_statelessRule_iff, ← hpassed, ← isCriticalFailure_eq_false_iff (.inr hseverity)]
  constructor
  · rintro ⟨r', hr', htolerated⟩
    rw [hcheck] at hr'
    cases hr'
    exact htolerated
  · intro htolerated
    exact ⟨r, hcheck, htolerated⟩

theorem tolerates_timestampValidRule_iff :
    Tolerates event (timestampValidRule field .high) w ↔ IsTimestamp (event.getField field) := by
  have hseverity : (checkTimestamp field .high event).severity = .high := by
    rw [checkTimestamp]
    split
    · rfl
    · split
      · split <;> rfl
      · rfl
  exact tolerates_iff_of_ok ⟨_, rfl, hseverity, checkTimestamp_passed_iff field .high⟩

/-- A word that begins with a capital and is no constant. -/
def IsCapitalWord (s : String) : Prop :=
  (text s).head?.any (fun c => 65 ≤ c.val && c.val ≤ 90) = true ∧ strip (text s) ≠ [] ∧
    text s ≠ text "True" ∧ text s ≠ text "False"

instance (s : String) : Decidable (IsCapitalWord s) := inferInstanceAs (Decidable (_ ∧ _))

theorem tolerates_allowedValuesRule_iff {name : Text} {allowed : List String}
    (hallowed : ∀ s ∈ allowed, IsCapitalWord s) :
    Tolerates event (allowedValuesRule u field .high name allowed) w ↔
      ∃ s ∈ allowed, event.getField field = .str s := by
  have hseverity : (checkAllowed u field .high name allowed event).severity = .high := by
    rw [checkAllowed]
    split
    · rfl
    · split <;> rfl
  have hpassed : (checkAllowed u field .high name allowed event).passed = true ↔
      isBlank (event.getField field) = false ∧
        (event.getField field).toText u ∈ allowed.map text := by
    rw [checkAllowed]
    split_ifs with hblank hmem
    · exact iff_of_false nofun fun h => Bool.false_ne_true (h.1.symm.trans hblank)
    · exact iff_of_true rfl ⟨Bool.eq_false_iff.mpr hblank, hmem⟩
    · exact iff_of_false nofun fun h => hmem h.2
  apply tolerates_iff_of_ok
  refine ⟨_, rfl, hseverity, hpassed.trans ?_⟩
  constructor
  · rintro ⟨hblank, hmem⟩
    obtain ⟨s, hs, hshown⟩ := List.mem_map.mp hmem
    obtain ⟨hcapital, -, htrue, hfalse⟩ := hallowed s hs
    refine ⟨s, hs, ?_⟩
    cases htext : text s with
    | nil =>
      rw [htext] at hcapital
      cases hcapital
    | cons c rest =>
      rw [htext] at hcapital
      have hc : 65 ≤ c.val ∧ c.val ≤ 90 := by simpa using hcapital
      obtain ⟨t, ht⟩ | hnull | ⟨b, hb⟩ := kind_of_capital (hshown.symm.trans htext) hc
      · rw [ht] at hshown
        rw [ht, ← htext, hshown]
        rfl
      · rw [hnull] at hblank
        cases hblank
      · rw [hb] at hshown
        cases b with
        | true => exact absurd hshown htrue
        | false => exact absurd hshown hfalse
  · rintro ⟨s, hs, hvalue⟩
    obtain ⟨-, hblank, -, -⟩ := hallowed s hs
    rw [hvalue]
    exact ⟨beq_eq_false_iff_ne.mpr hblank, List.mem_map_of_mem hs⟩

/-! ### Amounts -/

/-- An amount that is converted is a float; one that is not and raises nothing is no number. -/
theorem converted_amount_cases {value : Json} (h : QualityEvent.convert u .amount v = .ok value) :
    v = .null ∧ value = .null ∨ (∃ x, v.toFloat u = .ok x ∧ value = .float x) ∨
      (∃ e, v.toFloat u = .error e) ∧ value = v ∧
        ((∃ s, v = .str s) ∨ (∃ xs, v = .arr xs) ∨ ∃ kvs, v = .obj kvs) := by
  by_cases hnull : v = .null
  · subst hnull
    exact .inl ⟨rfl, (Except.ok.inj h).symm⟩
  · rw [QualityEvent.convert_amount_eq u hnull] at h
    cases hfloat : v.toFloat u with
    | ok x =>
      rw [hfloat] at h
      exact .inr (.inl ⟨x, rfl, (Except.ok.inj h).symm⟩)
    | error e =>
      rw [hfloat] at h
      change (if e.isValueError || e.name == "TypeError" then Except.ok v else .error e) = _ at h
      split_ifs at h with hcaught
      refine .inr (.inr ⟨⟨e, rfl⟩, (Except.ok.inj h).symm, ?_⟩)
      cases v with
      | null => exact absurd rfl hnull
      | bool b => cases hfloat
      | int i =>
        obtain ⟨hvalue, hname⟩ := QualityEvent.floatOfInt_error hfloat
        rw [hvalue, hname] at hcaught
        exact absurd hcaught (by decide)
      | float x => cases hfloat
      | str s => exact .inl ⟨s, rfl⟩
      | arr xs => exact .inr (.inl ⟨xs, rfl⟩)
      | obj kvs => exact .inr (.inr ⟨kvs, rfl⟩)

theorem tolerates_amountPositiveRule_iff
    (h : QualityEvent.convert u .amount v = .ok (event.getField .amount)) :
    Tolerates event (amountPositiveRule u .amount .high) w ↔
      (∃ x, v.toFloat u = .ok x ∧ 0 < x) ∨ OnlyDecimal u v := by
  obtain ⟨rfl, hvalue⟩ | ⟨x, hx, hvalue⟩ | ⟨⟨e, he⟩, hvalue, hkind⟩ := converted_amount_cases h
  · apply tolerates_iff_of_ok
    rw [checkPositive, hvalue]
    exact ⟨_, rfl, rfl, iff_of_false nofun (by rintro (⟨x, hx, -⟩ | ⟨s, e, n, hs, -⟩) <;> cases ‹_›)⟩
  · apply tolerates_iff_of_ok
    rw [checkPositive, hvalue]
    have hpositive : (∃ x', v.toFloat u = .ok x' ∧ 0 < x') ∨ OnlyDecimal u v ↔ 0 < x := by
      rw [hx]
      constructor
      · rintro (⟨x', hx', hpos⟩ | ⟨s, e, n, rfl, he, -⟩)
        · cases hx'
          exact hpos
        · exact absurd (hx.symm.trans he) nofun
      · intro hpos
        exact .inl ⟨x, rfl, hpos⟩
    rw [hpositive]
    by_cases hpos : 0 < x
    · simp only [hpos, decide_true, if_true]
      exact ⟨_, rfl, rfl, iff_of_true rfl trivial⟩
    · simp only [hpos, decide_false]
      exact ⟨_, rfl, rfl, iff_of_false nofun not_false⟩
  · have hdecimal : (∃ x, v.toFloat u = .ok x ∧ 0 < x) ∨ OnlyDecimal u v ↔ OnlyDecimal u v := by
      apply or_iff_right
      rintro ⟨x, hx, -⟩
      rw [he] at hx
      cases hx
    rw [hdecimal]
    obtain ⟨s, rfl⟩ | ⟨xs, rfl⟩ | ⟨kvs, rfl⟩ := hkind
    · have honly : OnlyDecimal u (.str s) ↔
          ∃ n, decimalOfText u (strip s) = some n ∧ n.isPositive = true := by
        constructor
        · rintro ⟨s', e', n, hs', -, hn⟩
          cases hs'
          exact ⟨n, hn⟩
        · rintro ⟨n, hn⟩
          exact ⟨s, e, n, rfl, he, hn⟩
      rw [honly]
      cases hn : decimalOfText u (strip s) with
      | none =>
        apply tolerates_iff_of_ok
        rw [checkPositive, hvalue]
        simp only [hn]
        exact ⟨_, rfl, rfl, iff_of_false nofun nofun⟩
      | some n =>
        have hpositive : (∃ n', some n = some n' ∧ n'.isPositive = true) ↔ n.isPositive = true := by
          simp
        rw [hpositive]
        by_cases hnan : n = .notANumber
        · subst hnan
          rw [amountPositiveRule, tolerates_statelessRule_iff]
          refine iff_of_false ?_ (by decide)
          rintro ⟨r, hr, -⟩
          rw [checkPositive, hvalue] at hr
          simp only [hn] at hr
          cases hr
        · apply tolerates_iff_of_ok
          rw [checkPositive, hvalue]
          cases hpos : n.isPositive with
          | true =>
            cases n with
            | notANumber => exact absurd rfl hnan
            | _ =>
              simp only [hn, hpos, if_true]
              exact ⟨_, rfl, rfl, iff_of_true rfl trivial⟩
          | false =>
            cases n with
            | notANumber => exact absurd rfl hnan
            | _ =>
              simp only [hn, hpos]
              exact ⟨_, rfl, rfl, iff_of_false nofun nofun⟩
    · apply tolerates_iff_of_ok
      rw [checkPositive, hvalue]
      exact ⟨_, rfl, rfl, iff_of_false nofun (by rintro ⟨s, e, n, hs, -⟩; cases hs)⟩
    · apply tolerates_iff_of_ok
      rw [checkPositive, hvalue]
      exact ⟨_, rfl, rfl, iff_of_false nofun (by rintro ⟨s, e, n, hs, -⟩; cases hs)⟩

theorem tolerates_impossibleAmountRule_iff
    (h : QualityEvent.convert u .amount v = .ok (event.getField .amount)) :
    Tolerates event (impossibleAmountRule u) w ↔
      ∀ x, v.toFloat u = .ok x → ¬(500000 : Float) < x := by
  apply tolerates_iff_of_ok
  rw [checkImpossibleAmount]
  obtain ⟨rfl, hvalue⟩ | ⟨x, hx, hvalue⟩ | ⟨⟨e, he⟩, hvalue, hkind⟩ := converted_amount_cases h
  · rw [hvalue]
    exact ⟨_, rfl, rfl, iff_of_true rfl nofun⟩
  · have hshown : isUnpopulated u (event.getField .amount) = false := by
      rw [hvalue]
      exact isUnpopulated_of_not_str u nofun nofun
    have hfloat : (event.getField .amount).toFloat u = .ok x := by
      rw [hvalue]
      rfl
    simp only [hshown, hfloat, hx, Bool.false_eq_true, if_false, Except.ok.injEq, forall_eq']
    by_cases hlt : (500000 : Float) < x
    · rw [if_pos hlt]
      exact ⟨_, rfl, rfl, iff_of_false nofun (not_not_intro hlt)⟩
    · rw [if_neg hlt]
      exact ⟨_, rfl, rfl, iff_of_true rfl hlt⟩
  · have hnone : ∀ x, v.toFloat u = .ok x → ¬(500000 : Float) < x := by
      intro x hx
      rw [he] at hx
      cases hx
    have hcaught : (e.isValueError || e.name == "TypeError") = true := by
      obtain ⟨s, rfl⟩ | ⟨xs, rfl⟩ | ⟨kvs, rfl⟩ := hkind
      · rw [QualityEvent.floatOfText_error u he]
        rfl
      · cases he
        rfl
      · cases he
        rfl
    rw [hvalue]
    split_ifs with hshown
    · exact ⟨_, rfl, rfl, iff_of_true rfl hnone⟩
    · simp only [he, hcaught, if_true]
      exact ⟨_, rfl, rfl, iff_of_true rfl nofun⟩

/-- A converted amount is populated just in case the given one is. -/
theorem populated_converted {value : Json} (h : QualityEvent.convert u .amount v = .ok value) :
    Populated value ↔ Populated v := by
  obtain ⟨rfl, rfl⟩ | ⟨x, hx, rfl⟩ | ⟨-, rfl, -⟩ := converted_amount_cases h
  · exact Iff.rfl
  · refine iff_of_true ⟨nofun, nofun⟩ ⟨?_, ?_⟩
    · rintro rfl
      cases hx
    · rintro s rfl
      by_contra hblank
      rw [not_and_or, not_not, not_not] at hblank
      obtain ⟨e, he⟩ := floatOfText_of_blank u hblank
      exact absurd (hx.symm.trans he) nofun
  · exact Iff.rfl

end

end QualityEngine

/-! ## The rules without a state -/

/-- What the rules that keep no state ask of a payload. -/
structure Presentable (platform : Platform) (d : Dict) : Prop where
  populated : ∀ f ∈ QualityField.ingestionTime :: guardedFields, Populated (given d f)
  amount : (∃ x, (given d .amount).toFloat platform.unicode = .ok x ∧ 0 < x) ∨
    OnlyDecimal platform.unicode (given d .amount)
  currency : ∃ s ∈ currencies, given d .currency = .str s
  paymentStatus : ∃ s ∈ paymentStatuses, given d .paymentStatus = .str s
  eventTime : IsTimestamp (given d .eventTime)
  ingestionTime : IsTimestamp (given d .ingestionTime)

namespace QualityEngine

section

variable {platform : Platform} {d : Dict} {event : QualityEvent} {w : EngineWorld}

theorem allTolerate_valueRules_iff (h : QualityEvent.fromDict platform.unicode d = .ok event) :
    AllTolerate event (valueRules platform) w ↔ Presentable platform d := by
  have hamount := QualityEvent.getField_amount _ h
  have hgiven {f : QualityField} (hf : f ∉ QualityEvent.numberFields) : event.getField f = given d f :=
    QualityEvent.getField_of_fromDict _ h hf
  have hfields (f : QualityField) : f ∈ QualityField.ingestionTime :: guardedFields ↔
      f = .eventId ∨ f ∈ notNullFields.map Prod.fst := by
    cases f <;> decide
  have heventId : Tolerates event (eventIdNotNullRule platform.unicode .critical) w ↔
      Populated (given d .eventId) := by
    rw [tolerates_eventIdNotNullRule_iff, QualityEvent.value_of_fromDict _ h (by decide)]
  have hnotNull : (∀ p ∈ notNullFields, Tolerates event (notNullRule p.1 (some p.2)) w) ↔
      ∀ f ∈ notNullFields.map Prod.fst, Populated (given d f) := by
    rw [List.forall_mem_map]
    refine forall₂_congr fun p hp => ?_
    have hseverity : ∀ p ∈ notNullFields, p.2 = .critical ∨ p.2 = .high := by decide
    have hnumbers : ∀ p ∈ notNullFields, p.1 = .amount ∨ p.1 ∉ QualityEvent.numberFields := by decide
    rw [tolerates_notNullRule_iff (hseverity p hp)]
    obtain hf | hf := hnumbers p hp
    · rw [hf]
      exact populated_converted hamount
    · rw [hgiven hf]
  have hpositive := tolerates_amountPositiveRule_iff (w := w) hamount
  have hcurrency : Tolerates event (currencyValidRule platform.unicode) w ↔ _ :=
    tolerates_allowedValuesRule_iff (by decide)
  have hstatus : Tolerates event (paymentStatusValidRule platform.unicode) w ↔ _ :=
    tolerates_allowedValuesRule_iff (by decide)
  have heventTime : Tolerates event (timestampValidRule .eventTime .high) w ↔ _ :=
    tolerates_timestampValidRule_iff
  have hingestion : Tolerates event (timestampValidRule .ingestionTime .high) w ↔ _ :=
    tolerates_timestampValidRule_iff
  rw [hgiven (by decide)] at hcurrency hstatus heventTime hingestion
  rw [allTolerate_stateless fun rule hrule => stateless_valueRules hrule event, valueRules,
    List.cons_append, List.forall_mem_cons, List.forall_mem_append, List.forall_mem_map]
  simp only [List.forall_mem_cons]
  rw [heventId, hnotNull, hpositive, hcurrency, hstatus, heventTime, hingestion]
  constructor
  · rintro ⟨hid, hpopulated, hpos, hcur, hstat, htime, hing, -⟩
    refine ⟨?_, hpos, hcur, hstat, htime, hing⟩
    intro f hf
    obtain rfl | hf := (hfields f).mp hf
    · exact hid
    · exact hpopulated f hf
  · intro hp
    refine ⟨hp.populated _ ((hfields _).mpr (.inl rfl)), ?_, hp.amount, hp.currency,
      hp.paymentStatus, hp.eventTime, hp.ingestionTime,
      fun rule hrule => absurd hrule List.not_mem_nil⟩
    intro f hf
    exact hp.populated f ((hfields f).mpr (.inr hf))

end

end QualityEngine

/-! ## The detectors -/

namespace QualityEngine

section

variable {platform : Platform} {event : QualityEvent} {field : QualityField} {bound : TimeBound}
  {w : EngineWorld}

/-- The time of an event is in bounds, or out of them and not held against it. -/
def InBounds (bound : TimeBound) (eventTime reference : Instant) : Prop :=
  ∃ allowed, addMicros reference bound.delta = .ok allowed ∧
    (bound.beyond eventTime allowed = true → bound.severity ≠ .critical ∧ bound.severity ≠ .high)

theorem onRules_eq {α : Type} {x : Fallible RuleWorld α} {answer : Except Exc α} {v : RuleWorld}
    (h : x w.1 = (answer, v)) : RuleWorld.onRules x w = (answer, (v, w.2)) := by
  rw [RuleWorld.onRules, h]

theorem boundedTimeRule_of_error {e : Exc}
    (h : parseIsoTimestamp platform (event.getField field) = .error e) :
    (boundedTimeRule platform field bound).validate event w = (.error e, w) := by
  have hparse : raising (parseIsoTimestamp platform (event.getField field)) w.1 = (.error e, w.1) := by
    rw [h]
    rfl
  exact onRules_eq (Fallible.bind_error hparse)

/-- What cannot be read is passed. -/
theorem boundedTimeRule_of_none (h : parseIsoTimestamp platform (event.getField field) = .ok none) :
    ∃ r : ValidationResult, r.passed = true ∧
      (boundedTimeRule platform field bound).validate event w = (.ok (.ok r), w) := by
  have hparse : raising (parseIsoTimestamp platform (event.getField field)) w.1 =
      (.ok none, w.1) := by
    rw [h]
    rfl
  refine ⟨fieldResult field bound.severity bound.name event true
    (text s!"Skipped {bound.check} check for missing/invalid {field.key}"), rfl, ?_⟩
  apply onRules_eq
  rw [Fallible.bind_ok hparse]
  rfl

theorem boundedTimeRule_of_some {eventTime : Instant}
    (h : parseIsoTimestamp platform (event.getField field) = .ok (some eventTime)) :
    (boundedTimeRule platform field bound).validate event w =
      (((referenceTime platform event w.1).1.bind fun reference =>
        (addMicros reference bound.delta).map fun allowed =>
          .ok (if bound.beyond eventTime allowed then
            fieldResult field bound.severity bound.name event false bound.violated
          else fieldResult field bound.severity bound.name event true bound.respected)),
        ((referenceTime platform event w.1).2, w.2)) := by
  have hparse : raising (parseIsoTimestamp platform (event.getField field)) w.1 =
      (.ok (some eventTime), w.1) := by
    rw [h]
    rfl
  apply onRules_eq
  rw [Fallible.bind_ok hparse]
  rcases hreference : referenceTime platform event w.1 with ⟨e | reference, v⟩
  · exact Fallible.bind_error hreference
  · refine (Fallible.bind_ok hreference).trans ?_
    cases hallowed : addMicros reference bound.delta with
    | error e =>
      simp only [Except.bind, hallowed]
      rfl
    | ok allowed =>
      simp only [Except.bind, hallowed]
      change (if bound.beyond eventTime allowed then _ else _ : Fallible RuleWorld _) v =
        (Except.ok (Except.ok (if bound.beyond eventTime allowed then _ else _)), v)
      split <;> rfl

/-- The time of ingestion, or else that of the clock. -/
theorem referenceTime_eq (platform : Platform) (event : QualityEvent) (v : RuleWorld) :
    referenceTime platform event v =
      match parseIsoTimestamp platform (event.getField .ingestionTime) with
      | .error e => (.error e, v)
      | .ok (some ingestion) => (.ok ingestion, v)
      | .ok none => (.ok (v.clock v.reads), v.read) := by
  cases hparse : parseIsoTimestamp platform (event.getField .ingestionTime) with
  | error e =>
    rw [referenceTime, hparse]
    rfl
  | ok ingestion =>
    rw [referenceTime, hparse]
    cases ingestion <;> rfl

/-- What the rule says of an event time is tolerated where that is in bounds. -/
theorem tolerated_iff_inBounds {rule : QualityRule EngineWorld} {eventTime reference : Instant} :
    (ownResult rule event ((addMicros reference bound.delta).map fun allowed =>
      .ok (if bound.beyond eventTime allowed then
        fieldResult field bound.severity bound.name event false bound.violated
      else fieldResult field bound.severity bound.name event true
        bound.respected))).isCriticalFailure = false ↔ InBounds bound eventTime reference := by
  cases hallowed : addMicros reference bound.delta with
  | error e =>
    refine iff_of_false Bool.true_eq_false.mp ?_
    rintro ⟨allowed, hok, -⟩
    rw [hallowed] at hok
    cases hok
  | ok allowed =>
    have hbounds : InBounds bound eventTime reference ↔ (bound.beyond eventTime allowed = true →
        bound.severity ≠ .critical ∧ bound.severity ≠ .high) := by
      simp [InBounds, hallowed]
    rw [hbounds]
    change (if bound.beyond eventTime allowed then
      fieldResult field bound.severity bound.name event false bound.violated
      else fieldResult field bound.severity bound.name event true
        bound.respected).isCriticalFailure = false ↔ _
    split_ifs with hbeyond
    · rw [imp_iff_right hbeyond]
      change (!false && (bound.severity == .critical || bound.severity == .high)) = false ↔ _
      rw [Bool.not_false, Bool.true_and, Bool.or_eq_false_iff, beq_eq_false_iff_ne,
        beq_eq_false_iff_ne]
    · exact iff_of_true rfl fun h => absurd h hbeyond

/-- A rule about the time tolerates what it reads and finds in bounds, and what it cannot read. -/
theorem tolerates_boundedTimeRule_iff :
    Tolerates event (boundedTimeRule platform field bound) w ↔
      ∃ time, parseIsoTimestamp platform (event.getField field) = .ok time ∧
        ∀ eventTime, time = some eventTime →
          ∃ ingestion, parseIsoTimestamp platform (event.getField .ingestionTime) = .ok ingestion ∧
            InBounds bound eventTime (ingestion.getD (w.1.clock w.1.reads)) := by
  rw [Tolerates]
  rcases hparse : parseIsoTimestamp platform (event.getField field) with e | _ | eventTime
  · rw [boundedTimeRule_of_error hparse]
    exact iff_of_false Bool.true_eq_false.mp nofun
  · obtain ⟨r, hpassed, hr⟩ := boundedTimeRule_of_none (w := w) hparse
    rw [hr]
    refine iff_of_true ?_ ⟨none, rfl, nofun⟩
    change (!r.passed && _) = false
    rw [hpassed]
    rfl
  · have hsome (p : Option Instant → Prop) : (∃ time, Except.ok (ε := Exc) (some eventTime) = .ok time ∧
        p time) ↔ p (some eventTime) := by simp
    rw [hsome, boundedTimeRule_of_some hparse, referenceTime_eq]
    simp only [Option.some.injEq, forall_eq']
    rcases hingestion : parseIsoTimestamp platform (event.getField .ingestionTime)
      with e | _ | ingestion
    · exact iff_of_false Bool.true_eq_false.mp nofun
    · refine tolerated_iff_inBounds.trans ?_
      simp
    · refine tolerated_iff_inBounds.trans ?_
      simp

/-- The same clock, and the same schemas. -/
structure SameSurroundings (w w' : EngineWorld) : Prop where
  clock : w'.1.clock = w.1.clock
  schemas : w'.1.schemas = w.1.schemas

theorem SameSurroundings.trans {w' w'' : EngineWorld} (h : SameSurroundings w w')
    (h' : SameSurroundings w' w'') : SameSurroundings w w'' :=
  ⟨h'.clock.trans h.clock, h'.schemas.trans h.schemas⟩

theorem sameSurroundings_boundedTimeRule :
    SameSurroundings w ((boundedTimeRule platform field bound).validate event w).2 := by
  rcases hparse : parseIsoTimestamp platform (event.getField field) with e | _ | eventTime
  · rw [boundedTimeRule_of_error hparse]
    exact ⟨rfl, rfl⟩
  · obtain ⟨r, -, hr⟩ := boundedTimeRule_of_none (w := w) hparse
    rw [hr]
    exact ⟨rfl, rfl⟩
  · rw [boundedTimeRule_of_some hparse, referenceTime_eq]
    rcases parseIsoTimestamp platform (event.getField .ingestionTime) with e | _ | ingestion
    · exact ⟨rfl, rfl⟩
    · exact ⟨rfl, rfl⟩
    · exact ⟨rfl, rfl⟩

/-- An event that names the baseline has not drifted from it. -/
theorem tolerates_schemaDriftRule (hbaseline : SchemaDriftRule.providedVersion platform.unicode event =
      some (text "v1")) (hschemas : w.1.schemas = .loaded) :
    Tolerates event (schemaDriftRule platform) w := by
  let rule : SchemaDriftRule := {}
  have hget : SchemaRegistry.get platform.schemaFiles (text "v1") .loaded = (.ok v1, .loaded) := rfl
  have hexpected : rule.expectedSchema platform.schemaFiles .loaded = (.ok v1, .loaded) :=
    Fallible.catching_ok hget
  have hactual : SchemaDriftRule.actualSchema platform.unicode platform.schemaFiles event .loaded =
      (.ok (.ok v1), .loaded) := by
    rw [SchemaDriftRule.actualSchema, hbaseline]
    dsimp only
    rw [if_neg (by decide)]
    exact Fallible.catching_ok (Fallible.bind_ok hget)
  have hdrift : rule.check platform.unicode platform.schemaFiles event .loaded =
      (.ok (SchemaDriftRule.driftResult event
        ((SchemaComparator.mk rule.renameMap).compare v1 v1)), .loaded) := by
    rw [SchemaDriftRule.check, Fallible.bind_ok hexpected, Fallible.bind_ok hactual]
    rfl
  have hvalidate : ((schemaDriftRule platform : QualityRule EngineWorld).validate event w).1 =
      .ok (.ok (SchemaDriftRule.driftResult event
        ((SchemaComparator.mk rule.renameMap).compare v1 v1))) := by
    change ((rule.check platform.unicode platform.schemaFiles event >>= fun r =>
      pure (Except.ok r)) w.1.schemas).1 = _
    rw [hschemas, Fallible.bind_ok hdrift]
    rfl
  have hsame : ((SchemaComparator.mk rule.renameMap).compare v1 v1).changes = [] := by
    apply compare_self
    decide +kernel
  rw [Tolerates, hvalidate]
  change (SchemaDriftRule.driftResult event _).isCriticalFailure = false
  rw [SchemaDriftRule.driftResult, hsame]
  rfl

end

/-- What the rules about the time ask of a payload. -/
def Timely (platform : Platform) (d : Dict) : Prop :=
  ∃ time, parseIsoTimestamp platform (given d .eventTime) = .ok time ∧
    ∀ eventTime, time = some eventTime →
      ∃ ingestion, parseIsoTimestamp platform (given d .ingestionTime) = .ok ingestion ∧
        ∀ reference, ingestion = some reference → Punctual reference eventTime

section

variable {platform : Platform} {d : Dict} {event : QualityEvent} {w : EngineWorld}

/-- What all default rules tolerate. -/
theorem of_allTolerate (hevent : QualityEvent.fromDict platform.unicode d = .ok event)
    (h : AllTolerate event (defaultRules platform) w) :
    Presentable platform d ∧
      (∀ x, (given d .amount).toFloat platform.unicode = .ok x → ¬(500000 : Float) < x) ∧
      Timely platform d := by
  have hgiven {f : QualityField} (hf : f ∉ QualityEvent.numberFields) :
      event.getField f = given d f := QualityEvent.getField_of_fromDict _ hevent hf
  refine ⟨(allTolerate_valueRules_iff hevent).mp (allTolerate_append.mp h).1, ?_, ?_⟩
  · have hmem : impossibleAmountRule platform.unicode ∈
        (defaultRules platform : List (QualityRule EngineWorld)) :=
      List.mem_append_right _ (by simp [detectors])
    obtain ⟨w', hlimit⟩ := h.of_mem hmem
    exact (tolerates_impossibleAmountRule_iff (QualityEvent.getField_amount _ hevent)).mp hlimit
  · have hmemFuture : futureTimestampRule platform ∈
        (defaultRules platform : List (QualityRule EngineWorld)) :=
      List.mem_append_right _ (by simp [detectors])
    have hmemLate : lateEventRule platform ∈
        (defaultRules platform : List (QualityRule EngineWorld)) :=
      List.mem_append_right _ (by simp [detectors])
    obtain ⟨w₁, hfuture⟩ := h.of_mem hmemFuture
    obtain ⟨w₂, hlate⟩ := h.of_mem hmemLate
    rw [futureTimestampRule, tolerates_boundedTimeRule_iff, hgiven (by decide),
      hgiven (by decide)] at hfuture
    rw [lateEventRule, tolerates_boundedTimeRule_iff, hgiven (by decide),
      hgiven (by decide)] at hlate
    obtain ⟨time, htime, hfuture⟩ := hfuture
    obtain ⟨time', htime', hlate⟩ := hlate
    refine ⟨time, htime, ?_⟩
    rintro eventTime rfl
    obtain rfl : time' = some eventTime := Except.ok.inj (htime'.symm.trans htime)
    obtain ⟨ingestion, hingestion, latest, hlatest, hbeyond⟩ := hfuture eventTime rfl
    obtain ⟨ingestion', hingestion', earliest, hearliest, -⟩ := hlate eventTime rfl
    obtain rfl : ingestion' = ingestion := Except.ok.inj (hingestion'.symm.trans hingestion)
    refine ⟨ingestion', hingestion, ?_⟩
    rintro reference rfl
    refine ⟨⟨latest, hlatest, ?_⟩, earliest, hearliest⟩
    by_contra hlt
    exact (hbeyond (decide_eq_true (not_le.mp hlt))).2 rfl

/-- A world in which nothing has been seen yet, shortly before the end of all times. -/
def lastWorld : EngineWorld :=
  (⟨fun _ => maxInstant - 30000000, 0, [], [], .loaded⟩, { clock := fun _ => maxInstant - 30000000 })

theorem tolerates_of_passes {φ : Type} {rule : QualityRule φ} {w : φ} (h : Passes event rule w) :
    Tolerates event rule w := by
  rw [Tolerates, ValidationResult.isCriticalFailure, h]
  rfl

/-- A detector recalls nothing where nothing has been seen. -/
theorem not_recalls_of_unseen {kind : DuplicateKind} {v : RuleWorld}
    (hclock : v.clock = lastWorld.1.clock) (hseen : kind.seen.get v = []) :
    ¬kind.Recalls platform.unicode event v := by
  rintro ⟨id, -, hrecalled⟩
  obtain ⟨t, ht⟩ := hrecalled (maxInstant - 30000000 - 300 * 1000000) (by rw [hclock]; rfl)
  rw [DuplicateKind.left, hseen] at ht
  cases ht

theorem parseIsoTimestamp_le {s : Text} {t : Instant}
    (h : parseIsoTimestamp platform (.str s) = .ok (some t)) : t ≤ maxInstant := by
  have hread {dt : DateTime} (hdt : dt.utc.map some = .ok (some t)) : t ≤ maxInstant := by
    cases hutc : dt.utc with
    | error e =>
      rw [hutc] at hdt
      cases hdt
    | ok t' =>
      rw [hutc] at hdt
      cases hdt
      exact DateTime.utc_le hutc
  rw [parseIsoTimestamp] at h
  dsimp only at h
  split_ifs at h
  · cases h
  · split at h
    · exact hread h
    · cases h
  · split at h
    · exact hread h
    · cases h

/-- Shortly before the end of all times nothing lies too far in the future. -/
theorem punctual_last {eventTime : Instant} (h : eventTime ≤ maxInstant) :
    Punctual (maxInstant - 30000000) eventTime :=
  ⟨⟨maxInstant, rfl, h⟩, maxInstant - 150000000, rfl⟩

theorem inBounds_future {eventTime reference : Instant} (h : Punctual reference eventTime) :
    InBounds (futureBound 30) eventTime reference := by
  obtain ⟨⟨latest, hlatest, hle⟩, -⟩ := h
  refine ⟨latest, hlatest, ?_⟩
  intro hbeyond
  exact absurd (of_decide_eq_true hbeyond) (not_lt.mpr hle)

theorem inBounds_late {eventTime reference : Instant} (h : Punctual reference eventTime) :
    InBounds (lateBound 120) eventTime reference := by
  obtain ⟨-, earliest, hearliest⟩ := h
  exact ⟨earliest, hearliest, fun _ => ⟨by decide, by decide⟩⟩

theorem allTolerate_defaultRules (hevent : QualityEvent.fromDict platform.unicode d = .ok event)
    (hbaseline : SchemaDriftRule.providedVersion platform.unicode event = some (text "v1"))
    (hpresentable : Presentable platform d)
    (hlimit : ∀ x, (given d .amount).toFloat platform.unicode = .ok x → ¬(500000 : Float) < x)
    (htimely : Timely platform d) : AllTolerate event (defaultRules platform) lastWorld := by
  have hgiven {f : QualityField} (hf : f ∉ QualityEvent.numberFields) :
      event.getField f = given d f := QualityEvent.getField_of_fromDict _ hevent hf
  have hbounded {bound : TimeBound} {v : EngineWorld} (hclock : v.1.clock = lastWorld.1.clock)
      (hbound : ∀ {eventTime reference : Instant}, Punctual reference eventTime →
        InBounds bound eventTime reference) :
      Tolerates event (boundedTimeRule platform .eventTime bound) v := by
    obtain ⟨time, htime, hingestion⟩ := htimely
    rw [tolerates_boundedTimeRule_iff, hgiven (by decide), hgiven (by decide)]
    refine ⟨time, htime, ?_⟩
    rintro eventTime rfl
    obtain ⟨ingestion, hparse, hpunctual⟩ := hingestion eventTime rfl
    refine ⟨ingestion, hparse, ?_⟩
    cases ingestion with
    | some reference => exact hbound (hpunctual reference rfl)
    | none =>
      obtain ⟨s, dt, hs, -⟩ := hpresentable.eventTime
      rw [hs] at htime
      rw [hclock]
      exact hbound (punctual_last (parseIsoTimestamp_le htime))
  have hvalue := (@allPass_stateless event (valueRules platform) lastWorld lastWorld
    fun rule hrule => stateless_valueRules hrule event).2
  set w₁ := ((DuplicateKind.events.rule platform.unicode 300).validate event lastWorld).2
  set w₂ := ((DuplicateKind.orders.rule platform.unicode 300).validate event w₁).2
  obtain ⟨hevents, hasks₁⟩ :=
    DuplicateKind.events.rule_passes_iff platform.unicode event lastWorld
  obtain ⟨horders, hasks₂⟩ := DuplicateKind.orders.rule_passes_iff platform.unicode event w₁
  have hsame : SameSurroundings lastWorld w₂ :=
    ⟨hasks₂.clock.trans hasks₁.clock, hasks₂.schemas.trans hasks₁.schemas⟩
  rw [defaultRules_eq, allTolerate_append, hvalue]
  refine ⟨(allTolerate_valueRules_iff hevent).mpr hpresentable, ?_, ?_, ?_, ?_, ?_, ?_, trivial⟩
  · exact tolerates_of_passes (hevents.mpr (not_recalls_of_unseen rfl rfl))
  · apply tolerates_of_passes
    refine horders.mpr (not_recalls_of_unseen hasks₁.clock ?_)
    exact hasks₁.others .orders nofun
  · exact (tolerates_impossibleAmountRule_iff (QualityEvent.getField_amount _ hevent)).mpr hlimit
  · exact hbounded hsame.clock inBounds_future
  · exact hbounded (hsame.trans sameSurroundings_boundedTimeRule).clock inBounds_late
  · apply tolerates_schemaDriftRule hbaseline
    exact ((hsame.trans sameSurroundings_boundedTimeRule).trans
      sameSurroundings_boundedTimeRule).schemas

end

end QualityEngine

/-! ## From the rules to the payload -/

theorem unpack_limit : IsPositive (500000 : Float) 8589934592000000 (-34) := ⟨by norm_num, rfl⟩

/-- The version the payload names is that of the baseline. -/
def NamesBaseline (u : Unicode) (d : Dict) : Prop :=
  given d .sourceVersion ≠ .null ∧ strip ((given d .sourceVersion).toText u) = text "v1"

section

variable {platform : Platform} {d : Dict} {event : QualityEvent}

theorem providedVersion_of_namesBaseline (h : NamesBaseline platform.unicode d)
    (hevent : QualityEvent.fromDict platform.unicode d = .ok event) :
    SchemaDriftRule.providedVersion platform.unicode event = some (text "v1") := by
  have hversion : (event.getField .sourceVersion).orElse (event.value .sourceVersion) =
      given d .sourceVersion := by
    rw [QualityEvent.getField_of_fromDict _ hevent (by decide),
      QualityEvent.value_of_fromDict _ hevent (by decide), Json.orElse, ite_self]
  rw [SchemaDriftRule.providedVersion, hversion, ← h.2]
  cases hgiven : given d .sourceVersion with
  | null => exact absurd hgiven h.1
  | _ => rfl

/-- The amount is within its bounds when it is above zero and not above the limit. -/
theorem amount_iff (u : Unicode) (v : Json) :
    ((∃ x, v.toFloat u = .ok x ∧ 0 < x) ∨ OnlyDecimal u v) ∧
        (∀ x, v.toFloat u = .ok x → ¬(500000 : Float) < x) ↔
      (∃ x, v.toFloat u = .ok x ∧ Within 500000 x) ∨ OnlyDecimal u v := by
  constructor
  · rintro ⟨⟨x, hx, hpos⟩ | hdecimal, hlimit⟩
    · exact .inl ⟨x, hx, unpack_limit.within hpos (hlimit x hx)⟩
    · exact .inr hdecimal
  · rintro (⟨x, hx, hwithin⟩ | hdecimal)
    · refine ⟨.inl ⟨x, hx, hwithin.pos⟩, ?_⟩
      intro x' hx'
      obtain rfl := Except.ok.inj (hx.symm.trans hx')
      exact unpack_limit.not_lt_of_within hwithin
    · refine ⟨.inr hdecimal, ?_⟩
      intro x hx
      obtain ⟨s, e, n, rfl, he, -⟩ := hdecimal
      exact absurd (hx.symm.trans he) nofun

/-- A payload that passes and does not slip through is sound. -/
theorem Passable.sound (h : Passable platform d) (hslips : ¬Slips platform d) :
    SoundEvent platform d := by
  have hgiven {f : QualityField} (hf : f ∈ guardedFields) :
      d.get? (text f.key) = some (given d f) := given_eq (h.populated f hf).1
  refine ⟨fun f hf => ⟨_, hgiven hf, h.populated f hf⟩, ⟨_, hgiven (f := .amount) (by decide), ?_⟩,
    ?_, ?_, ⟨_, hgiven (f := .eventTime) (by decide), ?_⟩⟩
  · obtain ⟨x, hx, hwithin⟩ | hdecimal := h.amount
    · cases hamount : given d .amount with
      | int i =>
        rw [hamount] at hx
        exact_mod_cast within_of_floatOfInt (n := 500000) unpack_limit (by norm_num) hx hwithin
      | float y =>
        rw [hamount] at hx
        cases hx
        exact hwithin
      | str s =>
        rw [hamount] at hx
        exact ⟨x, hx, hwithin⟩
      | bool b =>
        cases b with
        | true => exact absurd (.inl hamount) hslips
        | false =>
          rw [hamount] at hx
          cases hx
          exact absurd hwithin.pos (by decide +kernel)
      | _ =>
        rw [hamount] at hx
        cases hx
    · exact absurd (.inr (.inl hdecimal)) hslips
  · obtain ⟨s, hs, hvalue⟩ := h.currency
    exact ⟨s, hs, hvalue ▸ hgiven (f := .currency) (by decide)⟩
  · obtain ⟨s, hs, hvalue⟩ := h.paymentStatus
    exact ⟨s, hs, hvalue ▸ hgiven (f := .paymentStatus) (by decide)⟩
  · obtain ⟨s, dt, hs, -⟩ := h.eventTime
    obtain ⟨time, htime⟩ := h.eventTime_read
    cases time with
    | none => exact absurd (.inr (.inr htime)) hslips
    | some t => exact ⟨s, t, hs, hs ▸ htime⟩

/-- A payload that slips through is not sound. -/
theorem Slips.not_sound (h : Slips platform d) : ¬SoundEvent platform d := by
  intro hsound
  have hgiven {f : QualityField} {v : Json} (hv : d.get? (text f.key) = some v) : given d f = v := by
    change (d.get? (text f.key)).getD .null = v
    rw [hv]
    rfl
  obtain ⟨v, hv, hamount⟩ := hsound.amount
  have hvalue : given d .amount = v := hgiven hv
  obtain hbool | ⟨s, e, n, hs, he, -⟩ | htime := h
  · rw [hvalue] at hbool
    subst hbool
    exact hamount
  · rw [hvalue] at hs
    subst hs
    obtain ⟨x, hx, -⟩ := hamount
    exact absurd (hx.symm.trans he) nofun
  · obtain ⟨v', hv', s, t, rfl, ht⟩ := hsound.eventTime
    have hevent : given d .eventTime = .str s := hgiven hv'
    rw [hevent, ht] at htime
    cases htime

end

end IceStream
