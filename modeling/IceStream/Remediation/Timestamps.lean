import IceStream.Lib.IsoText
import IceStream.Lib.Shown
import IceStream.Remediation.LakehouseSink
import IceStream.Remediation.Repeatable

/-!
# Three readings of a timestamp

The rule, the parser of the detectors and the sink write `Z` as an offset before they read a text.
The rule and the sink do so with every `Z`, and the parser with the last character alone, be it a
`Z` or a `z`; the sink does not strip the text.
-/

namespace IceStream.Remediation
open Python Schema Metrics QualityEngine

/-! ## The texts that are read -/

/-- What the rule and the sink read. -/
def eachZ (t : Text) : Text := replaceText (text "Z") (text "+00:00") t

/-- What `parse_iso_timestamp` reads. -/
def lastZ (t : Text) : Text :=
  if t.getLast?.any (fun c => c.val == 0x5A || c.val == 0x7A) then t.dropLast ++ text "+00:00"
  else t

/-- A `Z` before the last character. -/
def InnerZ (t : Text) : Prop := (0x5A : CodePoint) ∈ t.dropLast

instance (t : Text) : Decidable (InnerZ t) :=
  inferInstanceAs (Decidable ((0x5A : CodePoint) ∈ t.dropLast))

/-- The last character is a `z`. -/
def EndsSmall (t : Text) : Prop := t.getLast? = some 0x7A

instance (t : Text) : Decidable (EndsSmall t) :=
  inferInstanceAs (Decidable (t.getLast? = some 0x7A))

section

variable {t front : Text} {c : CodePoint} {dt : DateTime}

theorem eachZ_cons (c : CodePoint) (t : Text) :
    eachZ (c :: t) = (if c = 0x5A then text "+00:00" else [c]) ++ eachZ t :=
  replaceText_singleton_cons 0x5A (text "+00:00") c t

theorem eachZ_append (t t' : Text) : eachZ (t ++ t') = eachZ t ++ eachZ t' :=
  replaceText_singleton_append 0x5A (text "+00:00") t t'

theorem eachZ_of_not_mem (h : (0x5A : CodePoint) ∉ t) : eachZ t = t :=
  replaceText_singleton_of_not_mem (text "+00:00") h

theorem eachZ_snoc (front : Text) (c : CodePoint) :
    eachZ (front ++ [c]) = eachZ front ++ if c = 0x5A then text "+00:00" else [c] := by
  rw [eachZ_append, eachZ_cons]
  exact congrArg (eachZ front ++ ·) (List.append_nil _)

theorem lastZ_snoc (front : Text) (hsmall : c ≠ 0x7A) :
    lastZ (front ++ [c]) = front ++ if c = 0x5A then text "+00:00" else [c] := by
  have hmark : (c.val == 0x5A || c.val == 0x7A) = true ↔ c = 0x5A := by
    have hsmall' : ¬c.val = 0x7A := fun h => hsmall (Fin.ext h)
    rw [Bool.or_eq_true, beq_iff_eq, beq_iff_eq, or_iff_left hsmall', Fin.ext_iff]
    rfl
  rw [lastZ, List.getLast?_concat, List.dropLast_concat, Option.any_some]
  simp only [hmark]
  split_ifs <;> rfl

theorem innerZ_snoc : InnerZ (front ++ [c]) ↔ (0x5A : CodePoint) ∈ front := by
  rw [InnerZ, List.dropLast_concat]

theorem endsSmall_snoc : EndsSmall (front ++ [c]) ↔ c = 0x7A := by
  rw [EndsSmall, List.getLast?_concat, Option.some.injEq]

/-- With no other `Z` than the last the two texts are the same. -/
theorem eachZ_eq_lastZ (hinner : ¬InnerZ t) (hsmall : ¬EndsSmall t) : eachZ t = lastZ t := by
  obtain rfl | ⟨front, c, rfl⟩ := List.eq_nil_or_concat' t
  · rfl
  · rw [innerZ_snoc] at hinner
    rw [endsSmall_snoc] at hsmall
    rw [eachZ_snoc, lastZ_snoc _ hsmall, eachZ_of_not_mem hinner]

/-- A `z` at the end is left there, and not read. -/
theorem eachZ_unread_of_endsSmall (h : EndsSmall t) : fromisoformat (eachZ t) = none := by
  obtain rfl | ⟨front, c, rfl⟩ := List.eq_nil_or_concat' t
  · cases h
  · rw [endsSmall_snoc] at h
    subst h
    by_contra hread
    obtain ⟨dt, hread⟩ := Option.ne_none_iff_exists'.mp hread
    obtain ⟨front', last, hlast, hend⟩ := fromisoformat_ends hread
    rw [eachZ_snoc, if_neg (by decide)] at hlast
    obtain ⟨-, rfl⟩ := List.append_singleton_inj.mp hlast
    revert hend
    decide

/-- A text with another `Z` is read as a date in one way at most. -/
theorem eachZ_unread_of_innerZ (hinner : InnerZ t) (hsmall : ¬EndsSmall t)
    (h : fromisoformat (lastZ t) = some dt) : fromisoformat (eachZ t) = none := by
  obtain rfl | ⟨front, last, rfl⟩ := List.eq_nil_or_concat' t
  · cases hinner
  · rw [endsSmall_snoc] at hsmall
    obtain ⟨date, middle, rfl, hdate⟩ := List.eq_append_cons_of_mem (innerZ_snoc.mp hinner)
    rw [lastZ_snoc _ hsmall, List.append_assoc, List.cons_append] at h
    have hnonempty : (middle ++ if last = 0x5A then text "+00:00" else [last]) ≠ [] := by
      apply List.append_ne_nil_of_right_ne_nil
      split_ifs <;> exact List.cons_ne_nil _ _
    -- a time follows the first `Z`, and so a digit
    obtain ⟨-, -, time, htime⟩ := separator_of_read rfl hnonempty h
    obtain ⟨a, b, rest, hstarts, ha, -⟩ := (isoTime_shape htime).starts
    obtain ⟨behind, hbehind⟩ : ∃ behind, eachZ (middle ++ [last]) = a :: behind := by
      have haz : a ≠ 0x5A := by
        rintro rfl
        cases ha
      have hprefix : a :: b :: rest <+: middle ++ if last = 0x5A then text "+00:00" else [last] :=
        hstarts ▸ List.takeWhile_prefix _
      cases middle with
      | nil =>
        by_cases hlast : last = 0x5A
        · rw [if_pos hlast, List.nil_append] at hprefix
          obtain ⟨rfl, -⟩ := List.cons_prefix_cons.mp hprefix
          cases ha
        · rw [if_neg hlast, List.nil_append] at hprefix
          obtain ⟨rfl, -⟩ := List.cons_prefix_cons.mp hprefix
          exact ⟨[], by rw [List.nil_append, eachZ_cons, if_neg haz]; rfl⟩
      | cons d middle =>
        rw [List.cons_append] at hprefix
        obtain ⟨rfl, -⟩ := List.cons_prefix_cons.mp hprefix
        rw [List.cons_append, eachZ_cons, if_neg haz]
        exact ⟨eachZ (middle ++ [last]), rfl⟩
    rw [List.append_assoc, List.cons_append, eachZ_append, eachZ_of_not_mem hdate, eachZ_cons,
      if_pos rfl, hbehind]
    exact fromisoformat_offset_inside rfl hnonempty h ha

/-- What the sink reads has no spaces around it. -/
theorem strip_of_read (h : fromisoformat (eachZ t) = some dt) : strip t = t := by
  have hfront : t.dropWhile isSpace = t := by
    cases t with
    | nil => rfl
    | cons c t =>
      obtain ⟨d, rest, hstarts, hdigit⟩ := fromisoformat_starts h
      have hspace : ¬isSpace c = true := by
        rw [eachZ_cons] at hstarts
        split_ifs at hstarts with hc
        · rw [hc]
          decide
        · cases hstarts
          exact not_isSpace_of_isDigit hdigit
      exact List.dropWhile_cons_of_neg hspace
  have hback : t.reverse.dropWhile isSpace = t.reverse := by
    obtain rfl | ⟨front, c, rfl⟩ := List.eq_nil_or_concat' t
    · rfl
    · obtain ⟨front', last, hlast, hend⟩ := fromisoformat_ends h
      have hspace : ¬isSpace c = true := by
        rw [eachZ_snoc] at hlast
        split_ifs at hlast with hc
        · rw [hc]
          decide
        · obtain ⟨-, rfl⟩ := List.append_singleton_inj.mp hlast
          obtain hdigit | hz := hend
          · exact not_isSpace_of_isDigit hdigit
          · exact absurd (Fin.ext hz) hc
      rw [List.reverse_concat, List.dropWhile_cons_of_neg hspace]
  rw [strip, hfront, hback, List.reverse_reverse]

end

/-! ## The instant -/

/-- The date in UTC is one of the years 1 to 9999. -/
def InRange (dt : DateTime) : Prop := minInstant ≤ instantOf dt ∧ instantOf dt ≤ maxInstant

instance (dt : DateTime) : Decidable (InRange dt) :=
  inferInstanceAs (Decidable (minInstant ≤ instantOf dt ∧ instantOf dt ≤ maxInstant))

theorem le_wall (dt : DateTime) : minInstant ≤ dt.wall := by
  have hday := dt.day_range.1
  have hordinal : 1 ≤ toOrdinal dt.year dt.month dt.day := by
    rw [toOrdinal]
    omega
  change (-62135596800000000 : ℤ) ≤ (((toOrdinal dt.year dt.month dt.day : ℤ) - 719163) * 86400 +
    dt.hour * 3600 + dt.minute * 60 + dt.second) * 1000000 + dt.microsecond
  omega

/-- The date has a UTC just in case that is in range. -/
theorem utc_eq_ok_iff {dt : DateTime} {t : Instant} :
    dt.utc = .ok t ↔ InRange dt ∧ t = instantOf dt := by
  have hwall (hoffset : dt.offset.getD 0 = 0) : instantOf dt = dt.wall := by
    change dt.wall - dt.offset.getD 0 = dt.wall
    rw [hoffset, sub_zero]
  have hok (hoffset : dt.offset.getD 0 = 0) :
      Except.ok (ε := Exc) dt.wall = .ok t ↔ InRange dt ∧ t = instantOf dt := by
    have hrange : InRange dt := by
      rw [InRange, hwall hoffset]
      exact ⟨le_wall dt, dt.wall_le⟩
    rw [and_iff_right hrange, hwall hoffset, Except.ok.injEq, eq_comm]
  rw [DateTime.utc]
  cases hoffset : dt.offset with
  | none => exact hok (by rw [hoffset]; rfl)
  | some offset =>
    by_cases hzero : offset = 0
    · rw [hzero] at hoffset
      simp only [hzero, if_pos]
      exact hok (by rw [hoffset]; rfl)
    · simp only [hzero, if_false, addMicros]
      have hinstant : instantOf dt = dt.wall + -offset := by
        rw [instantOf, hoffset]
        exact sub_eq_add_neg _ _
      rw [InRange, hinstant]
      split_ifs with hrange
      · rw [and_iff_right hrange, Except.ok.injEq, eq_comm]
      · refine iff_of_false ?_ fun h => hrange h.1
        intro h
        cases h

/-! ## The rule and the parser -/

section

variable {platform : Platform} {field : QualityField} {severity : Severity} {event : QualityEvent}
  {s : Text}

/-- A word for nothing is no date either. -/
theorem lastZ_unread_of_none {t : Text} (h : lower t = text "none") :
    fromisoformat (lastZ t) = none := by
  obtain ⟨a, rest, rfl, ha, hrest⟩ := List.map_eq_cons_iff.mp h
  obtain ⟨b, rest, rfl, -, -⟩ := List.map_eq_cons_iff.mp hrest
  by_contra hread
  obtain ⟨dt, hread⟩ := Option.ne_none_iff_exists'.mp hread
  obtain ⟨d, behind, hstarts, hdigit⟩ := fromisoformat_starts hread
  obtain rfl : a = d := by
    rw [lastZ] at hstarts
    split_ifs at hstarts <;> cases hstarts <;> rfl
  simp only [isDigit, Bool.and_eq_true, decide_eq_true_eq] at hdigit
  have hsame : ¬(65 ≤ a.val ∧ a.val ≤ 90) := by omega
  rw [dif_neg hsame] at ha
  rw [ha] at hdigit
  revert hdigit
  decide

theorem parseIsoTimestamp_str (platform : Platform) (s : Text) :
    parseIsoTimestamp platform (.str s) =
      match fromisoformat (lastZ (strip s)) with
      | some dt => dt.utc.map some
      | none => .ok none := by
  rw [parseIsoTimestamp]
  dsimp only
  split_ifs with hblank hlast
  · have hnone : fromisoformat (lastZ (strip s)) = none := by
      obtain hempty | hnone := hblank
      · rw [List.isEmpty_iff.mp hempty]
        rfl
      · exact lastZ_unread_of_none hnone
    rw [hnone]
  · rw [lastZ, if_pos hlast] <;> rfl
  · rw [lastZ, if_neg hlast] <;> rfl

theorem passed_iff_read (h : event.getField field = .str s) :
    (checkTimestamp field severity event).passed = true ↔
      ∃ dt, fromisoformat (eachZ (strip s)) = some dt := by
  rw [checkTimestamp_passed_iff]
  constructor
  · rintro ⟨s', dt, hs', hdt⟩
    rw [h] at hs'
    cases hs'
    exact ⟨dt, hdt⟩
  · rintro ⟨dt, hdt⟩
    exact ⟨s, dt, h, hdt⟩

/-- The rule passes the text just in case it names an instant, and neither raises. -/
def OneReading {φ : Type} (platform : Platform) (rule : QualityRule φ) (event : QualityEvent)
    (s : Text) (w : φ) : Prop :=
  ∃ result w' answer, rule.validate event w = (.ok (.ok result), w') ∧
    parseIsoTimestamp platform (.str s) = .ok answer ∧
    (result.passed = true ↔ ∃ t, answer = some t)

/-- Where rule and parser agree on a stripped text: the parser reads no `z` at the end, neither of
them a `Z` before the end, and what both read is in range. -/
structure ReadAlike (t : Text) : Prop where
  small : EndsSmall t → fromisoformat (lastZ t) = none
  inner : InnerZ t → ¬EndsSmall t → fromisoformat (eachZ t) = none ∧ fromisoformat (lastZ t) = none
  range : ¬InnerZ t → ¬EndsSmall t → ∀ dt, fromisoformat (lastZ t) = some dt → InRange dt

theorem oneReading_iff_readings {φ : Type} {w : φ} (h : event.getField field = .str s) :
    OneReading platform (timestampValidRule field severity) event s w ↔
      ∃ answer, parseIsoTimestamp platform (.str s) = .ok answer ∧
        ((∃ dt, fromisoformat (eachZ (strip s)) = some dt) ↔ ∃ t, answer = some t) := by
  have hrule : (timestampValidRule field severity).validate event w =
      (.ok (.ok (checkTimestamp field severity event)), w) := rfl
  constructor
  · rintro ⟨result, w', answer, hvalidate, hparse, hagree⟩
    rw [hrule] at hvalidate
    cases hvalidate
    exact ⟨answer, hparse, (passed_iff_read h).symm.trans hagree⟩
  · rintro ⟨answer, hparse, hagree⟩
    exact ⟨_, w, answer, hrule, hparse, (passed_iff_read h).trans hagree⟩

theorem oneReading_iff_readAlike {φ : Type} {w : φ} (h : event.getField field = .str s) :
    OneReading platform (timestampValidRule field severity) event s w ↔ ReadAlike (strip s) := by
  rw [oneReading_iff_readings h, parseIsoTimestamp_str]
  set t := strip s
  constructor
  · rintro ⟨answer, hparse, hagree⟩
    -- what the parser reads it returns, and the rule reads it too
    have hinstant {dt : DateTime} (hdt : fromisoformat (lastZ t) = some dt) :
        InRange dt ∧ ∃ dt', fromisoformat (eachZ t) = some dt' := by
      rw [hdt] at hparse
      cases hutc : dt.utc with
      | error e =>
        simp only [hutc] at hparse
        cases hparse
      | ok instant =>
        simp only [hutc] at hparse
        cases hparse
        exact ⟨(utc_eq_ok_iff.mp hutc).1, hagree.mpr ⟨instant, rfl⟩⟩
    refine ⟨?_, ?_, ?_⟩
    · intro hsmall
      rw [Option.eq_none_iff_forall_ne_some]
      intro dt hdt
      obtain ⟨-, dt', hdt'⟩ := hinstant hdt
      rw [eachZ_unread_of_endsSmall hsmall] at hdt'
      cases hdt'
    · intro hinner hsmall
      have hlast : fromisoformat (lastZ t) = none := by
        rw [Option.eq_none_iff_forall_ne_some]
        intro dt hdt
        obtain ⟨-, dt', hdt'⟩ := hinstant hdt
        rw [eachZ_unread_of_innerZ hinner hsmall hdt] at hdt'
        cases hdt'
      refine ⟨?_, hlast⟩
      rw [hlast] at hparse
      cases hparse
      rw [Option.eq_none_iff_forall_ne_some]
      intro dt hdt
      obtain ⟨instant, hnone⟩ := hagree.mp ⟨dt, hdt⟩
      cases hnone
    · intro hinner hsmall dt hdt
      exact (hinstant hdt).1
  · intro halike
    cases hlast : fromisoformat (lastZ t) with
    | none =>
      have heach : fromisoformat (eachZ t) = none := by
        by_cases hsmall : EndsSmall t
        · exact eachZ_unread_of_endsSmall hsmall
        · by_cases hinner : InnerZ t
          · exact (halike.inner hinner hsmall).1
          · rw [eachZ_eq_lastZ hinner hsmall]
            exact hlast
      refine ⟨none, rfl, iff_of_false ?_ nofun⟩
      rintro ⟨dt, hdt⟩
      rw [heach] at hdt
      cases hdt
    | some dt =>
      have hsmall : ¬EndsSmall t := by
        intro hsmall
        rw [halike.small hsmall] at hlast
        cases hlast
      have hinner : ¬InnerZ t := by
        intro hinner
        rw [(halike.inner hinner hsmall).2] at hlast
        cases hlast
      have hutc := utc_eq_ok_iff.mpr ⟨halike.range hinner hsmall dt hlast, rfl⟩
      refine ⟨some (instantOf dt), ?_, iff_of_true ⟨dt, ?_⟩ ⟨instantOf dt, rfl⟩⟩
      · simp only [hutc]
        rfl
      · rw [eachZ_eq_lastZ hinner hsmall]
        exact hlast

end

/-! ## The sink -/

/-- A column of the table that holds instants. -/
def IsTimestampColumn (column : SchemaField) : Prop :=
  column ∈ bronzeCheckoutEventsSchema ∧ text "timestamp" <:+: lowerText column.fieldType

/-- Whatever the time is, the sink writes the instant that the value of the event names. -/
def WrittenAsParsed (platform : Platform) (event : Dict) (column : SchemaField) : Prop :=
  ∃ t, parseIsoTimestamp platform (Dict.getD event column.name .null) = .ok (some t) ∧
    ∀ now, normalizeCell platform now event column = .ok (.instant t)

/-- A text without spaces around it and without a `Z` before the end, whose date, if it has one, is
in range. -/
def PlainTimestamp (v : Json) : Prop :=
  ∃ s, v = .str s ∧ strip s = s ∧ ¬InnerZ s ∧
    ∀ dt, fromisoformat (lastZ s) = some dt → InRange dt

section

variable {platform : Platform} {field : QualityField} {severity : Severity} {event : QualityEvent}
  {d : Dict} {w w' : EngineWorld} {summary : ValidationSummary}

/-- An event that passed has texts in the two fields, and the rule reads them. -/
theorem read_of_passed (hvalidate : validate platform d w = (.ok summary, w'))
    (hpassed : summary.failedRules = 0)
    (hfield : field = .eventTime ∨ field = .ingestionTime) :
    ∃ s dt, given d field = .str s ∧ fromisoformat (eachZ (strip s)) = some dt := by
  obtain ⟨e, -, hraised⟩ | ⟨event, summary', c, hevent, hsummary, hall⟩ := validate_eq platform d w
  · rw [hraised] at hvalidate
    cases hvalidate
  · obtain rfl : summary' = summary := by
      rw [hsummary] at hvalidate
      cases hparse : parseIsoTimestamp platform (given d .eventTime) with
      | error e =>
        rw [hparse] at hvalidate
        cases hvalidate
      | ok time =>
        rw [hparse] at hvalidate
        cases hvalidate
        rfl
    have hrules := (allPass_append.mp (hall.mp hpassed)).1
    have hrule : timestampValidRule field .high ∈
        (valueRules platform : List (QualityRule EngineWorld)) := by
      obtain rfl | rfl := hfield <;> simp [valueRules]
    have hpasses := passes_of_allPass (fun rule hrule => stateless_valueRules hrule event) hrules
      (timestampValidRule field .high) hrule
    obtain ⟨s, dt, hvalue, hdt⟩ := (checkTimestamp_passed_iff field .high).mp hpasses
    have hnumber : field ∉ QualityEvent.numberFields := by
      obtain rfl | rfl := hfield <;> decide
    rw [QualityEvent.getField_of_fromDict _ hevent hnumber] at hvalue
    exact ⟨s, dt, hvalue, hdt⟩

theorem isTimestampColumn_key {column : SchemaField} (h : IsTimestampColumn column) :
    ∃ field : QualityField, (field = .eventTime ∨ field = .ingestionTime) ∧
      column.name = text field.key := by
  have hnames : ∀ column ∈ bronzeCheckoutEventsSchema,
      text "timestamp" <:+: lowerText column.fieldType →
        column.name = text "event_time" ∨ column.name = text "ingestion_time" := by
    decide +kernel
  obtain hname | hname := hnames column h.1 h.2
  · exact ⟨.eventTime, .inl rfl, hname⟩
  · exact ⟨.ingestionTime, .inr rfl, hname⟩

theorem normalizeCell_str {column : SchemaField} {s : Text} (hcolumn : IsTimestampColumn column)
    (h : Dict.getD d column.name .null = .str s) (now : Instant) :
    normalizeCell platform now d column = timestampCell platform now (.str s) := by
  rw [normalizeCell, h]
  exact if_pos hcolumn.2

theorem getD_withProvenance (incidentId : IncidentId) (attempt : ℕ)
    (hfield : field = .eventTime ∨ field = .ingestionTime) :
    Dict.getD (withProvenance incidentId attempt d) (text field.key) .null = given d field := by
  have hkeys : text field.key ≠ text "_remediation_attempt" ∧
      text field.key ≠ text "_remediation_incident_id" := by
    obtain rfl | rfl := hfield <;> decide
  change ((withProvenance incidentId attempt d).get? (text field.key)).getD .null = given d field
  rw [withProvenance, Dict.get?_set_of_ne _ _ hkeys.1, Dict.get?_set_of_ne _ _ hkeys.2]
  rfl

theorem writtenAsParsed_iff {column : SchemaField} {s : Text} {dt : DateTime}
    (hcolumn : IsTimestampColumn column) (hvalue : Dict.getD d column.name .null = .str s)
    (hread : fromisoformat (eachZ (strip s)) = some dt) :
    WrittenAsParsed platform d column ↔ PlainTimestamp (.str s) := by
  have hcell (now : Instant) : normalizeCell platform now d column =
      match fromisoformat (eachZ s) with
      | some dt => .ok (.instant (instantOf dt))
      | none => .ok (.instant now) := normalizeCell_str hcolumn hvalue now
  constructor
  · rintro ⟨t, hparse, hwritten⟩
    rw [hvalue, parseIsoTimestamp_str] at hparse
    obtain ⟨dt', hdt'⟩ : ∃ dt', fromisoformat (eachZ s) = some dt' := by
      by_contra hnone
      rw [← Option.ne_none_iff_exists', not_not] at hnone
      -- the current time cannot be the instant always
      have hlater := (hcell (t + 1)).symm.trans (hwritten (t + 1))
      rw [hnone] at hlater
      injection hlater with hlater
      injection hlater with hlater
      exact absurd hlater (by show ¬(t + 1 : ℤ) = t; omega)
    have hstrip := strip_of_read hdt'
    rw [hstrip] at hparse
    have hsmall : ¬EndsSmall s := by
      intro hsmall
      rw [eachZ_unread_of_endsSmall hsmall] at hdt'
      cases hdt'
    cases hlast : fromisoformat (lastZ s) with
    | none =>
      rw [hlast] at hparse
      cases hparse
    | some last =>
      have hinner : ¬InnerZ s := by
        intro hinner
        rw [eachZ_unread_of_innerZ hinner hsmall hlast] at hdt'
        cases hdt'
      refine ⟨s, rfl, hstrip, hinner, ?_⟩
      intro dt'' hdt''
      rw [hlast] at hparse hdt''
      cases hdt''
      cases hutc : last.utc with
      | error e =>
        simp only [hutc] at hparse
        cases hparse
      | ok instant => exact (utc_eq_ok_iff.mp hutc).1
  · rintro ⟨s', hs', hstrip, hinner, hrange⟩
    cases hs'
    rw [hstrip] at hread
    have hsmall : ¬EndsSmall s := by
      intro hsmall
      rw [eachZ_unread_of_endsSmall hsmall] at hread
      cases hread
    have hlast : fromisoformat (lastZ s) = some dt := eachZ_eq_lastZ hinner hsmall ▸ hread
    refine ⟨instantOf dt, ?_, ?_⟩
    · rw [hvalue, parseIsoTimestamp_str, hstrip, hlast]
      simp only [utc_eq_ok_iff.mpr ⟨hrange dt hlast, rfl⟩]
      rfl
    · intro now
      rw [hcell, hread]

end

/-! ## All three -/

def wholeText (s : Text) : QualityEvent := ⟨fun _ => .str s, []⟩

/-- The event with a space before its time and one after it. -/
def spaced : Dict := refetched.set "event_time" (.str (text " 2026-01-01T00:00:00Z "))

def eventTimeColumn : SchemaField := ⟨text "event_time", text "timestamp"⟩

theorem isTimestampColumn_eventTime : IsTimestampColumn eventTimeColumn :=
  ⟨List.mem_cons_of_mem _ List.mem_cons_self, by decide⟩

theorem inRange_of_all {o : Option DateTime} (h : o.all (fun dt => decide (InRange dt)) = true)
    (dt : DateTime) (hdt : o = some dt) : InRange dt := by
  rw [hdt] at h
  exact of_decide_eq_true h

/-- An engine passes the event when all the results of its rules are good. -/
theorem passed_of_verdict {d : Dict} {w : EngineWorld}
    (h : (judge .ascii w [d]).map Prod.snd = [true]) :
    ∃ summary w', validate .ascii d w = (.ok summary, w') ∧ summary.failedRules = 0 := by
  rw [judge] at h
  rcases hvalidate : validate .ascii d w with ⟨e | summary, w'⟩
  · rw [hvalidate] at h
    cases h
  · rw [hvalidate] at h
    exact ⟨summary, w', rfl, beq_iff_eq.mp (List.cons.inj h).1⟩

end IceStream.Remediation
