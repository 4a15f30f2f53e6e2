import IceStream.Metrics.Collector
import IceStream.Remediation.Reprocessor

/-!
# What counts as an invalid event

The error-rate engine, the metrics collector and the reprocessor each go by a part of the summary
of their own.
-/

namespace IceStream
open Python Metrics Remediation

/-! ## The three counts -/

/-- `record_event` records a failed outcome. -/
def CountedFailed (summary : ValidationSummary) : Prop :=
  ∀ (e : ErrorRateEngine) (r : MetricsReading) (timestamp : Option Date),
    e.recordEvent r summary timestamp = e.recordEventOutcome r false timestamp

/-- The collector, told of the event, counts it as invalid in total and in each window. -/
def CountedInvalid (summary : ValidationSummary) : Prop :=
  ∀ (platform : Platform) (timestamp : Json) (c c' : MetricsCollector),
    MetricsCollector.recordEvent platform summary timestamp c = (.ok (), c') →
      c'.invalidEvents = c.invalidEvents + 1 ∧
      List.Forall₂ (fun agg agg' => ∃ t, agg' = agg.addEvent false t) c.windows c'.windows

/-- `process` puts an event with this summary among the invalid ones. -/
def Rejected (summary : ValidationSummary) : Prop :=
  ∀ (σ : Type) (r : Reprocessor σ) (incidentId : IncidentId) (attemptNumber : ℕ)
    (result : ReprocessResult) (event : Dict) (s s' : σ),
    r.validateWithSummary event s = (.ok summary, s') →
      ∃ result' s'', r.processEvent incidentId attemptNumber result event s = (.ok result', s'') ∧
        result'.invalidCount = result.invalidCount + 1 ∧
        result'.invalidEvents = result.invalidEvents ++ [event]

section

variable {summary : ValidationSummary}

theorem countedFailed_iff : CountedFailed summary ↔ summary.isValid = false := by
  constructor
  · intro h
    have hrecords := congrArg (fun e => (e.aggregators 60).map WindowAggregator.records)
      (h (.init fun _ => none) ⟨0, true, fun _ => true⟩ (some 0))
    cases hvalid : summary.isValid with
    | false => rfl
    | true =>
      rw [ErrorRateEngine.recordEvent, hvalid] at hrecords
      revert hrecords
      decide +kernel
  · intro h e r timestamp
    rw [ErrorRateEngine.recordEvent, h]

theorem foldl_recordRuleResult (results : List ValidationResult) (c : MetricsCollector) :
    (results.foldl MetricsCollector.recordRuleResult c).invalidEvents = c.invalidEvents ∧
      (results.foldl MetricsCollector.recordRuleResult c).windows = c.windows := by
  induction results generalizing c with
  | nil => exact ⟨rfl, rfl⟩
  | cons r results ih =>
    have hstep : (c.recordRuleResult r).invalidEvents = c.invalidEvents ∧
        (c.recordRuleResult r).windows = c.windows := by
      unfold MetricsCollector.recordRuleResult
      split <;> exact ⟨rfl, rfl⟩
    rw [List.foldl_cons]
    exact ⟨(ih _).1.trans hstep.1, (ih _).2.trans hstep.2⟩

theorem incrementEventValidation_counts (c : MetricsCollector) (status : EventStatus) :
    (c.incrementEventValidation status).invalidEvents =
        c.invalidEvents + (if status = .healthy then 0 else 1) ∧
      (c.incrementEventValidation status).windows = c.windows := by
  unfold MetricsCollector.incrementEventValidation
  by_cases hstatus : status = .healthy
  · rw [if_pos hstatus, if_pos hstatus]
    exact ⟨rfl, rfl⟩
  · rw [if_neg hstatus, if_neg hstatus]
    exact ⟨rfl, rfl⟩

/-- What the collector has counted when it has been told of an event. -/
theorem recordEvent_counts {platform : Platform} {timestamp : Json} {c c' : MetricsCollector}
    (h : MetricsCollector.recordEvent platform summary timestamp c = (.ok (), c')) :
    c'.invalidEvents = c.invalidEvents + (if summary.overallStatus = .healthy then 0 else 1) ∧
      List.Forall₂ (fun agg agg' => ∃ t, agg' = agg.addEvent (summary.overallStatus == .healthy) t)
        c.windows c'.windows := by
  have hanswer := MetricsCollector.recordEvent_answer platform timestamp summary c
  rw [h] at hanswer
  cases hparse : parseIsoTimestamp platform timestamp with
  | error e =>
    rw [hparse] at hanswer
    cases hanswer
  | ok time =>
    have hresults := foldl_recordRuleResult summary.results c
    have hstatus := incrementEventValidation_counts
      (summary.results.foldl MetricsCollector.recordRuleResult c) summary.overallStatus
    rw [MetricsCollector.recordEvent, Fallible.update_bind, Fallible.update_bind] at h
    obtain ⟨c'', hrecord, hrecorded⟩ := MetricsCollector.recordEventSummary_ok summary hparse
      ((summary.results.foldl MetricsCollector.recordRuleResult c).incrementEventValidation
        summary.overallStatus)
    obtain rfl : c'' = c' := congrArg Prod.snd (hrecord.symm.trans h)
    constructor
    · rw [hrecorded.invalidEvents, hstatus.1, hresults.1]
    · have hwindows := hrecorded.windows
      rw [hstatus.2, hresults.2] at hwindows
      exact hwindows

theorem countedInvalid_iff : CountedInvalid summary ↔ summary.overallStatus ≠ .healthy := by
  constructor
  · intro h hhealthy
    obtain ⟨c', hc'⟩ : ∃ c', MetricsCollector.recordEvent .ascii summary .null
        { clock := fun _ => 0 } = (.ok (), c') :=
      ⟨_, Prod.ext (MetricsCollector.recordEvent_answer _ _ summary _) rfl⟩
    have hcount := (recordEvent_counts hc').1
    rw [if_pos hhealthy, (h _ _ _ _ hc').1] at hcount
    omega
  · intro h platform timestamp c c' hc'
    have hcounts := recordEvent_counts hc'
    rw [if_neg h, beq_eq_false_iff_ne.mpr h] at hcounts
    exact hcounts

theorem rejected_iff : Rejected summary ↔ summary.failedRules ≠ 0 := by
  constructor
  · intro h hzero
    let r : Reprocessor Unit := ⟨fun _ s => (.ok summary, s), none⟩
    have hvalidate : r.validateWithSummary [] () = (.ok summary, ()) := rfl
    obtain ⟨result', s'', hprocess, hcount, -⟩ :=
      h Unit r ⟨text "INC", by decide⟩ 1 {} [] () () hvalidate
    rw [Reprocessor.processEvent, Fallible.bind_ok hvalidate, if_pos hzero] at hprocess
    obtain rfl := Except.ok.inj (congrArg Prod.fst hprocess)
    cases hcount
  · intro h σ r incidentId attemptNumber result event s s' hvalidate
    obtain ⟨quarantined, s'', hquarantine⟩ : ∃ quarantined s'',
        r.quarantine event summary s' = (.ok quarantined, s'') := by
      obtain ⟨quarantined, s'', hquarantine, -⟩ := r.quarantine_logged event summary s' []
      exact ⟨quarantined, s'', hquarantine⟩
    refine ⟨result.rejected event quarantined, s'', ?_, rfl, rfl⟩
    rw [Reprocessor.processEvent, Fallible.bind_ok hvalidate, if_neg h, Fallible.bind_ok hquarantine]
    rfl

end

/-- The failures of an event are all tolerated, and there are some. -/
def OnlyTolerated (results : List ValidationResult) : Prop :=
  (∃ r ∈ results, r.passed = false) ∧ ∀ r ∈ results, r.isCriticalFailure = false

/-- All three agree on an event. -/
def Agree (summary : ValidationSummary) : Prop :=
  (CountedFailed summary ↔ CountedInvalid summary) ∧ (CountedInvalid summary ↔ Rejected summary)

/-- The collector and the reprocessor always agree. -/
theorem healthy_iff (results : List ValidationResult) (eventId : Json) :
    (computeValidationSummary results eventId).overallStatus = .healthy ↔
      (computeValidationSummary results eventId).failedRules = 0 := by
  change (if (computeValidationSummary results eventId).failedRules = 0 then EventStatus.healthy
    else if 0 < (computeValidationSummary results eventId).criticalFailures then .failed
    else .warning) = .healthy ↔ _
  split_ifs with hzero hcritical
  · simp [hzero]
  · simp [hzero]
  · simp [hzero]

/-- The three agree on an event unless its failures are all tolerated. -/
theorem agree_iff (results : List ValidationResult) (eventId : Json) :
    Agree (computeValidationSummary results eventId) ↔ ¬OnlyTolerated results := by
  have hvalid := isValid_iff results eventId
  have hzero := failedRules_eq_zero_iff results eventId
  unfold Agree OnlyTolerated
  rw [countedFailed_iff, countedInvalid_iff, rejected_iff, Ne, healthy_iff, ← Bool.not_eq_true,
    hvalid, hzero]
  constructor
  · rintro ⟨hfailed, -⟩ ⟨hsome, htolerated⟩
    obtain ⟨r, hr, hfalse⟩ := hsome
    apply hfailed.mpr ?_ htolerated
    intro hall
    rw [hall r hr] at hfalse
    cases hfalse
  · intro hnot
    refine ⟨not_congr ?_, not_congr hzero.symm⟩
    constructor
    · intro htolerated r hr
      by_contra hfalse
      exact hnot ⟨⟨r, hr, Bool.not_eq_true _ ▸ hfalse⟩, htolerated⟩
    · intro hall r hr
      rw [ValidationResult.isCriticalFailure, hall r hr]
      rfl

/-- An event that only came late. -/
theorem late_event_in_dispute :
    ¬Agree (computeValidationSummary [⟨"late_event", false, .medium, [], none, .null⟩] .null) := by
  unfold Agree
  rw [countedFailed_iff, countedInvalid_iff]
  rintro ⟨h, -⟩
  exact absurd (h.mpr (by decide)) (by decide)

end IceStream
