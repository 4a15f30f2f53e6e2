import IceStream.Metrics.Snapshot
import Mathlib.Algebra.Order.Ring.Rat
import Mathlib.Data.Rat.Cast.Order

/-!
# The invariants of the rates

Whatever an engine counts from, its own windows or a row that some engine wrote, the
counts are numbers of events and add up. So the checks of `calculate` never raise, in floats
or in exact arithmetic.
-/

namespace IceStream.Metrics
open Python Stepping

/-! ## Counts -/

/-- Numbers of events that add up. -/
structure ErrorRateEngine.Counts.Sound (c : ErrorRateEngine.Counts) : Prop where
  valid : 0 ≤ c.2.1
  failed : 0 ≤ c.2.2
  sum : c.2.1 + c.2.2 = c.1

/-- `save_window_event_counts`: the total is summed where the row is written. -/
def saveWindowEventCounts (validEvents failedEvents : ℤ) (updatedAt : Date) : WindowCounts :=
  ⟨validEvents + failedEvents, validEvents, failedEvents, updatedAt⟩

/-- Every row was written by `save_window_event_counts`, for some numbers of events. -/
def RowsSaved (persisted : ℤ → Option WindowCounts) : Prop :=
  ∀ w row, persisted w = some row → ∃ (valid failed : ℕ) (updatedAt : Date),
    row = saveWindowEventCounts valid failed updatedAt

theorem RowsSaved.sound {persisted : ℤ → Option WindowCounts} (h : RowsSaved persisted) {w : ℤ}
    {row : WindowCounts} (hrow : persisted w = some row) :
    ErrorRateEngine.Counts.Sound row.counts := by
  obtain ⟨valid, failed, updatedAt, rfl⟩ := h w row hrow
  exact ⟨Int.natCast_nonneg valid, Int.natCast_nonneg failed, rfl⟩

theorem RowsSaved.update {persisted : ℤ → Option WindowCounts} (h : RowsSaved persisted) (w : ℤ)
    (valid failed : ℕ) (updatedAt : Date) :
    RowsSaved (Function.update persisted w
      (some (saveWindowEventCounts valid failed updatedAt))) := by
  intro w' row hrow
  by_cases hw : w' = w
  · rw [hw, Function.update_self] at hrow
    exact ⟨valid, failed, updatedAt, (Option.some.inj hrow).symm⟩
  · rw [Function.update_of_ne hw] at hrow
    exact h w' row hrow

/-- The thresholds, over whatever numbers the rate is one of. -/
def healthOf {K : Type} [LT K] [LE K] [DecidableLT K] [DecidableLE K]
    (healthyMax warningMax rate : K) : HealthStatus :=
  if rate < healthyMax then .healthy else if rate ≤ warningMax then .warning else .critical

namespace ErrorRateEngine

/-- What `calculate` makes of the counts, over whatever numbers it divides in. -/
def judge {K : Type} [LT K] [LE K] [DecidableLT K] [DecidableLE K] [Zero K] [One K]
    (divide : ℤ → (total : ℤ) → 0 < total → K) (shown : K → String) (healthyMax warningMax : K) :
    Counts → Except Exc (K × HealthStatus)
  | (total, valid, failed) =>
    if total < 0 ∨ valid < 0 ∨ failed < 0 then
      .error (valueError "Invariant violation: negative event counts")
    else if valid + failed ≠ total then
      .error (valueError (text
        s!"Invariant violation: valid ({valid}) + failed ({failed}) != total ({total})"))
    else if total < failed then
      .error (valueError (text
        s!"Invariant violation: failed_events ({failed}) > total_events ({total})"))
    else
      let errorRate := if h : 0 < total then divide failed total h else 0
      if ¬(0 ≤ errorRate ∧ errorRate ≤ 1) then
        .error (valueError (text "Invariant violation: error_rate out of range [0.0, 1.0]: " ++
          text (shown errorRate)))
      else .ok (errorRate, healthOf healthyMax warningMax errorRate)

theorem ne_of_pos {total : ℤ} (h : 0 < total) : total ≠ 0 := h.ne'

/-- In floats. -/
def judgeFloat (config : ErrorRateConfig) : Counts → Except Exc (Float × HealthStatus) :=
  judge (fun failed total h => trueDiv failed total (ne_of_pos h)) floatRepr config.healthyMax
    config.warningMax

/-- In exact arithmetic. -/
def judgeExact (healthyMax warningMax : ℚ) : Counts → Except Exc (ℚ × HealthStatus) :=
  judge (fun failed total _ => (failed : ℚ) / total) (fun _ => "") healthyMax warningMax

section

variable {c : Counts}

/-- Over numbers in which the quotient stays in the unit interval, nothing is raised. -/
theorem judge_of_sound {K : Type} [LT K] [LE K] [DecidableLT K] [DecidableLE K] [Zero K] [One K]
    {divide : ℤ → (total : ℤ) → 0 < total → K} {shown : K → String} {healthyMax warningMax : K}
    (h : c.Sound) {errorRate : K}
    (hrate : (if h : 0 < c.1 then divide c.2.2 c.1 h else 0) = errorRate)
    (hunit : 0 ≤ errorRate ∧ errorRate ≤ 1) :
    judge divide shown healthyMax warningMax c =
      .ok (errorRate, healthOf healthyMax warningMax errorRate) := by
  obtain ⟨total, valid, failed⟩ := c
  obtain ⟨hvalid, hfailed, hsum⟩ := h
  dsimp only at hvalid hfailed hsum hrate
  have hnonneg : ¬(total < 0 ∨ valid < 0 ∨ failed < 0) := by omega
  have hle : ¬total < failed := by omega
  unfold judge
  dsimp only
  rw [if_neg hnonneg, if_neg (not_not.mpr hsum), if_neg hle, hrate, if_neg (not_not.mpr hunit)]

theorem judgeFloat_of_sound (config : ErrorRateConfig) (h : c.Sound) :
    judgeFloat config c =
      .ok (rate c.1 c.2.2, healthOf config.healthyMax config.warningMax (rate c.1 c.2.2)) := by
  have hle : c.2.2 ≤ c.1 := by
    have hsum := h.sum
    have hvalid := h.valid
    omega
  exact judge_of_sound h rfl (rate_unit_interval h.failed hle)

/-- The exact rate is 0 of an empty window, and lies in the unit interval. -/
theorem exact_rate (h : c.Sound) : 0 ≤ (c.2.2 : ℚ) / c.1 ∧ (c.2.2 : ℚ) / c.1 ≤ 1 := by
  have hle : c.2.2 ≤ c.1 := by
    have hsum := h.sum
    have hvalid := h.valid
    omega
  have hfailed : (0 : ℚ) ≤ c.2.2 := by exact_mod_cast h.failed
  have htotal : (0 : ℚ) ≤ c.1 := by exact_mod_cast h.failed.trans hle
  exact ⟨div_nonneg hfailed htotal, div_le_one_of_le₀ (by exact_mod_cast hle) htotal⟩

theorem judgeExact_of_sound (healthyMax warningMax : ℚ) (h : c.Sound) :
    judgeExact healthyMax warningMax c =
      .ok ((c.2.2 : ℚ) / c.1, healthOf healthyMax warningMax ((c.2.2 : ℚ) / c.1)) := by
  refine judge_of_sound h ?_ (exact_rate h)
  split_ifs with hpos
  · rfl
  · have hzero : c.1 = 0 := by
      have hsum := h.sum
      have hvalid := h.valid
      have hfailed := h.failed
      omega
    rw [hzero, Int.cast_zero, div_zero]

end

/-! ## `calculate` -/

/-- The counts of a look at a window. -/
def countsAt (e : ErrorRateEngine) (r : MetricsReading) (w : ℤ) (refTime : Option Date) : Counts :=
  e.counts r w (e.windowMetrics w (refTime.getD r.now)) refTime

/-- The figures for a rate and its health. -/
def figures (e : ErrorRateEngine) (r : MetricsReading) (w : ℤ) (refTime : Option Date)
    (judged : Float × HealthStatus) : ErrorRateMetrics where
  windowSeconds := w
  windowStart := (e.windowMetrics w (refTime.getD r.now)).windowStart
  windowEnd := (e.windowMetrics w (refTime.getD r.now)).windowEnd
  totalEvents := (e.countsAt r w refTime).1
  validEvents := (e.countsAt r w refTime).2.1
  failedEvents := (e.countsAt r w refTime).2.2
  errorRate := judged.1
  errorRatePercent := judged.1 * 100
  healthStatus := judged.2
  dataAvailable := decide (0 < (e.countsAt r w refTime).1)
  calculatedAt := refTime.getD r.now

theorem judgeFloat_eq (config : ErrorRateConfig) (total valid failed : ℤ) :
    judgeFloat config (total, valid, failed) =
      if total < 0 ∨ valid < 0 ∨ failed < 0 then
        .error (valueError "Invariant violation: negative event counts")
      else if valid + failed ≠ total then
        .error (valueError (text
          s!"Invariant violation: valid ({valid}) + failed ({failed}) != total ({total})"))
      else if total < failed then
        .error (valueError (text
          s!"Invariant violation: failed_events ({failed}) > total_events ({total})"))
      else if ¬(0 ≤ rate total failed ∧ rate total failed ≤ 1) then
        .error (valueError (text "Invariant violation: error_rate out of range [0.0, 1.0]: " ++
          text (floatRepr (rate total failed))))
      else .ok (rate total failed, healthOf config.healthyMax config.warningMax
        (rate total failed)) := rfl

/-- `calculate` makes of the counts what its checks do in floats. -/
theorem calculate_judge (e : ErrorRateEngine) (r : MetricsReading) (w : ℤ)
    (refTime : Option Date) : (calculate r w refTime e).1 =
      (judgeFloat e.config (e.countsAt r w refTime)).map (e.figures r w refTime) := by
  have hcounts : e.counts r w ((e.aggregator w).getMetrics (refTime.getD r.now)).1 refTime =
      e.countsAt r w refTime := rfl
  unfold calculate figures
  dsimp only
  rw [hcounts]
  generalize e.countsAt r w refTime = c
  obtain ⟨total, valid, failed⟩ := c
  rw [judgeFloat_eq]
  dsimp only
  split_ifs <;> rfl

theorem sound_localCounts (agg : WindowAggregator) (now : Date) :
    (localCounts (agg.metrics now)).Sound where
  valid := Int.natCast_nonneg _
  failed := Int.natCast_nonneg _
  sum := by
    have htotal := agg.metrics_total now
    simp only [localCounts]
    exact_mod_cast htotal

/-- From wherever the counts come, they are sound. -/
theorem sound_countsAt {e : ErrorRateEngine} (h : RowsSaved e.persisted) (r : MetricsReading) (w : ℤ)
    (refTime : Option Date) : (e.countsAt r w refTime).Sound := by
  have hlocal : (localCounts (e.windowMetrics w (refTime.getD r.now))).Sound :=
    sound_localCounts _ _
  unfold countsAt counts
  split_ifs with hfalls
  · cases hrow : e.persisted w with
    | none => exact hlocal
    | some row =>
      dsimp only
      split_ifs
      · exact h.sound hrow
      · exact hlocal
  · exact hlocal

/-- The figures are consistent. In exact arithmetic the same counts pass the same checks. -/
structure Consistent (config : ErrorRateConfig) (m : ErrorRateMetrics) : Prop where
  counts : Counts.Sound (m.totalEvents, m.validEvents, m.failedEvents)
  errorRate : m.errorRate = rate m.totalEvents m.failedEvents
  unit : 0 ≤ m.errorRate ∧ m.errorRate ≤ 1
  empty : m.totalEvents = 0 → m.errorRate = 0
  health : m.healthStatus = healthOf config.healthyMax config.warningMax m.errorRate
  exactUnit : 0 ≤ (m.failedEvents : ℚ) / m.totalEvents ∧ (m.failedEvents : ℚ) / m.totalEvents ≤ 1
  judged : ∀ healthyMax warningMax : ℚ,
    judgeExact healthyMax warningMax (m.totalEvents, m.validEvents, m.failedEvents) =
      .ok ((m.failedEvents : ℚ) / m.totalEvents,
        healthOf healthyMax warningMax ((m.failedEvents : ℚ) / m.totalEvents))

/-- Over rows that were saved, `calculate` raises nothing, and its figures are consistent. -/
theorem calculate_consistent {e : ErrorRateEngine} (h : RowsSaved e.persisted) (r : MetricsReading)
    (w : ℤ) (refTime : Option Date) :
    ∃ m, (calculate r w refTime e).1 = .ok m ∧ Consistent e.config m := by
  have hsound := sound_countsAt h r w refTime
  have hle : (e.countsAt r w refTime).2.2 ≤ (e.countsAt r w refTime).1 := by
    have hsum := hsound.sum
    have hvalid := hsound.valid
    omega
  refine ⟨_, by rw [calculate_judge, judgeFloat_of_sound e.config hsound]; rfl, ?_⟩
  constructor
  · exact hsound
  · rfl
  · exact rate_unit_interval hsound.failed hle
  · intro hzero
    have hempty : ¬0 < (e.countsAt r w refTime).1 := fun hpos => hpos.ne' hzero
    exact dif_neg hempty
  · rfl
  · exact exact_rate hsound
  · exact fun healthyMax warningMax => judgeExact_of_sound healthyMax warningMax hsound

end ErrorRateEngine

/-! ## Whatever is called, the rows stay such -/

namespace SnapshotEngine

variable {s : SnapshotEngine}

theorem rowsSaved_flush {e : ErrorRateEngine} (h : RowsSaved e.persisted) (r : MetricsReading) :
    RowsSaved (e.flushEventCounts r).persisted := by
  intro w row hrow
  simp only [ErrorRateEngine.flushEventCounts] at hrow
  split at hrow
  · split at hrow
    · obtain rfl := Option.some.inj hrow
      exact ⟨_, _, r.now, rfl⟩
    · exact h w row hrow
  · exact h w row hrow

theorem rowsSaved_record {e : ErrorRateEngine} (h : RowsSaved e.persisted) (r : MetricsReading)
    (isValid : Bool) (timestamp : Option Date) :
    RowsSaved (e.recordEventOutcome r isValid timestamp).persisted := by
  simp only [ErrorRateEngine.recordEventOutcome]
  split
  · have hrecorded : RowsSaved (e.recorded isValid (timestamp.getD r.now)).persisted := h
    exact rowsSaved_flush hrecorded r
  · exact h

/-- A point of consistent figures is saved as numbers of events. -/
theorem rowsSaved_keepPoint (h : RowsSaved s.engine.persisted) (r : MetricsReading) (now : Date)
    {config : ErrorRateConfig} {m : ErrorRateMetrics} (hm : ErrorRateEngine.Consistent config m) :
    RowsSaved (s.keepPoint r now m).engine.persisted := by
  simp only [keepPoint]
  split
  · simp only [saveEventCounts]
    split
    · obtain ⟨valid, hvalid⟩ := Int.eq_ofNat_of_zero_le hm.counts.valid
      obtain ⟨failed, hfailed⟩ := Int.eq_ofNat_of_zero_le hm.counts.failed
      dsimp only at hvalid hfailed
      rw [hvalid, hfailed]
      exact h.update 60 valid failed r.now
    · exact h
  · exact h

/-- A snapshot raises nothing either. -/
theorem snapshot_consistent (h : RowsSaved s.engine.persisted) (r : MetricsReading)
    (refTime : Option Date) :
    (∃ snapshot, (getMetricsSnapshot r refTime s).1 = .ok snapshot ∧
      ErrorRateEngine.Consistent s.engine.config snapshot.oneMinute ∧
      ErrorRateEngine.Consistent s.engine.config snapshot.fiveMinutes) ∧
    RowsSaved (getMetricsSnapshot r refTime s).2.engine.persisted := by
  set now := refTime.getD r.now with hnow
  obtain ⟨m1, hm1, hconsistent1⟩ :=
    ErrorRateEngine.calculate_consistent h r 60 (some now)
  have hevicted : RowsSaved (s.engine.evicted 60 now).persisted := h
  obtain ⟨m5, hm5, hconsistent5⟩ :=
    ErrorRateEngine.calculate_consistent hevicted r 300 (some now)
  have hfirst : onEngine (ErrorRateEngine.calculate r 60 (some now)) s =
      (.ok m1, { s with engine := s.engine.evicted 60 now }) := by
    rw [onEngine, hm1, ErrorRateEngine.calculate_state]
    rfl
  have hsecond : onEngine (ErrorRateEngine.calculate r 300 (some now))
      { s with engine := s.engine.evicted 60 now } = (.ok m5, s.lookedAt now) := by
    rw [onEngine, hm5, ErrorRateEngine.calculate_state]
    rfl
  have hlooked : RowsSaved (s.lookedAt now).engine.persisted := h
  have hrun : getMetricsSnapshot r refTime s =
      (.ok ⟨now, m1, m5, ((s.lookedAt now).keepPoint r now m1).history⟩,
        (s.lookedAt now).keepPoint r now m1) := by
    rw [getMetricsSnapshot, ← hnow, Fallible.bind_ok hfirst, Fallible.bind_ok hsecond]
    rfl
  rw [hrun]
  exact ⟨⟨_, rfl, hconsistent1, hconsistent5⟩, rowsSaved_keepPoint hlooked r now hconsistent1⟩

theorem rowsSaved_call (h : RowsSaved s.engine.persisted) (r : MetricsReading) (c : EngineCall) :
    RowsSaved (s.call r c).engine.persisted := by
  cases c with
  | record isValid timestamp => exact rowsSaved_record h r isValid timestamp
  | flush => exact rowsSaved_flush h r
  | read c =>
    cases c with
    | calculate w refTime =>
      change RowsSaved (ErrorRateEngine.calculate r w refTime s.engine).2.persisted
      rw [ErrorRateEngine.calculate_state]
      exact h
    | snapshot refTime => exact (snapshot_consistent h r refTime).2

/-- The call raises nothing, and what it reports is consistent. -/
def AnswersConsistently (s : SnapshotEngine) (r : MetricsReading) : EngineCall → Prop
  | .record .. | .flush => True
  | .read (.calculate w refTime) =>
    ∃ m, (ErrorRateEngine.calculate r w refTime s.engine).1 = .ok m ∧
      ErrorRateEngine.Consistent s.engine.config m
  | .read (.snapshot refTime) => ∃ snapshot, (getMetricsSnapshot r refTime s).1 = .ok snapshot ∧
      ErrorRateEngine.Consistent s.engine.config snapshot.oneMinute ∧
      ErrorRateEngine.Consistent s.engine.config snapshot.fiveMinutes

theorem answersConsistently (h : RowsSaved s.engine.persisted) (r : MetricsReading)
    (c : EngineCall) : s.AnswersConsistently r c := by
  cases c with
  | record => trivial
  | flush => trivial
  | read c =>
    cases c with
    | calculate w refTime => exact ErrorRateEngine.calculate_consistent h r w refTime
    | snapshot refTime => exact (snapshot_consistent h r refTime).1

end SnapshotEngine

/-! ## Engines over one storage -/

/-- Any number of engines that share the table of counts. -/
structure SharedEngines (ι : Type) where
  engines : ι → SnapshotEngine
  persisted : ℤ → Option WindowCounts

/-- A call of one of the engines, and what its surroundings are at the time. -/
structure SharedCall (ι : Type) where
  engine : ι
  reading : MetricsReading
  call : EngineCall

namespace SharedEngines

variable {ι : Type}

/-- An engine over the table as it is. -/
def engine (s : SharedEngines ι) (i : ι) : SnapshotEngine := (s.engines i).onTable s.persisted

/-- The call of this engine raises nothing, and what it reports is consistent. -/
def Answers (s : SharedEngines ι) (c : SharedCall ι) (_ : SharedEngines ι) : Prop :=
  (s.engine c.engine).AnswersConsistently c.reading c.call

variable [DecidableEq ι]

def step (s : SharedEngines ι) (c : SharedCall ι) : Option (SharedEngines ι) :=
  let e := (s.engine c.engine).call c.reading c.call
  some { engines := Function.update s.engines c.engine e, persisted := e.engine.persisted }

theorem rowsSaved_step {s t : SharedEngines ι} {c : SharedCall ι} (h : RowsSaved s.persisted)
    (ht : s.step c = some t) : RowsSaved t.persisted := by
  obtain rfl := Option.some.inj ht
  have htable : RowsSaved (s.engine c.engine).engine.persisted := h
  exact SnapshotEngine.rowsSaved_call htable c.reading c.call

/-- Over rows that were all saved, no call of any of the engines raises an invariant error,
whatever was called before, and the rate and health it reports are those of the counts. -/
theorem every_answer_consistent (s : SharedEngines ι) (h : RowsSaved s.persisted)
    (calls : List (SharedCall ι)) : AllSteps step Answers s calls := by
  apply allSteps_of_invariant (I := fun s => RowsSaved s.persisted)
  · intro s c t hs _
    have htable : RowsSaved (s.engine c.engine).engine.persisted := hs
    exact SnapshotEngine.answersConsistently htable c.reading c.call
  · exact fun s c t hs ht => rowsSaved_step hs ht
  · exact h

/-- A worker and the backend over a row that was saved earlier. -/
def overSavedRow : SharedEngines Bool where
  engines _ := ⟨.init fun _ => none, []⟩
  persisted := Function.update (fun _ => none) 60 (some (saveWindowEventCounts 98 2 0))

/-- The backend falls back on the row, and the worker counts and writes its own. -/
def workerAndBackend : List (SharedCall Bool) :=
  [⟨true, SharedMetrics.readingAt 1, .read (.calculate 60 none)⟩,
    ⟨false, SharedMetrics.readingAt 2, .record false none⟩,
    ⟨false, SharedMetrics.readingAt 3, .flush⟩,
    ⟨true, SharedMetrics.readingAt 4, .read (.snapshot none)⟩]

theorem saved_row_consistent : AllSteps step Answers overSavedRow workerAndBackend := by
  apply every_answer_consistent overSavedRow _ workerAndBackend
  have hempty : RowsSaved fun _ => none := fun w row hrow => nomatch hrow
  exact hempty.update 60 98 2 0

end SharedEngines
end IceStream.Metrics
