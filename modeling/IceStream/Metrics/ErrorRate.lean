import IceStream.CircuitBreaker
import IceStream.Lib.FloatQuotient
import IceStream.Rules.Base
import Mathlib.Data.List.DropRight
import Mathlib.Logic.Function.Basic

/-!
# The error-rate engine

Rolling windows of outcomes, their counts in the table `window_event_counts`,
and the rate of failures. A call of the engine sees one reading of its clock.
-/

namespace IceStream.Metrics
open Python

inductive HealthStatus
  | healthy
  | warning
  | critical
  deriving DecidableEq

structure ErrorRateConfig where
  healthyMax : Float := 0.01
  warningMax : Float := 0.02

structure WindowMetrics where
  windowSeconds : ℤ
  windowStart : Date
  windowEnd : Date
  totalEvents : ℕ
  validEvents : ℕ
  invalidEvents : ℕ

structure WindowAggregator where
  windowSeconds : ℤ
  records : List (Date × Bool)

namespace WindowAggregator

def addEvent (w : WindowAggregator) (isValid : Bool) (time : Date) : WindowAggregator :=
  { w with records := w.records ++ [(time, isValid)] }

def cutoff (w : WindowAggregator) (now : Date) : Date := now - w.windowSeconds * 1000000

/-- Only the front is looked at, so a late record keeps older ones behind it. -/
def evictExpired (w : WindowAggregator) (now : Date) : WindowAggregator :=
  { w with records := w.records.dropWhile fun r => r.1 < w.cutoff now }

/-- The counts of the records that are left. -/
def metrics (w : WindowAggregator) (now : Date) : WindowMetrics where
  windowSeconds := w.windowSeconds
  windowStart := match w.records with
    | [] => w.cutoff now
    | r :: _ => r.1
  windowEnd := now
  totalEvents := w.records.length
  validEvents := w.records.countP fun r => r.2
  invalidEvents := w.records.length - w.records.countP fun r => r.2

/-- `get_metrics` evicts before it counts. -/
def getMetrics (w : WindowAggregator) (now : Date) : WindowMetrics × WindowAggregator :=
  ((w.evictExpired now).metrics now, w.evictExpired now)

@[simp] theorem evictExpired_windowSeconds (w : WindowAggregator) (now : Date) :
    (w.evictExpired now).windowSeconds = w.windowSeconds := rfl

@[simp] theorem evictExpired_evictExpired (w : WindowAggregator) (now : Date) :
    (w.evictExpired now).evictExpired now = w.evictExpired now := by
  simp only [evictExpired, WindowAggregator.mk.injEq, true_and]
  exact List.dropWhile_idempotent _ _

/-- Eviction takes expired records off the front. -/
theorem records_evictExpired (w : WindowAggregator) (now : Date) :
    ∃ expired, w.records = expired ++ (w.evictExpired now).records ∧
      ∀ r ∈ expired, r.1 < w.cutoff now := by
  refine ⟨w.records.takeWhile fun r => r.1 < w.cutoff now, ?_, ?_⟩
  · exact List.takeWhile_append_dropWhile.symm
  · intro r hr
    simpa using List.mem_takeWhile_imp hr

theorem validEvents_le (w : WindowAggregator) (now : Date) :
    (w.metrics now).validEvents ≤ (w.metrics now).totalEvents :=
  List.countP_le_length

theorem metrics_total (w : WindowAggregator) (now : Date) :
    (w.metrics now).validEvents + (w.metrics now).invalidEvents = (w.metrics now).totalEvents := by
  have hle := w.validEvents_le now
  simp only [metrics] at hle ⊢
  omega

end WindowAggregator

/-- A row of `window_event_counts`. -/
structure WindowCounts where
  totalEvents : ℤ
  validEvents : ℤ
  failedEvents : ℤ
  updatedAt : Date

/-- The clock of the engine, and whether its storage answers. -/
structure MetricsReading where
  now : Date
  readOk : Bool
  saveOk : ℤ → Bool

structure ErrorRateEngine where
  config : ErrorRateConfig
  aggregators : ℤ → Option WindowAggregator
  flushIntervalEvents : ℤ
  eventsSinceFlush : ℕ
  localEventsRecorded : ℕ
  persisted : ℤ → Option WindowCounts

structure ErrorRateMetrics where
  windowSeconds : ℤ
  windowStart : Date
  windowEnd : Date
  totalEvents : ℤ
  validEvents : ℤ
  failedEvents : ℤ
  errorRate : Float
  errorRatePercent : Float
  healthStatus : HealthStatus
  dataAvailable : Bool
  calculatedAt : Date

namespace ErrorRateEngine

/-- An engine with the default windows, thresholds and flush interval. -/
def init (persisted : ℤ → Option WindowCounts) : ErrorRateEngine where
  config := {}
  aggregators := fun w => if w = 60 ∨ w = 300 then some ⟨w, []⟩ else none
  flushIntervalEvents := 10
  eventsSinceFlush := 0
  localEventsRecorded := 0
  persisted := persisted

def savedCounts (m : WindowMetrics) (now : Date) : WindowCounts :=
  ⟨m.validEvents + m.invalidEvents, m.validEvents, m.invalidEvents, now⟩

/-- `_flush_event_counts_locked`: a write that fails is logged. -/
def flushEventCounts (e : ErrorRateEngine) (r : MetricsReading) : ErrorRateEngine :=
  { e with
    eventsSinceFlush := 0
    aggregators := fun w => (e.aggregators w).map fun agg => (agg.getMetrics r.now).2
    persisted := fun w => match e.aggregators w with
      | some agg => if r.saveOk w then some (savedCounts (agg.getMetrics r.now).1 r.now)
        else e.persisted w
      | none => e.persisted w }

def recorded (e : ErrorRateEngine) (isValid : Bool) (time : Date) : ErrorRateEngine :=
  { e with
    aggregators := fun w => (e.aggregators w).map fun agg => agg.addEvent isValid time
    eventsSinceFlush := e.eventsSinceFlush + 1
    localEventsRecorded := e.localEventsRecorded + 1 }

def recordEventOutcome (e : ErrorRateEngine) (r : MetricsReading) (isValid : Bool)
    (timestamp : Option Date) : ErrorRateEngine :=
  let e := e.recorded isValid (timestamp.getD r.now)
  if e.flushIntervalEvents ≤ e.eventsSinceFlush then e.flushEventCounts r else e

def recordEvent (e : ErrorRateEngine) (r : MetricsReading) (summary : ValidationSummary)
    (timestamp : Option Date) : ErrorRateEngine :=
  e.recordEventOutcome r summary.isValid timestamp

def classify (e : ErrorRateEngine) (errorRate : Float) : HealthStatus :=
  if errorRate < e.config.healthyMax then .healthy
  else if errorRate ≤ e.config.warningMax then .warning
  else .critical

/-- The aggregator of a window, a new one for a window that is not configured. -/
def aggregator (e : ErrorRateEngine) (windowSeconds : ℤ) : WindowAggregator :=
  (e.aggregators windowSeconds).getD ⟨windowSeconds, []⟩

/-- What `calculate` leaves behind: the aggregator is there, and has evicted. -/
def evicted (e : ErrorRateEngine) (windowSeconds : ℤ) (now : Date) : ErrorRateEngine :=
  { e with
    aggregators := Function.update e.aggregators windowSeconds
      (some ((e.aggregator windowSeconds).evictExpired now)) }

/-- Total, valid and failed events. -/
abbrev Counts := ℤ × ℤ × ℤ

def localCounts (m : WindowMetrics) : Counts := (m.totalEvents, m.validEvents, m.invalidEvents)

/-- An engine that has recorded nothing falls back on fresh persisted counts. -/
def counts (e : ErrorRateEngine) (r : MetricsReading) (windowSeconds : ℤ) (m : WindowMetrics)
    (refTime : Option Date) : Counts :=
  if e.localEventsRecorded = 0 ∧ m.totalEvents = 0 ∧ refTime.isNone ∧ r.readOk then
    match e.persisted windowSeconds with
    | some row =>
      if 0 < row.totalEvents ∧ r.now - row.updatedAt ≤ windowSeconds * 1000000 then
        (row.totalEvents, row.validEvents, row.failedEvents)
      else localCounts m
    | none => localCounts m
  else localCounts m

def rate (total failed : ℤ) : Float :=
  if h : 0 < total then trueDiv failed total h.ne' else 0

def calculate (r : MetricsReading) (windowSeconds : ℤ) (refTime : Option Date) :
    Fallible ErrorRateEngine ErrorRateMetrics := fun e =>
  let now := refTime.getD r.now
  let m := ((e.aggregator windowSeconds).getMetrics now).1
  let (total, valid, failed) := e.counts r windowSeconds m refTime
  let e := e.evicted windowSeconds now
  if total < 0 ∨ valid < 0 ∨ failed < 0 then
    (.error (valueError "Invariant violation: negative event counts"), e)
  else if valid + failed ≠ total then
    (.error (valueError (text
      s!"Invariant violation: valid ({valid}) + failed ({failed}) != total ({total})")), e)
  else if total < failed then
    (.error (valueError (text
      s!"Invariant violation: failed_events ({failed}) > total_events ({total})")), e)
  else
    let errorRate := rate total failed
    if ¬(0 ≤ errorRate ∧ errorRate ≤ 1) then
      (.error (valueError (text "Invariant violation: error_rate out of range [0.0, 1.0]: " ++
        text (floatRepr errorRate))), e)
    else
      (.ok {
        windowSeconds := windowSeconds
        windowStart := m.windowStart
        windowEnd := m.windowEnd
        totalEvents := total
        validEvents := valid
        failedEvents := failed
        errorRate := errorRate
        errorRatePercent := errorRate * 100
        healthStatus := e.classify errorRate
        dataAvailable := decide (0 < total)
        calculatedAt := now }, e)

/-! ## What the calls do -/

section

variable (e : ErrorRateEngine) (r : MetricsReading)

@[simp] theorem flushEventCounts_local :
    (e.flushEventCounts r).localEventsRecorded = e.localEventsRecorded := rfl

@[simp] theorem recordEventOutcome_local (isValid : Bool) (timestamp : Option Date) :
    (e.recordEventOutcome r isValid timestamp).localEventsRecorded = e.localEventsRecorded + 1 := by
  simp only [recordEventOutcome]
  split <;> rfl

@[simp] theorem evicted_local (w : ℤ) (now : Date) :
    (e.evicted w now).localEventsRecorded = e.localEventsRecorded := rfl

/-- From `e` to `e'` one more record came in, and only records that had expired
at one of the two times went out. -/
structure Appended (e e' : ErrorRateEngine) (record : Date × Bool) (now now' : Date) : Prop where
  total : e'.localEventsRecorded = e.localEventsRecorded + 1
  windows : ∀ w agg, e.aggregators w = some agg → ∃ agg' expired,
    e'.aggregators w = some agg' ∧ agg.records ++ [record] = expired ++ agg'.records ∧
      ∀ r ∈ expired, r.1 < agg.cutoff now ∨ r.1 < agg.cutoff now'

theorem aggregators_recordEventOutcome (isValid : Bool) (timestamp : Option Date) {w : ℤ}
    {agg : WindowAggregator} (h : e.aggregators w = some agg) :
    ∃ agg' expired, (e.recordEventOutcome r isValid timestamp).aggregators w = some agg' ∧
      agg'.windowSeconds = agg.windowSeconds ∧
      agg.records ++ [(timestamp.getD r.now, isValid)] = expired ++ agg'.records ∧
      ∀ x ∈ expired, x.1 < agg.cutoff r.now := by
  set added := agg.addEvent isValid (timestamp.getD r.now) with hadded
  simp only [recordEventOutcome]
  split
  · obtain ⟨expired, hsplit, hexpired⟩ := added.records_evictExpired r.now
    refine ⟨added.evictExpired r.now, expired, ?_, rfl, hsplit, hexpired⟩
    simp only [flushEventCounts, recorded, h, Option.map_some, WindowAggregator.getMetrics, hadded]
  · refine ⟨added, [], ?_, rfl, rfl, fun _ hx => absurd hx List.not_mem_nil⟩
    simp only [recorded, h, Option.map_some, hadded]

theorem aggregators_evicted (w : ℤ) (now : Date) {w' : ℤ} {agg : WindowAggregator}
    (h : e.aggregators w' = some agg) :
    ∃ agg' expired, (e.evicted w now).aggregators w' = some agg' ∧
      agg.records = expired ++ agg'.records ∧ ∀ x ∈ expired, x.1 < agg.cutoff now := by
  by_cases hw : w' = w
  · subst hw
    obtain ⟨expired, hsplit, hexpired⟩ := agg.records_evictExpired now
    refine ⟨agg.evictExpired now, expired, ?_, hsplit, hexpired⟩
    simp [evicted, aggregator, h]
  · refine ⟨agg, [], ?_, rfl, fun _ hx => absurd hx List.not_mem_nil⟩
    simp [evicted, Function.update_of_ne hw, h]

/-- An outcome that is recorded, and then looked at, is one record more. -/
theorem appended_of_recorded (isValid : Bool) (time : Date) (w : ℤ) (now : Date) :
    Appended e ((e.recordEventOutcome r isValid (some time)).evicted w now) (time, isValid)
      r.now now where
  total := by simp
  windows := by
    intro w' agg h
    obtain ⟨agg₁, expired₁, h₁, hseconds, hsplit₁, hexpired₁⟩ :=
      e.aggregators_recordEventOutcome r isValid (some time) h
    obtain ⟨agg₂, expired₂, h₂, hsplit₂, hexpired₂⟩ :=
      (e.recordEventOutcome r isValid (some time)).aggregators_evicted w now h₁
    refine ⟨agg₂, expired₁ ++ expired₂, h₂, ?_, ?_⟩
    · rw [List.append_assoc, ← hsplit₂]
      exact hsplit₁
    · intro x hx
      have hcutoff : agg₁.cutoff now = agg.cutoff now := by
        rw [WindowAggregator.cutoff, WindowAggregator.cutoff, hseconds]
      obtain hx | hx := List.mem_append.mp hx
      · exact .inl (hexpired₁ x hx)
      · exact .inr (hcutoff ▸ hexpired₂ x hx)

theorem rate_unit_interval {total failed : ℤ} (hfailed : 0 ≤ failed) (hle : failed ≤ total) :
    0 ≤ rate total failed ∧ rate total failed ≤ 1 := by
  unfold rate
  split
  · exact trueDiv_unit_interval _ hfailed hle
  · decide +kernel

/-- The counts of the engine's own window. -/
def windowMetrics (w : ℤ) (now : Date) : WindowMetrics :=
  ((e.aggregator w).evictExpired now).metrics now

/-- The rate of the engine's own window. -/
def windowRate (w : ℤ) (now : Date) : Float :=
  rate (e.windowMetrics w now).totalEvents (e.windowMetrics w now).invalidEvents

/-- The answer of an engine that counts its own window. -/
def localMetrics (w : ℤ) (now : Date) : ErrorRateMetrics where
  windowSeconds := w
  windowStart := (e.windowMetrics w now).windowStart
  windowEnd := (e.windowMetrics w now).windowEnd
  totalEvents := (e.windowMetrics w now).totalEvents
  validEvents := (e.windowMetrics w now).validEvents
  failedEvents := (e.windowMetrics w now).invalidEvents
  errorRate := e.windowRate w now
  errorRatePercent := e.windowRate w now * 100
  healthStatus := e.classify (e.windowRate w now)
  dataAvailable := decide (0 < ((e.windowMetrics w now).totalEvents : ℤ))
  calculatedAt := now

/-- An engine that has recorded an event counts its own window, and none of its
checks fails. -/
theorem calculate_of_recorded {w : ℤ} (refTime : Option Date) (h : e.localEventsRecorded ≠ 0) :
    calculate r w refTime e =
      (.ok (e.localMetrics w (refTime.getD r.now)), e.evicted w (refTime.getD r.now)) := by
  set now := refTime.getD r.now with hnow
  have htotal := ((e.aggregator w).evictExpired now).metrics_total now
  have hcounts (m : WindowMetrics) : e.counts r w m refTime = localCounts m := by
    simp [counts, h]
  have hnonneg : ¬(((e.windowMetrics w now).totalEvents : ℤ) < 0 ∨
      ((e.windowMetrics w now).validEvents : ℤ) < 0 ∨
      ((e.windowMetrics w now).invalidEvents : ℤ) < 0) := by omega
  have hsum : ((e.windowMetrics w now).validEvents : ℤ) +
      (e.windowMetrics w now).invalidEvents = (e.windowMetrics w now).totalEvents := by
    exact_mod_cast htotal
  have hle : ¬((e.windowMetrics w now).totalEvents : ℤ) <
      (e.windowMetrics w now).invalidEvents := by omega
  have hrate : 0 ≤ e.windowRate w now ∧ e.windowRate w now ≤ 1 :=
    rate_unit_interval (by omega) (by omega)
  have hmetrics : ((e.aggregator w).getMetrics now).1 = e.windowMetrics w now := rfl
  rw [windowRate] at hrate
  simp only [calculate, ← hnow, hmetrics, hcounts, localCounts, hnonneg, hsum, hle, hrate,
    ↓reduceIte, ne_eq, not_true_eq_false, and_self]
  rfl

@[simp] theorem aggregator_evicted (w : ℤ) (now : Date) :
    (e.evicted w now).aggregator w = (e.aggregator w).evictExpired now := by
  simp [aggregator, evicted]

/-- Asking again at the same time gives the same counts. -/
@[simp] theorem windowMetrics_evicted (w : ℤ) (now : Date) :
    (e.evicted w now).windowMetrics w now = e.windowMetrics w now := by
  rw [windowMetrics, windowMetrics, aggregator_evicted, WindowAggregator.evictExpired_evictExpired]

@[simp] theorem windowRate_evicted (w : ℤ) (now : Date) :
    (e.evicted w now).windowRate w now = e.windowRate w now := by
  rw [windowRate, windowRate, windowMetrics_evicted]

end

end ErrorRateEngine
end IceStream.Metrics
