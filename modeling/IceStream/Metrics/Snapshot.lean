import IceStream.Lib.Stepping
import IceStream.Metrics.ErrorRate

/-!
# Snapshots and the passive reader

A snapshot asks for the two default windows at a reference time, keeps a point
of history and writes the one-minute counts back. An engine that has recorded
nothing shares the persisted counts with one that records.
-/

namespace IceStream.Metrics
open Python Stepping

/-- A point of history. What storage hands back may carry a timestamp that no `isoformat`
equals. -/
structure SnapshotPoint where
  timestamp : Option Date
  errorRate : Float
  errorRatePercent : Float
  totalEvents : ℤ
  failedEvents : ℤ
  health : HealthStatus

structure MetricsSnapshot where
  timestamp : Date
  oneMinute : ErrorRateMetrics
  fiveMinutes : ErrorRateMetrics
  history : List SnapshotPoint

/-- An engine with the history of its snapshots. -/
structure SnapshotEngine where
  engine : ErrorRateEngine
  history : List SnapshotPoint

/-- Total, valid and failed events of a row. -/
def WindowCounts.counts (row : WindowCounts) : ErrorRateEngine.Counts :=
  (row.totalEvents, row.validEvents, row.failedEvents)

namespace SnapshotEngine

def onEngine {α : Type} (x : Fallible ErrorRateEngine α) : Fallible SnapshotEngine α := fun s =>
  ((x s.engine).1, { s with engine := (x s.engine).2 })

/-- `save_event_counts`: a write that fails is logged. -/
def saveEventCounts (e : ErrorRateEngine) (r : MetricsReading) (windowSeconds valid failed : ℤ) :
    ErrorRateEngine :=
  if r.saveOk windowSeconds then
    { e with
      persisted := Function.update e.persisted windowSeconds
        (some ⟨valid + failed, valid, failed, r.now⟩) }
  else e

def point (now : Date) (m1 : ErrorRateMetrics) : SnapshotPoint where
  timestamp := some now
  errorRate := m1.errorRate
  errorRatePercent := roundTo 4 m1.errorRatePercent
  totalEvents := m1.totalEvents
  failedEvents := m1.failedEvents
  health := m1.healthStatus

/-- No point of this time is the last one. -/
def isNew (s : SnapshotEngine) (now : Date) : Bool :=
  (s.history.getLast?.bind SnapshotPoint.timestamp) ≠ some now

/-- The point at the end, and the oldest of more than sixty gone. -/
def appended (history : List SnapshotPoint) (p : SnapshotPoint) : List SnapshotPoint :=
  let history := history ++ [p]
  if 60 < history.length then history.tail else history

def keepPoint (s : SnapshotEngine) (r : MetricsReading) (now : Date) (m1 : ErrorRateMetrics) :
    SnapshotEngine :=
  if s.isNew now then
    { history := appended s.history (point now m1)
      engine := saveEventCounts s.engine r 60 m1.validEvents m1.failedEvents }
  else s

def getMetricsSnapshot (r : MetricsReading) (refTime : Option Date) :
    Fallible SnapshotEngine MetricsSnapshot := do
  let now := refTime.getD r.now
  let m1 ← onEngine (ErrorRateEngine.calculate r 60 (some now))
  let m5 ← onEngine (ErrorRateEngine.calculate r 300 (some now))
  Fallible.update fun s => s.keepPoint r now m1
  return ⟨now, m1, m5, ← Fallible.read SnapshotEngine.history⟩

end SnapshotEngine

/-! ## An engine that has recorded nothing -/

namespace ErrorRateEngine

/-- Nothing was recorded, and nothing is in a window. -/
structure Passive (e : ErrorRateEngine) : Prop where
  recorded : e.localEventsRecorded = 0
  empty : ∀ w agg, e.aggregators w = some agg → agg.records = []

variable {e : ErrorRateEngine}

theorem Passive.aggregator_records (h : e.Passive) (w : ℤ) : (e.aggregator w).records = [] := by
  unfold aggregator
  cases hagg : e.aggregators w with
  | none => rfl
  | some agg => exact h.empty w agg hagg

theorem Passive.evicted (h : e.Passive) (w : ℤ) (now : Date) : (e.evicted w now).Passive := by
  refine ⟨h.recorded, ?_⟩
  intro w' agg hagg
  by_cases hw : w' = w
  · change Function.update _ w _ w' = _ at hagg
    rw [hw, Function.update_self] at hagg
    rw [← Option.some.inj hagg, WindowAggregator.evictExpired, h.aggregator_records]
    rfl
  · change Function.update _ w _ w' = _ at hagg
    rw [Function.update_of_ne hw] at hagg
    exact h.empty w' agg hagg

/-- A row that `calculate` falls back on. -/
def Falls (e : ErrorRateEngine) (r : MetricsReading) (w : ℤ) : Prop :=
  r.readOk = true ∧ ∃ row, e.persisted w = some row ∧ 0 < row.totalEvents ∧
    r.now - row.updatedAt ≤ w * 1000000

/-- The answer for an empty window. -/
def emptyMetrics (e : ErrorRateEngine) (w : ℤ) (now : Date) : ErrorRateMetrics where
  windowSeconds := w
  windowStart := now - (e.aggregator w).windowSeconds * 1000000
  windowEnd := now
  totalEvents := 0
  validEvents := 0
  failedEvents := 0
  errorRate := 0
  errorRatePercent := 0 * 100
  healthStatus := e.classify 0
  dataAvailable := false
  calculatedAt := now

theorem calculate_state (r : MetricsReading) (w : ℤ) (refTime : Option Date) :
    (calculate r w refTime e).2 = e.evicted w (refTime.getD r.now) := by
  unfold calculate
  dsimp only
  split_ifs <;> rfl

/-- Without a row to fall back on, or at a reference time, a passive engine answers zeros. -/
theorem Passive.calculate_empty (h : e.Passive) {r : MetricsReading} {w : ℤ}
    {refTime : Option Date} (hrow : refTime = none → ¬e.Falls r w) :
    calculate r w refTime e =
      (.ok (e.emptyMetrics w (refTime.getD r.now)), e.evicted w (refTime.getD r.now)) := by
  have hrecords := h.aggregator_records w
  have hmetrics : ((e.aggregator w).getMetrics (refTime.getD r.now)).1 =
      ⟨(e.aggregator w).windowSeconds, (e.aggregator w).cutoff (refTime.getD r.now),
        refTime.getD r.now, 0, 0, 0⟩ := by
    simp [WindowAggregator.getMetrics, WindowAggregator.evictExpired, WindowAggregator.metrics,
      hrecords, WindowAggregator.cutoff]
  have hcounts : e.counts r w ((e.aggregator w).getMetrics (refTime.getD r.now)).1 refTime =
      (0, 0, 0) := by
    rw [counts, hmetrics]
    split_ifs with hfalls
    · -- the fall-back is asked for, and there is nothing to fall back on
      obtain ⟨-, -, hnone, hread⟩ := hfalls
      have hno := hrow (Option.isNone_iff_eq_none.mp hnone)
      cases hpersisted : e.persisted w with
      | none => rfl
      | some row =>
        dsimp only
        rw [if_neg]
        · rfl
        · rintro ⟨hpos, hfresh⟩
          exact hno ⟨hread, row, hpersisted, hpos, hfresh⟩
    · rfl
  have hrate : 0 ≤ rate 0 0 ∧ rate 0 0 ≤ 1 := rate_unit_interval (le_refl 0) (le_refl 0)
  unfold calculate
  simp only [hcounts]
  rw [if_neg (by decide), if_neg (by decide), if_neg (by decide), if_neg (not_not.mpr hrate),
    hmetrics]
  rfl

/-- What `calculate` answers has the events it counted. -/
theorem calculate_total {r : MetricsReading} {w : ℤ} {refTime : Option Date} {m : ErrorRateMetrics}
    (h : (calculate r w refTime e).1 = .ok m) : m.totalEvents =
      (e.counts r w ((e.aggregator w).getMetrics (refTime.getD r.now)).1 refTime).1 := by
  unfold calculate at h
  dsimp only at h
  split_ifs at h <;> cases h
  rfl

/-- With a row to fall back on, a passive engine answers no empty window. -/
theorem Passive.calculate_falls (h : e.Passive) {r : MetricsReading} {w : ℤ} (hrow : e.Falls r w)
    {m : ErrorRateMetrics} (hm : (calculate r w none e).1 = .ok m) : 0 < m.totalEvents := by
  obtain ⟨hread, row, hpersisted, hpos, hfresh⟩ := hrow
  rw [calculate_total hm, counts, if_pos, hpersisted]
  · dsimp only
    rw [if_pos ⟨hpos, hfresh⟩]
    exact hpos
  · refine ⟨h.recorded, ?_, rfl, hread⟩
    simp [WindowAggregator.getMetrics, WindowAggregator.evictExpired, WindowAggregator.metrics,
      h.aggregator_records w]

end ErrorRateEngine

namespace SnapshotEngine

variable {s : SnapshotEngine}

/-- What a passive engine has left behind both windows, before it keeps the point. -/
def lookedAt (s : SnapshotEngine) (now : Date) : SnapshotEngine :=
  { s with engine := (s.engine.evicted 60 now).evicted 300 now }

/-- A passive engine never fails to give a snapshot, and its figures are zeros. -/
theorem snapshot_of_passive (h : s.engine.Passive) (r : MetricsReading) (refTime : Option Date) :
    ∃ m5 history, getMetricsSnapshot r refTime s =
      (.ok ⟨refTime.getD r.now, s.engine.emptyMetrics 60 (refTime.getD r.now), m5, history⟩,
        (s.lookedAt (refTime.getD r.now)).keepPoint r (refTime.getD r.now)
          (s.engine.emptyMetrics 60 (refTime.getD r.now))) := by
  set now := refTime.getD r.now with hnow
  have h60 : ErrorRateEngine.calculate r 60 (some now) s.engine = _ :=
    h.calculate_empty fun hnone => nomatch hnone
  have h300 : ErrorRateEngine.calculate r 300 (some now) (s.engine.evicted 60 now) = _ :=
    (h.evicted 60 now).calculate_empty fun hnone => nomatch hnone
  have hfirst : onEngine (ErrorRateEngine.calculate r 60 (some now)) s =
      (.ok (s.engine.emptyMetrics 60 now), { s with engine := s.engine.evicted 60 now }) := by
    rw [onEngine, h60]
    rfl
  have hsecond : onEngine (ErrorRateEngine.calculate r 300 (some now))
      { s with engine := s.engine.evicted 60 now } =
      (.ok ((s.engine.evicted 60 now).emptyMetrics 300 now), s.lookedAt now) := by
    rw [onEngine, h300]
    rfl
  refine ⟨(s.engine.evicted 60 now).emptyMetrics 300 now,
    ((s.lookedAt now).keepPoint r now (s.engine.emptyMetrics 60 now)).history, ?_⟩
  rw [getMetricsSnapshot, ← hnow, Fallible.bind_ok hfirst, Fallible.bind_ok hsecond]
  rfl

/-- The snapshot writes zeros over counts. -/
def Overwrites (s : SnapshotEngine) (r : MetricsReading) (now : Date) : Prop :=
  s.isNew now = true ∧ r.saveOk 60 = true ∧
    ∃ row, s.engine.persisted 60 = some row ∧ row.counts ≠ (0, 0, 0)

/-- The rows of `before` are still there, with the same counts. -/
def KeepsCounts (before after : ℤ → Option WindowCounts) : Prop :=
  ∀ w row, before w = some row → ∃ row', after w = some row' ∧ row'.counts = row.counts

theorem keepsCounts_refl (persisted : ℤ → Option WindowCounts) : KeepsCounts persisted persisted :=
  fun _ row hrow => ⟨row, hrow, rfl⟩

theorem keepsCounts_zeros_iff (persisted : ℤ → Option WindowCounts) (w : ℤ) (now : Date) :
    KeepsCounts persisted (Function.update persisted w (some ⟨0, 0, 0, now⟩)) ↔
      ∀ row, persisted w = some row → row.counts = (0, 0, 0) := by
  constructor
  · intro h row hrow
    obtain ⟨row', hafter, hcounts⟩ := h w row hrow
    rw [Function.update_self] at hafter
    rw [← hcounts, ← Option.some.inj hafter]
    rfl
  · intro h w' row hrow
    by_cases hw : w' = w
    · rw [hw] at hrow ⊢
      refine ⟨⟨0, 0, 0, now⟩, Function.update_self .., ?_⟩
      exact (h row hrow).symm
    · rw [Function.update_of_ne hw]
      exact ⟨row, hrow, rfl⟩

theorem keepsCounts_snapshot_iff (h : s.engine.Passive) (r : MetricsReading)
    (refTime : Option Date) :
    KeepsCounts s.engine.persisted (getMetricsSnapshot r refTime s).2.engine.persisted ↔
      ¬s.Overwrites r (refTime.getD r.now) := by
  obtain ⟨m5, history, hrun⟩ := snapshot_of_passive h r refTime
  rw [hrun]
  dsimp only [keepPoint]
  cases hnew : s.isNew (refTime.getD r.now) with
  | false =>
    have hsame : (s.lookedAt (refTime.getD r.now)).isNew (refTime.getD r.now) = false := hnew
    rw [hsame, if_neg Bool.false_ne_true]
    refine iff_of_true (keepsCounts_refl _) ?_
    rintro ⟨hnew', -⟩
    rw [hnew] at hnew'
    cases hnew'
  | true =>
    have hsame : (s.lookedAt (refTime.getD r.now)).isNew (refTime.getD r.now) = true := hnew
    rw [hsame, if_pos rfl]
    dsimp only [saveEventCounts]
    cases hsave : r.saveOk 60 with
    | false =>
      rw [if_neg Bool.false_ne_true]
      refine iff_of_true (keepsCounts_refl _) ?_
      rintro ⟨-, hsave', -⟩
      rw [hsave] at hsave'
      cases hsave'
    | true =>
      rw [if_pos rfl]
      refine (keepsCounts_zeros_iff s.engine.persisted 60 r.now).trans ?_
      constructor
      · rintro hzero ⟨-, -, row, hrow, hcounts⟩
        exact hcounts (hzero row hrow)
      · intro hno row hrow
        by_contra hcounts
        exact hno ⟨hnew, hsave, row, hrow, hcounts⟩

/-- The one-minute figures of the snapshot are those of `calculate(60)` at its instant. -/
def Agrees (s : SnapshotEngine) (r : MetricsReading) (refTime : Option Date) : Prop :=
  ∃ snapshot, (getMetricsSnapshot r refTime s).1 = .ok snapshot ∧
    (ErrorRateEngine.calculate { r with now := refTime.getD r.now } 60 none s.engine).1 =
      .ok snapshot.oneMinute

theorem agrees_iff (h : s.engine.Passive) (r : MetricsReading) (refTime : Option Date) :
    s.Agrees r refTime ↔ ¬s.engine.Falls { r with now := refTime.getD r.now } 60 := by
  obtain ⟨m5, history, hrun⟩ := snapshot_of_passive h r refTime
  constructor
  · rintro ⟨snapshot, hsnapshot, hcalculate⟩ hfalls
    rw [hrun] at hsnapshot
    cases hsnapshot
    exact absurd (h.calculate_falls hfalls hcalculate) (lt_irrefl 0)
  · intro hno
    refine ⟨_, congrArg Prod.fst hrun, ?_⟩
    rw [h.calculate_empty fun _ => hno]
    rfl

theorem passive_snapshot (h : s.engine.Passive) (r : MetricsReading) (refTime : Option Date) :
    (getMetricsSnapshot r refTime s).2.engine.Passive := by
  obtain ⟨m5, history, hrun⟩ := snapshot_of_passive h r refTime
  have hlooked := (h.evicted 60 (refTime.getD r.now)).evicted 300 (refTime.getD r.now)
  rw [hrun]
  dsimp only [keepPoint]
  split
  · dsimp only [saveEventCounts]
    split
    · exact ⟨hlooked.recorded, hlooked.empty⟩
    · exact hlooked
  · exact hlooked

end SnapshotEngine

/-! ## A reader beside an engine that records -/

inductive ReaderCall
  | calculate (windowSeconds : ℤ) (refTime : Option Date)
  | snapshot (refTime : Option Date)

inductive EngineCall
  | record (isValid : Bool) (timestamp : Option Date)
  | flush
  | read (call : ReaderCall)

namespace SnapshotEngine

def read (s : SnapshotEngine) (r : MetricsReading) : ReaderCall → SnapshotEngine
  | .calculate w refTime => (onEngine (ErrorRateEngine.calculate r w refTime) s).2
  | .snapshot refTime => (getMetricsSnapshot r refTime s).2

def call (s : SnapshotEngine) (r : MetricsReading) : EngineCall → SnapshotEngine
  | .record isValid timestamp =>
    { s with engine := s.engine.recordEventOutcome r isValid timestamp }
  | .flush => { s with engine := s.engine.flushEventCounts r }
  | .read c => s.read r c

/-- The engine over the table that it shares. -/
def onTable (s : SnapshotEngine) (persisted : ℤ → Option WindowCounts) : SnapshotEngine :=
  { s with engine := { s.engine with persisted := persisted } }

theorem passive_read {s : SnapshotEngine} (h : s.engine.Passive) (r : MetricsReading)
    (c : ReaderCall) : (s.read r c).engine.Passive := by
  cases c with
  | calculate w refTime =>
    change (ErrorRateEngine.calculate r w refTime s.engine).2.Passive
    rw [ErrorRateEngine.calculate_state]
    exact h.evicted _ _
  | snapshot refTime => exact passive_snapshot h r refTime

end SnapshotEngine

structure SharedMetrics where
  recorder : SnapshotEngine
  reader : SnapshotEngine
  persisted : ℤ → Option WindowCounts

inductive MetricsStep
  | recorder (r : MetricsReading) (call : EngineCall)
  | reader (r : MetricsReading) (call : ReaderCall)

namespace SharedMetrics

def step (s : SharedMetrics) : MetricsStep → Option SharedMetrics
  | .recorder r c =>
    let e := (s.recorder.onTable s.persisted).call r c
    some { s with recorder := e, persisted := e.engine.persisted }
  | .reader r c =>
    let e := (s.reader.onTable s.persisted).read r c
    some { s with reader := e, persisted := e.engine.persisted }

/-- A call of the reader leaves the counts alone, and the figures of its snapshots are
those of its own `calculate(60)`. -/
def OnlyReads (s : SharedMetrics) : MetricsStep → SharedMetrics → Prop
  | .recorder .., _ => True
  | .reader r c, t => SnapshotEngine.KeepsCounts s.persisted t.persisted ∧
      ∀ refTime, c = .snapshot refTime → (s.reader.onTable s.persisted).Agrees r refTime

/-- A snapshot of the reader finds no counts to overwrite and no row to fall back on. -/
def FindsNothing (s : SharedMetrics) : MetricsStep → Prop
  | .recorder .. => True
  | .reader r c => ∀ refTime, c = .snapshot refTime →
      ¬(s.reader.onTable s.persisted).Overwrites r (refTime.getD r.now) ∧
        ¬(s.reader.onTable s.persisted).engine.Falls { r with now := refTime.getD r.now } 60

theorem onlyReads_iff {s t : SharedMetrics} {a : MetricsStep} (h : s.reader.engine.Passive)
    (ht : s.step a = some t) : s.OnlyReads a t ↔ s.FindsNothing a := by
  cases a with
  | recorder r c => exact Iff.rfl
  | reader r c =>
    obtain rfl := Option.some.inj ht
    have htable : (s.reader.onTable s.persisted).engine.Passive := ⟨h.recorded, h.empty⟩
    cases c with
    | calculate w refTime =>
      have hsame : ((s.reader.onTable s.persisted).read r (.calculate w refTime)).engine.persisted =
          s.persisted :=
        congrArg ErrorRateEngine.persisted (ErrorRateEngine.calculate_state r w refTime)
      refine iff_of_true ⟨?_, fun _ hc => nomatch hc⟩ fun _ hc => nomatch hc
      change SnapshotEngine.KeepsCounts s.persisted _
      rw [hsame]
      exact SnapshotEngine.keepsCounts_refl _
    | snapshot refTime =>
      have hkeeps := SnapshotEngine.keepsCounts_snapshot_iff htable r refTime
      have hagrees := SnapshotEngine.agrees_iff htable r refTime
      constructor
      · rintro ⟨hcounts, hfigures⟩ refTime' hc
        cases hc
        exact ⟨hkeeps.mp hcounts, hagrees.mp (hfigures refTime rfl)⟩
      · intro hnothing
        obtain ⟨hcounts, hfalls⟩ := hnothing refTime rfl
        refine ⟨hkeeps.mpr hcounts, ?_⟩
        intro refTime' hc
        cases hc
        exact hagrees.mpr hfalls

theorem passive_step {s t : SharedMetrics} {a : MetricsStep} (h : s.reader.engine.Passive)
    (ht : s.step a = some t) : t.reader.engine.Passive := by
  cases a with
  | recorder r c =>
    obtain rfl := Option.some.inj ht
    exact h
  | reader r c =>
    obtain rfl := Option.some.inj ht
    have htable : (s.reader.onTable s.persisted).engine.Passive := ⟨h.recorded, h.empty⟩
    exact SnapshotEngine.passive_read htable r c

/-- Whatever the other engine records in between, a reader that has recorded nothing leaves
the counts alone and agrees with itself exactly as long as no snapshot of its own finds
counts to overwrite or a row to fall back on. -/
theorem only_reads_iff (s : SharedMetrics) (h : s.reader.engine.Passive)
    (steps : List MetricsStep) :
    AllSteps step OnlyReads s steps ↔ AllSteps step (fun s a _ => s.FindsNothing a) s steps := by
  apply allSteps_iff_of_invariant (I := fun s => s.reader.engine.Passive)
  · intro s a t hs ht
    exact onlyReads_iff hs ht
  · intro s a t hs ht _
    exact passive_step hs ht
  · exact h

/-! ### A worker and the backend -/

def exampleEngines : SharedMetrics where
  recorder := ⟨.init fun _ => none, []⟩
  reader := ⟨.init fun _ => none, []⟩
  persisted _ := none

theorem exampleEngines_passive : exampleEngines.reader.engine.Passive := by
  refine ⟨rfl, ?_⟩
  intro w agg hagg
  change (if w = 60 ∨ w = 300 then some (⟨w, []⟩ : WindowAggregator) else none) = some agg at hagg
  split at hagg
  · rw [← Option.some.inj hagg]
  · cases hagg

/-- Storage answers. -/
def readingAt (now : Date) : MetricsReading := ⟨now, true, fun _ => true⟩

/-- The backend looks before anything is counted, and calculates afterwards. -/
def snapshotFirst : List MetricsStep :=
  [.reader (readingAt 0) (.snapshot none), .recorder (readingAt 1) (.record false none),
    .recorder (readingAt 1) .flush, .reader (readingAt 2) (.calculate 60 none)]

theorem early_snapshot_only_reads : AllSteps step OnlyReads exampleEngines snapshotFirst := by
  apply (only_reads_iff exampleEngines exampleEngines_passive snapshotFirst).mpr
  intro t ht
  refine ⟨?_, ?_⟩
  · intro refTime _
    constructor
    · rintro ⟨-, -, row, hrow, -⟩
      cases hrow
    · rintro ⟨-, row, hrow, -⟩
      cases hrow
  obtain rfl := Option.some.inj ht
  intro t ht
  refine ⟨trivial, ?_⟩
  obtain rfl := Option.some.inj ht
  intro t ht
  refine ⟨trivial, ?_⟩
  intro t ht
  refine ⟨?_, trivial⟩
  intro refTime hc
  cases hc

/-- The worker counts a failed event, and the backend looks. -/
def snapshotLater : List MetricsStep :=
  [.recorder (readingAt 1) (.record false none), .recorder (readingAt 1) .flush,
    .reader (readingAt 2) (.snapshot none)]

/-- The snapshot shows no event and writes that back. -/
theorem snapshot_overwrites_counts : ¬AllSteps step OnlyReads exampleEngines snapshotLater := by
  intro hall
  obtain ⟨-, h₁⟩ := hall _ rfl
  obtain ⟨-, h₂⟩ := h₁ _ rfl
  obtain ⟨⟨hkeeps, -⟩, -⟩ := h₂ _ rfl
  obtain ⟨row', hafter, hcounts⟩ := hkeeps 60 ⟨1, 0, 1, 1⟩ rfl
  obtain rfl := Option.some.inj hafter
  cases hcounts

end SharedMetrics
end IceStream.Metrics
