import IceStream.Metrics.Snapshot

/-!
# The windows of one engine

Each window keeps records of its own. What it counts is what came in since the engine has it,
less what it has lost to looks at it.
-/

namespace IceStream.Metrics
open Python Stepping

/-- `__init__`, with nothing recorded yet. -/
def ErrorRateEngine.create (config : ErrorRateConfig) (windows : List ℤ) (flushIntervalEvents : ℤ)
    (persisted : ℤ → Option WindowCounts) : ErrorRateEngine where
  config := config
  aggregators := fun w =>
    if w ∈ (if windows = [] then [60, 300] else windows) then some ⟨w, []⟩ else none
  flushIntervalEvents := flushIntervalEvents
  eventsSinceFlush := 0
  localEventsRecorded := 0
  persisted := persisted

/-- A recorded outcome, with the windows there were and the times each was looked at since. -/
structure RecordedEvent where
  time : Date
  isValid : Bool
  windows : ℤ → Bool
  looks : ℤ → List Date

namespace RecordedEvent

def outcome (ev : RecordedEvent) : Date × Bool := (ev.time, ev.isValid)

/-- A look at the windows that meet `p`. -/
def look (p : ℤ → Bool) (now : Date) (ev : RecordedEvent) : RecordedEvent :=
  { ev with looks := fun w => if p w then now :: ev.looks w else ev.looks w }

/-- No older than the window. -/
def Live (w : ℤ) (now : Date) (ev : RecordedEvent) : Prop := now - w * 1000000 ≤ ev.time

/-- The window was there, and was not looked at from too late. -/
def Kept (w : ℤ) (ev : RecordedEvent) : Prop :=
  ev.windows w = true ∧ ∀ now ∈ ev.looks w, ev.Live w now

instance (w : ℤ) (now : Date) : DecidablePred (Live w now) :=
  fun ev => inferInstanceAs (Decidable (now - w * 1000000 ≤ ev.time))

instance (w : ℤ) : DecidablePred (Kept w) :=
  fun ev => inferInstanceAs (Decidable (ev.windows w = true ∧ ∀ now ∈ ev.looks w, ev.Live w now))

theorem kept_look (p : ℤ → Bool) (w : ℤ) (now : Date) (ev : RecordedEvent) :
    (ev.look p now).Kept w ↔ ev.Kept w ∧ (p w = true → ev.Live w now) := by
  unfold Kept look
  by_cases hp : p w = true
  · simp only [hp, ↓reduceIte, List.forall_mem_cons, Live]
    tauto
  · simp [hp, Live]

end RecordedEvent

/-- An outcome that is recorded, or two windows asked for at one time. -/
inductive EngineAction
  | record (r : MetricsReading) (isValid : Bool) (timestamp : Option Date)
  | calculate (r : MetricsReading) (w₁ w₂ : ℤ) (refTime : Option Date)

structure EngineRun where
  engine : ErrorRateEngine
  events : List RecordedEvent

namespace EngineRun

def start (config : ErrorRateConfig) (windows : List ℤ) (flushIntervalEvents : ℤ)
    (persisted : ℤ → Option WindowCounts) : EngineRun :=
  ⟨.create config windows flushIntervalEvents persisted, []⟩

/-- The events after one more is recorded; a flush looks at every window. -/
def recorded (s : EngineRun) (r : MetricsReading) (isValid : Bool) (time : Date) :
    List RecordedEvent :=
  let ev := ⟨time, isValid, fun w => (s.engine.aggregators w).isSome, fun _ => []⟩
  if s.engine.flushIntervalEvents ≤ s.engine.eventsSinceFlush + 1 then
    (s.events ++ [ev]).map (RecordedEvent.look (fun _ => true) r.now)
  else s.events ++ [ev]

/-- `calculate`, whatever it answers. -/
def asked (s : EngineRun) (r : MetricsReading) (w : ℤ) (refTime : Option Date) : EngineRun :=
  ⟨(ErrorRateEngine.calculate r w refTime s.engine).2,
    s.events.map (RecordedEvent.look (· = w) (refTime.getD r.now))⟩

/-- Timestamps do not decrease. -/
def step (s : EngineRun) : EngineAction → Option EngineRun
  | .record r isValid timestamp =>
    let time := timestamp.getD r.now
    if ∀ ev ∈ s.events, ev.time ≤ time then
      some ⟨s.engine.recordEventOutcome r isValid timestamp, s.recorded r isValid time⟩
    else none
  | .calculate r w₁ w₂ refTime => some ((s.asked r w₁ refTime).asked r w₂ refTime)

/-- How many of the recorded events are no older than the window. -/
def countOf (s : EngineRun) (w : ℤ) (now : Date) : ℕ := s.events.countP (·.Live w now)

/-- Each window answers with what was recorded in it, and the longer one with no less. -/
def Agrees (s : EngineRun) (a : EngineAction) (_ : EngineRun) : Prop :=
  match a with
  | .record _ _ _ => True
  | .calculate r w₁ w₂ refTime => s.events ≠ [] → ∃ m₁ m₂ e₁ e₂,
      ErrorRateEngine.calculate r w₁ refTime s.engine = (.ok m₁, e₁) ∧
      ErrorRateEngine.calculate r w₂ refTime e₁ = (.ok m₂, e₂) ∧
      m₁.totalEvents = s.countOf w₁ (refTime.getD r.now) ∧
      m₂.totalEvents = s.countOf w₂ (refTime.getD r.now) ∧
      (w₁ ≤ w₂ → m₁.totalEvents ≤ m₂.totalEvents)

/-- No event of the two windows came before its window, or was lost to a look at it. -/
def KeepsBoth (s : EngineRun) (a : EngineAction) (_ : EngineRun) : Prop :=
  match a with
  | .record _ _ _ => True
  | .calculate r w₁ w₂ refTime => ∀ ev ∈ s.events, ∀ w ∈ [w₁, w₂],
      ev.Live w (refTime.getD r.now) → ev.Kept w

/-! ## What a window holds -/

/-- The events a window still has. -/
def held (s : EngineRun) (w : ℤ) : List (Date × Bool) :=
  (s.events.filter (·.Kept w)).map RecordedEvent.outcome

/-- The engine's windows hold what is kept of the events, which are in the order of their times. -/
structure Faithful (s : EngineRun) : Prop where
  sorted : s.events.Pairwise fun ev ev' => ev.time ≤ ev'.time
  aggregator : ∀ w, s.engine.aggregator w = ⟨w, s.held w⟩
  counted : s.engine.localEventsRecorded = s.events.length

section

variable {s t : EngineRun}

/-- In order, eviction takes all that has expired. -/
theorem evictExpired_eq_filter {w : ℤ} {records : List (Date × Bool)}
    (h : records.Pairwise fun r r' => r.1 ≤ r'.1) (now : Date) :
    (WindowAggregator.mk w records).evictExpired now =
      ⟨w, records.filter fun r => now - w * 1000000 ≤ r.1⟩ := by
  change WindowAggregator.mk w (records.dropWhile fun r => r.1 < now - w * 1000000) = _
  congr 1
  induction records with
  | nil => rfl
  | cons r rs ih =>
    obtain ⟨hr, hrs⟩ := List.pairwise_cons.mp h
    by_cases hlive : now - w * 1000000 ≤ r.1
    · have hall : ∀ r' ∈ r :: rs, (decide (now - w * 1000000 ≤ r'.1)) = true := by
        intro r' hr'
        apply decide_eq_true
        obtain rfl | hr' := List.mem_cons.mp hr'
        · exact hlive
        · exact le_trans hlive (hr r' hr')
      rw [List.filter_eq_self.mpr hall, List.dropWhile_cons_of_neg]
      simpa only [decide_eq_true_eq, not_lt] using hlive
    · have hexpired : r.1 < now - w * 1000000 := not_le.mp hlive
      simp only [List.dropWhile_cons, List.filter_cons, hexpired, hlive, decide_true, decide_false,
        Bool.false_eq_true, ↓reduceIte]
      exact ih hrs

theorem sorted_held (h : s.events.Pairwise fun ev ev' => ev.time ≤ ev'.time) (w : ℤ) :
    (s.held w).Pairwise fun r r' => r.1 ≤ r'.1 := by
  rw [held, List.pairwise_map]
  exact h.sublist List.filter_sublist

/-- What is kept after a look at some windows. -/
theorem filter_look (evs : List RecordedEvent) (p : ℤ → Bool) (w : ℤ) (now : Date) :
    ((evs.map (RecordedEvent.look p now)).filter (·.Kept w)).map RecordedEvent.outcome =
      if p w then ((evs.filter (·.Kept w)).map RecordedEvent.outcome).filter
        fun r => now - w * 1000000 ≤ r.1
      else (evs.filter (·.Kept w)).map RecordedEvent.outcome := by
  induction evs with
  | nil => split <;> rfl
  | cons ev evs ih =>
    have hkept := ev.kept_look p w now
    by_cases hp : p w = true
    · simp only [hp, ↓reduceIte, forall_const] at ih hkept ⊢
      by_cases hev : ev.Kept w
      · by_cases hlive : ev.Live w now
        · have hlook : (ev.look p now).Kept w := hkept.mpr ⟨hev, hlive⟩
          have htime : now - w * 1000000 ≤ (ev.outcome).1 := hlive
          simp only [List.map_cons, List.filter_cons, hlook, hev, decide_true, ↓reduceIte, ih, htime]
          rfl
        · have hlook : ¬(ev.look p now).Kept w := fun h => hlive (hkept.mp h).2
          have htime : ¬now - w * 1000000 ≤ (ev.outcome).1 := hlive
          simp only [List.map_cons, List.filter_cons, hlook, hev, decide_true, decide_false,
            Bool.false_eq_true, ↓reduceIte, ih, htime]
      · have hlook : ¬(ev.look p now).Kept w := fun h => hev (hkept.mp h).1
        simp only [List.map_cons, List.filter_cons, hlook, hev, decide_false, Bool.false_eq_true,
          ↓reduceIte, ih]
    · simp only [hp, Bool.false_eq_true, ↓reduceIte, false_implies, and_true] at ih hkept ⊢
      by_cases hev : ev.Kept w
      · simp only [List.map_cons, List.filter_cons, hkept.mpr hev, hev, decide_true, ↓reduceIte, ih]
        rfl
      · have hlook : ¬(ev.look p now).Kept w := fun h => hev (hkept.mp h)
        simp only [List.map_cons, List.filter_cons, hlook, hev, decide_false, Bool.false_eq_true,
          ↓reduceIte, ih]

theorem sorted_look (p : ℤ → Bool) (now : Date) {evs : List RecordedEvent}
    (h : evs.Pairwise fun ev ev' => ev.time ≤ ev'.time) :
    (evs.map (RecordedEvent.look p now)).Pairwise fun ev ev' => ev.time ≤ ev'.time :=
  List.pairwise_map.mpr h

/-- A look at some windows evicts from these. -/
theorem Faithful.looked (hs : s.Faithful) {e : ErrorRateEngine} {p : ℤ → Bool} {now : Date}
    (hlocal : e.localEventsRecorded = s.engine.localEventsRecorded)
    (he : ∀ w, e.aggregator w =
      if p w then (s.engine.aggregator w).evictExpired now else s.engine.aggregator w) :
    Faithful ⟨e, s.events.map (RecordedEvent.look p now)⟩ where
  sorted := sorted_look p now hs.sorted
  aggregator w := by
    rw [held, filter_look]
    change e.aggregator w = _
    rw [he, hs.aggregator, evictExpired_eq_filter (sorted_held hs.sorted w)]
    split <;> rfl
  counted := by
    rw [List.length_map]
    exact hlocal.trans hs.counted

/-- A window that is there takes the outcome, and no other does. -/
theorem aggregator_recorded (e : ErrorRateEngine) (isValid : Bool) (time : Date) (w : ℤ) :
    (e.recorded isValid time).aggregator w =
      if (e.aggregators w).isSome then (e.aggregator w).addEvent isValid time
      else e.aggregator w := by
  cases hagg : e.aggregators w with
  | none => simp [ErrorRateEngine.aggregator, ErrorRateEngine.recorded, hagg]
  | some agg => simp [ErrorRateEngine.aggregator, ErrorRateEngine.recorded, hagg]

theorem aggregator_flushEventCounts (e : ErrorRateEngine) (r : MetricsReading) (w : ℤ) :
    (e.flushEventCounts r).aggregator w = (e.aggregator w).evictExpired r.now := by
  cases hagg : e.aggregators w with
  | none =>
    simp only [ErrorRateEngine.aggregator, ErrorRateEngine.flushEventCounts, hagg]
    rfl
  | some agg =>
    simp only [ErrorRateEngine.aggregator, ErrorRateEngine.flushEventCounts, hagg]
    rfl

theorem aggregator_evicted_of_window (e : ErrorRateEngine) (w : ℤ) (now : Date) (w' : ℤ) :
    (e.evicted w now).aggregator w' =
      if decide (w' = w) then (e.aggregator w').evictExpired now else e.aggregator w' := by
  by_cases hw : w' = w
  · subst hw
    simp
  · simp [ErrorRateEngine.aggregator, ErrorRateEngine.evicted, hw]

/-- The new event, before anything looks at it. -/
theorem Faithful.record (hs : s.Faithful) (isValid : Bool) {time : Date}
    (htime : ∀ ev ∈ s.events, ev.time ≤ time) :
    Faithful ⟨s.engine.recorded isValid time,
      s.events ++ [⟨time, isValid, fun w => (s.engine.aggregators w).isSome, fun _ => []⟩]⟩ where
  sorted := by
    apply List.pairwise_append.mpr
    refine ⟨hs.sorted, List.pairwise_singleton _ _, ?_⟩
    intro ev hev ev' hev'
    rw [List.mem_singleton.mp hev']
    exact htime ev hev
  aggregator w := by
    change (s.engine.recorded isValid time).aggregator w = _
    rw [aggregator_recorded, hs.aggregator]
    cases hwindow : s.engine.aggregators w with
    | none => simp [held, RecordedEvent.Kept, hwindow]
    | some agg => simp [held, RecordedEvent.Kept, hwindow, WindowAggregator.addEvent,
        RecordedEvent.outcome]
  counted := by
    change s.engine.localEventsRecorded + 1 = _
    rw [hs.counted, List.length_append, List.length_singleton]

theorem Faithful.asked (hs : s.Faithful) (r : MetricsReading) (w : ℤ) (refTime : Option Date) :
    (s.asked r w refTime).Faithful := by
  have hstate := ErrorRateEngine.calculate_state (e := s.engine) r w refTime
  unfold EngineRun.asked
  rw [hstate]
  exact hs.looked rfl (aggregator_evicted_of_window s.engine w _)

theorem faithful_step {a : EngineAction} (hs : s.Faithful) (ht : s.step a = some t) :
    t.Faithful := by
  cases a with
  | record r isValid timestamp =>
    simp only [step, Option.ite_none_right_eq_some] at ht
    obtain ⟨htime, ht⟩ := ht
    have hrecord := hs.record isValid htime
    obtain rfl := Option.some.inj ht
    by_cases hflush : s.engine.flushIntervalEvents ≤ s.engine.eventsSinceFlush + 1
    · have hengine : s.engine.recordEventOutcome r isValid timestamp =
          (s.engine.recorded isValid (timestamp.getD r.now)).flushEventCounts r := if_pos hflush
      rw [hengine, recorded, if_pos hflush]
      exact hrecord.looked rfl fun w => aggregator_flushEventCounts _ r w
    · have hengine : s.engine.recordEventOutcome r isValid timestamp =
          s.engine.recorded isValid (timestamp.getD r.now) := if_neg hflush
      rw [hengine, recorded, if_neg hflush]
      exact hrecord
  | calculate r w₁ w₂ refTime =>
    obtain rfl := Option.some.inj ht
    exact (hs.asked r w₁ refTime).asked r w₂ refTime

theorem faithful_start (config : ErrorRateConfig) (windows : List ℤ) (flushIntervalEvents : ℤ)
    (persisted : ℤ → Option WindowCounts) :
    (start config windows flushIntervalEvents persisted).Faithful where
  sorted := List.Pairwise.nil
  aggregator w := by
    change (if w ∈ (if windows = [] then [60, 300] else windows) then
      some (⟨w, []⟩ : WindowAggregator) else none).getD ⟨w, []⟩ = ⟨w, []⟩
    by_cases hw : w ∈ (if windows = [] then [60, 300] else windows)
    · rw [if_pos hw]
      rfl
    · rw [if_neg hw]
      rfl
  counted := rfl

/-! ## What a window counts -/

/-- What a window answers is the number of its live events that it has kept. -/
theorem Faithful.windowMetrics_total (hs : s.Faithful) (w : ℤ) (now : Date) :
    (s.engine.windowMetrics w now).totalEvents =
      (s.events.filter (·.Live w now)).countP (·.Kept w) := by
  have hevict := evictExpired_eq_filter (w := w) (sorted_held hs.sorted w) now
  change ((s.engine.aggregator w).evictExpired now).records.length = _
  rw [hs.aggregator, hevict, held, List.filter_map, List.length_map, List.countP_eq_length_filter,
    List.filter_comm]
  rfl

theorem Faithful.total_eq_iff (hs : s.Faithful) (w : ℤ) (now : Date) :
    (s.engine.windowMetrics w now).totalEvents = s.countOf w now ↔
      ∀ ev ∈ s.events, ev.Live w now → ev.Kept w := by
  have hcount : s.countOf w now = (s.events.filter (·.Live w now)).length :=
    List.countP_eq_length_filter
  rw [hs.windowMetrics_total, hcount, List.countP_eq_length]
  simp only [List.mem_filter, decide_eq_true_eq, and_imp]

/-- The longer window has no fewer of the events. -/
theorem countOf_mono (s : EngineRun) {w₁ w₂ : ℤ} (h : w₁ ≤ w₂) (now : Date) :
    s.countOf w₁ now ≤ s.countOf w₂ now := by
  apply List.countP_mono_left
  intro ev _ hev
  have hlive : now - w₁ * 1000000 ≤ ev.time := of_decide_eq_true hev
  have hlonger : now - w₂ * 1000000 ≤ now - w₁ * 1000000 :=
    sub_le_sub_left (Int.mul_le_mul_of_nonneg_right h (by decide)) now
  exact decide_eq_true (hlonger.trans hlive)

/-- Asking for one window does not change what another one is to count. -/
theorem countOf_asked (s : EngineRun) (r : MetricsReading) (w w' : ℤ) (refTime : Option Date)
    (now : Date) : (s.asked r w refTime).countOf w' now = s.countOf w' now := by
  rw [countOf, asked, List.countP_map]
  rfl

/-- Asking twice at one time loses nothing. -/
theorem kept_asked_iff (s : EngineRun) (r : MetricsReading) (w w' : ℤ) (refTime : Option Date) :
    (∀ ev ∈ (s.asked r w refTime).events, ev.Live w' (refTime.getD r.now) → ev.Kept w') ↔
      ∀ ev ∈ s.events, ev.Live w' (refTime.getD r.now) → ev.Kept w' := by
  simp only [asked, List.forall_mem_map, RecordedEvent.kept_look, decide_eq_true_eq]
  apply forall₂_congr
  intro ev _
  change ev.Live w' _ → _ ↔ _
  constructor
  · intro h hlive
    exact (h hlive).1
  · intro h hlive
    refine ⟨h hlive, ?_⟩
    intro hw
    exact hw ▸ hlive

theorem agrees_iff {a : EngineAction} (hs : s.Faithful) : Agrees s a t ↔ KeepsBoth s a t := by
  cases a with
  | record r isValid timestamp => exact Iff.rfl
  | calculate r w₁ w₂ refTime =>
    by_cases hempty : s.events = []
    · simp [Agrees, KeepsBoth, hempty]
    have hlocal : s.engine.localEventsRecorded ≠ 0 := by
      rw [hs.counted]
      exact fun h => hempty (List.length_eq_zero_iff.mp h)
    set now := refTime.getD r.now with hnow
    have hfirst := s.engine.calculate_of_recorded r (w := w₁) refTime hlocal
    have hsecond := (s.engine.evicted w₁ now).calculate_of_recorded r (w := w₂) refTime hlocal
    have hs' : (s.asked r w₁ refTime).Faithful := hs.asked r w₁ refTime
    have hengine : (s.asked r w₁ refTime).engine = s.engine.evicted w₁ now :=
      ErrorRateEngine.calculate_state r w₁ refTime
    have h₁ := hs.total_eq_iff w₁ now
    have h₂ := hs'.total_eq_iff w₂ now
    rw [hengine, countOf_asked, kept_asked_iff] at h₂
    have hmono (h : w₁ ≤ w₂) := s.countOf_mono h
    constructor
    · intro hagrees
      obtain ⟨m₁, m₂, e₁, e₂, hm₁, hm₂, htotal₁, htotal₂, -⟩ := hagrees hempty
      rw [hfirst] at hm₁
      cases hm₁
      rw [hsecond] at hm₂
      cases hm₂
      intro ev hev w hw
      obtain rfl | rfl : w = w₁ ∨ w = w₂ := by simpa using hw
      · exact h₁.mp (Int.ofNat.inj htotal₁) ev hev
      · exact h₂.mp (Int.ofNat.inj htotal₂) ev hev
    · intro hkeeps _
      have htotal₁ := h₁.mpr fun ev hev => hkeeps ev hev w₁ (by simp)
      have htotal₂ := h₂.mpr fun ev hev => hkeeps ev hev w₂ (by simp)
      refine ⟨_, _, _, _, hfirst, hsecond, congrArg Int.ofNat htotal₁, congrArg Int.ofNat htotal₂, ?_⟩
      intro hle
      change ((s.engine.windowMetrics w₁ now).totalEvents : ℤ) ≤
        (((s.engine.evicted w₁ now).windowMetrics w₂ now).totalEvents : ℤ)
      rw [htotal₁, htotal₂]
      exact_mod_cast hmono hle now

end

end EngineRun
end IceStream.Metrics
