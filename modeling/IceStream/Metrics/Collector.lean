import IceStream.Metrics.ErrorRate
import IceStream.Rules.Isolation
import IceStream.Rules.Clock

/-!
# The metrics of an engine

An engine tells its collector of every result, and of the event by its status and its time.
-/

namespace IceStream.Metrics
open Python

/-- `InMemoryMetricsCollector`, which has at least one window, and the readings of its clock. -/
structure MetricsCollector where
  clock : ℕ → Instant
  reads : ℕ := 0
  totalEvents : ℕ := 0
  validEvents : ℕ := 0
  invalidEvents : ℕ := 0
  rulePasses : Text → ℕ := fun _ => 0
  ruleFailures : Text → ℕ := fun _ => 0
  criticalFailures : ℕ := 0
  window : WindowAggregator := ⟨60, []⟩
  otherWindows : List WindowAggregator := [⟨300, []⟩]

namespace MetricsCollector

def windows (c : MetricsCollector) : List WindowAggregator := c.window :: c.otherWindows

/-- One more under a name. -/
def counted (counters : Text → ℕ) (name : Text) : Text → ℕ :=
  Function.update counters name (counters name + 1)

def recordRuleResult (c : MetricsCollector) (r : ValidationResult) : MetricsCollector :=
  if r.passed then { c with rulePasses := counted c.rulePasses r.ruleName }
  else
    { c with
      ruleFailures := counted c.ruleFailures r.ruleName
      criticalFailures := c.criticalFailures +
        if r.severity == .critical || r.severity == .high then 1 else 0 }

def incrementEventValidation (c : MetricsCollector) (status : EventStatus) : MetricsCollector :=
  let c := { c with totalEvents := c.totalEvents + 1 }
  if status = .healthy then { c with validEvents := c.validEvents + 1 }
  else { c with invalidEvents := c.invalidEvents + 1 }

/-- `clock.now()` -/
def now : Fallible MetricsCollector Instant := fun c =>
  (.ok (c.clock c.reads), { c with reads := c.reads + 1 })

/-- `add_event` -/
def addEvent (platform : Platform) (isValid : Bool) (timestamp : Json) (w : WindowAggregator) :
    Fallible MetricsCollector WindowAggregator := do
  match ← raising (parseIsoTimestamp platform timestamp) with
  | some time => pure (w.addEvent isValid time)
  | none => return w.addEvent isValid (← now)

/-- The loop of `record_event_summary`, which a timestamp that cannot be read ends at its
first window. -/
def addToAll (platform : Platform) (isValid : Bool) (timestamp : Json) :
    List WindowAggregator → Fallible MetricsCollector (List WindowAggregator)
  | [] => pure []
  | w :: ws => do
    let w ← addEvent platform isValid timestamp w
    let ws ← addToAll platform isValid timestamp ws
    pure (w :: ws)

/-- `record_event_summary` -/
def recordEventSummary (platform : Platform) (summary : ValidationSummary) (timestamp : Json) :
    Fallible MetricsCollector Unit := do
  let isValid := summary.overallStatus == .healthy
  let window ← addEvent platform isValid timestamp (← Fallible.read window)
  let others ← addToAll platform isValid timestamp (← Fallible.read otherWindows)
  Fallible.update fun c => { c with window := window, otherWindows := others }

/-- What the engine tells its collector of one event. -/
def recordEvent (platform : Platform) (summary : ValidationSummary) (timestamp : Json) :
    Fallible MetricsCollector Unit := do
  Fallible.update fun c => summary.results.foldl recordRuleResult c
  Fallible.update fun c => c.incrementEventValidation summary.overallStatus
  recordEventSummary platform summary timestamp

end MetricsCollector

/-- The surroundings of an engine: those of its rules, and its collector. -/
abbrev EngineWorld := RuleWorld × MetricsCollector

def onCollector {α : Type} (x : Fallible MetricsCollector α) : Fallible EngineWorld α := fun w =>
  ((x w.2).1, (w.1, (x w.2).2))

/-- An engine with a collector of its own. -/
def collectingEngine (platform : Platform) (rules : List (QualityRule EngineWorld)) :
    QualityEngine EngineWorld where
  rules := rules
  recordEventSummary summary timestamp :=
    onCollector (MetricsCollector.recordEvent platform summary timestamp)

namespace MetricsCollector

section

variable {platform : Platform} {timestamp : Json}

/-- A timestamp that is read, or passed over, is recorded. -/
theorem addEvent_ok (isValid : Bool) {time : Option Instant}
    (h : parseIsoTimestamp platform timestamp = .ok time) (agg : WindowAggregator)
    (c : MetricsCollector) :
    ∃ t n, addEvent platform isValid timestamp agg c =
      (.ok (agg.addEvent isValid t), { c with reads := n }) := by
  rw [addEvent, h, Fallible.bind_ok (show raising (.ok time) c = _ from rfl)]
  cases time with
  | none => exact ⟨_, _, rfl⟩
  | some t => exact ⟨_, c.reads, rfl⟩

theorem addEvent_error (isValid : Bool) {e : Exc}
    (h : parseIsoTimestamp platform timestamp = .error e) (agg : WindowAggregator)
    (c : MetricsCollector) : addEvent platform isValid timestamp agg c = (.error e, c) := by
  rw [addEvent, h]
  exact Fallible.bind_error rfl

/-- Each of the windows has one more record. -/
theorem addToAll_ok (isValid : Bool) {time : Option Instant}
    (h : parseIsoTimestamp platform timestamp = .ok time) (aggs : List WindowAggregator)
    (c : MetricsCollector) :
    ∃ aggs' n, addToAll platform isValid timestamp aggs c = (.ok aggs', { c with reads := n }) ∧
      List.Forall₂ (fun agg agg' => ∃ t, agg' = agg.addEvent isValid t) aggs aggs' := by
  induction aggs generalizing c with
  | nil => exact ⟨[], c.reads, rfl, .nil⟩
  | cons agg aggs ih =>
    obtain ⟨t, n, hfirst⟩ := addEvent_ok isValid h agg c
    obtain ⟨aggs', n', hrest, hall⟩ := ih { c with reads := n }
    refine ⟨agg.addEvent isValid t :: aggs', n', ?_, .cons ⟨t, rfl⟩ hall⟩
    rw [addToAll, Fallible.bind_ok hfirst, Fallible.bind_ok hrest]
    rfl

/-- The collector after an event that has been recorded to the end. -/
structure Recorded (c c' : MetricsCollector) (isValid : Bool) : Prop where
  windows : List.Forall₂ (fun agg agg' => ∃ t, agg' = agg.addEvent isValid t) c.windows c'.windows
  invalidEvents : c'.invalidEvents = c.invalidEvents

theorem recordEventSummary_ok (summary : ValidationSummary) {time : Option Instant}
    (h : parseIsoTimestamp platform timestamp = .ok time) (c : MetricsCollector) :
    ∃ c', recordEventSummary platform summary timestamp c = (.ok (), c') ∧
      Recorded c c' (summary.overallStatus == .healthy) := by
  obtain ⟨t, n, hfirst⟩ := addEvent_ok (summary.overallStatus == .healthy) h c.window c
  obtain ⟨others, n', hrest, hall⟩ :=
    addToAll_ok (summary.overallStatus == .healthy) h c.otherWindows { c with reads := n }
  refine ⟨{ c with
    reads := n'
    window := c.window.addEvent (summary.overallStatus == .healthy) t
    otherWindows := others }, ?_, .cons ⟨t, rfl⟩ hall, rfl⟩
  rw [recordEventSummary, Fallible.read_bind, Fallible.bind_ok hfirst, Fallible.read_bind, Fallible.bind_ok hrest]
  rfl

/-- The collector is told of an event to the end unless the timestamp raises. -/
theorem recordEvent_answer (platform : Platform) (timestamp : Json) (summary : ValidationSummary) (c : MetricsCollector) :
    (recordEvent platform summary timestamp c).1 =
      (parseIsoTimestamp platform timestamp).map fun _ => () := by
  rw [recordEvent, Fallible.update_bind, Fallible.update_bind]
  set c₁ := (summary.results.foldl recordRuleResult c).incrementEventValidation
    summary.overallStatus with hc₁
  cases hparse : parseIsoTimestamp platform timestamp with
  | error e =>
    have hraised : recordEventSummary platform summary timestamp c₁ = (.error e, c₁) := by
      rw [recordEventSummary, Fallible.read_bind]
      exact Fallible.bind_error (addEvent_error _ hparse c₁.window c₁)
    rw [hraised]
    rfl
  | ok time =>
    obtain ⟨c', hc', -⟩ := recordEventSummary_ok summary hparse c₁
    rw [hc']
    rfl

end

end MetricsCollector

end IceStream.Metrics
