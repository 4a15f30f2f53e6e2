import IceStream.Rules.Engine
import IceStream.Rules.Clock
import Mathlib.Data.Finset.Card
import Mathlib.Data.Rat.Defs

/-!
# The hybrid quality engine

A batch is checked as a whole by an adapter and event by event by the engine. The
events that are not healthy are counted by their ids, which a `set` collects.
-/

namespace IceStream
open Python

variable {φ γ : Type}

/-! ## Values in a set -/

/-- What a `set` tells values apart by: numbers are equal across their types, and every NaN is the
one object that `json.loads` hands out. -/
inductive HashKey
  | none
  | number (q : ℚ)
  | infinite (negative : Bool)
  | nan
  | text (t : Text)
  deriving DecidableEq

/-- The value of a finite float. -/
def rational (x : Float) : ℚ :=
  let q : ℚ := (magnitude x).1 / (magnitude x).2
  if isNegative x then -q else q

def hashKey : Json → Except Exc HashKey
  | .null => .ok .none
  | .bool b => .ok (.number (if b then 1 else 0))
  | .int i => .ok (.number i)
  | .float x =>
    if x.isNaN then .ok .nan
    else if x.isInf then .ok (.infinite (isNegative x))
    else .ok (.number (rational x))
  | .str t => .ok (.text t)
  | .arr _ => .error (typeError "unhashable type: 'list'")
  | .obj _ => .error (typeError "unhashable type: 'dict'")

/-! ## A batch -/

inductive BatchItem
  | event (e : QualityEvent)
  | dict (d : Dict)
  | other (typeName : String)

/-- The expectations that are checked on the whole batch; `γ` is their summary. -/
abbrev GEAdapter (φ γ : Type) := List BatchItem → Text → Fallible φ (List ValidationResult × γ)

structure HybridQualityEngine (φ γ : Type) where
  customEngine : QualityEngine φ
  geAdapter : GEAdapter φ γ

structure UnifiedQualityResult (γ : Type) where
  batchId : Text
  geResults : List ValidationResult
  customResults : List ValidationResult
  geBatchSummary : γ
  totalEvents : ℕ
  invalidEventsCount : ℕ
  criticalFailures : ℕ
  warningFailures : ℕ
  overallStatus : EventStatus
  timestamp : Text

/-- The events of a batch; a frame comes as the list of its records. -/
def standardize (u : Unicode) : List BatchItem → Except Exc (List QualityEvent)
  | [] => .ok []
  | .event e :: rest => (standardize u rest).map (e :: ·)
  | .dict d :: rest => do
    let e ← QualityEvent.fromDict u d
    (standardize u rest).map (e :: ·)
  | .other typeName :: _ => .error (typeError (text s!"Unsupported event item type: {typeName}"))

/-- `event.event_id or f"event_idx_{idx}"` -/
def eventIdOr (idx : ℕ) (event : QualityEvent) : Json :=
  (event.value .eventId).orElse (.str (text s!"event_idx_{idx}"))

def ValidationResult.isWarningFailure (r : ValidationResult) : Bool :=
  !r.passed && (r.severity == .warning || r.severity == .medium || r.severity == .low)

namespace HybridQualityEngine

/-- The loop over the events; `failedEventIds` is a `set`. -/
def runCustom (engine : QualityEngine φ) : ℕ → List QualityEvent → List ValidationResult →
    Finset HashKey → Fallible φ (List ValidationResult × Finset HashKey)
  | _, [], customResults, failedEventIds => pure (customResults, failedEventIds)
  | idx, event :: rest, customResults, failedEventIds => do
    let summary ← engine.validateEvent event
    let customResults := customResults ++ summary.results
    if summary.overallStatus != .healthy then do
      let key ← raising (hashKey (eventIdOr idx event))
      runCustom engine (idx + 1) rest customResults (insert key failedEventIds)
    else runCustom engine (idx + 1) rest customResults failedEventIds

variable (hybrid : HybridQualityEngine φ γ)

def unify (batchId timestamp : Text) (ge : List ValidationResult × γ) (totalEvents : ℕ)
    (custom : List ValidationResult × Finset HashKey) : UnifiedQualityResult γ :=
  let all := ge.1 ++ custom.1
  let critical := (all.filter ValidationResult.isCriticalFailure).length
  { batchId := batchId
    geResults := ge.1
    customResults := custom.1
    geBatchSummary := ge.2
    totalEvents := totalEvents
    invalidEventsCount := custom.2.card
    criticalFailures := critical
    warningFailures := (all.filter ValidationResult.isWarningFailure).length
    overallStatus := if all.all (·.passed) then .healthy
      else if 0 < critical then .failed else .warning
    timestamp := timestamp }

/-- `validate_batch`; the id of a batch without one and the timestamp are read from the clock. -/
def validateBatch (u : Unicode) (batchInput : List BatchItem) (batchId timestamp : Text) :
    Fallible φ (UnifiedQualityResult γ) := do
  let events ← raising (standardize u batchInput)
  let ge ← hybrid.geAdapter batchInput batchId
  let custom ← runCustom hybrid.customEngine 0 events [] ∅
  pure (unify batchId timestamp ge events.length custom)

end HybridQualityEngine

/-! ## The count -/

open HybridQualityEngine

/-- The events' own summaries, in a run of the engine over all of them. -/
def summarise (engine : QualityEngine φ) : List QualityEvent → Fallible φ (List ValidationSummary)
  | [] => pure []
  | event :: rest => do
    let summary ← engine.validateEvent event
    let summaries ← summarise engine rest
    pure (summary :: summaries)

def ValidationSummary.isUnhealthy (s : ValidationSummary) : Bool := s.overallStatus != .healthy

/-- The ids, or what stands in for them, of the events that are not healthy. -/
def unhealthyIds : ℕ → List QualityEvent → List ValidationSummary → List Json
  | idx, event :: events, summary :: summaries =>
    if summary.isUnhealthy then eventIdOr idx event :: unhealthyIds (idx + 1) events summaries
    else unhealthyIds (idx + 1) events summaries
  | _, _, _ => []

/-- A `set` can hold the ids, and keeps them apart. -/
def Apart (ids : List Json) : Prop :=
  (∀ id ∈ ids, ∃ key, hashKey id = .ok key) ∧ ids.Pairwise fun a b => hashKey a ≠ hashKey b

section

variable {engine : QualityEngine φ}

theorem summarise_cons {event : QualityEvent} {events : List QualityEvent}
    {summaries : List ValidationSummary} {w w' : φ}
    (h : summarise engine (event :: events) w = (.ok summaries, w')) :
    ∃ summary rest w₁, engine.validateEvent event w = (.ok summary, w₁) ∧
      summarise engine events w₁ = (.ok rest, w') ∧ summaries = summary :: rest := by
  rcases hevent : engine.validateEvent event w with ⟨e | summary, w₁⟩
  · rw [summarise, Fallible.bind_error hevent] at h
    cases h
  · rw [summarise, Fallible.bind_ok hevent] at h
    rcases hrest : summarise engine events w₁ with ⟨e | rest, w₂⟩
    · rw [Fallible.bind_error hrest] at h
      cases h
    · rw [Fallible.bind_ok hrest] at h
      obtain ⟨hsummaries, rfl⟩ := Prod.mk.inj h
      exact ⟨summary, rest, w₁, rfl, hrest, (Except.ok.inj hsummaries).symm⟩

theorem length_unhealthyIds {events : List QualityEvent} {summaries : List ValidationSummary}
    {w w' : φ} (h : summarise engine events w = (.ok summaries, w')) (idx : ℕ) :
    (unhealthyIds idx events summaries).length = summaries.countP (·.isUnhealthy) := by
  induction events generalizing summaries w idx with
  | nil =>
    obtain ⟨hsummaries, -⟩ := Prod.mk.inj h
    obtain rfl := Except.ok.inj hsummaries
    rfl
  | cons event events ih =>
    obtain ⟨summary, rest, w₁, -, hrest, rfl⟩ := summarise_cons h
    rw [unhealthyIds, List.countP_cons]
    by_cases hunhealthy : summary.isUnhealthy = true
    · rw [if_pos hunhealthy, if_pos hunhealthy, List.length_cons, ih hrest]
    · rw [if_neg hunhealthy, if_neg hunhealthy, ih hrest, Nat.add_zero]

/-- The loop collects the keys of the unhealthy ids, or stops at one that has none. -/
theorem runCustom_eq {events : List QualityEvent} {summaries : List ValidationSummary} {w w' : φ}
    (h : summarise engine events w = (.ok summaries, w')) (idx : ℕ)
    (customResults : List ValidationResult) (failedEventIds : Finset HashKey) :
    (∃ keys, (unhealthyIds idx events summaries).mapM hashKey = .ok keys ∧
      runCustom engine idx events customResults failedEventIds w =
        (.ok (customResults ++ summaries.flatMap (·.results), failedEventIds ∪ keys.toFinset),
          w')) ∨
    ∃ e e' w'', (unhealthyIds idx events summaries).mapM hashKey = .error e ∧
      runCustom engine idx events customResults failedEventIds w = (.error e', w'') := by
  induction events generalizing summaries w idx customResults failedEventIds with
  | nil =>
    obtain ⟨hsummaries, rfl⟩ := Prod.mk.inj h
    obtain rfl := Except.ok.inj hsummaries
    refine Or.inl ⟨[], rfl, ?_⟩
    rw [runCustom, List.flatMap_nil, List.append_nil, List.toFinset_nil, Finset.union_empty]
    rfl
  | cons event events ih =>
    obtain ⟨summary, rest, w₁, hevent, hrest, rfl⟩ := summarise_cons h
    have hloop := ih hrest (idx + 1) (customResults ++ summary.results)
    rw [unhealthyIds, runCustom, Fallible.bind_ok hevent, List.flatMap_cons, ← List.append_assoc]
    by_cases hunhealthy : summary.isUnhealthy = true
    · have hstatus : (summary.overallStatus != .healthy) = true := hunhealthy
      simp only [hunhealthy, hstatus, if_true, List.mapM_cons]
      cases hkey : hashKey (eventIdOr idx event) with
      | error e =>
        exact Or.inr ⟨e, e, w₁, rfl, Fallible.bind_error (raising_error rfl w₁)⟩
      | ok key =>
        rw [Fallible.bind_ok (raising_ok rfl w₁)]
        obtain ⟨keys, hkeys, hrun⟩ | ⟨e, e', w'', hkeys, hrun⟩ := hloop (insert key failedEventIds)
        · refine Or.inl ⟨key :: keys, ?_, ?_⟩
          · rw [hkeys]
            rfl
          · rw [hrun, List.toFinset_cons, Finset.union_insert, Finset.insert_union]
        · refine Or.inr ⟨e, e', w'', ?_, hrun⟩
          rw [hkeys]
          rfl
    · have hstatus : ¬(summary.overallStatus != .healthy) = true := hunhealthy
      rw [if_neg hunhealthy, if_neg hstatus]
      exact hloop failedEventIds

end

/-- The keys are distinct exactly where the set can hold the values and keeps them apart. -/
theorem apart_iff (ids : List Json) :
    Apart ids ↔ ∃ keys, ids.mapM hashKey = .ok keys ∧ keys.Nodup := by
  rw [Apart, ← exists_mapM_eq_ok_iff, exists_and_right.symm]
  refine exists_congr fun keys => and_congr_right fun hkeys => ?_
  have hmap : ids.map hashKey = keys.map Except.ok := by
    rw [← List.forall₂_eq_eq_eq, List.forall₂_map_left_iff, List.forall₂_map_right_iff]
    exact mapM_eq_ok_iff.mp hkeys
  have hinjective : Function.Injective (Except.ok : HashKey → Except Exc HashKey) :=
    fun _ _ h => Except.ok.inj h
  rw [← List.nodup_map_iff hinjective, ← hmap, List.Nodup, List.pairwise_map]

/-- The count, where the run of the engine has a summary for every event. -/
theorem invalid_count_iff {u : Unicode} (hybrid : HybridQualityEngine φ γ)
    {batchInput : List BatchItem} {batchId timestamp : Text} {events : List QualityEvent}
    {ge : List ValidationResult × γ} {summaries : List ValidationSummary} {w w₁ w' : φ}
    (hevents : standardize u batchInput = .ok events)
    (hge : hybrid.geAdapter batchInput batchId w = (.ok ge, w₁))
    (hsummaries : summarise hybrid.customEngine events w₁ = (.ok summaries, w')) :
    (∃ result w'', hybrid.validateBatch u batchInput batchId timestamp w = (.ok result, w'') ∧
      result.invalidEventsCount = summaries.countP (·.isUnhealthy)) ↔
    Apart (unhealthyIds 0 events summaries) := by
  rw [HybridQualityEngine.validateBatch, Fallible.bind_ok (raising_ok hevents w),
    Fallible.bind_ok hge, apart_iff, ← length_unhealthyIds hsummaries 0]
  obtain ⟨keys, hkeys, hrun⟩ | ⟨e, e', w'', hkeys, hrun⟩ := runCustom_eq hsummaries 0 [] ∅
  · rw [Fallible.bind_ok hrun]
    have hlength := (mapM_eq_ok_iff.mp hkeys).length_eq
    have hcount : (unify batchId timestamp ge events.length
        ([] ++ summaries.flatMap (·.results), ∅ ∪ keys.toFinset)).invalidEventsCount =
          keys.toFinset.card := by
      rw [unify, Finset.empty_union]
    have hnodup : keys.toFinset.card = keys.length ↔ keys.Nodup :=
      Multiset.toFinset_card_eq_card_iff_nodup
    constructor
    · rintro ⟨result, w'', hresult, hequal⟩
      obtain ⟨hresult, -⟩ := Prod.mk.inj hresult
      obtain rfl := Except.ok.inj hresult
      exact ⟨keys, hkeys, hnodup.mp (by rw [← hcount, hequal, hlength])⟩
    · rintro ⟨keys', hkeys', hdistinct⟩
      rw [hkeys] at hkeys'
      obtain rfl := Except.ok.inj hkeys'
      exact ⟨_, _, rfl, by rw [hcount, hnodup.mpr hdistinct, hlength]⟩
  · rw [Fallible.bind_error hrun, hkeys]
    exact iff_of_false (by rintro ⟨_, _, h, -⟩; cases h) (by rintro ⟨_, h, -⟩; cases h)

/-- An engine that only looks at the currency, and keeps nothing. -/
def currencyEngine : QualityEngine Unit := ⟨[notNullRule .currency none], fun _ _ => pure ()⟩

/-- Without expectations on the batch. -/
def currencyHybrid : HybridQualityEngine Unit Unit := ⟨currencyEngine, fun _ _ => pure ([], ())⟩

/-- What the engine says of an event with the id and nothing else. -/
def onlyId (id : Json) : QualityEvent := ⟨fun
  | .eventId => id
  | _ => .null, []⟩

/-- Two events without an id are two. -/
theorem invalid_count_missing_ids :
    ∃ result w'', currencyHybrid.validateBatch Unicode.ascii
        [.event (onlyId .null), .event (onlyId (.str []))] "b" "t" () = (.ok result, w'') ∧
      result.invalidEventsCount = 2 := by
  refine (@invalid_count_iff _ _ _ currencyHybrid _ _ _ [onlyId .null, onlyId (.str [])] _ _ _ _ _
    rfl rfl rfl).mpr ?_
  refine (apart_iff _).mpr ⟨[.text "event_idx_0", .text "event_idx_1"], rfl, by decide +kernel⟩

/-- Two unhealthy events with one id are counted once. -/
theorem invalid_count_repeated_id :
    ∃ summaries, summarise currencyEngine [onlyId (.str "e1"), onlyId (.str "e1")] () =
        (.ok summaries, ()) ∧ summaries.countP (·.isUnhealthy) = 2 ∧
      ¬∃ result w'', currencyHybrid.validateBatch Unicode.ascii
          [.event (onlyId (.str "e1")), .event (onlyId (.str "e1"))] "b" "t" () =
            (.ok result, w'') ∧
        result.invalidEventsCount = summaries.countP (·.isUnhealthy) := by
  refine ⟨_, rfl, by decide +kernel, ?_⟩
  rintro ⟨result, w'', hresult, hcount⟩
  obtain ⟨hresult, -⟩ := Prod.mk.inj hresult
  obtain rfl := Except.ok.inj hresult
  revert hcount
  decide +kernel

end IceStream
