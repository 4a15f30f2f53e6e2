import IceStream.Generator.Strategies

/-!
# The fault injection engine

An event comes back as it is, or changed by one of the strategies. For each active mode
whose rate is positive a number is drawn; of the modes whose draw is below the rate one
is chosen.
-/

namespace IceStream.Generator
open Python Fallible

/-! ## Statistics -/

structure FaultStatistics where
  configuredRates : List (Text × ℚ)
  totalEvents : ℕ := 0
  cleanEvents : ℕ := 0
  faultyEvents : ℕ := 0
  faultCounts : List (Text × ℕ) := allFaultModes.map fun mode => (mode, 0)

/-- `counts[mode] += 1`, or 1 where there is none. -/
def incremented (mode : Text) : List (Text × ℕ) → List (Text × ℕ)
  | [] => [(mode, 1)]
  | (m, n) :: rest => if m = mode then (m, n + 1) :: rest else (m, n) :: incremented mode rest

namespace FaultStatistics

/-- `record_event` -/
def recordEvent (stats : FaultStatistics) : Option Text → FaultStatistics
  | none => { stats with
      totalEvents := stats.totalEvents + 1
      cleanEvents := stats.cleanEvents + 1 }
  | some mode => { stats with
      totalEvents := stats.totalEvents + 1
      faultyEvents := stats.faultyEvents + 1
      faultCounts := incremented mode stats.faultCounts }

end FaultStatistics

/-! ## The engine -/

/-- `allowedDriftTypes` and `history` are those of its strategies. -/
structure FaultInjectionEngine (K : Type) where
  rnd : Python.Random K
  rates : List (Text × ℚ)
  activeModes : List Text
  allowedDriftTypes : List Text
  history : List Dict
  statistics : FaultStatistics

/-- What the strategies need of their surroundings. -/
structure Environment where
  unicode : Unicode
  isdigit : CodePoint → Bool

/-- `DuplicateFaultStrategy()` -/
@[irreducible] def maxHistory : ℕ := 1000

namespace FaultInjectionEngine

variable {K : Type}

/-- The modes with a positive rate, or for want of one all of them. -/
def modesByRate (rates : List (Text × ℚ)) : List Text :=
  let positive := (rates.filter fun r => 0 < r.2).map Prod.fst
  if positive = [] then allFaultModes else positive

/-- `if active_modes: for mode in active_modes: ...` -/
def checkModes (u : Unicode) (modes : List Text) : Except Exc Unit :=
  forM modes fun mode => require (mode ∈ allFaultModes)
    (text "Invalid fault mode: '" ++ mode ++ text "'. Supported modes are: " ++
      Json.repr u (.arr (allFaultModes.map Json.str)))

/-- `__init__`; what the seed determines is a parameter. -/
def init (u : Unicode) (rates : Option (List (Text × ℚ))) (activeModes schemaDriftTypes :
    Option (List Text)) (rnd : Python.Random K) : Except Exc (FaultInjectionEngine K) := do
  let ownRates := allFaultModes.map fun mode => (mode, ((rates.getD []).lookup mode).getD 0)
  checkModes u (activeModes.getD [])
  pure {
    rnd := rnd
    rates := ownRates
    activeModes := givenOr activeModes (modesByRate ownRates)
    allowedDriftTypes := givenOr schemaDriftTypes allSchemaDriftTypes
    history := []
    statistics := { configuredRates := ownRates } }

/-- `rates.get(mode, 0.0)` -/
def rate (engine : FaultInjectionEngine K) (mode : Text) : ℚ := (engine.rates.lookup mode).getD 0

/-- A strategy draws from the engine's numbers. -/
def withRandom {α : Type} (x : Fallible (Python.Random K) α) : Fallible (FaultInjectionEngine K) α :=
  fun engine => ((x engine.rnd).1, { engine with rnd := (x engine.rnd).2 })

/-- `record_clean_event` -/
def recordCleanEvent (event : Dict) : Fallible (FaultInjectionEngine K) Unit :=
  update fun engine => { engine with history := recordEvent maxHistory engine.history event }

section

variable [LinearOrder K] [RatCast K]

/-- The modes whose draw is below their rate. -/
def triggeredModes (rate : Text → ℚ) : List Text → Fallible (Python.Random K) (List Text)
  | [] => pure []
  | mode :: modes =>
    if 0 < rate mode then do
      let draw ← Python.Random.random
      let later ← triggeredModes rate modes
      pure (if draw < ((rate mode / 100 : ℚ) : K) then mode :: later else later)
    else triggeredModes rate modes

/-- `select_fault_mode` -/
def selectFaultMode : Fallible (FaultInjectionEngine K) (Option Text) := do
  let engine ← read id
  match ← withRandom (triggeredModes engine.rate engine.activeModes) with
  | [] => pure none
  | [mode] => pure (some mode)
  | triggered => do
    let mode ← withRandom (Python.Random.choice triggered)
    pure (some mode)

end

/-- `strategy.mutate` -/
def mutate (env : Environment) (now : Instant) (mode : FaultMode) (event : Dict) :
    Fallible (FaultInjectionEngine K) Dict := do
  let engine ← read id
  withRandom (match mode with
    | .null => nullMutate event
    | .duplicate => duplicateMutate engine.history event
    | .negative => negativeMutate event
    | .invalidEnum => invalidEnumMutate event
    | .schemaDrift => schemaDriftMutate engine.allowedDriftTypes event
    | .typeChange => typeChangeMutate env.unicode env.isdigit event
    | .timestampDrift => timestampDriftMutate now event)

/-- `statistics.record_event` -/
def recordStatistics (mode : Option Text) : Fallible (FaultInjectionEngine K) Unit :=
  update fun engine => { engine with statistics := engine.statistics.recordEvent mode }

/-- A call of `process_event`, and the time at which it is made. -/
structure Call where
  event : Dict
  targetFaultMode : Option Text := none
  now : Instant

/-- The event, whether it is faulty, and the mode. -/
abbrev Processed := Dict × Bool × Option Text

section

variable [LinearOrder K] [RatCast K] (env : Environment)

/-- The mode of a call. -/
def selectedMode (call : Call) : Fallible (FaultInjectionEngine K) (Option Text) :=
  match call.targetFaultMode with
  | some mode => pure (some mode)
  | none => selectFaultMode

/-- What is returned for the mode of a call. -/
def applyMode (call : Call) : Option Text → Fallible (FaultInjectionEngine K) Processed
  | none => do
    recordStatistics none
    pure (call.event, false, none)
  | some selected => match FaultMode.ofValue? selected with
    | none => raise (valueError (text "Unsupported fault mode: '" ++ selected ++ text "'"))
    | some mode => do
      let mutatedEvent ← mutate env call.now mode call.event
      recordStatistics (some selected)
      pure (mutatedEvent, true, some selected)

/-- `process_event` -/
def processEvent (call : Call) : Fallible (FaultInjectionEngine K) Processed := do
  recordCleanEvent call.event
  let selected ← selectedMode call
  applyMode env call selected

end

/-! ## What is selected -/

section

variable {K : Type} [LinearOrder K] [RatCast K]

/-- The probabilities of the modes that draw. -/
def bounds (rate : Text → ℚ) (modes : List Text) : List K :=
  (modes.filter fun mode => 0 < rate mode).map fun mode => ((rate mode / 100 : ℚ) : K)

/-- A mode is triggered where a draw is below its bound. -/
theorem triggeredModes_run (rate : Text → ℚ) (modes : List Text) (r : Python.Random K) :
    ∃ triggered r', triggeredModes rate modes r = (.ok triggered, r') ∧
      (triggered ≠ [] ↔ SomeBelow (bounds rate modes) r.draws) := by
  induction modes generalizing r with
  | nil => exact ⟨[], r, rfl, iff_of_false (not_not_intro rfl) id⟩
  | cons mode modes ih =>
    unfold triggeredModes
    by_cases hrate : 0 < rate mode
    · obtain ⟨later, r', hlater, hiff⟩ := ih { r with draws := fun i => r.draws (i + 1) }
      have hdraw : Python.Random.random r = (.ok (r.draws 0), { r with draws := fun i => r.draws (i + 1) }) :=
        rfl
      have hbounds : (bounds rate (mode :: modes) : List K) =
          ((rate mode / 100 : ℚ) : K) :: bounds rate modes := by
        rw [bounds, List.filter_cons_of_pos (by simpa using hrate), List.map_cons]
        rfl
      rw [if_pos hrate, bind_ok hdraw, bind_ok hlater, hbounds]
      refine ⟨_, r', rfl, ?_⟩
      by_cases hbelow : r.draws 0 < ((rate mode / 100 : ℚ) : K)
      · rw [if_pos hbelow]
        exact iff_of_true (List.cons_ne_nil _ _) (.inl hbelow)
      · rw [if_neg hbelow, hiff]
        exact (or_iff_right hbelow).symm
    · have hbounds : (bounds rate (mode :: modes) : List K) = bounds rate modes := by
        rw [bounds, List.filter_cons_of_neg (by simpa using hrate)]
        rfl
      rw [if_neg hrate, hbounds]
      exact ih r

/-- Some mode is selected where one is triggered. -/
theorem selectFaultMode_run (engine : FaultInjectionEngine K) :
    ∃ selected rnd', selectFaultMode engine = (.ok selected, { engine with rnd := rnd' }) ∧
      (selected.isSome = true ↔
        SomeBelow (bounds engine.rate engine.activeModes) engine.rnd.draws) := by
  obtain ⟨triggered, r', hrun, hiff⟩ :=
    triggeredModes_run engine.rate engine.activeModes engine.rnd
  have hstep : withRandom (triggeredModes engine.rate engine.activeModes) engine =
      (.ok triggered, { engine with rnd := r' }) := by
    rw [withRandom, hrun]
  rw [selectFaultMode, read_bind, id, bind_ok hstep, ← hiff]
  match triggered with
  | [] => exact ⟨none, _, rfl, iff_of_false Bool.false_ne_true (not_not_intro rfl)⟩
  | [mode] => exact ⟨some mode, _, rfl, iff_of_true rfl (List.cons_ne_nil _ _)⟩
  | first :: second :: rest =>
    obtain ⟨mode, -, hpick⟩ := Python.Random.exists_pick r' (List.cons_ne_nil first (second :: rest))
    have hchoice : withRandom (Python.Random.choice (first :: second :: rest)) { engine with rnd := r' } =
        (.ok mode, { engine with rnd := { r' with picks := fun i => r'.picks (i + 1) } }) := by
      rw [withRandom]
      dsimp only
      rw [Python.Random.choice_of_pick hpick]
    refine ⟨some mode, _, bind_ok hchoice, iff_of_true rfl (List.cons_ne_nil _ _)⟩

end

end FaultInjectionEngine
end IceStream.Generator
