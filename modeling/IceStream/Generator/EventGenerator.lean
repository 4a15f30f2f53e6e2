import IceStream.Generator.InjectedRate
import IceStream.Generator.RealDuplicates
import IceStream.Generator.ErrorInjector
import IceStream.Generator.Producer

/-!
# The event generator

Each event is drawn, perhaps changed by the fault injection engine, and sent. The statistics of the
engine and the counters of the producer are kept apart from each other; over a whole run they agree.
-/

namespace IceStream.Generator
open Python Fallible Stepping
open FaultInjectionEngine (Processed)

/-! ## Statistics that add up -/

theorem sum_incremented (mode : Text) (counts : List (Text × ℕ)) :
    ((incremented mode counts).map Prod.snd).sum = (counts.map Prod.snd).sum + 1 := by
  induction counts with
  | nil => rfl
  | cons c counts ih =>
    obtain ⟨m, n⟩ := c
    rw [incremented]
    by_cases hmode : m = mode
    · rw [if_pos hmode]
      simp only [List.map_cons, List.sum_cons]
      omega
    · rw [if_neg hmode]
      simp only [List.map_cons, List.sum_cons, ih]
      omega

/-- Only the mode that is recorded can get its first count. -/
theorem mem_incremented {mode : Text} {counts : List (Text × ℕ)} {c : Text × ℕ}
    (h : c ∈ incremented mode counts) : c.1 = mode ∨ c ∈ counts := by
  induction counts with
  | nil =>
    obtain rfl := List.mem_singleton.mp h
    exact .inl rfl
  | cons d counts ih =>
    obtain ⟨m, n⟩ := d
    rw [incremented] at h
    by_cases hmode : m = mode
    · rw [if_pos hmode] at h
      obtain rfl | hlater := List.mem_cons.mp h
      · exact .inl hmode
      · exact .inr (List.mem_cons_of_mem _ hlater)
    · rw [if_neg hmode] at h
      obtain rfl | hlater := List.mem_cons.mp h
      · exact .inr List.mem_cons_self
      · exact (ih hlater).imp_right (List.mem_cons_of_mem _)

/-- Every event is clean or faulty, each faulty one has its mode, and the modes are among those
that may be selected. -/
structure FaultStatistics.Sound (allowed : Text → Prop) (stats : FaultStatistics) : Prop where
  total : stats.totalEvents = stats.cleanEvents + stats.faultyEvents
  counts : (stats.faultCounts.map Prod.snd).sum = stats.faultyEvents
  modes : ∀ c ∈ stats.faultCounts, 0 < c.2 → allowed c.1

theorem FaultStatistics.Sound.recordEvent {allowed : Text → Prop} {stats : FaultStatistics}
    (h : stats.Sound allowed) {mode : Option Text} (hmode : ∀ m ∈ mode, allowed m) :
    (stats.recordEvent mode).Sound allowed := by
  cases mode with
  | none =>
    exact {
      total := by
        simp only [FaultStatistics.recordEvent, h.total]
        omega
      counts := h.counts
      modes := h.modes }
  | some m =>
    exact {
      total := by
        simp only [FaultStatistics.recordEvent, h.total]
        omega
      counts := (sum_incremented m _).trans (congrArg (· + 1) h.counts)
      modes := by
        intro c hc hpos
        obtain hself | hold := mem_incremented hc
        · rw [hself]
          exact hmode m rfl
        · exact h.modes c hold hpos }

/-! ## What `process_event` records -/

namespace FaultInjectionEngine

variable {K : Type} [LinearOrder K] [RatCast K]

theorem mem_triggeredModes (rate : Text → ℚ) (modes : List Text) :
    Returns (fun triggered => ∀ mode ∈ triggered, mode ∈ modes ∧ 0 < rate mode)
      (triggeredModes rate modes : Fallible (Python.Random K) (List Text)) := by
  induction modes with
  | nil => exact returns_pure fun mode hmode => absurd hmode List.not_mem_nil
  | cons mode modes ih =>
    have hlater : ∀ later : List Text, (∀ m ∈ later, m ∈ modes ∧ 0 < rate m) →
        ∀ m ∈ later, m ∈ mode :: modes ∧ 0 < rate m :=
      fun later h m hm => ⟨List.mem_cons_of_mem _ (h m hm).1, (h m hm).2⟩
    unfold triggeredModes
    by_cases hrate : 0 < rate mode
    · rw [if_pos hrate]
      refine returns_bind fun draw => ih.bind fun later h => returns_pure ?_
      split_ifs
      · rw [List.forall_mem_cons]
        exact ⟨⟨List.mem_cons_self, hrate⟩, hlater later h⟩
      · exact hlater later h
    · rw [if_neg hrate]
      intro r triggered r' hrun
      exact hlater triggered (ih r triggered r' hrun)

/-- A mode that is selected is active, and its rate is positive. -/
theorem selectFaultMode_mem {engine engine' : FaultInjectionEngine K} {mode : Text}
    (h : selectFaultMode engine = (.ok (some mode), engine')) :
    mode ∈ engine.activeModes ∧ 0 < engine.rate mode := by
  rcases htriggered : triggeredModes engine.rate engine.activeModes engine.rnd with ⟨e | triggered, r⟩
  · have hstep : withRandom (triggeredModes engine.rate engine.activeModes) engine =
        (.error e, { engine with rnd := r }) := by
      rw [withRandom, htriggered]
    rw [selectFaultMode, read_bind, id, bind_error hstep] at h
    cases h
  · have hmem := mem_triggeredModes engine.rate engine.activeModes _ _ _ htriggered
    have hstep : withRandom (triggeredModes engine.rate engine.activeModes) engine =
        (.ok triggered, { engine with rnd := r }) := by
      rw [withRandom, htriggered]
    rw [selectFaultMode, read_bind, id, bind_ok hstep] at h
    rcases triggered with _ | ⟨first, _ | ⟨second, rest⟩⟩
    · cases h
    · cases h
      exact hmem mode List.mem_cons_self
    · rcases hchoice : Python.Random.choice (first :: second :: rest) r with ⟨e | m, r'⟩
      · have hdraw : withRandom (Python.Random.choice (first :: second :: rest))
            { engine with rnd := r } = (.error e, { engine with rnd := r' }) := by
          rw [withRandom, hchoice]
        have hraised := (bind_error hdraw).symm.trans h
        cases hraised
      · have hdraw : withRandom (Python.Random.choice (first :: second :: rest))
            { engine with rnd := r } = (.ok m, { engine with rnd := r' }) := by
          rw [withRandom, hchoice]
        have hreturned := (bind_ok hdraw).symm.trans h
        cases hreturned
        exact hmem mode (Python.Random.mem_of_choice hchoice)

/-- The engines that differ in what calls may change. -/
structure SameSettings (engine engine' : FaultInjectionEngine K) : Prop where
  rates : engine'.rates = engine.rates
  activeModes : engine'.activeModes = engine.activeModes

/-- What a call of `process_event` leaves behind: an event that is returned is recorded with its
mode, and nothing is recorded otherwise. -/
def Recorded (engine : FaultInjectionEngine K) : Except Exc Processed → FaultStatistics → Prop
  | .error _, stats => stats = engine.statistics
  | .ok (_, isFaulty, mode), stats => stats = engine.statistics.recordEvent mode ∧
      isFaulty = mode.isSome ∧ ∀ m ∈ mode, m ∈ engine.activeModes ∧ 0 < engine.rate m

theorem processEvent_records (env : Environment) {call : Call} (hcall : call.targetFaultMode = none)
    (engine : FaultInjectionEngine K) :
    SameSettings engine (processEvent env call engine).2 ∧
      Recorded engine (processEvent env call engine).1 (processEvent env call engine).2.statistics := by
  obtain ⟨selected, rnd', hselected⟩ := selectedMode_run call (recorded engine call)
  rw [processEvent_eq hselected]
  cases selected with
  | none => exact ⟨⟨rfl, rfl⟩, rfl, rfl, fun m hm => absurd hm (Option.not_mem_none m)⟩
  | some name =>
    have hname : name ∈ engine.activeModes ∧ 0 < engine.rate name := by
      rw [selectedMode, hcall] at hselected
      have hdrawn : selectFaultMode (recorded engine call) = _ := hselected
      have hmem := selectFaultMode_mem hdrawn
      exact hmem
    rw [applyMode]
    cases FaultMode.ofValue? name with
    | none => exact ⟨⟨rfl, rfl⟩, rfl⟩
    | some mode =>
      dsimp only
      rcases hmutate : mutate env call.now mode call.event
        { recorded engine call with rnd := rnd' } with ⟨e | d, engine'⟩
      · have hsame := congrArg Prod.snd hmutate
        rw [bind_error hmutate]
        obtain rfl := hsame
        exact ⟨⟨rfl, rfl⟩, rfl⟩
      · have hsame := congrArg Prod.snd hmutate
        rw [bind_ok hmutate]
        obtain rfl := hsame
        refine ⟨⟨rfl, rfl⟩, rfl, rfl, fun m hm => ?_⟩
        obtain rfl := Option.mem_some.mp hm
        exact hname

end FaultInjectionEngine

/-! ## The engine -/

namespace GeneratorConfig

/-- `error_probability` -/
def errorProbability (c : GeneratorConfig) : ℚ := c.errorRate / 100

/-- Whether the events pass through the fault injection engine. -/
def injects (c : GeneratorConfig) : Bool :=
  c.getFaultModeRates.any (fun r => 0 < r.2) || c.faultModes.getD [] ≠ []

/-- An error rate is the rate of some mode. -/
theorem errorProbability_of_not_injects {c : GeneratorConfig} (hvalid : c.Valid)
    (h : c.injects = false) : c.errorProbability = 0 := by
  obtain ⟨hrates, hmodes⟩ := Bool.or_eq_false_iff.mp h
  have hnone : c.faultModes.getD [] = [] := not_not.mp (of_decide_eq_false hmodes)
  obtain hpos | hzero := hvalid.errorRate.1.lt_or_eq
  · have hindividual : ¬c.hasIndividual = true := fun h => hpos.ne' (hvalid.oneKind h)
    have hactive : c.activeModes = allFaultModes := by rw [activeModes, givenOr, if_pos hnone]
    have hfirst : FaultMode.null.value ∈ allFaultModes := List.mem_cons_self
    have hmem : (FaultMode.null.value, c.errorRate / allFaultModes.length) ∈ c.getFaultModeRates := by
      rw [getFaultModeRates, if_neg hindividual, if_pos hpos, hactive]
      exact List.mem_map.mpr ⟨_, hfirst, by rw [if_pos hfirst]⟩
    have hshare : (0 : ℚ) < c.errorRate / allFaultModes.length :=
      div_pos hpos (by exact_mod_cast List.length_pos_of_mem hfirst)
    have hnot := List.any_eq_false.mp hrates _ hmem
    exact absurd (decide_eq_true hshare) hnot
  · rw [errorProbability, ← hzero, zero_div]

end GeneratorConfig

/-- A part of the state that a computation is about. -/
def within {σ τ α : Type} (part : σ → τ) (put : σ → τ → σ) (x : Fallible τ α) : Fallible σ α :=
  fun s => ((x (part s)).1, put s (x (part s)).2)

/-- The engine without its settings; each part draws from random numbers of its own. -/
structure EventGeneratorEngine (K : Type) where
  dataGen : Python.Random K
  faultEngine : FaultInjectionEngine K
  errorInjector : ErrorInjector K
  rnd : Python.Random K
  producer : Option ProducerState

/-- What the engine reads when it makes an event and sends it. -/
structure GeneratorReading where
  now : Instant
  later : Instant
  sent : ProducerState.SendReadings

namespace EventGeneratorEngine

variable {K : Type}

/-- `__init__`; what the seed determines are parameters. -/
def init (u : Unicode) (config : GeneratorConfig) (producer : Option ProducerState)
    (dataRnd faultRnd injectorRnd rnd : Python.Random K) : Except Exc (EventGeneratorEngine K) := do
  let engine ← Generator.faultEngine u config faultRnd
  pure {
    dataGen := dataRnd
    faultEngine := engine
    errorInjector := ErrorInjector.init config.errorTypes injectorRnd
    rnd := rnd
    producer := producer }

variable [LinearOrder K] [RatCast K]
variable (env : Environment) (config : GeneratorConfig) (topic : Text) (customers : List Text)

/-- With `process_event`. -/
def injectFaults (now : Instant) (event : Dict) : Fallible (EventGeneratorEngine K) Processed :=
  within faultEngine (fun s e => { s with faultEngine := e })
    (FaultInjectionEngine.processEvent env ⟨event, none, now⟩)

/-- With the error injector of old. -/
def injectErrors (now : Instant) (event : Dict) : Fallible (EventGeneratorEngine K) Processed := do
  let draw ← within EventGeneratorEngine.rnd (fun s r => { s with rnd := r }) Python.Random.random
  if draw < ((config.errorProbability : ℚ) : K) then do
    let (corruptedEvent, errorType) ← within errorInjector (fun s e => { s with errorInjector := e })
      (ErrorInjector.injectError env.unicode now event none)
    pure (corruptedEvent, true, some errorType)
  else
    match event.get? "event_id" with
    | none => raise (keyError "event_id")
    | some id => do
      within errorInjector (fun s e => { s with errorInjector := e })
        (ErrorInjector.recordValidEventId id)
      pure (event, false, none)

/-- `generate_single_event` -/
def generateSingleEvent (r : GeneratorReading) : Fallible (EventGeneratorEngine K) Processed := do
  let validEvent ← within dataGen (fun s r => { s with dataGen := r })
    (generateValidEvent customers r.now)
  if config.injects then injectFaults env r.later validEvent
  else if 0 < config.errorProbability then injectErrors env config r.later validEvent
  else do
    within faultEngine (fun s e => { s with faultEngine := e })
      (FaultInjectionEngine.recordCleanEvent validEvent)
    pure (validEvent, false, none)

/-- The event is sent where there is a producer. -/
def send (p : Processed) (r : ProducerState.SendReadings) : Fallible (EventGeneratorEngine K) Unit :=
  fun s => match s.producer with
    | none => (.ok (), s)
    | some producer =>
      let sent := ProducerState.sendEvent env.unicode topic p.1 p.2.1 r producer
      (sent.1, { s with producer := some sent.2 })

/-- `produce_next_event` -/
def produceNextEvent (r : GeneratorReading) : Fallible (EventGeneratorEngine K) Processed := do
  let p ← generateSingleEvent env config customers r
  send env topic p r.sent
  pure p

/-- The engine after a run of calls, whatever they returned or raised. -/
def after (s : EventGeneratorEngine K) (rs : List GeneratorReading) : EventGeneratorEngine K :=
  rs.foldl (fun s r => (produceNextEvent env config topic customers r s).2) s

/-! ## One call -/

/-- What making an event changes: the error injector is left alone, and an event that passes
through the fault injection engine is recorded there. -/
structure Generated (config : GeneratorConfig) (s s' : EventGeneratorEngine K)
    (made : Except Exc Processed) : Prop where
  errorInjector : s'.errorInjector = s.errorInjector
  rnd : s'.rnd = s.rnd
  producer : s'.producer = s.producer
  settings : FaultInjectionEngine.SameSettings s.faultEngine s'.faultEngine
  injected : config.injects = true →
    FaultInjectionEngine.Recorded s.faultEngine made s'.faultEngine.statistics
  clean : config.injects = false → s'.faultEngine.statistics = s.faultEngine.statistics ∧
    ∀ p, made = .ok p → p.2 = (false, none)

variable {env config topic customers}

theorem generateSingleEvent_generated (hvalid : config.Valid) (r : GeneratorReading)
    (s : EventGeneratorEngine K) :
    Generated config s (generateSingleEvent env config customers r s).2
      (generateSingleEvent env config customers r s).1 := by
  rw [generateSingleEvent]
  rcases hdraw : generateValidEvent customers r.now s.dataGen with ⟨e | validEvent, rnd'⟩
  · have hstep : within dataGen (fun s r => { s with dataGen := r })
        (generateValidEvent customers r.now) s = (.error e, { s with dataGen := rnd' }) := by
      rw [within, hdraw]
    rw [bind_error hstep]
    exact {
      errorInjector := rfl
      rnd := rfl
      producer := rfl
      settings := ⟨rfl, rfl⟩
      injected := fun _ => rfl
      clean := fun _ => ⟨rfl, fun p hp => by cases hp⟩ }
  · have hstep : within dataGen (fun s r => { s with dataGen := r })
        (generateValidEvent customers r.now) s = (.ok validEvent, { s with dataGen := rnd' }) := by
      rw [within, hdraw]
    rw [bind_ok hstep]
    cases hinjects : config.injects with
    | true =>
      rw [if_pos rfl]
      let call : FaultInjectionEngine.Call := ⟨validEvent, none, r.later⟩
      have hcall : call.targetFaultMode = none := rfl
      obtain ⟨hsettings, hrecorded⟩ :=
        FaultInjectionEngine.processEvent_records env hcall s.faultEngine
      exact {
        errorInjector := rfl
        rnd := rfl
        producer := rfl
        settings := hsettings
        injected := fun _ => hrecorded
        clean := fun h => by
          rw [hinjects] at h
          cases h }
    | false =>
      have hzero := GeneratorConfig.errorProbability_of_not_injects hvalid hinjects
      rw [if_neg Bool.false_ne_true, hzero, if_neg (lt_irrefl 0)]
      exact {
        errorInjector := rfl
        rnd := rfl
        producer := rfl
        settings := ⟨rfl, rfl⟩
        injected := fun h => by
          rw [hinjects] at h
          cases h
        clean := fun _ => ⟨rfl, fun p hp => by
          obtain rfl := Except.ok.inj hp
          rfl⟩ }

/-! ## A run -/

/-- What the counters of the producer have to do with the statistics. -/
def Matches (config : GeneratorConfig) (stats : FaultStatistics) (p : EventProducer) : Prop :=
  if config.injects then p.generatedCount = stats.totalEvents ∧
    p.injectedErrorCount = stats.faultyEvents ∧ p.validCount = stats.cleanEvents
  else stats.totalEvents = 0 ∧ p.injectedErrorCount = 0 ∧ p.validCount = p.generatedCount

/-- The producer got there by the calls of one thread. -/
def SentAlone (p : ProducerState) (w : Sending) : Prop :=
  (∃ as, exec Sending.step {} as = some w) ∧ w.state = p ∧ w.calls = []

/-- What holds between the calls of a run. -/
structure Agrees (config : GeneratorConfig) (s₀ s : EventGeneratorEngine K) : Prop where
  errorInjector : s.errorInjector = s₀.errorInjector
  rnd : s.rnd = s₀.rnd
  settings : FaultInjectionEngine.SameSettings s₀.faultEngine s.faultEngine
  statistics : s.faultEngine.statistics.Sound fun mode =>
    mode ∈ s₀.faultEngine.activeModes ∧ 0 < s₀.faultEngine.rate mode
  producer : ∀ p ∈ s.producer, (∃ w, SentAlone p w) ∧
    Matches config s.faultEngine.statistics p.counters

/-- What `send_event` counts, whatever becomes of the event. -/
theorem SentAlone.sendEvent {p : ProducerState} {w : Sending} (h : SentAlone p w) (u : Unicode)
    (topic : Text) (event : Dict) (isCorrupted : Bool) (r : ProducerState.SendReadings) :
    let p' := (ProducerState.sendEvent u topic event isCorrupted r p).2
    (∃ w', SentAlone p' w') ∧ p'.counters.generatedCount = p.counters.generatedCount + 1 ∧
      p'.counters.injectedErrorCount =
        p.counters.injectedErrorCount + (if isCorrupted then 1 else 0) ∧
      p'.counters.validCount = p.counters.validCount + if isCorrupted then 0 else 1 := by
  obtain ⟨⟨as, has⟩, rfl, hcalls⟩ := h
  obtain ⟨reported, bs, hbs, hcalled⟩ := w.sendEvent_runs u topic event isCorrupted r
  let w' := w.afterCall (message u topic event r.sendTime)
    (ProducerState.sendEvent u topic event isCorrupted r w.state) reported
  have hrun : exec Sending.step {} (as ++ bs) = some w' := by
    rw [exec_append, has, Option.bind_some]
    exact hbs
  have hbefore := Sending.counted_of_exec has
  have hafter := Sending.counted_of_exec hrun
  have happend : Sending.called (as ++ bs) = Sending.called as ++ Sending.called bs :=
    List.flatMap_append ..
  rw [happend, hcalled] at hafter
  refine ⟨⟨w', ⟨as ++ bs, hrun⟩, rfl, hcalls⟩, hafter.generated.trans ?_,
    hafter.injected.trans ?_, hafter.valid.trans ?_⟩
  · rw [hbefore.generated, List.length_append, List.length_singleton]
  · rw [hbefore.injected, Sending.marked_append]
    cases isCorrupted <;> rfl
  · rw [hbefore.valid, Sending.marked_append]
    cases isCorrupted <;> rfl

/-- The statistics after an event that was made, told by the flag that is sent with it. -/
structure Flagged (config : GeneratorConfig) (stats stats' : FaultStatistics) (isFaulty : Bool) :
    Prop where
  injected : config.injects = true →
    stats'.totalEvents = stats.totalEvents + 1 ∧
      stats'.faultyEvents = stats.faultyEvents + (if isFaulty then 1 else 0) ∧
      stats'.cleanEvents = stats.cleanEvents + if isFaulty then 0 else 1
  clean : config.injects = false → stats' = stats ∧ isFaulty = false

omit [LinearOrder K] [RatCast K] in
theorem Generated.flagged {s s' : EventGeneratorEngine K} {p : Processed}
    (h : Generated config s s' (.ok p)) :
    Flagged config s.faultEngine.statistics s'.faultEngine.statistics p.2.1 where
  injected := by
    intro hinjects
    obtain ⟨hstats, hflag, -⟩ := h.injected hinjects
    rw [hstats, hflag]
    cases p.2.2 with
    | none => exact ⟨rfl, rfl, rfl⟩
    | some mode => exact ⟨rfl, rfl, rfl⟩
  clean := by
    intro hinjects
    obtain ⟨hstats, hflag⟩ := h.clean hinjects
    exact ⟨hstats, congrArg Prod.fst (hflag p rfl)⟩

omit [LinearOrder K] [RatCast K] in
theorem Generated.sound {s s' : EventGeneratorEngine K} {made : Except Exc Processed}
    (h : Generated config s s' made) {allowed : Text → Prop}
    (hallowed : ∀ mode, mode ∈ s.faultEngine.activeModes ∧ 0 < s.faultEngine.rate mode → allowed mode)
    (hsound : s.faultEngine.statistics.Sound allowed) : s'.faultEngine.statistics.Sound allowed := by
  cases hinjects : config.injects with
  | false =>
    rw [(h.clean hinjects).1]
    exact hsound
  | true =>
    have hrecorded := h.injected hinjects
    cases made with
    | error e =>
      have hstats : s'.faultEngine.statistics = s.faultEngine.statistics := hrecorded
      rw [hstats]
      exact hsound
    | ok p =>
      obtain ⟨hstats, -, hmode⟩ := hrecorded
      rw [hstats]
      exact hsound.recordEvent fun m hm => hallowed m (hmode m hm)

omit [LinearOrder K] [RatCast K] in
theorem Generated.statistics_of_error {s s' : EventGeneratorEngine K} {e : Exc}
    (h : Generated config s s' (.error e)) :
    s'.faultEngine.statistics = s.faultEngine.statistics := by
  cases hinjects : config.injects with
  | false => exact (h.clean hinjects).1
  | true => exact h.injected hinjects

/-- Sending an event counts what the engine recorded. -/
theorem Matches.sent {stats stats' : FaultStatistics} {isFaulty : Bool} {p p' : EventProducer}
    (h : Matches config stats p) (hflagged : Flagged config stats stats' isFaulty)
    (hgenerated : p'.generatedCount = p.generatedCount + 1)
    (hinjected : p'.injectedErrorCount = p.injectedErrorCount + if isFaulty then 1 else 0)
    (hvalid : p'.validCount = p.validCount + if isFaulty then 0 else 1) :
    Matches config stats' p' := by
  cases hinjects : config.injects with
  | true =>
    rw [Matches, if_pos hinjects] at h ⊢
    obtain ⟨htotal, hfaulty, hclean⟩ := hflagged.injected hinjects
    exact ⟨by rw [hgenerated, h.1, htotal], by rw [hinjected, h.2.1, hfaulty],
      by rw [hvalid, h.2.2, hclean]⟩
  | false =>
    have hnot : ¬config.injects = true := by
      rw [hinjects]
      exact Bool.false_ne_true
    rw [Matches, if_neg hnot] at h ⊢
    obtain ⟨rfl, rfl⟩ := hflagged.clean hinjects
    exact ⟨h.1, hinjected.trans h.2.1, by rw [hvalid, hgenerated, h.2.2]; rfl⟩

omit [LinearOrder K] [RatCast K] in
theorem Agrees.made {s₀ s s' : EventGeneratorEngine K} {made : Except Exc Processed}
    (h : Agrees config s₀ s) (hgenerated : Generated config s s' made)
    {producer : Option ProducerState} (hproducer : ∀ p ∈ producer, (∃ w, SentAlone p w) ∧
      Matches config s'.faultEngine.statistics p.counters) :
    Agrees config s₀ { s' with producer := producer } where
  errorInjector := hgenerated.errorInjector.trans h.errorInjector
  rnd := hgenerated.rnd.trans h.rnd
  settings := ⟨hgenerated.settings.rates.trans h.settings.rates,
    hgenerated.settings.activeModes.trans h.settings.activeModes⟩
  statistics := by
    refine hgenerated.sound ?_ h.statistics
    intro mode hmode
    rwa [FaultInjectionEngine.rate, h.settings.rates, h.settings.activeModes] at hmode
  producer := hproducer

omit [LinearOrder K] [RatCast K] in
theorem agrees_of_error {s₀ s s' : EventGeneratorEngine K} {e : Exc} (h : Agrees config s₀ s)
    (hgenerated : Generated config s s' (.error e)) : Agrees config s₀ s' := by
  refine h.made hgenerated ?_
  rw [hgenerated.producer, hgenerated.statistics_of_error]
  exact h.producer

omit [LinearOrder K] [RatCast K] in
/-- The two counts are made one after the other, whatever is raised in between. -/
theorem agrees_of_sent {s₀ s s' : EventGeneratorEngine K} {p : Processed} (h : Agrees config s₀ s)
    (hgenerated : Generated config s s' (.ok p)) (r : ProducerState.SendReadings) :
    Agrees config s₀ (send env topic p r s').2 := by
  have hproducer := hgenerated.producer
  rw [send]
  cases hs : s.producer with
  | none =>
    rw [hs] at hproducer
    rw [hproducer]
    refine h.made hgenerated fun q hq => ?_
    rw [hproducer] at hq
    exact absurd hq (Option.not_mem_none q)
  | some q =>
    rw [hs] at hproducer
    rw [hproducer]
    obtain ⟨⟨w, halone⟩, hmatches⟩ := h.producer q hs
    obtain ⟨halone', hcount, hinjected, hvalid⟩ :=
      halone.sendEvent env.unicode topic p.1 p.2.1 r
    refine h.made hgenerated fun q' hq' => ?_
    obtain rfl := Option.mem_some.mp hq'
    exact ⟨halone', hmatches.sent hgenerated.flagged hcount hinjected hvalid⟩

theorem produceNextEvent_agrees (hvalid : config.Valid) {s₀ s : EventGeneratorEngine K}
    (h : Agrees config s₀ s) (r : GeneratorReading) :
    Agrees config s₀ (produceNextEvent env config topic customers r s).2 := by
  have hgenerated := @generateSingleEvent_generated K _ _ env config customers hvalid r s
  rw [produceNextEvent]
  rcases hmade : generateSingleEvent env config customers r s with ⟨e | p, s'⟩
  · rw [hmade] at hgenerated
    rw [bind_error hmade]
    exact agrees_of_error h hgenerated
  · rw [hmade] at hgenerated
    rw [bind_ok hmade]
    exact after_bind (agrees_of_sent h hgenerated r.sent) fun _ => preserves_pure p

theorem after_agrees (hvalid : config.Valid) {s₀ s : EventGeneratorEngine K}
    (h : Agrees config s₀ s) (rs : List GeneratorReading) :
    Agrees config s₀ (after env config topic customers s rs) := by
  induction rs generalizing s with
  | nil => exact h
  | cons r rs ih => exact ih (produceNextEvent_agrees hvalid h r)

/-! ## From the start -/

/-- The modes that a configuration lets the engine select. -/
def Selectable (config : GeneratorConfig) (mode : Text) : Prop :=
  0 < config.modeRate mode ∧ (config.faultModes.getD [] ≠ [] → mode ∈ config.faultModes.getD [])

theorem lookup_map_eq_none {β : Type} (f : Text → β) {names : List Text} {name : Text}
    (h : name ∉ names) : (names.map fun n => (n, f n)).lookup name = none := by
  rw [List.lookup_eq_none_iff]
  intro c hc
  obtain ⟨n, hn, rfl⟩ := List.mem_map.mp hc
  rw [bne_iff_ne]
  intro hname
  rw [hname] at h
  exact h hn

variable {producer : Option ProducerState} {dataRnd faultRnd injectorRnd rnd : Python.Random K}
variable {s₀ : EventGeneratorEngine K}

omit [LinearOrder K] [RatCast K] in
theorem selectable_of_init {u : Unicode}
    (hinit : init u config producer dataRnd faultRnd injectorRnd rnd = .ok s₀) {mode : Text}
    (hmode : mode ∈ s₀.faultEngine.activeModes ∧ 0 < s₀.faultEngine.rate mode) :
    Selectable config mode := by
  obtain ⟨engine, hengine, hrest⟩ := bind_eq_ok hinit
  obtain rfl := Except.ok.inj hrest
  obtain ⟨_, -, hbuilt⟩ := bind_eq_ok hengine
  obtain rfl := Except.ok.inj hbuilt
  obtain ⟨hactive, hrate⟩ := hmode
  dsimp only at hactive hrate
  rw [FaultInjectionEngine.rate] at hrate
  dsimp only at hrate
  constructor
  · by_cases hknown : mode ∈ allFaultModes
    · rw [lookup_map _ hknown] at hrate
      exact hrate
    · rw [lookup_map_eq_none _ hknown] at hrate
      exact absurd hrate (lt_irrefl 0)
  · intro hgiven
    rwa [givenOr, if_neg hgiven] at hactive

omit [LinearOrder K] [RatCast K] in
theorem agrees_start {u : Unicode}
    (hinit : init u config producer dataRnd faultRnd injectorRnd rnd = .ok s₀)
    (hproducer : ∀ p ∈ producer, p = {}) : Agrees config s₀ s₀ := by
  obtain ⟨engine, hengine, hrest⟩ := bind_eq_ok hinit
  obtain rfl := Except.ok.inj hrest
  obtain ⟨_, -, hbuilt⟩ := bind_eq_ok hengine
  obtain rfl := Except.ok.inj hbuilt
  exact {
    errorInjector := rfl
    rnd := rfl
    settings := ⟨rfl, rfl⟩
    statistics := {
      total := rfl
      counts := rfl
      modes := by
        intro c hc hpos
        obtain ⟨mode, -, rfl⟩ := List.mem_map.mp hc
        exact absurd hpos (lt_irrefl 0) }
    producer := by
      intro p hp
      obtain rfl := hproducer p hp
      refine ⟨⟨{}, ⟨[], rfl⟩, rfl, rfl⟩, ?_⟩
      rw [Matches]
      split_ifs
      · exact ⟨rfl, rfl, rfl⟩
      · exact ⟨rfl, rfl, rfl⟩ }

/-- The error injector of old is not turned to; of all modes only those that may be selected are
counted, and the counts add up; and the counters of the producer agree with the statistics, each
event being waited for, reported or given up on. -/
structure Balanced (config : GeneratorConfig) (s₀ s : EventGeneratorEngine K) : Prop where
  errorInjector : s.errorInjector = s₀.errorInjector
  rnd : s.rnd = s₀.rnd
  statistics : s.faultEngine.statistics.Sound (Selectable config)
  matched : ∀ p ∈ s.producer, Matches config s.faultEngine.statistics p.counters
  delivered : ∀ p ∈ s.producer, ∃ w : Sending, w.state = p ∧ w.calls = [] ∧
    p.counters.generatedCount = w.raised.length + p.queue.length + p.counters.publishedCount +
      p.counters.failedCount

/-- So it is in every run of a valid configuration, whatever is drawn and however the client
answers. -/
theorem generator_balanced {args : GeneratorConfig}
    (hconfig : args.postInit env.unicode = .ok config)
    (hinit : init env.unicode config producer dataRnd faultRnd injectorRnd rnd = .ok s₀)
    (hproducer : ∀ p ∈ producer, p = {}) (rs : List GeneratorReading) :
    Balanced config s₀ (after env config topic customers s₀ rs) := by
  have hagrees : Agrees config s₀ (after env config topic customers s₀ rs) :=
    after_agrees (valid_of_postInit hconfig) (agrees_start hinit hproducer) rs
  constructor
  case errorInjector => exact hagrees.errorInjector
  case rnd => exact hagrees.rnd
  case statistics =>
    exact {
      total := hagrees.statistics.total
      counts := hagrees.statistics.counts
      modes := fun c hc hpos => selectable_of_init hinit (hagrees.statistics.modes c hc hpos) }
  case matched => exact fun p hp => (hagrees.producer p hp).2
  case delivered =>
    intro p hp
    obtain ⟨⟨w, ⟨as, has⟩, rfl, hcalls⟩, -⟩ := hagrees.producer p hp
    refine ⟨w, rfl, hcalls, ?_⟩
    rw [(Sending.counted_of_exec has).generated_eq, hcalls, List.length_nil, Nat.zero_add]

/-- Numbers that are all 0. -/
def still : Python.Random ℚ := ⟨fun _ => 0, fun _ => 0⟩

/-- The queue is full at first, and a report comes in with the flush. -/
def crowded : GeneratorReading :=
  ⟨0, 0, { sendTime := 0, first := .bufferError, flushed := [⟨0, false, 1⟩] }⟩

theorem generator_balanced_crowded : ∃ s₀ : EventGeneratorEngine ℚ,
    init .ascii (tenPercent ["NULL"]) (some {}) still still still still = .ok s₀ ∧
      Balanced (tenPercent ["NULL"]) s₀ (after ⟨.ascii, fun _ => false⟩ (tenPercent ["NULL"])
        "checkout-events" ["CUST00001"] s₀ [crowded, crowded]) := by
  have hconfig : (tenPercent ["NULL"]).postInit .ascii = .ok (tenPercent ["NULL"]) := rfl
  refine ⟨_, rfl, ?_⟩
  refine @generator_balanced ℚ _ _ ⟨.ascii, fun _ => false⟩ _ _ _ _ _ _ _ _ _ _ hconfig rfl ?_ _
  intro p hp
  exact (Option.mem_some.mp hp).symm

end EventGeneratorEngine

end IceStream.Generator
