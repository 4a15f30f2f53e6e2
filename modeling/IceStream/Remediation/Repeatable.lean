import IceStream.Remediation.Reprocessor
import IceStream.Rules.Repeats

/-!
# A second attempt

The reprocessor keeps its engine from attempt to attempt, and the engine the ids it has seen.
-/

namespace IceStream.Remediation
open Python Schema Metrics QualityEngine

variable {κ : Type}

/-- `validate_with_summary` of an engine with the default registry. -/
def validate (platform : Platform) (event : Dict) : Fallible EngineWorld ValidationSummary :=
  validateWithSummary platform.unicode (collectingEngine platform (defaultRules platform))
    (.obj event)

/-- A reprocessor with the default registry, and a quarantine writer with a state of its own. -/
def defaultReprocessor (platform : Platform) (writer : Option (Dict → List Text → Fallible κ Dict)) :
    Reprocessor (EngineWorld × κ) where
  validateWithSummary event := fun s =>
    ((validate platform event s.1).1, ((validate platform event s.1).2, s.2))
  writeInvalidEvent := writer.map fun write event failedRules s =>
    ((write event failedRules s.2).1, (s.1, (write event failedRules s.2).2))

/-- The verdicts on the events, up to one whose validation raises. -/
def judge (platform : Platform) : EngineWorld → List Dict → Reprocessor.Verdicts
  | _, [] => []
  | w, event :: events => match validate platform event w with
    | (.error _, _) => []
    | (.ok summary, w') => (event, summary.failedRules == 0) :: judge platform w' events

/-- The engine after the events. -/
def judged (platform : Platform) : EngineWorld → List Dict → EngineWorld
  | w, [] => w
  | w, event :: events => match validate platform event w with
    | (.error _, w') => w'
    | (.ok _, w') => judged platform w' events

section

variable {platform : Platform} {writer : Option (Dict → List Text → Fallible κ Dict)}
  (incidentId : IncidentId) (attemptNumber : ℕ)

/-- Quarantining leaves the engine alone, and the log. -/
theorem quarantine_engine (event : Dict) (summary : ValidationSummary) (w : EngineWorld) (k : κ)
    (log : Reprocessor.Verdicts) : ∃ results k',
      (defaultReprocessor platform writer).logged.quarantine event summary ((w, k), log) =
        (.ok results, ((w, k'), log)) := by
  cases writer with
  | none => exact ⟨[], k, by rw [Reprocessor.quarantine_none _ rfl]; rfl⟩
  | some write =>
    rcases hwrite : write event (summary.failedResults.map ValidationResult.ruleName) k
      with ⟨e | result, k'⟩
    · refine ⟨[], k', ?_⟩
      rw [Reprocessor.quarantine_some _ rfl]
      simp only [hwrite]
    · refine ⟨[result], k', ?_⟩
      rw [Reprocessor.quarantine_some _ rfl]
      simp only [hwrite]

/-- The log of a run has the verdicts on its events. -/
theorem processAll_judge (result : ReprocessResult) (events : List Dict) (w : EngineWorld) (k : κ)
    (log : Reprocessor.Verdicts) : ∃ k',
      ((defaultReprocessor platform writer).logged.processAll incidentId attemptNumber result events
        ((w, k), log)).2 = ((judged platform w events, k'), log ++ judge platform w events) := by
  induction events generalizing result w k log with
  | nil => exact ⟨k, by rw [judge, List.append_nil]; rfl⟩
  | cons event events ih =>
    set r := (defaultReprocessor platform writer).logged with hr
    rw [Reprocessor.processAll]
    rcases hvalidate : validate platform event w with ⟨e | summary, w'⟩
    · have hlogged : r.validateWithSummary event ((w, k), log) = (.error e, ((w', k), log)) := by
        simp only [hr, Reprocessor.logged, defaultReprocessor, hvalidate]
      refine ⟨k, ?_⟩
      have hevent : r.processEvent incidentId attemptNumber result event ((w, k), log) =
          (.error e, ((w', k), log)) := Fallible.bind_error hlogged
      rw [Fallible.bind_error hevent]
      simp only [judged, judge, hvalidate, List.append_nil]
    · have hlogged : r.validateWithSummary event ((w, k), log) =
          (.ok summary, ((w', k), log ++ [(event, summary.failedRules == 0)])) := by
        simp only [hr, Reprocessor.logged, defaultReprocessor, hvalidate]
      obtain ⟨result', k', hevent⟩ : ∃ result' k',
          r.processEvent incidentId attemptNumber result event ((w, k), log) =
            (.ok result', ((w', k'), log ++ [(event, summary.failedRules == 0)])) := by
        rw [Reprocessor.processEvent, Fallible.bind_ok hlogged]
        by_cases hpass : summary.failedRules = 0
        · rw [if_pos hpass]
          exact ⟨_, k, rfl⟩
        · obtain ⟨results, k', hquarantine⟩ := @quarantine_engine
            _ _ writer event summary w' k (log ++ [(event, summary.failedRules == 0)])
          rw [if_neg hpass, Fallible.bind_ok hquarantine]
          exact ⟨_, k', rfl⟩
      obtain ⟨k'', hrest⟩ := ih result' w' k' (log ++ [(event, summary.failedRules == 0)])
      refine ⟨k'', ?_⟩
      rw [Fallible.bind_ok hevent, hrest, List.append_assoc]
      simp only [judged, judge, hvalidate, List.singleton_append]

/-- What a call of `process` on an engine in state `w` says of each event. -/
theorem process_judge (events : List Dict) (w : EngineWorld) (k : κ) : ∃ k',
    ((defaultReprocessor platform writer).logged.process events incidentId attemptNumber
      ((w, k), [])).2 = ((judged platform w events, k'), judge platform w events) := by
  cases events with
  | nil => exact ⟨k, rfl⟩
  | cons event events =>
    obtain ⟨k', hall⟩ := processAll_judge incidentId
      attemptNumber { totalProcessed := (event :: events).length } (event :: events) w k []
    refine ⟨k', ?_⟩
    rw [List.nil_append] at hall
    rw [← hall, Reprocessor.process, if_neg (show ¬(event :: events).isEmpty = true by simp)]
    rcases hrun : (defaultReprocessor platform writer).logged.processAll incidentId attemptNumber
      { totalProcessed := (event :: events).length } (event :: events) ((w, k), []) with ⟨e | result, s⟩
    · rw [Fallible.bind_error hrun]
    · rw [Fallible.bind_ok hrun]
      rfl

end

/-! ## One event -/

section

variable {platform : Platform} {event : QualityEvent} {d : Dict} {w w' : EngineWorld}

theorem filter_enabled (platform : Platform) :
    (defaultRules platform : List (QualityRule EngineWorld)).filter QualityRule.enabled =
      defaultRules platform := by
  rfl

/-- A payload that no event is made of, or whose timestamp raises, is not judged. Any other is
valid when all of the default rules pass it. -/
theorem validate_eq (platform : Platform) (d : Dict) (w : EngineWorld) :
    (∃ e, QualityEvent.fromDict platform.unicode d = .error e ∧
      validate platform d w = (.error e, w)) ∨
    ∃ event summary c, QualityEvent.fromDict platform.unicode d = .ok event ∧
      validate platform d w =
        ((parseIsoTimestamp platform (given d .eventTime)).map fun _ => summary,
          ((afterRules event (defaultRules platform) w).1, c)) ∧
      (summary.failedRules = 0 ↔ AllPass event (defaultRules platform) w) := by
  cases hevent : QualityEvent.fromDict platform.unicode d with
  | error e =>
    refine .inl ⟨e, rfl, ?_⟩
    simp only [validate, validateWithSummary, hevent]
    rfl
  | ok event =>
    obtain ⟨results, w₁, hrules⟩ :=
      runRules_total event ((defaultRules platform).filter QualityRule.enabled) w
    obtain ⟨c, hvalidate⟩ := validateWithSummary_of_event hevent hrules
    rw [filter_enabled] at hrules
    have hone := oneByOne_of_runRules hrules
    refine .inr ⟨event, computeValidationSummary results (event.value .eventId), c, rfl, ?_, ?_⟩
    · rw [validate, hvalidate, hone.state_eq]
    · rw [← hone.allPass_iff]
      exact failedRules_eq_zero_iff results (event.value .eventId)

theorem asks_alike {files : SchemaFiles} {kind : DuplicateKind} {v v' t t' : RuleWorld}
    (h : Alike files v v') (ht : DuplicateKind.Asks kind platform.unicode event v t)
    (ht' : DuplicateKind.Asks kind platform.unicode event v' t') : Alike files t t' where
  clock := ht.clock.trans (h.clock.trans ht'.clock.symm)
  reads := ht.reads.trans ((reads_asked kind h.reads).trans ht'.reads.symm)
  schemas := by
    rw [ht.schemas, ht'.schemas]
    exact h.schemas

/-- The default rules keep what an event is judged by alike. -/
theorem afterRules_alike (h : AlikeWorlds platform.schemaFiles w w') :
    AlikeWorlds platform.schemaFiles (afterRules event (defaultRules platform) w)
      (afterRules event (defaultRules platform) w') := by
  have hvalue (v : EngineWorld) : afterRules event (valueRules platform) v = v :=
    (@allPass_stateless event (valueRules platform) v v fun rule hrule =>
      stateless_valueRules hrule event).2
  have hsplit (v : EngineWorld) : afterRules event (defaultRules platform) v =
      afterRules event (otherDetectors platform)
        ((DuplicateKind.orders.rule platform.unicode 300).validate event
          ((DuplicateKind.events.rule platform.unicode 300).validate event v).2).2 := by
    rw [defaultRules_eq]
    unfold afterRules at hvalue ⊢
    rw [List.foldl_append, hvalue]
    rfl
  rw [hsplit, hsplit]
  refine (allPass_alike (fun rule hrule => unaware_otherDetectors hrule) ?_).2
  have hevents := asks_alike h (DuplicateKind.events.rule_passes_iff platform.unicode event w).2
    (DuplicateKind.events.rule_passes_iff platform.unicode event w').2
  exact asks_alike hevents (DuplicateKind.orders.rule_passes_iff platform.unicode event _).2
    (DuplicateKind.orders.rule_passes_iff platform.unicode event _).2

theorem failsOther_alike (h : AlikeWorlds platform.schemaFiles w w') :
    FailsOther platform event w ↔ FailsOther platform event w' := by
  have hasked : AlikeWorlds platform.schemaFiles (askedBoth platform.unicode event w)
      (askedBoth platform.unicode event w') := by
    refine ⟨?_, ?_, ?_, ?_⟩
    · change (DuplicateKind.orders.asked _ event _).clock = (DuplicateKind.orders.asked _ event _).clock
      rw [clock_asked, clock_asked, clock_asked, clock_asked]
      exact h.clock
    · exact reads_asked .orders (reads_asked .events h.reads)
    · change SchemaRegistry.Coherent _ (DuplicateKind.orders.asked _ event _).schemas
      rw [schemas_asked, schemas_asked]
      exact h.schemas.1
    · change SchemaRegistry.Coherent _ (DuplicateKind.orders.asked _ event _).schemas
      rw [schemas_asked, schemas_asked]
      exact h.schemas.2
  refine not_congr (allPass_alike ?_ hasked).1
  intro rule hrule
  obtain hrule | hrule := List.mem_append.mp hrule
  · exact unaware_valueRules hrule
  · exact unaware_otherDetectors hrule

/-- The event fails for another reason, or its ids are recalled in both worlds or in neither. -/
def Indifferent (platform : Platform) (event : QualityEvent) (w w' : EngineWorld) : Prop :=
  FailsOther platform event w' ∨
    (Repeats platform.unicode event w.1 ↔ Repeats platform.unicode event w'.1)

theorem indifferent_iff (h : AlikeWorlds platform.schemaFiles w w') :
    (AllPass event (defaultRules platform) w ↔ AllPass event (defaultRules platform) w') ↔
      Indifferent platform event w w' := by
  rw [allPass_defaultRules_iff h.schemas.1, allPass_defaultRules_iff h.schemas.2,
    failsOther_alike h, Indifferent]
  by_cases hfails : FailsOther platform event w'
  · simp [hfails]
  · simp only [hfails, not_false_eq_true, true_and, false_or, not_iff_not]

end

/-! ## Whole lists -/

/-- Event by event, what the engines remember makes no difference. -/
def SameMemory (platform : Platform) : EngineWorld → EngineWorld → List Dict → Prop
  | _, _, [] => True
  | w, w', d :: ds => ∀ event time, QualityEvent.fromDict platform.unicode d = .ok event →
      parseIsoTimestamp platform (given d .eventTime) = .ok time →
        Indifferent platform event w w' ∧
          SameMemory platform (validate platform d w).2 (validate platform d w').2 ds

section

variable {platform : Platform} {w w' : EngineWorld}

/-- The verdicts are the same just in case what is remembered makes no difference. -/
theorem judge_eq_iff (events : List Dict) (h : AlikeWorlds platform.schemaFiles w w') :
    judge platform w events = judge platform w' events ↔ SameMemory platform w w' events := by
  induction events generalizing w w' with
  | nil => exact iff_of_true rfl trivial
  | cons d ds ih =>
    obtain ⟨e, hdict, hw⟩ | ⟨event, summary, c, hdict, hw, hsummary⟩ := validate_eq platform d w
    · obtain ⟨e', -, hw'⟩ | ⟨event, summary, c, hdict', -, -⟩ := validate_eq platform d w'
      · refine iff_of_true ?_ ?_
        · simp only [judge, hw, hw']
        · intro event time hok
          rw [hdict] at hok
          cases hok
      · rw [hdict] at hdict'
        cases hdict'
    · obtain ⟨e', hdict', -⟩ | ⟨event', summary', c', hdict', hw', hsummary'⟩ :=
        validate_eq platform d w'
      · rw [hdict] at hdict'
        cases hdict'
      · obtain rfl : event = event' := Except.ok.inj (hdict.symm.trans hdict')
        cases hparse : parseIsoTimestamp platform (given d .eventTime) with
        | error e =>
          rw [hparse] at hw hw'
          refine iff_of_true ?_ ?_
          · simp only [judge, hw, hw', Except.map]
          · intro event' time _ hok
            rw [hparse] at hok
            cases hok
        | ok time =>
          rw [hparse] at hw hw'
          have halike : AlikeWorlds platform.schemaFiles (validate platform d w).2
              (validate platform d w').2 := by
            rw [hw, hw']
            exact afterRules_alike h
          have hnext := ih halike
          have hverdict : (summary.failedRules == 0) = (summary'.failedRules == 0) ↔
              Indifferent platform event w w' := by
            rw [← indifferent_iff h, ← hsummary, ← hsummary', Bool.eq_iff_iff, beq_iff_eq, beq_iff_eq]
          have hjudge : judge platform w (d :: ds) =
              (d, summary.failedRules == 0) :: judge platform (validate platform d w).2 ds := by
            rw [judge, hw]
            rfl
          have hjudge' : judge platform w' (d :: ds) =
              (d, summary'.failedRules == 0) :: judge platform (validate platform d w').2 ds := by
            rw [judge, hw']
            rfl
          rw [hjudge, hjudge', List.cons.injEq, Prod.mk.injEq, hnext, hverdict, SameMemory]
          constructor
          · rintro ⟨⟨-, hevent⟩, hrest⟩ event' time' hok -
            obtain rfl := Except.ok.inj (hdict.symm.trans hok)
            exact ⟨hevent, hrest⟩
          · intro hall
            obtain ⟨hevent, hrest⟩ := hall event time hdict hparse
            exact ⟨⟨rfl, hevent⟩, hrest⟩

theorem coherent_validate (d : Dict) (h : SchemaRegistry.Coherent platform.schemaFiles w.1.schemas) :
    SchemaRegistry.Coherent platform.schemaFiles (validate platform d w).2.1.schemas := by
  obtain ⟨e, -, hw⟩ | ⟨event, summary, c, -, hw, -⟩ := validate_eq platform d w
  · rw [hw]
    exact h
  · rw [hw]
    have halike : AlikeWorlds platform.schemaFiles w w := ⟨rfl, rfl, h, h⟩
    exact (afterRules_alike halike).schemas.1

theorem coherent_judged (events : List Dict)
    (h : SchemaRegistry.Coherent platform.schemaFiles w.1.schemas) :
    SchemaRegistry.Coherent platform.schemaFiles (judged platform w events).1.schemas := by
  induction events generalizing w with
  | nil => exact h
  | cons d ds ih =>
    have hnext := coherent_validate d h
    rw [judged]
    rcases hvalidate : validate platform d w with ⟨e | summary, w'⟩
    · rw [hvalidate] at hnext
      exact hnext
    · rw [hvalidate] at hnext
      exact ih hnext

end

/-! ## Attempts -/

/-- A call of `process`. -/
structure Attempt where
  events : List Dict
  incidentId : IncidentId
  attemptNumber : ℕ

/-- An engine that has just been constructed, at the time of another. -/
def renewed (w : EngineWorld) : EngineWorld :=
  (⟨w.1.clock, w.1.reads, [], [], .loaded⟩, { clock := w.2.clock })

def constructed (clock : ℕ → Instant) : EngineWorld := renewed (⟨clock, 0, [], [], .loaded⟩, { clock := clock })

section

variable {σ : Type} (r : Reprocessor σ)

def Attempt.run (s : σ) (a : Attempt) : σ := (r.process a.events a.incidentId a.attemptNumber s).2

/-- Which events of an attempt are valid. -/
def Attempt.split (s : σ) (a : Attempt) : Reprocessor.Verdicts :=
  (r.logged.process a.events a.incidentId a.attemptNumber (s, [])).2.2

end

section

variable (platform : Platform) (writer : Option (Dict → List Text → Fallible κ Dict))

theorem engine_run (a : Attempt) (s : EngineWorld × κ) :
    (Attempt.run (defaultReprocessor platform writer) s a).1 = judged platform s.1 a.events := by
  obtain ⟨out, s', judged, hplain, hlogged, -⟩ := Reprocessor.process_logged
    (defaultReprocessor platform writer) a.incidentId a.attemptNumber a.events s
  obtain ⟨k', hjudge⟩ := process_judge a.incidentId
    a.attemptNumber a.events s.1 s.2
  rw [hlogged] at hjudge
  rw [Attempt.run, hplain]
  exact congrArg (fun x => x.1.1) hjudge

theorem split_eq (a : Attempt) (s : EngineWorld × κ) :
    Attempt.split (defaultReprocessor platform writer) s a = judge platform s.1 a.events := by
  obtain ⟨k', hjudge⟩ := process_judge a.incidentId
    a.attemptNumber a.events s.1 s.2
  exact congrArg Prod.snd hjudge

/-- The schemas that earlier attempts have cached are those of the directory. -/
theorem coherent_attempts (earlier : List Attempt) {s : EngineWorld × κ}
    (h : SchemaRegistry.Coherent platform.schemaFiles s.1.1.schemas) :
    SchemaRegistry.Coherent platform.schemaFiles
      (earlier.foldl (Attempt.run (defaultReprocessor platform writer)) s).1.1.schemas := by
  induction earlier generalizing s with
  | nil => exact h
  | cons a earlier ih =>
    apply ih
    rw [engine_run]
    exact coherent_judged a.events h

/-- After whatever attempts, at whatever times, an attempt gives the split that a new reprocessor
would give just in case what the old one remembers makes no difference. -/
theorem repeatable_iff (clock : ℕ → Instant) (k k' : κ) (earlier : List Attempt) (a : Attempt) :
    let r := defaultReprocessor platform writer
    let s := earlier.foldl (Attempt.run r) (constructed clock, k)
    a.split r s = a.split r (renewed s.1, k') ↔
      SameMemory platform s.1 (renewed s.1) a.events := by
  intro r s
  have hs : SchemaRegistry.Coherent platform.schemaFiles s.1.1.schemas :=
    coherent_attempts platform writer earlier (coherent_loaded _)
  rw [split_eq, split_eq]
  apply judge_eq_iff
  exact ⟨rfl, rfl, hs, coherent_loaded _⟩

end

/-! ### An event that is fetched again -/

/-- An event that all of the rules pass at the beginning of 2026. -/
def refetched : Dict :=
  [("event_id", "e1"), ("event_time", "2026-01-01T00:00:00Z"), ("customer_id", "c1"),
    ("session_id", "s1"), ("order_id", "o1"), ("product_id", "p1"), ("amount", "10"),
    ("currency", "USD"), ("payment_method", "UPI"), ("payment_status", "SUCCESS"),
    ("device", "web"), ("country", "IN"), ("source_version", "v1"),
    ("ingestion_time", "2026-01-01T00:00:00Z")].map fun p => (text p.1, .str (text p.2))

/-- A clock that reads one second more every time, from the beginning of 2026. -/
def secondsOf2026 (n : ℕ) : Instant := 1767225600000000 + n * 1000000

def refetch : Attempt := ⟨[refetched], ⟨text "INC-2026-0101-001", by decide⟩, 1⟩

/-- The second attempt takes the event for a duplicate of itself. -/
theorem second_attempt_differs :
    let r := defaultReprocessor (κ := Unit) .ascii none
    let s := [refetch].foldl (Attempt.run r) (constructed secondsOf2026, ())
    refetch.split r s ≠ refetch.split r (renewed s.1, ()) := by
  intro r s hsame
  have hs : s = Attempt.run r (constructed secondsOf2026, ()) refetch := List.foldl_cons
  rw [split_eq, split_eq, hs, engine_run] at hsame
  have hverdicts := congrArg (List.map Prod.snd) hsame
  revert hverdicts
  decide +kernel

end IceStream.Remediation
