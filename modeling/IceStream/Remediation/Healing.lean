import IceStream.Remediation.Outcomes

/-!
# What a remediation with the local adapter writes

The four sources of the adapter, and when the ids that are written are the ids
that the context names.
-/

namespace IceStream.Remediation
open Python World

variable {φ : Type}

/-- The ids under `event_ids`, as the adapter runs over them. -/
def namedIds (ctx : RecoveryContext) : List Json :=
  match ctx.eventIds.iter with
  | .ok ids => ids
  | .error _ => []

def failedList (ctx : RecoveryContext) : List Json :=
  match ctx.failedEvents.iter with
  | .ok failed => failed
  | .error _ => []

def eventId (event : Dict) : Option Json := event.get? "event_id"

def failedId : Json → Option Json
  | .obj failed => eventId failed
  | _ => none

/-- The context names `id` as that of a failed event. -/
def Named (ctx : RecoveryContext) (id : Json) : Prop :=
  id ∈ namedIds ctx ∨ ∃ failed ∈ failedList ctx, failedId failed = some id

namespace LocalSourceAdapter

variable {u : Unicode} {clock : ℕ → Text} {a : LocalSourceAdapter} {ctx : RecoveryContext}

/-- `event` is the fixture of a named id. -/
def IsFixture (a : LocalSourceAdapter) (ids : List Json) (event : Dict) : Prop :=
  ∃ id, .str id ∈ ids ∧ a.fixtures.lookup id = some event

theorem mem_fixture {id : Json} {found : Option Dict} (h : a.fixture id = .ok found)
    (event : Dict) :
    event ∈ found.toList ↔ ∃ t, id = .str t ∧ a.fixtures.lookup t = some event := by
  cases id with
  | str t =>
    obtain rfl : a.fixtures.lookup t = found := by simpa [fixture] using h
    simp
  | arr _ => cases h
  | obj _ => cases h
  | _ =>
    obtain rfl : none = found := by simpa [fixture] using h
    simp

theorem matchFixtures_ok {ids : List Json} {events : List Dict}
    (h : a.matchFixtures ids = .ok events) (event : Dict) :
    event ∈ events ↔ a.IsFixture ids event := by
  induction ids generalizing events with
  | nil =>
    obtain rfl : [] = events := by simpa [matchFixtures] using h
    simp [IsFixture]
  | cons id ids ih =>
    rcases hfound : a.fixture id with e | found
    · simp [matchFixtures, hfound, bind, Except.bind] at h
    rcases hrest : a.matchFixtures ids with e | rest
    · simp [matchFixtures, hfound, hrest, bind, Except.bind] at h
    obtain rfl : found.toList ++ rest = events := by
      simpa [matchFixtures, hfound, hrest, bind, Except.bind, pure, Except.pure] using h
    rw [List.mem_append, mem_fixture hfound, ih hrest]
    constructor
    · rintro (⟨t, rfl, ht⟩ | ⟨t, hmem, ht⟩)
      · exact ⟨t, List.mem_cons_self, ht⟩
      · exact ⟨t, List.mem_cons_of_mem _ hmem, ht⟩
    · rintro ⟨t, hmem, ht⟩
      obtain hmem | hmem := List.mem_cons.mp hmem
      · exact .inl ⟨t, hmem.symm, ht⟩
      · exact .inr ⟨t, hmem, ht⟩

/-- `event` corrects `failed`. -/
def Repairs (u : Unicode) (incidentId : Text) (failed : Json) (event : Dict) : Prop :=
  ∃ ts, repaired u incidentId ts failed = .ok event

theorem repairAll_ok {incidentId : Text} {n : ℕ} {failed : List Json} {events : List Dict}
    (h : repairAll u clock incidentId n failed = .ok events) :
    List.Forall₂ (Repairs u incidentId) failed events := by
  induction failed generalizing n events with
  | nil =>
    obtain rfl : [] = events := by simpa [repairAll] using h
    exact .nil
  | cons f failed ih =>
    rcases hfirst : repaired u incidentId (clock n) f with e | event
    · simp [repairAll, hfirst, bind, Except.bind] at h
    rcases hrest : repairAll u clock incidentId (n + 1) failed with e | rest
    · simp [repairAll, hfirst, hrest, bind, Except.bind] at h
    obtain rfl : event :: rest = events := by
      simpa [repairAll, hfirst, hrest, bind, Except.bind, pure, Except.pure] using h
    exact .cons ⟨clock n, hfirst⟩ (ih hrest)

/-- Which of the four sources the events came from. -/
inductive Source (u : Unicode) (clock : ℕ → Text) (a : LocalSourceAdapter)
    (ctx : RecoveryContext) : List Dict → Prop
  | fixtures {events} (hne : events ≠ [])
    (h : ∀ event, event ∈ events ↔ a.IsFixture (namedIds ctx) event) : Source u clock a ctx events
  | repairs {events} (hno : ∀ event, ¬a.IsFixture (namedIds ctx) event)
    (hne : failedList ctx ≠ [])
    (h : List.Forall₂ (Repairs u ctx.incidentId.val) (failedList ctx) events) :
    Source u clock a ctx events
  | defaults (hno : ∀ event, ¬a.IsFixture (namedIds ctx) event) (hfailed : failedList ctx = [])
    (hne : a.defaultCorrectedEvents ≠ []) : Source u clock a ctx a.defaultCorrectedEvents
  | synthesised (hno : ∀ event, ¬a.IsFixture (namedIds ctx) event) (hfailed : failedList ctx = [])
    (hnil : a.defaultCorrectedEvents = []) :
    Source u clock a ctx [defaultCheckoutEvent u (clock 0) (fallbackId ctx)]

/-- Failed events that are not iterated over name nothing. -/
theorem failedList_of_not_truthy (h : ctx.failedEvents.truthy = false) : failedList ctx = [] := by
  unfold failedList
  cases hfailed : ctx.failedEvents <;> simp_all [Json.truthy, Json.iter]

theorem fetchForRecovery_source {events : List Dict}
    (h : fetchForRecovery u clock a ctx = .ok events) : Source u clock a ctx events := by
  unfold fetchForRecovery at h
  rcases hids : ctx.eventIds.iter with e | ids
  · simp [hids, bind, Except.bind] at h
  rcases hmatched : a.matchFixtures ids with e | matched
  · simp [hids, hmatched, bind, Except.bind] at h
  have hnamed : namedIds ctx = ids := by simp only [namedIds, hids]
  have hfixtures := hnamed ▸ matchFixtures_ok hmatched
  simp only [hids, hmatched, bind, Except.bind, pure, Except.pure] at h
  cases matched with
  | cons event rest =>
    obtain rfl : event :: rest = events := by simpa using h
    exact .fixtures (by simp) hfixtures
  | nil =>
    -- no fixture is named: the failed events come next, then the defaults
    have hno : ∀ event, ¬a.IsFixture (namedIds ctx) event := by
      intro event hfixture
      exact List.not_mem_nil ((hfixtures event).mpr hfixture)
    cases htruthy : ctx.failedEvents.truthy with
    | false =>
      have hfailed := failedList_of_not_truthy htruthy
      simp only [htruthy] at h
      cases hdefaults : a.defaultCorrectedEvents with
      | nil =>
        obtain rfl : [defaultCheckoutEvent u (clock 0) (fallbackId ctx)] = events := by
          simpa [hdefaults] using h
        exact .synthesised hno hfailed hdefaults
      | cons d ds =>
        obtain rfl : a.defaultCorrectedEvents = events := by
          rw [hdefaults]
          simpa [hdefaults] using h
        exact .defaults hno hfailed (by simp [hdefaults])
    | true =>
      rcases hiter : ctx.failedEvents.iter with e | failed
      · simp [htruthy, hiter] at h
      rcases hrepair : repairAll u clock ctx.incidentId.val 0 failed with e | repairs
      · simp [htruthy, hiter, hrepair] at h
      have hfailed : failedList ctx = failed := by simp only [failedList, hiter]
      have hrepairs := repairAll_ok hrepair
      -- what is truthy has elements, so the repairs are not empty
      have hne := Json.iter_ne_nil htruthy hiter
      cases hrepairs with
      | nil => exact absurd rfl hne
      | cons hfirst hrest =>
        rename_i event _ rest
        obtain rfl : event :: rest = events := by simpa [htruthy, hiter, hrepair] using h
        refine .repairs hno (by rw [hfailed]; simp) ?_
        rw [hfailed]
        exact .cons hfirst hrest

/-- Every named id has a fixture that carries it, and the failed events name no other. -/
structure AllFixtures (a : LocalSourceAdapter) (ctx : RecoveryContext) : Prop where
  named_ne : namedIds ctx ≠ []
  registered : ∀ id ∈ namedIds ctx, ∃ t event, id = .str t ∧ a.fixtures.lookup t = some event ∧
    eventId event = some id
  failed_named : ∀ failed ∈ failedList ctx, ∀ id, failedId failed = some id → id ∈ namedIds ctx

/-- No named id has a fixture, and all of them are ids of failed events, which are texts. -/
structure AllRepaired (a : LocalSourceAdapter) (ctx : RecoveryContext) : Prop where
  no_fixture : ∀ event, ¬a.IsFixture (namedIds ctx) event
  failed_ne : failedList ctx ≠ []
  text_ids : ∀ failed ∈ failedList ctx, ∃ t, failedId failed = some (.str t)
  named_failed : ∀ id ∈ namedIds ctx, ∃ failed ∈ failedList ctx, failedId failed = some id

theorem eventId_of_repairs {incidentId t : Text} {failed : Json} {event : Dict}
    (h : Repairs u incidentId failed event) (hid : failedId failed = some (.str t)) :
    eventId event = some (.str t) := by
  obtain ⟨ts, hrepaired⟩ := h
  cases failed with
  | obj failed =>
    have hrepairedId : repairedId u incidentId failed = t := by
      have hlookup : List.lookup (text "event_id") failed = some (.str t) := hid
      rw [repairedId, Dict.getD, hlookup]
      rfl
    rw [repaired, Except.ok.injEq] at hrepaired
    rw [← hrepaired, hrepairedId]
    rfl
  | _ => cases hid

theorem ids_of_repairs {incidentId : Text} {failed : List Json} {events : List Dict}
    (h : List.Forall₂ (Repairs u incidentId) failed events)
    (htext : ∀ f ∈ failed, ∃ t, failedId f = some (.str t)) (id : Json) :
    (∃ event ∈ events, eventId event = some id) ↔ ∃ f ∈ failed, failedId f = some id := by
  induction h with
  | nil => simp
  | @cons f event failed events hfirst _ ih =>
    obtain ⟨t, ht⟩ := htext f List.mem_cons_self
    have hrest := ih fun f' hf' => htext f' (List.mem_cons_of_mem f hf')
    simp only [List.mem_cons, exists_eq_or_imp, eventId_of_repairs hfirst ht, ht, hrest]

/-- A covered context has exactly its named ids written. -/
theorem Source.ids_iff {events : List Dict} (h : Source u clock a ctx events)
    (hcovered : AllFixtures a ctx ∨ AllRepaired a ctx) (id : Json) :
    (∃ event ∈ events, eventId event = some id) ↔ Named ctx id := by
  obtain hall | hall := hcovered
  · obtain ⟨first, hfirst⟩ := List.exists_mem_of_ne_nil _ hall.named_ne
    obtain ⟨t, fixture, rfl, hlookup, -⟩ := hall.registered first hfirst
    have hsome : a.IsFixture (namedIds ctx) fixture := ⟨t, hfirst, hlookup⟩
    have hnamed : Named ctx id ↔ id ∈ namedIds ctx :=
      ⟨fun h => h.elim (fun h => h) fun ⟨f, hf, hid⟩ => hall.failed_named f hf id hid, .inl⟩
    rw [hnamed]
    cases h with
    | fixtures _ hevents =>
      constructor
      · rintro ⟨event, hevent, hid⟩
        obtain ⟨t, ht, hlookup⟩ := (hevents event).mp hevent
        obtain ⟨t', event', ht', hlookup', hid'⟩ := hall.registered _ ht
        obtain rfl := Json.str.inj ht'
        obtain rfl := Option.some.inj (hlookup.symm.trans hlookup')
        obtain rfl := Option.some.inj (hid.symm.trans hid')
        exact ht
      · intro hid
        obtain ⟨t, event, rfl, hlookup, heventId⟩ := hall.registered id hid
        exact ⟨event, (hevents event).mpr ⟨t, hid, hlookup⟩, heventId⟩
    | repairs hno => exact absurd hsome (hno fixture)
    | defaults hno => exact absurd hsome (hno fixture)
    | synthesised hno => exact absurd hsome (hno fixture)
  · have hnamed : Named ctx id ↔ ∃ failed ∈ failedList ctx, failedId failed = some id :=
      ⟨fun h => h.elim (hall.named_failed id) fun h => h, .inr⟩
    rw [hnamed]
    cases h with
    | fixtures hne hevents =>
      obtain ⟨event, hevent⟩ := List.exists_mem_of_ne_nil _ hne
      exact absurd ((hevents event).mp hevent) (hall.no_fixture event)
    | repairs _ _ hrepairs => exact ids_of_repairs hrepairs hall.text_ids id
    | defaults _ hfailed => exact absurd hfailed hall.failed_ne
    | synthesised _ hfailed => exact absurd hfailed hall.failed_ne

/-- Without a context nothing is named, so what is written was made up. -/
theorem Source.of_no_context {incidentId : IncidentId} {events : List Dict}
    (h : Source u clock a (.ofContext [] incidentId) events) :
    events = a.defaultCorrectedEvents ∨ events =
      [defaultCheckoutEvent u (clock 0) (fallbackId (.ofContext [] incidentId))] := by
  have hnamed : namedIds (.ofContext [] incidentId) = [] := rfl
  cases h with
  | fixtures hne hevents =>
    obtain ⟨event, hevent⟩ := List.exists_mem_of_ne_nil _ hne
    obtain ⟨t, ht, -⟩ := (hevents event).mp hevent
    rw [hnamed] at ht
    exact absurd ht List.not_mem_nil
  | repairs _ hne => exact absurd rfl hne
  | defaults => exact .inl rfl
  | synthesised => exact .inr rfl

end LocalSourceAdapter

/-! ## A remediation with the local adapter -/

/-- The provenance keys leave an event's id alone. -/
theorem eventId_withProvenance (incidentId : IncidentId) (attempt : ℕ) (event : Dict) :
    eventId (withProvenance incidentId attempt event) = eventId event := by
  rw [eventId, withProvenance, Dict.get?_set_of_ne _ _ (by decide),
    Dict.get?_set_of_ne _ _ (by decide)]
  rfl

section

variable (ports : Ports φ) (cfg : ControllerConfig) (readings : Readings)
  (incidentId : IncidentId) (ctx : Dict) (w : World φ) (u : Unicode) (clock : ℕ → Text)
  (a : LocalSourceAdapter)

/-- The controller's services with the local adapter for their source. -/
def withLocalSource : Ports φ :=
  { ports with
    fetchForRecovery := fun ctx w => (a.fetchForRecovery u clock ctx, w)
    sourceReference := a.sourceReference }

/-- A remediation that succeeds with the local adapter writes what one of its four
sources yields; from a covered context, exactly the events it names. -/
theorem healing_sources (hsuccess : reportsSuccess
      (executeRemediation (withLocalSource ports u clock a) cfg readings incidentId ctx w).1 =
        true) :
    ∃ actions written,
      (executeRemediation (withLocalSource ports u clock a) cfg readings incidentId ctx w).2.trace =
        w.trace ++ actions ∧
      sinkCalls actions = [(written, true)] ∧
      (∃ events, written = events.map
          (withProvenance incidentId (attemptNumber cfg readings incidentId w)) ∧
        a.Source u clock (.ofContext ctx incidentId) events ∧
        (ctx = [] → events = a.defaultCorrectedEvents ∨ events = [defaultCheckoutEvent u (clock 0)
          (LocalSourceAdapter.fallbackId (.ofContext ctx incidentId))])) ∧
      (a.AllFixtures (.ofContext ctx incidentId) ∨ a.AllRepaired (.ofContext ctx incidentId) →
        ∀ id, (∃ event ∈ written, eventId event = some id) ↔
          Named (.ofContext ctx incidentId) id) := by
  obtain ⟨events, o, actions, hfetches, htrace, hsound⟩ := (executeRemediation_ending
    (withLocalSource ports u clock a) cfg readings incidentId ctx w).soundSuccess hsuccess
  have hfetched := hfetches.fetched
  simp only [fetchOutcome, withLocalSource, Prod.mk.injEq] at hfetched
  have hsource := LocalSourceAdapter.fetchForRecovery_source hfetched.1
  refine ⟨actions, _, htrace, hsound.sink, ⟨events, rfl, hsource, ?_⟩, fun hcovered id => ?_⟩
  · rintro rfl
    exact hsource.of_no_context
  · rw [← hsource.ids_iff hcovered id]
    simp only [List.mem_map, exists_exists_and_eq_and, eventId_withProvenance]

end

/-! ### Runs with the local adapter -/

/-- The engine of these runs has one rule. -/
def exampleEngine : QualityEngine Unit where
  rules := [eventIdNotNullRule .ascii .critical]
  recordEventSummary _ _ := pure ()

def enginePorts : Ports Unit :=
  { examplePorts true with
    reprocessor :=
      { validateWithSummary := fun event =>
          exampleEngine.validateWithSummary .ascii (.obj event)
        writeInvalidEvent := none } }

def exampleClock (_ : ℕ) : Text := "2026-09-03T00:00:00+00:00"

def healingRun (a : LocalSourceAdapter) (ctx : Dict) : Except Exc RemediationResult × World Unit :=
  executeRemediation (withLocalSource enginePorts .ascii exampleClock a) exampleConfig
    exampleReadings exampleIncident ctx exampleWorld

/-- The ids in each call of the sink. -/
def sunkIds (a : LocalSourceAdapter) (ctx : Dict) : List (List (Option Text)) :=
  (sinkCalls (healingRun a ctx).2.trace).map fun call =>
    call.1.map fun event => (eventId event).map (Json.toText .ascii)

def fixtureAdapter : LocalSourceAdapter where
  fixtures := [(text "evt_1", [(text "event_id", .str "evt_1")])]

def fixtureContext : Dict := [(text "event_ids", .arr [.str "evt_1"])]

theorem healing_of_fixture :
    ∃ actions written,
      (healingRun fixtureAdapter fixtureContext).2.trace = exampleWorld.trace ++ actions ∧
      sinkCalls actions = [(written, true)] ∧
      (∃ events, written = events.map
          (withProvenance exampleIncident
            (attemptNumber exampleConfig exampleReadings exampleIncident exampleWorld)) ∧
        fixtureAdapter.Source .ascii exampleClock (.ofContext fixtureContext exampleIncident)
          events ∧
        (fixtureContext = [] → events = fixtureAdapter.defaultCorrectedEvents ∨ events =
          [defaultCheckoutEvent .ascii (exampleClock 0)
            (LocalSourceAdapter.fallbackId (.ofContext fixtureContext exampleIncident))])) ∧
      (fixtureAdapter.AllFixtures (.ofContext fixtureContext exampleIncident) ∨
          fixtureAdapter.AllRepaired (.ofContext fixtureContext exampleIncident) →
        ∀ id, (∃ event ∈ written, eventId event = some id) ↔
          Named (.ofContext fixtureContext exampleIncident) id) :=
  healing_sources enginePorts exampleConfig exampleReadings exampleIncident fixtureContext
    exampleWorld .ascii exampleClock fixtureAdapter (by decide +kernel)

/-- Without a context, as the stream validator starts it, the remediation names
no event and yet writes one. -/
theorem no_context_writes_invented_event :
    reportsSuccess (healingRun {} []).1 = true ∧
    sunkIds {} [] = [[some (text "evt_recovery_INC-2026")]] ∧
    ∀ id, ¬Named (.ofContext [] exampleIncident) id := by
  refine ⟨by decide +kernel, by decide +kernel, ?_⟩
  rintro id (hid | ⟨failed, hfailed, -⟩)
  · exact absurd hid List.not_mem_nil
  · exact absurd hfailed List.not_mem_nil

end IceStream.Remediation
