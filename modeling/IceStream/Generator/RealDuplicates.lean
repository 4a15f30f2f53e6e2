import IceStream.Generator.FaultInjection

/-!
# Duplicates of what was emitted

The history holds the events as they came, the present one among them. So a duplicate
repeats what was emitted just in case the event drawn is an earlier one that came back
unchanged.
-/

namespace IceStream.Generator
open Python Fallible FaultInjectionEngine

variable {K : Type}

/-! ## Identifiers -/

def eventId (event : Dict) : Option Json := event.get? "event_id"

theorem eventId_set {event : Dict} {k : Text} (v : Json) (h : text "event_id" ≠ k) :
    eventId (event.set k v) = eventId event :=
  Dict.get?_set_of_ne event v h

theorem eventId_erase {event : Dict} {k : Text} (h : text "event_id" ≠ k) :
    eventId (erase event k) = eventId event := by
  unfold eventId Dict.get? erase
  induction event with
  | nil => rfl
  | cons p rest ih =>
    obtain ⟨k', v⟩ := p
    by_cases hk : k' = k
    · have hne : (text "event_id" == k') = false := by
        rw [hk]
        exact beq_eq_false_iff_ne.mpr h
      rw [List.filter_cons_of_neg (by simpa using hk), List.lookup_cons, hne, ih]
    · rw [List.filter_cons_of_pos (by simpa using hk), List.lookup_cons, List.lookup_cons, ih]

/-- A strategy that leaves the identifier alone. -/
def KeepsId (event : Dict) (x : Fallible (Python.Random K) Dict) : Prop :=
  Ensures (fun _ => True) x (fun d _ => eventId d = eventId event) fun _ => True

section

variable {event : Dict}

theorem keepsId_pure {d : Dict} (h : eventId d = eventId event) :
    KeepsId event (pure d : Fallible (Python.Random K) Dict) :=
  ensures_pure fun _ _ => h

theorem keepsId_raise {e : Exc} : KeepsId event (raise e : Fallible (Python.Random K) Dict) :=
  ensures_raise fun _ _ => trivial

theorem keepsId_choice {α : Type} {xs : List α} {f : α → Fallible (Python.Random K) Dict}
    (h : ∀ x ∈ xs, KeepsId event (f x)) : KeepsId event (Python.Random.choice xs >>= f) := by
  intro r _
  rcases hrun : Python.Random.choice xs r with ⟨e | x, r'⟩
  · exact ensures_error (bind_error hrun) trivial
  · rw [bind_ok hrun]
    exact h x (Python.Random.mem_of_choice hrun) r' trivial

theorem keepsId_nullMutate : KeepsId event (nullMutate event : Fallible (Python.Random K) Dict) := by
  have hfields : ∀ field ∈ nullableTargetFields, text "event_id" ≠ field := by decide
  exact keepsId_choice fun field hfield => keepsId_pure (eventId_set _ (hfields field hfield))

theorem keepsId_negativeMutate :
    KeepsId event (negativeMutate event : Fallible (Python.Random K) Dict) := by
  have hfields : ∀ field ∈ negativeTargets.map Prod.fst, text "event_id" ≠ field := by decide
  refine keepsId_choice fun target htarget => ?_
  cases negated target.2.2 (event.getD target.1 target.2.1) with
  | ok v => exact keepsId_pure (eventId_set _ (hfields _ (List.mem_map_of_mem htarget)))
  | error e => exact keepsId_raise

theorem keepsId_invalidEnumMutate :
    KeepsId event (invalidEnumMutate event : Fallible (Python.Random K) Dict) := by
  refine keepsId_choice fun target _ => ?_
  split_ifs
  · exact keepsId_choice fun v _ => keepsId_pure (eventId_set _ (by decide))
  · exact keepsId_choice fun v _ => keepsId_pure (eventId_set _ (by decide))

theorem eventId_renameField : eventId (renameField event) = eventId event := by
  unfold renameField
  rw [eventId_set _ (by decide)]
  split
  · rw [eventId_set _ (by decide), eventId_erase (by decide)]
  · rw [eventId_set _ (by decide), eventId_erase (by decide)]
  · rfl

theorem keepsId_removeField : KeepsId event (removeField event : Fallible (Python.Random K) Dict) := by
  have hfields : ∀ field ∈ [text "payment_status", text "device", text "country"],
      text "event_id" ≠ field := by decide
  have hremove : ∀ field ∈ [text "payment_status", text "device", text "country"],
      KeepsId event (if event.has field
        then (pure ((erase event field).set "source_version" (.str "v2")) :
          Fallible (Python.Random K) Dict)
        else raise (keyError field)) := by
    intro field hfield
    split_ifs
    · apply keepsId_pure
      rw [eventId_set _ (by decide), eventId_erase (hfields field hfield)]
    · exact keepsId_raise
  unfold removeField fieldToRemove
  dsimp only
  split_ifs
  · exact hremove _ List.mem_cons_self
  · exact keepsId_choice fun field hfield => hremove field (List.mem_filter.mp hfield).1

theorem keepsId_schemaDriftMutate (allowedDriftTypes : List Text) :
    KeepsId event (schemaDriftMutate allowedDriftTypes event : Fallible (Python.Random K) Dict) := by
  refine keepsId_choice fun driftType _ => ?_
  split_ifs
  · refine keepsId_choice fun segment _ => keepsId_pure ?_
    rw [eventId_set _ (by decide), eventId_set _ (by decide)]
  · exact keepsId_removeField
  · exact keepsId_pure eventId_renameField
  · exact keepsId_pure rfl

theorem keepsId_typeChangeMutate (u : Unicode) (isdigit : CodePoint → Bool) :
    KeepsId event (typeChangeMutate u isdigit event : Fallible (Python.Random K) Dict) := by
  refine keepsId_choice fun target _ => ?_
  split_ifs
  · exact keepsId_pure (eventId_set _ (by decide))
  · exact keepsId_pure (eventId_set _ (by decide))
  · cases customerNumber u isdigit (event.getD "customer_id" (.str "CUS000123")) with
    | ok n => exact keepsId_pure (eventId_set _ (by decide))
    | error e => exact keepsId_raise

theorem keepsId_timestampDriftMutate (now : Instant) :
    KeepsId event (timestampDriftMutate now event : Fallible (Python.Random K) Dict) := by
  refine keepsId_choice fun drift _ => ?_
  cases addMicros now drift with
  | ok t => exact keepsId_pure (eventId_set _ (by decide))
  | error e => exact keepsId_raise

/-- Only a duplicate has another identifier than the event. -/
theorem eventId_mutate {env : Environment} {now : Instant} {mode : FaultMode} {d : Dict}
    {engine : FaultInjectionEngine K} (hmode : mode ≠ .duplicate)
    (h : (mutate env now mode event engine).1 = .ok d) : eventId d = eventId event := by
  have hkeeps {x : Fallible (Python.Random K) Dict} (hx : KeepsId event x)
      (hrun : (x engine.rnd).1 = .ok d) : eventId d = eventId event :=
    (hx engine.rnd trivial).1 d (x engine.rnd).2 (Prod.ext hrun rfl)
  cases mode with
  | null => exact hkeeps keepsId_nullMutate h
  | duplicate => exact absurd rfl hmode
  | negative => exact hkeeps keepsId_negativeMutate h
  | invalidEnum => exact hkeeps keepsId_invalidEnumMutate h
  | schemaDrift => exact hkeeps (keepsId_schemaDriftMutate _) h
  | typeChange => exact hkeeps (keepsId_typeChangeMutate _ _) h
  | timestampDrift => exact hkeeps (keepsId_timestampDriftMutate now) h

end

/-! ## A call -/

/-- The engine once the event is recorded. -/
def recorded (engine : FaultInjectionEngine K) (call : Call) : FaultInjectionEngine K :=
  { engine with history := recordEvent maxHistory engine.history call.event }

theorem mem_recordEvent {bound : ℕ} (h : 0 < bound) (history : List Dict) (event : Dict) :
    event ∈ recordEvent bound history event := by
  unfold recordEvent
  rw [List.drop_append_of_le_length (by omega)]
  exact List.mem_append_right _ List.mem_cons_self

/-- As long as there is room, nothing is dropped. -/
theorem recordEvent_of_lt {bound : ℕ} {history : List Dict} (h : history.length < bound)
    (event : Dict) : recordEvent bound history event = history ++ [event] := by
  rw [recordEvent, Nat.sub_eq_zero_of_le h, List.drop_zero]

theorem recorded_ne_nil (engine : FaultInjectionEngine K) (call : Call) :
    (recorded engine call).history ≠ [] := by
  have hbound : 0 < maxHistory := by
    rw [maxHistory]
    decide
  have hmem := mem_recordEvent hbound engine.history call.event
  exact List.ne_nil_of_mem hmem

theorem mem_recorded {engine : FaultInjectionEngine K} {call : Call} {d : Dict}
    (h : d ∈ (recorded engine call).history) : d ∈ engine.history ∨ d = call.event := by
  have hmem : d ∈ engine.history ++ [call.event] := List.mem_of_mem_drop h
  rwa [List.mem_append, List.mem_singleton] at hmem

section

variable [LinearOrder K] [RatCast K]

/-- The call is one for a duplicate, and the history's entry that is drawn is `event`. -/
def DrawsAgain (engine : FaultInjectionEngine K) (call : Call) (event : Dict) : Prop :=
  ∃ engine', selectedMode call (recorded engine call) = (.ok (some FaultMode.duplicate.value), engine') ∧
    engine'.rnd.pick engine'.history = some event

/-- The event of the call passes through, or what its mode makes of it is the event again. -/
def PassesUnchanged (env : Environment) (engine : FaultInjectionEngine K) (call : Call) : Prop :=
  ∃ selected engine', selectedMode call (recorded engine call) = (.ok selected, engine') ∧
    (selected = none ∨ ∃ mode ≠ .duplicate, selected = some mode.value ∧
      (mutate env call.now mode call.event engine').1 = .ok call.event)

/-- A step of a run: the engine before a call, and the call. -/
abbrev Step (K : Type) := FaultInjectionEngine K × Call

/-- The steps of a run, whatever its calls raise. -/
def steps (env : Environment) : FaultInjectionEngine K → List Call → List (Step K)
  | _, [] => []
  | engine, call :: calls => (engine, call) :: steps env (processEvent env call engine).2 calls

/-- What a step returns or raises. -/
def outcome (env : Environment) (s : Step K) : Except Exc Processed := (processEvent env s.2 s.1).1

/-- Every duplicate of a run is an event that an earlier step returned. -/
def DuplicatesReal (env : Environment) (run : List (Step K)) : Prop :=
  ∀ (i : ℕ) (s : Step K) d, run[i]? = some s → outcome env s = .ok (d, true, some FaultMode.duplicate.value) →
    ∃ j < i, ∃ (s' : Step K) (flag : Bool) (mode : Option Text), run[j]? = some s' ∧ outcome env s' = .ok (d, flag, mode)

/-- Every event that is drawn again is that of an earlier call, which it passed unchanged. -/
def RepeatsUnchanged (env : Environment) (run : List (Step K)) : Prop :=
  ∀ (i : ℕ) (s : Step K) d, run[i]? = some s → DrawsAgain s.1 s.2 d →
    ∃ j < i, ∃ s' : Step K, run[j]? = some s' ∧ s'.2.event = d ∧ PassesUnchanged env s'.1 s'.2

/-- Selecting a mode raises nothing, and changes nothing but the random numbers. -/
theorem selectedMode_run (call : Call) (engine : FaultInjectionEngine K) :
    ∃ selected rnd', selectedMode call engine = (.ok selected, { engine with rnd := rnd' }) := by
  unfold selectedMode
  cases call.targetFaultMode with
  | some mode => exact ⟨some mode, engine.rnd, rfl⟩
  | none =>
    obtain ⟨selected, rnd', hrun, -⟩ := selectFaultMode_run engine
    exact ⟨selected, rnd', hrun⟩

variable {env : Environment} {engine engine' : FaultInjectionEngine K} {call : Call} {d : Dict}

theorem processEvent_eq {selected : Option Text}
    (h : selectedMode call (recorded engine call) = (.ok selected, engine')) :
    processEvent env call engine = applyMode env call selected engine' := by
  have hrecord : recordCleanEvent call.event engine = (.ok (), recorded engine call) := rfl
  rw [processEvent, bind_ok hrecord, bind_ok h]

omit [LinearOrder K] [RatCast K] in
/-- What is returned for a mode is what its strategy makes of the event. -/
theorem applyMode_eq (mode : FaultMode) :
    (applyMode env call (some mode.value) engine').1 =
      ((mutate env call.now mode call.event engine').1.map fun d => (d, true, some mode.value)) := by
  rw [applyMode, FaultMode.ofValue?_value]
  dsimp only
  rcases hmutate : mutate env call.now mode call.event engine' with ⟨e | d, engine''⟩
  · rw [bind_error hmutate]
    rfl
  · rw [bind_ok hmutate]
    rfl

omit [LinearOrder K] [RatCast K] in
/-- A duplicate is the entry that is drawn. -/
theorem mutate_duplicate {now : Instant} (hhistory : engine'.history ≠ []) :
    ∃ d, engine'.rnd.pick engine'.history = some d ∧
      (mutate env now .duplicate call.event engine').1 = .ok d := by
  obtain ⟨d, -, hpick⟩ := Python.Random.exists_pick engine'.rnd hhistory
  refine ⟨d, hpick, ?_⟩
  change (duplicateMutate engine'.history call.event engine'.rnd).1 = _
  rw [duplicateMutate, if_neg hhistory, Python.Random.choice_of_pick hpick]

/-- The mode that is selected, and what the call returns for it. -/
theorem outcome_cases (env : Environment) (s : Step K) :
    (outcome env s = .ok (s.2.event, false, none) ∧ PassesUnchanged env s.1 s.2) ∨
    (∃ e, outcome env s = .error e) ∨
    (∃ d, outcome env s = .ok (d, true, some FaultMode.duplicate.value) ∧ DrawsAgain s.1 s.2 d) ∨
    (∃ d, ∃ mode ≠ FaultMode.duplicate, outcome env s = .ok (d, true, some mode.value) ∧
      eventId d = eventId s.2.event ∧ (d = s.2.event → PassesUnchanged env s.1 s.2)) := by
  obtain ⟨engine, call⟩ := s
  obtain ⟨selected, rnd', hselected⟩ := selectedMode_run call (recorded engine call)
  unfold outcome
  rw [processEvent_eq hselected]
  cases selected with
  | none => exact .inl ⟨rfl, none, _, hselected, .inl rfl⟩
  | some name =>
    cases hname : FaultMode.ofValue? name with
    | none =>
      right; left
      rw [applyMode, hname]
      exact ⟨_, rfl⟩
    | some mode =>
      obtain rfl : mode.value = name := by simpa using List.find?_some hname
      rw [applyMode_eq]
      by_cases hmode : mode = .duplicate
      · subst hmode
        obtain ⟨d, hpick, hmutate⟩ := @mutate_duplicate K env
          { recorded engine call with rnd := rnd' } call call.now (recorded_ne_nil engine call)
        rw [hmutate]
        exact .inr (.inr (.inl ⟨d, rfl, _, hselected, hpick⟩))
      · cases hmutate : (mutate env call.now mode call.event
            { recorded engine call with rnd := rnd' }).1 with
        | error e => exact .inr (.inl ⟨e, rfl⟩)
        | ok d =>
          refine .inr (.inr (.inr ⟨d, mode, hmode, rfl, eventId_mutate hmode hmutate, ?_⟩))
          rintro rfl
          exact ⟨_, _, hselected, .inr ⟨mode, hmode, rfl, hmutate⟩⟩

theorem outcome_of_drawsAgain (env : Environment) {s : Step K} (h : DrawsAgain s.1 s.2 d) :
    outcome env s = .ok (d, true, some FaultMode.duplicate.value) := by
  obtain ⟨engine', hselected, hpick⟩ := h
  have hhistory : engine'.history ≠ [] := List.ne_nil_of_mem (List.mem_of_getElem? hpick)
  obtain ⟨d', hpick', hmutate⟩ := @mutate_duplicate K env engine' s.2 s.2.now hhistory
  obtain rfl : d = d' := Option.some.inj (hpick.symm.trans hpick')
  unfold outcome
  rw [processEvent_eq hselected, applyMode_eq, hmutate]
  rfl

theorem drawsAgain_of_outcome {s : Step K}
    (h : outcome env s = .ok (d, true, some FaultMode.duplicate.value)) : DrawsAgain s.1 s.2 d := by
  obtain ⟨hclean, -⟩ | ⟨e, hraised⟩ | ⟨d', hduplicate, hdraws⟩ | ⟨d', mode, hmode, hmutated, -⟩ :=
    outcome_cases env s
  · rw [hclean] at h
    cases h
  · rw [hraised] at h
    cases h
  · rw [hduplicate] at h
    obtain rfl := congrArg Prod.fst (Except.ok.inj h)
    exact hdraws
  · rw [hmutated] at h
    have hvalue := congrArg (fun p => p.2.2) (Except.ok.inj h)
    exact absurd (FaultMode.value_injective (Option.some.inj hvalue)) hmode

theorem outcome_of_passesUnchanged {s : Step K} (h : PassesUnchanged env s.1 s.2) :
    ∃ flag mode, outcome env s = .ok (s.2.event, flag, mode) := by
  obtain ⟨selected, engine', hselected, rfl | ⟨mode, -, rfl, hmutate⟩⟩ := h
  · unfold outcome
    rw [processEvent_eq hselected]
    exact ⟨false, none, rfl⟩
  · unfold outcome
    rw [processEvent_eq hselected, applyMode_eq, hmutate]
    exact ⟨true, some mode.value, rfl⟩

/-- A call adds its event to the history, and nothing else changes it. -/
theorem processEvent_history (env : Environment) (engine : FaultInjectionEngine K) (call : Call) :
    (processEvent env call engine).2.history = (recorded engine call).history := by
  obtain ⟨selected, rnd', hselected⟩ := selectedMode_run call (recorded engine call)
  have happly : Preserves (fun e : FaultInjectionEngine K => e.history = (recorded engine call).history)
      (applyMode env call selected) := by
    cases selected with
    | none => exact fun _ h => h
    | some name =>
      unfold applyMode
      dsimp only
      cases FaultMode.ofValue? name with
      | none => exact preserves_raise _
      | some mode =>
        have hmutate : Preserves (fun e : FaultInjectionEngine K =>
            e.history = (recorded engine call).history) (mutate env call.now mode call.event) :=
          fun _ h => h
        exact hmutate.bind fun _ _ h => h
  rw [processEvent_eq hselected]
  exact happly _ rfl

/-- The history holds events of the calls before. -/
theorem mem_history {calls : List Call} {engine : FaultInjectionEngine K} {i : ℕ} {s : Step K}
    (hs : (steps env engine calls)[i]? = some s) {d : Dict} (hd : d ∈ s.1.history) :
    d ∈ engine.history ∨ ∃ k < i, ∃ s', (steps env engine calls)[k]? = some s' ∧ s'.2.event = d := by
  induction calls generalizing engine i with
  | nil => cases hs
  | cons call calls ih =>
    cases i with
    | zero =>
      obtain rfl := Option.some.inj hs
      exact .inl hd
    | succ i =>
      obtain hold | ⟨k, hk, s', hs', hevent⟩ := ih hs
      · rw [processEvent_history] at hold
        obtain hold | rfl := mem_recorded hold
        · exact .inl hold
        · exact .inr ⟨0, Nat.succ_pos i, (engine, call), rfl, rfl⟩
      · exact .inr ⟨k + 1, Nat.succ_lt_succ hk, s', hs', hevent⟩

theorem steps_calls (engine : FaultInjectionEngine K) (calls : List Call) :
    (steps env engine calls).map Prod.snd = calls := by
  induction calls generalizing engine with
  | nil => rfl
  | cons call calls ih =>
    unfold steps
    rw [List.map_cons, ih]

/-- What a duplicate repeats is the event of this call or of one before. -/
theorem event_of_drawsAgain {calls : List Call} (hfresh : engine.history = []) {i : ℕ} {s : Step K}
    (hs : (steps env engine calls)[i]? = some s) (hdraws : DrawsAgain s.1 s.2 d) :
    ∃ (k : ℕ) (s' : Step K), (steps env engine calls)[k]? = some s' ∧ s'.2.event = d := by
  obtain ⟨engine', hselected, hpick⟩ := hdraws
  obtain ⟨selected, rnd', hrun⟩ := selectedMode_run s.2 (recorded s.1 s.2)
  have hhistory : engine'.history = (recorded s.1 s.2).history := by
    rw [hrun] at hselected
    exact congrArg (fun e => e.history) (congrArg Prod.snd hselected).symm
  have hmem : d ∈ (recorded s.1 s.2).history := by
    rw [← hhistory]
    exact List.mem_of_getElem? hpick
  obtain hold | rfl := mem_recorded hmem
  · obtain hnone | ⟨k, -, s', hs', hevent⟩ := mem_history hs hold
    · rw [hfresh] at hnone
      exact absurd hnone List.not_mem_nil
    · exact ⟨k, s', hs', hevent⟩
  · exact ⟨i, s, hs, rfl⟩

/-- Steps whose events have the same identifier are the same. -/
theorem step_unique {calls : List Call} (hdistinct : (calls.map fun call => eventId call.event).Nodup)
    {i j : ℕ} {s s' : Step K} (hs : (steps env engine calls)[i]? = some s)
    (hs' : (steps env engine calls)[j]? = some s') (hid : eventId s.2.event = eventId s'.2.event) :
    s = s' := by
  have hmap : (steps env engine calls).map (fun s => eventId s.2.event) =
      calls.map fun call => eventId call.event := by
    conv_rhs => rw [← @steps_calls K _ _ env engine calls, List.map_map]
    rfl
  rw [← hmap] at hdistinct
  exact List.inj_on_of_nodup_map hdistinct (List.mem_of_getElem? hs) (List.mem_of_getElem? hs') hid

/-- In every run of an engine over events with identifiers of their own, the duplicates are real
just in case each of them repeats an earlier event that came back unchanged. -/
theorem duplicates_real_iff (env : Environment) {rates : Option (List (Text × ℚ))}
    {activeModes schemaDriftTypes : Option (List Text)} {rnd : Python.Random K}
    {engine : FaultInjectionEngine K} {calls : List Call}
    (hinit : FaultInjectionEngine.init env.unicode rates activeModes schemaDriftTypes rnd = .ok engine)
    (hdistinct : (calls.map fun call => eventId call.event).Nodup) :
    DuplicatesReal env (steps env engine calls) ↔ RepeatsUnchanged env (steps env engine calls) := by
  have hfresh : engine.history = [] := by
    obtain ⟨_, -, hengine⟩ := bind_eq_ok hinit
    obtain rfl := Except.ok.inj hengine
    rfl
  constructor
  · intro hreal i
    induction i using Nat.strong_induction_on with
    | h i ih =>
      intro s d hs hdraws
      obtain ⟨j, hj, s', flag, mode, hs', hemitted⟩ :=
        hreal i s d hs (outcome_of_drawsAgain env hdraws)
      obtain ⟨hclean, hpasses⟩ | ⟨e, hraised⟩ | ⟨d', hduplicate, hdraws'⟩ |
        ⟨d', mode', -, hmutated, hid, hpasses⟩ := outcome_cases env s'
      · rw [hclean] at hemitted
        obtain rfl := congrArg Prod.fst (Except.ok.inj hemitted)
        exact ⟨j, hj, s', hs', rfl, hpasses⟩
      · rw [hraised] at hemitted
        cases hemitted
      · -- an earlier duplicate, which repeats what came back unchanged
        rw [hduplicate] at hemitted
        obtain rfl := congrArg Prod.fst (Except.ok.inj hemitted)
        obtain ⟨k, hk, source, hsource⟩ := ih j hj s' d' hs' hdraws'
        exact ⟨k, hk.trans hj, source, hsource⟩
      · rw [hmutated] at hemitted
        obtain rfl := congrArg Prod.fst (Except.ok.inj hemitted)
        obtain ⟨k, source, hsource, rfl⟩ := event_of_drawsAgain hfresh hs hdraws
        obtain rfl := step_unique hdistinct hsource hs' hid
        exact ⟨j, hj, source, hs', rfl, hpasses rfl⟩
  · intro hrepeats i s d hs hreturned
    obtain ⟨j, hj, s', hs', rfl, hpasses⟩ := hrepeats i s d hs (drawsAgain_of_outcome hreturned)
    obtain ⟨flag, mode, hemitted⟩ := outcome_of_passesUnchanged hpasses
    exact ⟨j, hj, s', flag, mode, hs', hemitted⟩

end

/-! ### Two events -/

def exampleEnvironment : Environment := ⟨.ascii, fun c => (Unicode.ascii.digit c).isSome⟩

/-- No rate is given, and `choice` picks what comes first. -/
def exampleEngine : FaultInjectionEngine ℚ where
  rnd := ⟨fun _ => 0, fun _ => 0⟩
  rates := allFaultModes.map fun mode => (mode, 0)
  activeModes := allFaultModes
  allowedDriftTypes := allSchemaDriftTypes
  history := []
  statistics := { configuredRates := allFaultModes.map fun mode => (mode, 0) }

theorem exampleEngine_init : FaultInjectionEngine.init exampleEnvironment.unicode none none none
    ⟨fun _ => 0, fun _ => 0⟩ = .ok exampleEngine := rfl

def firstCall (mode : Option Text) : Call where
  event := [("event_id", .str "evt_1")]
  targetFaultMode := mode
  now := 0

def secondCall : Call where
  event := [("event_id", .str "evt_2")]
  targetFaultMode := some "DUPLICATE"
  now := 0

/-- The history once both are recorded. -/
theorem example_history : (recorded (processEvent exampleEnvironment (firstCall none)
    exampleEngine).2 secondCall).history = [(firstCall none).event, secondCall.event] := by
  have hbound : 1 < maxHistory := by
    rw [maxHistory]
    decide
  have hfirst : (processEvent exampleEnvironment (firstCall none) exampleEngine).2.history =
      [(firstCall none).event] := by
    rw [processEvent_history]
    exact recordEvent_of_lt (Nat.zero_lt_of_lt hbound) _
  change recordEvent maxHistory _ _ = _
  rw [hfirst, recordEvent_of_lt hbound]
  rfl

theorem clean_event_repeated : DuplicatesReal exampleEnvironment
    (steps exampleEnvironment exampleEngine [firstCall none, secondCall]) := by
  have hdistinct : ([firstCall none, secondCall].map fun call => eventId call.event).Nodup := by
    simp [firstCall, secondCall, eventId, Dict.get?, text]
  have hclean : selectedMode (firstCall none) (recorded exampleEngine (firstCall none)) =
      (.ok none, recorded exampleEngine (firstCall none)) := rfl
  apply (duplicates_real_iff exampleEnvironment exampleEngine_init hdistinct).mpr
  intro i s d hs hdraws
  rcases i with _ | _ | i
  · obtain rfl := Option.some.inj hs
    obtain ⟨engine', hselected, -⟩ := hdraws
    have hnone := congrArg Prod.fst (hclean.symm.trans hselected)
    cases Except.ok.inj hnone
  · obtain rfl := Option.some.inj hs
    obtain ⟨engine', hselected, hpick⟩ := hdraws
    obtain rfl := congrArg Prod.snd hselected
    change Python.Random.pick _ (recorded _ secondCall).history = some d at hpick
    rw [example_history] at hpick
    obtain rfl : (firstCall none).event = d := Option.some.inj hpick
    exact ⟨0, Nat.one_pos, _, rfl, rfl, none, _, hclean, .inl rfl⟩
  · cases hs

/-- The first event is a duplicate of itself. -/
theorem own_event_repeated : ¬DuplicatesReal exampleEnvironment
    (steps exampleEnvironment exampleEngine [firstCall (some "DUPLICATE")]) := by
  intro h
  have hbound : ([] : List Dict).length < maxHistory := by
    rw [maxHistory]
    decide
  have hdraws : DrawsAgain exampleEngine (firstCall (some "DUPLICATE"))
      [("event_id", .str "evt_1")] := by
    refine ⟨_, rfl, ?_⟩
    change Python.Random.pick _ (recordEvent maxHistory [] _) = _
    rw [recordEvent_of_lt hbound]
    rfl
  obtain ⟨j, hj, -⟩ := h 0 _ _ rfl (outcome_of_drawsAgain exampleEnvironment hdraws)
  exact Nat.not_lt_zero j hj

end IceStream.Generator
