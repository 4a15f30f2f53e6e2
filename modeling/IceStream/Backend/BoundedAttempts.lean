import IceStream.Backend.IncidentService
import IceStream.Remediation.Outcomes
import IceStream.Remediation.Path

/-!
# Bounded attempts

The attempts on an incident are counted in its row. Every write of the workflow carries the
count that its call began with.
-/

namespace IceStream.Remediation
open Python World

variable {φ : Type}

/-- The limit is finite and positive, with the whole part `limit`. -/
def AttemptLimit.Allows (limit : ℕ) : AttemptLimit → Prop
  | .none => False
  | .int i => 0 < i ∧ i = limit
  | .float x => 0 < x ∧ x.isInf = false ∧ trunc x = limit

theorem AttemptLimit.exceededBy_iff {limit attempt : ℕ} {m : AttemptLimit} (h : m.Allows limit) :
    m.exceededBy attempt = true ↔ limit < attempt := by
  cases m with
  | none => cases h
  | int i =>
    obtain ⟨hpos, rfl⟩ := h
    simp only [exceededBy, decide_eq_true hpos, Bool.true_and, decide_eq_true_eq, Nat.cast_lt]
  | float x =>
    obtain ⟨hpos, hfinite, htrunc⟩ := h
    simp only [exceededBy, decide_eq_true hpos, hfinite, htrunc, Bool.true_and, Bool.not_false,
      decide_eq_true_eq, Nat.cast_lt]

/-- The numbers of the attempts that rows of the history begin. -/
def attemptsBegun (rows : List StateHistoryRow) : List ℕ :=
  rows.filterMap fun row => if row.toState = .remediating then some row.recoveryAttempt else none

/-- The row of the incident counts `n` attempts. -/
def Counts (incidentId : IncidentId) (n : ℕ) (w : World φ) : Prop :=
  ∃ row, w.incidents.lookup incidentId = some row ∧ row.recoveryAttempt = n

/-- The history has grown by a single attempt, the `n`th, and the row of the incident says so. -/
structure Attempting (incidentId : IncidentId) (n : ℕ) (history : List StateHistoryRow)
    (w : World φ) : Prop where
  counts : Counts incidentId n w
  begun : ∃ rows, w.pipeline.history = history ++ rows ∧ attemptsBegun rows = [n]

/-! ## The workflow keeps the number -/

section

variable {incidentId : IncidentId} {n : ℕ} {history : List StateHistoryRow} {readings : Readings}
  {incident : Incident}

theorem Counts.createIncident {w : World φ} (h : Counts incidentId n w)
    (hn : incident.incidentId = incidentId → incident.recoveryAttempt = n) :
    Counts incidentId n { w with incidents := w.incidents.createIncident incident } := by
  rw [Counts, Incidents.lookup_createIncident_eq]
  split
  · rename_i hid
    exact ⟨_, rfl, (Incidents.written_columns _ _).2.1.trans (hn hid.symm)⟩
  · exact h

theorem attempting_saveIncident (hn : incident.recoveryAttempt = n) :
    Fallible.Preserves (Attempting (φ := φ) incidentId n history) (saveIncident incident) :=
  fun _ h => ⟨h.counts.createIncident fun _ => hn, h.begun⟩

theorem attempting_enter {t : Transition} (ht : t.toState ≠ .remediating) :
    Fallible.Preserves (Attempting (φ := φ) incidentId n history) (World.enter readings t) := by
  intro w h
  rw [World.enter, Pipeline.transitionTo]
  split_ifs with hallows
  · obtain ⟨rows, hrows, hbegun⟩ := h.begun
    refine ⟨h.counts, rows ++ [⟨w.pipeline.state, t.toState, t.reason,
      readings.time (.entered t.toState), t.incidentId, t.recoveryAttempt⟩], ?_, ?_⟩
    · rw [← List.append_assoc, ← hrows]
      rfl
    · rw [attemptsBegun, List.filterMap_append, ← attemptsBegun, hbegun]
      simp [ht]
  · exact h

theorem attempting_recordAttempt (row : RemediationAttempt) :
    Fallible.Preserves (Attempting (φ := φ) incidentId n history) (recordAttempt row) :=
  fun _ h => ⟨h.counts, h.begun⟩

theorem attempting_log (action : Action) :
    Fallible.Preserves (Attempting (φ := φ) incidentId n history) (World.log action) :=
  fun _ h => ⟨h.counts, h.begun⟩

theorem attempting_onOutside {α : Type} (x : Fallible φ α) :
    Fallible.Preserves (Attempting incidentId n history) (onOutside x) :=
  fun _ h => ⟨h.counts, h.begun⟩

theorem attempting_circuitState (reading : Reading) :
    Fallible.Preserves (Attempting (φ := φ) incidentId n history) (circuitState reading) :=
  fun _ h => ⟨h.counts, h.begun⟩

theorem attempting_onCircuit {α : Type} (x : Fallible Circuit α) :
    Fallible.Preserves (Attempting (φ := φ) incidentId n history) (onCircuit x) :=
  fun _ h => ⟨h.counts, h.begun⟩

variable (hn : incident.recoveryAttempt = n) (ports : Ports φ)
include hn

theorem attempting_recordFailure (attempt : ℕ) (error : Text) :
    Fallible.Preserves (Attempting (φ := φ) incidentId n history)
      (recordFailure readings incidentId incident attempt error) := by
  refine Fallible.Preserves.bind (attempting_enter nofun) fun _ => ?_
  exact attempting_saveIncident hn

/-- A failure that is written to the attempts as well. -/
theorem attempting_failed (attempt : ℕ) (error : Text) (row : RemediationAttempt)
    (result : RemediationResult) :
    Fallible.Preserves (Attempting (φ := φ) incidentId n history) (do
      recordFailure readings incidentId incident attempt error
      recordAttempt row
      pure result) := by
  apply (attempting_recordFailure hn attempt error).bind
  intro _
  apply (attempting_recordAttempt row).bind
  intro _
  exact Fallible.preserves_pure _

theorem attempting_complete (attempt : ℕ) (result : ReprocessResult) (sink : IngestionResult) :
    Fallible.Preserves (Attempting incidentId n history)
      (complete ports readings incidentId incident attempt result sink) := by
  apply (attempting_recordAttempt _).bind
  intro _
  refine Fallible.Preserves.bind (attempting_enter nofun) fun _ => ?_
  refine Fallible.Preserves.bind (attempting_enter nofun) fun _ => ?_
  apply (attempting_onOutside _).bind
  intro _
  apply (attempting_log _).bind
  intro _
  refine Fallible.Preserves.bind (attempting_saveIncident hn) fun _ => ?_
  apply (attempting_recordAttempt _).bind
  intro _
  exact Fallible.preserves_pure _

theorem attempting_reprocessAndReingest (attempt : ℕ) (events : List Dict) :
    Fallible.Preserves (Attempting incidentId n history)
      (reprocessAndReingest ports readings incidentId incident attempt events) := by
  refine Fallible.Preserves.bind (attempting_enter nofun) fun _ => ?_
  have hrevalidate : Fallible.Preserves (Attempting (φ := φ) incidentId n history)
      (revalidate ports incidentId events attempt) := fun _ h => ⟨h.counts, h.begun⟩
  apply hrevalidate.bind
  intro result
  refine Fallible.Preserves.bind (attempting_enter nofun) fun _ => ?_
  refine Fallible.Preserves.bind (preserves_recordRecoveryResult
    (fun _ _ h => ⟨h.counts, h.begun⟩) (fun _ _ h => ⟨h.counts, h.begun⟩) _) fun recorded => ?_
  refine Fallible.Preserves.bind (preserves_mayReingest
    (fun _ _ h => ⟨h.counts, h.begun⟩) (fun _ _ h => ⟨h.counts, h.begun⟩) _ _) fun proceed => ?_
  split
  · refine Fallible.Preserves.bind (attempting_enter nofun) fun _ => ?_
    have hsink : Fallible.Preserves (Attempting (φ := φ) incidentId n history)
        (callSink ports result.validEvents) := by
      apply (attempting_onOutside _).attempt.bind
      intro answer
      apply (attempting_log _).bind
      intro _
      exact Fallible.preserves_pure _
    apply hsink.bind
    intro sink
    split
    · exact attempting_complete hn ports attempt result sink
    · exact attempting_failed hn attempt _ _ _
  · exact attempting_failed hn attempt _ _ _

theorem attempting_recover (attempt : ℕ) (ctx : Dict) :
    Fallible.Preserves (Attempting incidentId n history)
      (recover ports readings incidentId incident attempt ctx) := by
  unfold recover
  split
  · exact attempting_failed hn attempt _ _ _
  · have hsend : Fallible.Preserves (Attempting incidentId n history)
        (sendAlert ports readings incidentId incident attempt) := by
      apply (attempting_onOutside _).bind
      intro success
      exact attempting_recordAttempt _
    apply hsend.bind
    intro _
    refine Fallible.Preserves.bind (attempting_enter nofun) fun _ => ?_
    apply (attempting_onOutside _).attempt.bind
    intro fetched
    cases fetched with
    | error e =>
      apply (attempting_recordFailure hn attempt _).bind
      intro _
      exact Fallible.preserves_pure _
    | ok events =>
      apply (attempting_log _).bind
      intro _
      exact attempting_reprocessAndReingest hn ports attempt events

end

/-! ## One call -/

section

variable (ports : Ports φ) (cfg : ControllerConfig) (readings : Readings)
  (incidentId : IncidentId) (ctx : Dict)

/-- The call begins a single attempt, the `n`th, which the row of the incident then counts. -/
def GetsPast (n : ℕ) (w : World φ) : Prop :=
  Attempting incidentId n w.pipeline.history
    (executeRemediation ports cfg readings incidentId ctx w).2

/-- Whatever the source and the sink are, the call is turned away, and only the pipeline's failure
is recorded. -/
def TurnedAway (cfg : ControllerConfig) (readings : Readings) (incidentId : IncidentId)
    (ctx : Dict) (w : World φ) : Prop :=
  ∃ answer pipeline, answer.stage = "MAX_ATTEMPTS_EXCEEDED" ∧ ∀ ports : Ports φ,
    executeRemediation ports cfg readings incidentId ctx w = (.ok answer, { w with
      pipeline := pipeline
      trace := w.trace ++ [.entered .recoveryFailed] })

variable {incidentId} {n limit : ℕ} {w : World φ}

theorem executeRemediation_idle (hidle : w.active = false) :
    executeRemediation ports cfg readings incidentId ctx w =
      ((remediate ports cfg readings incidentId ctx { w with active := true }).1,
        { (remediate ports cfg readings incidentId ctx { w with active := true }).2 with
          active := false }) := by
  rw [executeRemediation, Fallible.read_bind, if_neg (by simp [hidle]), Fallible.update_bind]
  rfl

/-- The call loads the stored incident, with its count. -/
theorem getOrCreateIncident_of_counts (h : Counts incidentId n w) : ∃ incident,
    incident.incidentId = incidentId ∧ incident.recoveryAttempt = n ∧
      getOrCreateIncident cfg readings {} (some incidentId) w = (.ok incident, w) := by
  obtain ⟨row, hrow, hn⟩ := h
  have hget : w.incidents.getIncident incidentId = some row.normalized := by
    rw [Incidents.getIncident, hrow]
    rfl
  refine ⟨row.normalized, Incidents.getIncident_id hget, hn, ?_⟩
  rw [getOrCreateIncident, Fallible.read_bind]
  simp only [hget]
  rfl

theorem maxAttemptsExceeded_eq (attempt : ℕ) (w : World φ) :
    maxAttemptsExceeded cfg readings incidentId attempt w =
      (.ok (failure readings incidentId "MAX_ATTEMPTS_EXCEEDED" (attempt - 1)
        "Maximum recovery attempts exceeded"), { w with
          pipeline := w.pipeline.moved (readings.time (.entered .recoveryFailed))
            (Pipeline.failure (text "Max recovery attempts (" ++ cfg.maxRecoveryAttempts.shown ++
              text ") exceeded") (some incidentId) (attempt - 1))
          trace := w.trace ++ [.entered .recoveryFailed] }) := by
  rw [maxAttemptsExceeded, Fallible.bind_ok (enter_of_allows (Pipeline.allows_of_force rfl))]
  rfl

theorem turnedAway_of_le (hlimit : cfg.maxRecoveryAttempts.Allows limit)
    (hidle : w.active = false) (hcounts : Counts incidentId n w) (hn : limit ≤ n) :
    TurnedAway cfg readings incidentId ctx w := by
  have hactive : Counts incidentId n { w with active := true } := hcounts
  obtain ⟨incident, -, hattempt, hload⟩ := getOrCreateIncident_of_counts cfg readings hactive
  have hexceeded : cfg.maxRecoveryAttempts.exceededBy (incident.recoveryAttempt + 1) = true := by
    rw [AttemptLimit.exceededBy_iff hlimit, hattempt]
    omega
  obtain ⟨answer, pipeline, hstage, hturned⟩ : ∃ answer pipeline,
      answer.stage = "MAX_ATTEMPTS_EXCEEDED" ∧ maxAttemptsExceeded cfg readings incidentId
        (incident.recoveryAttempt + 1) { w with active := true } = (.ok answer, { w with
          pipeline := pipeline, active := true
          trace := w.trace ++ [.entered .recoveryFailed] }) :=
    ⟨_, _, rfl, maxAttemptsExceeded_eq cfg readings _ _⟩
  refine ⟨answer, pipeline, hstage, fun ports => ?_⟩
  rw [executeRemediation_idle ports cfg readings ctx hidle, remediate, Fallible.bind_ok hload]
  simp only [if_pos hexceeded, hturned, hidle]

theorem attempting_beginAttempt {incident : Incident} (hid : incident.incidentId = incidentId)
    (hn : incident.recoveryAttempt = n) (w : World φ) : ∃ w₁,
      beginAttempt ports readings incidentId incident n w = (.ok (), w₁) ∧
        Attempting incidentId n w.pipeline.history w₁ := by
  have hsave : saveIncident incident w =
      (.ok (), { w with incidents := w.incidents.createIncident incident }) := rfl
  rw [beginAttempt, Fallible.bind_ok hsave,
    Fallible.bind_ok (enter_of_allows (Pipeline.allows_of_force rfl))]
  refine ⟨_, rfl, ?_, [⟨w.pipeline.state, .remediating, _, _, some incidentId, n⟩], rfl, rfl⟩
  obtain ⟨row, hrow, -, hattempt⟩ := Incidents.lookup_createIncident w.incidents incident
  rw [hid] at hrow
  exact ⟨row, hrow, hattempt.trans hn⟩

/-- An attempt within the limit is begun, whatever becomes of it. -/
theorem getsPast_of_lt (hlimit : cfg.maxRecoveryAttempts.Allows limit) (hidle : w.active = false)
    (hcounts : Counts incidentId n w) (hn : n < limit) :
    GetsPast ports cfg readings incidentId ctx (n + 1) w := by
  have hactive : Counts incidentId n { w with active := true } := hcounts
  obtain ⟨incident, hid, hattempt, hload⟩ := getOrCreateIncident_of_counts cfg readings hactive
  have hwithin : ¬cfg.maxRecoveryAttempts.exceededBy (incident.recoveryAttempt + 1) = true := by
    rw [AttemptLimit.exceededBy_iff hlimit, hattempt]
    omega
  rw [GetsPast, executeRemediation_idle ports cfg readings ctx hidle, remediate,
    Fallible.bind_ok hload]
  simp only [if_neg hwithin]
  have hn' : (attempted incident).recoveryAttempt = n + 1 := congrArg (· + 1) hattempt
  have hid' : (attempted incident).incidentId = incidentId := hid
  obtain ⟨w₁, hbegin, hattempting⟩ :=
    attempting_beginAttempt ports readings hid' hn' { w with active := true }
  rw [hattempt, Fallible.bind_ok hbegin]
  have hafter : Attempting incidentId (n + 1) w.pipeline.history
      (recover ports readings incidentId (attempted incident) (n + 1) ctx w₁).2 :=
    attempting_recover hn' ports (n + 1) ctx w₁ hattempting
  exact ⟨hafter.counts, hafter.begun⟩

theorem executeRemediation_ends_idle (hidle : w.active = false) :
    (executeRemediation ports cfg readings incidentId ctx w).2.active = false := by
  rw [executeRemediation_idle ports cfg readings ctx hidle]

end

/-! ## Many calls -/

/-- What happens to an incident: a call, an update of a row, or a change elsewhere. -/
inductive AttemptEvent (φ : Type)
  | execute (readings : Readings) (ctx : Dict)
  | update (id : IncidentId) (updates : Incident → Incident) (now : Date)
  | elsewhere (pipeline : Pipeline) (circuit : Circuit) (outside : φ)

namespace AttemptEvent

def isExecute : AttemptEvent φ → Bool
  | execute .. => true
  | _ => false

/-- An update sets neither the id nor the count of attempts. -/
def LeavesCount : AttemptEvent φ → Prop
  | update _ updates _ => ∀ i,
    (updates i).incidentId = i.incidentId ∧ (updates i).recoveryAttempt = i.recoveryAttempt
  | _ => True

end AttemptEvent

section

variable (ports : Ports φ) (cfg : ControllerConfig) (incidentId : IncidentId)

def afterEvent (w : World φ) : AttemptEvent φ → World φ
  | .execute readings ctx => (executeRemediation ports cfg readings incidentId ctx w).2
  | .update id updates now => (Backend.updateIncident id updates now w).2
  | .elsewhere pipeline circuit outside =>
    { w with pipeline := pipeline, circuit := circuit, outside := outside }

def afterEvents (w : World φ) (events : List (AttemptEvent φ)) : World φ :=
  events.foldl (afterEvent ports cfg incidentId) w

variable {cfg incidentId} {n limit : ℕ} {w : World φ}

/-- Between two calls: no call is running, and the row counts `n` attempts. -/
structure Between (incidentId : IncidentId) (n : ℕ) (w : World φ) : Prop where
  idle : w.active = false
  counts : Counts incidentId n w

theorem Between.update (h : Between incidentId n w) {id : IncidentId}
    {updates : Incident → Incident} {now : Date}
    (hupdates : (AttemptEvent.update (φ := φ) id updates now).LeavesCount) :
    Between incidentId n (Backend.updateIncident id updates now w).2 := by
  cases hread : w.incidents.getIncident id with
  | none =>
    rw [Backend.updateIncident_missing hread]
    exact h
  | some read =>
    rw [Backend.updateIncident_world hread]
    refine ⟨h.idle, h.counts.createIncident fun hid => ?_⟩
    obtain ⟨row, hrow, hn⟩ := h.counts
    have hid' : (updates read).incidentId = incidentId := hid
    rw [(hupdates read).1, Incidents.getIncident_id hread] at hid'
    rw [hid'] at hread
    obtain ⟨row', hrow', rfl⟩ := Incidents.getIncident_eq_some.mp hread
    rw [hrow] at hrow'
    cases hrow'
    exact (hupdates _).2.trans hn

/-- A call within the limit counts, and one beyond it does not. -/
theorem Between.execute (hlimit : cfg.maxRecoveryAttempts.Allows limit)
    (h : Between incidentId n w) (readings : Readings) (ctx : Dict) :
    Between incidentId (if n < limit then n + 1 else n)
      (executeRemediation ports cfg readings incidentId ctx w).2 := by
  refine ⟨executeRemediation_ends_idle ports cfg readings ctx h.idle, ?_⟩
  split_ifs with hn
  · exact (getsPast_of_lt ports cfg readings ctx hlimit h.idle h.counts hn).counts
  · obtain ⟨answer, pipeline, -, hrun⟩ :=
      turnedAway_of_le cfg readings ctx hlimit h.idle h.counts (not_lt.mp hn)
    rw [hrun ports]
    exact h.counts

theorem Between.afterEvents (hlimit : cfg.maxRecoveryAttempts.Allows limit)
    (h : Between incidentId n w) (events : List (AttemptEvent φ))
    (hevents : ∀ event ∈ events, event.LeavesCount) :
    Between incidentId (n + min (events.countP AttemptEvent.isExecute) (limit - n))
      (afterEvents ports cfg incidentId w events) := by
  induction events generalizing w n with
  | nil =>
    rw [List.countP_nil, Nat.zero_min]
    exact h
  | cons event events ih =>
    have hrest : ∀ event ∈ events, event.LeavesCount := fun event hevent =>
      hevents event (List.mem_cons_of_mem _ hevent)
    rw [afterEvents, List.foldl_cons, ← afterEvents]
    cases event with
    | execute readings ctx =>
      have hnext := ih (h.execute ports hlimit readings ctx) hrest
      have hcount : n + min (events.countP AttemptEvent.isExecute + 1) (limit - n) =
          (if n < limit then n + 1 else n) + min (events.countP AttemptEvent.isExecute)
            (limit - if n < limit then n + 1 else n) := by
        split_ifs with hn
        · omega
        · omega
      rw [List.countP_cons_of_pos rfl, hcount]
      exact hnext
    | update id updates now =>
      rw [List.countP_cons_of_neg (by exact Bool.false_ne_true)]
      exact ih (h.update (hevents _ List.mem_cons_self)) hrest
    | elsewhere pipeline circuit outside =>
      rw [List.countP_cons_of_neg (by exact Bool.false_ne_true)]
      exact ih ⟨h.idle, h.counts⟩ hrest

/-- Of the calls on an incident that counts `n` attempts, whatever happens in between, the first
get past the guard, at most `limit` of them and numbered on from `n`; each later one is turned
away. -/
def AttemptsBounded (ports : Ports φ) (cfg : ControllerConfig) (incidentId : IncidentId)
    (w : World φ) (limit n : ℕ) : Prop :=
  ∃ passed ≤ limit, ∀ events : List (AttemptEvent φ), (∀ event ∈ events, event.LeavesCount) →
    ∀ (readings : Readings) (ctx : Dict),
      let before := afterEvents ports cfg incidentId w events
      let calls := events.countP AttemptEvent.isExecute
      if calls < passed then GetsPast ports cfg readings incidentId ctx (n + 1 + calls) before
      else TurnedAway cfg readings incidentId ctx before

theorem attempts_bounded (hlimit : cfg.maxRecoveryAttempts.Allows limit)
    (hidle : w.active = false) {row : Incident} (hrow : w.incidents.lookup incidentId = some row) :
    AttemptsBounded ports cfg incidentId w limit row.recoveryAttempt := by
  refine ⟨limit - row.recoveryAttempt, Nat.sub_le _ _, fun events hevents readings ctx => ?_⟩
  have hbetween : Between incidentId row.recoveryAttempt w := ⟨hidle, row, hrow, rfl⟩
  obtain ⟨hidle', hcounts⟩ := hbetween.afterEvents ports hlimit events hevents
  dsimp only
  split_ifs with hcalls
  · rw [min_eq_left hcalls.le] at hcounts
    have hpast := getsPast_of_lt ports cfg readings ctx hlimit hidle' hcounts (by omega)
    rwa [Nat.add_right_comm] at hpast
  · exact turnedAway_of_le cfg readings ctx hlimit hidle' hcounts (by omega)

end

def oneAttempt : ControllerConfig := ⟨"icestream", .int 1⟩

/-- An incident without attempts, of which one is allowed. -/
theorem one_attempt_bounded :
    AttemptsBounded (examplePorts true) oneAttempt exampleIncident exampleWorld 1 0 := by
  have hlimit : oneAttempt.maxRecoveryAttempts.Allows 1 := ⟨by decide, rfl⟩
  have hrow : exampleWorld.incidents.lookup exampleIncident =
      some (newIncident exampleConfig {} exampleIncident 0 .open_) := rfl
  exact attempts_bounded (examplePorts true) hlimit rfl hrow

end IceStream.Remediation
