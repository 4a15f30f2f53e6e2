import IceStream.Backend.IncidentService
import IceStream.Lib.Stepping
import Mathlib.Logic.Function.Basic

/-!
# Creating incidents under concurrent callers

Controllers and the incident service give a pipeline its incident: a look-up, an
id and a write, with no transaction around them. The service does so under a
lock of its own, which the controllers do not take. A step of a thread is one
access to the table.
-/

namespace IceStream.Backend
open Python Remediation Stepping

/-- Who may create incidents; the service stores all of its own under `icestream`. -/
structure Creators where
  cfg : ControllerConfig
  collation : Collation
  unicode : Unicode
  pipelineId_eq : cfg.pipelineId = text "icestream"

/-- A call that comes without an incident id, with what it reads from its surroundings. -/
inductive Creation
  | controller (request : IncidentRequest) (circuitState : CircuitState) (now : Date) (date : Text)
  | service (report : IncidentReport) (readings : IncidentReadings) (sent : Except Exc Bool)

namespace Creation

/-- What `find_active_incident` is asked for. -/
def key (creators : Creators) : Creation → Text
  | controller _ _ _ _ => creators.cfg.pipelineId
  | service report _ _ => report.pipelineName

def date : Creation → Text
  | controller _ _ _ date => date
  | service _ readings _ => readings.date

def incident (creators : Creators) (id : IncidentId) : Creation → Incident
  | controller request circuitState now _ => newIncident creators.cfg request id now circuitState
  | service report readings _ => report.incident id readings.now

/-- Whether the call holds `_INCIDENT_LOCK`, until its incident is stored. -/
def locks : Creation → Bool
  | controller _ _ _ _ => false
  | service _ _ _ => true

end Creation

/-- What an `update_incident` is about. -/
structure IncidentUpdate where
  id : IncidentId
  updates : Incident → Incident
  now : Date
  locked : Bool

/-- Where a thread stands between two of its steps. -/
inductive CreationPhase
  | idle
  | looking (call : Creation)
  | generating (call : Creation)
  | inserting (call : Creation) (id : IncidentId)
  /-- `create_incident` reads the incident back. -/
  | inserted (call : Creation) (id : IncidentId)
  | fetching (update : IncidentUpdate)
  | merging (update : IncidentUpdate) (merged : Incident)
  | merged (update : IncidentUpdate)

structure CreationThreads where
  rows : Incidents
  locked : Bool
  phase : ℕ → CreationPhase

inductive CreationStep
  | start (thread : ℕ) (call : Creation)
  | step (thread : ℕ)

namespace CreationThreads

def moveTo (s : CreationThreads) (thread : ℕ) (phase : CreationPhase) : CreationThreads :=
  { s with phase := Function.update s.phase thread phase }

/-- The call is over; it gives back the lock if it has it. -/
def finish (s : CreationThreads) (thread : ℕ) (held : Bool) : CreationThreads :=
  moveTo { s with locked := s.locked && !held } thread .idle

/-- Once the incident is stored the service lets go of the lock and tells Slack. -/
def stored (s : CreationThreads) (thread : ℕ) (id : IncidentId) : Creation → CreationThreads
  | .controller _ _ _ _ => s.moveTo thread .idle
  | .service _ readings sent =>
    moveTo { s with locked := false } thread (.fetching {
      id := id
      updates := slackUpdates sent readings.slackSent
      now := readings.slackUpdated
      locked := false })

/-- An active incident is what the controller returns, and what the service updates. -/
def found (s : CreationThreads) (thread : ℕ) (active : Incident) : Creation → CreationThreads
  | .controller _ _ _ _ => s.moveTo thread .idle
  | .service report readings _ => s.moveTo thread (.fetching {
      id := active.incidentId
      updates := report.metrics active readings.now
      now := readings.updated
      locked := true })

variable (creators : Creators)

def advance (s : CreationThreads) (thread : ℕ) : CreationPhase → Option CreationThreads
  | .idle => none
  | .looking call =>
    match s.rows.findActiveIncident (call.key creators) with
    | some active => some (s.found thread active call)
    | none => some (s.moveTo thread (.generating call))
  | .generating call =>
    match s.rows.generateIncidentId creators.collation creators.unicode call.date with
    | .error _ => some (s.finish thread call.locks)
    | .ok id => some (s.moveTo thread (.inserting call id))
  | .inserting call id =>
    some (moveTo { s with rows := s.rows.createIncident (call.incident creators id) } thread
      (.inserted call id))
  | .inserted call id => some (s.stored thread id call)
  | .fetching update =>
    match s.rows.getIncident update.id with
    | none => some (s.finish thread update.locked)
    | some read => some (s.moveTo thread
        (.merging update { update.updates read with updatedAt := update.now }))
  | .merging update merged =>
    some (moveTo { s with rows := s.rows.createIncident merged } thread (.merged update))
  | .merged update => some (s.finish thread update.locked)

def step (s : CreationThreads) : CreationStep → Option CreationThreads
  | .start thread call =>
    match s.phase thread with
    | .idle =>
      if call.locks && s.locked then none
      else some (moveTo { s with locked := s.locked || call.locks } thread (.looking call))
    | _ => none
  | .step thread => s.advance creators thread (s.phase thread)

end CreationThreads

/-! ## A thread alone -/

section

variable {φ : Type} {creators : Creators} {s : CreationThreads} {thread : ℕ} {w : World φ}

/-- A thread's call with `n` steps. -/
def call (thread : ℕ) (creation : Creation) (n : ℕ) : List CreationStep :=
  .start thread creation :: List.replicate n (.step thread)

/-- A controller that nobody comes between does what `get_or_create_incident` does. -/
theorem controller_alone (request : IncidentRequest) (readings : Readings) (date : Text)
    (hidle : s.phase thread = .idle) (hw : w.incidents = s.rows)
    (hid : s.rows.generateIncidentId creators.collation creators.unicode date =
      .ok readings.generatedId) :
    ∃ n t, exec (CreationThreads.step creators) s (call thread (.controller request
        (w.circuit.currentState (readings.breaker .incidentCreated)).state
        (readings.time .incidentCreated) date) n) = some t ∧ t.phase thread = .idle ∧
      t.rows = (getOrCreateIncident creators.cfg readings request none w).2.incidents := by
  cases hfound : s.rows.findActiveIncident creators.cfg.pipelineId with
  | some active =>
    refine ⟨1, s.moveTo thread .idle, ?_, ?_, ?_⟩
    · simp [call, exec_cons, CreationThreads.step, hidle, CreationThreads.moveTo,
        CreationThreads.advance, Creation.key, Creation.locks, hfound, CreationThreads.found]
    · simp [CreationThreads.moveTo]
    · simp only [getOrCreateIncident, Fallible.read_bind, hw, hfound]
      exact hw.symm
  | none =>
    refine ⟨4, CreationThreads.moveTo { s with rows := s.rows.createIncident (newIncident
      creators.cfg request readings.generatedId (readings.time .incidentCreated)
      (w.circuit.currentState (readings.breaker .incidentCreated)).state) } thread .idle, ?_, ?_, ?_⟩
    · simp [call, exec_cons, List.replicate, CreationThreads.step, hidle, CreationThreads.moveTo,
        CreationThreads.advance, Creation.key, Creation.locks, hfound, hid, Creation.date,
        CreationThreads.stored, Creation.incident]
    · simp [CreationThreads.moveTo]
    · simp only [getOrCreateIncident, Fallible.read_bind, hw, hfound]
      change s.rows.createIncident _ = w.incidents.createIncident _
      rw [hw]
      rfl

/-- An update that nobody comes between. -/
theorem update_alone {update : IncidentUpdate} (hphase : s.phase thread = .fetching update)
    (hw : w.incidents = s.rows) :
    ∃ n t, exec (CreationThreads.step creators) s (List.replicate n (.step thread)) = some t ∧
      t.phase thread = .idle ∧
      t.rows = (updateIncident update.id update.updates update.now w).2.incidents := by
  cases hread : s.rows.getIncident update.id with
  | none =>
    refine ⟨1, s.finish thread update.locked, ?_, ?_, ?_⟩
    · simp [exec_cons, CreationThreads.step, hphase, CreationThreads.advance, hread]
    · simp [CreationThreads.finish, CreationThreads.moveTo]
    · simp only [updateIncident, Fallible.read_bind, hw, hread]
      exact hw.symm
  | some read =>
    let merged := { update.updates read with updatedAt := update.now }
    refine ⟨3, CreationThreads.finish { s with rows := s.rows.createIncident merged } thread
      update.locked, ?_, ?_, ?_⟩
    · simp [exec_cons, List.replicate, CreationThreads.step, hphase, CreationThreads.advance, hread,
        CreationThreads.moveTo, CreationThreads.finish, merged]
    · simp [CreationThreads.finish, CreationThreads.moveTo]
    · simp only [updateIncident, Fallible.read_bind, hw, hread]
      change s.rows.createIncident _ = w.incidents.createIncident _
      rw [hw]

/-- The service, where nobody comes between and the lock is free, does what
`create_or_update_incident` does. -/
theorem service_alone (service : IncidentService φ) (report : IncidentReport)
    (readings : IncidentReadings) (sent : Except Exc Bool)
    (hservice : service.collation = creators.collation ∧ service.unicode = creators.unicode)
    (hslack : ∀ created o, (service.slack.sendIncidentAlert created o).1 = sent)
    (hidle : s.phase thread = .idle) (hlock : s.locked = false) (hw : w.incidents = s.rows) :
    ∃ n t, exec (CreationThreads.step creators) s
        (call thread (.service report readings sent) n) = some t ∧ t.phase thread = .idle ∧
      t.rows = ((service.createOrUpdateIncident readings report).alone
        World.transition w).2.incidents := by
  unfold IncidentService.createOrUpdateIncident
  rw [Resumption.alone_bind, Resumption.alone_lift]
  -- the steps of the call after its first ones are those of an update
  have hjoin {k : ℕ} {u : CreationThreads} {update : IncidentUpdate} {v : World φ}
      (hu : exec (CreationThreads.step creators) s
        (call thread (.service report readings sent) k) = some u)
      (hphase : u.phase thread = .fetching update) (hv : v.incidents = u.rows) :
      ∃ n t, exec (CreationThreads.step creators) s
          (call thread (.service report readings sent) n) = some t ∧ t.phase thread = .idle ∧
        t.rows = (updateIncident update.id update.updates update.now v).2.incidents := by
    obtain ⟨n, t, ht, hdone, hrows⟩ := update_alone hphase hv
    refine ⟨k + n, t, ?_, hdone, hrows⟩
    have hsplit : call thread (.service report readings sent) (k + n) =
        call thread (.service report readings sent) k ++ List.replicate n (.step thread) := by
      rw [call, List.replicate_add]
      rfl
    rw [hsplit, exec_append, hu]
    exact ht
  cases hfound : s.rows.findActiveIncident report.pipelineName with
  | some active =>
    have hu : exec (CreationThreads.step creators) s
        (call thread (.service report readings sent) 1) = some (CreationThreads.moveTo
          { s with locked := true } thread (.fetching {
            id := active.incidentId
            updates := report.metrics active readings.now
            now := readings.updated
            locked := true })) := by
      simp [call, exec_cons, CreationThreads.step, hidle, CreationThreads.moveTo, hlock,
        CreationThreads.advance, Creation.key, Creation.locks, hfound, CreationThreads.found]
    obtain ⟨n, t, ht, hdone, hrows⟩ := hjoin hu (by simp [CreationThreads.moveTo]; rfl) hw
    refine ⟨n, t, ht, hdone, ?_⟩
    rw [hrows]
    obtain ⟨updated, hok⟩ := updateIncident_ok active.incidentId
      (report.metrics active readings.now) readings.updated w
    have hrecord : service.recordIncident readings report w = (.ok (updated.getD active, false),
        (updateIncident active.incidentId (report.metrics active readings.now)
          readings.updated w).2) := by
      simp only [IncidentService.recordIncident, Fallible.read_bind, hw, hfound]
      rw [Fallible.bind_ok hok]
      rfl
    rw [Fallible.bind_ok hrecord]
    rfl
  | none =>
    cases hid : s.rows.generateIncidentId creators.collation creators.unicode readings.date with
    | error e =>
      refine ⟨2, CreationThreads.moveTo s thread .idle, ?_, ?_, ?_⟩
      · simp [call, exec_cons, List.replicate, CreationThreads.step, hidle, CreationThreads.moveTo,
          hlock, CreationThreads.advance, Creation.key, Creation.locks, Creation.date, hfound, hid,
          CreationThreads.finish]
      · simp [CreationThreads.moveTo]
      · have hrecord : service.recordIncident readings report w = (.error e, w) := by
          simp only [IncidentService.recordIncident, Fallible.read_bind, hw, hfound,
            hservice.1, hservice.2, hid]
          rfl
        rw [Fallible.bind_error hrecord]
        exact hw.symm
    | ok id =>
      let incident := report.incident id readings.now
      have hu : exec (CreationThreads.step creators) s
          (call thread (.service report readings sent) 4) = some (CreationThreads.moveTo
            { s with rows := s.rows.createIncident incident } thread (.fetching {
              id := id
              updates := slackUpdates sent readings.slackSent
              now := readings.slackUpdated
              locked := false })) := by
        simp [call, exec_cons, List.replicate, CreationThreads.step, hidle, CreationThreads.moveTo,
          hlock, CreationThreads.advance, Creation.key, Creation.locks, Creation.date, hfound, hid,
          CreationThreads.stored, Creation.incident, incident]
      let created := ((s.rows.createIncident incident).getIncident id).getD incident
      have hrecord : service.recordIncident readings report w = (.ok (created, true),
          { w with incidents := s.rows.createIncident incident }) := by
        simp only [IncidentService.recordIncident, Fallible.read_bind, hw, hfound, hservice.1,
          hservice.2, hid]
        change (Except.ok (Option.getD ((w.incidents.createIncident incident).getIncident id) incident,
          true), { w with incidents := w.incidents.createIncident incident }) = _
        rw [hw]
      have hcreated : created.incidentId = id := by
        obtain ⟨row, hrow, -⟩ := Incidents.getIncident_createIncident s.rows incident
        have hread : (s.rows.createIncident incident).getIncident id = some row := hrow
        simp only [created, hread, Option.getD_some]
        exact Incidents.getIncident_id hread
      rw [Fallible.bind_ok hrecord]
      let v := (World.onOutside (service.slack.sendIncidentAlert created)
        { w with incidents := s.rows.createIncident incident }).2
      have hv : v.incidents = s.rows.createIncident incident := rfl
      obtain ⟨n, t, ht, hdone, hrows⟩ := hjoin hu (by simp [CreationThreads.moveTo]; rfl) hv
      refine ⟨n, t, ht, hdone, ?_⟩
      rw [hrows]
      change _ = (service.notify readings created
        { w with incidents := s.rows.createIncident incident }).2.incidents
      unfold IncidentService.notify
      have hsent : (World.onOutside (service.slack.sendIncidentAlert created)
          { w with incidents := s.rows.createIncident incident }).1 = sent := hslack created _
      rw [Fallible.attempt_bind, hsent, hcreated, updateIncident_bind]
      intro updated w'
      cases sent with
      | ok sent => rfl
      | error e => rfl

end

/-! ## At most one active incident -/

/-- The incident is stored for the pipeline `icestream`, and active. -/
def ActiveAt (rows : Incidents) (id : IncidentId) : Prop :=
  ∃ row, rows.lookup id = some row ∧ row.pipelineId = text "icestream" ∧ row.status.active = true

def AtMostOneActive (rows : Incidents) : Prop :=
  ∀ id id', ActiveAt rows id → ActiveAt rows id' → id = id'

/-- What a thread that is past its look-up relies on. -/
def Relies (rows : Incidents) : CreationPhase → Prop
  | .inserted _ id => rows.Open id
  | .fetching update => rows.Open update.id ∧ ∀ i, (update.updates i).status = i.status ∧
      (update.updates i).incidentId = i.incidentId
  | .merging _ merged => rows.Open merged.incidentId ∧ merged.status.active = true
  | _ => True

/-- The table keeps its key, and every thread finds what it relies on. -/
structure Consistent (s : CreationThreads) : Prop where
  keyed : s.rows.Keyed
  relies : ∀ thread, Relies s.rows (s.phase thread)

section

variable {rows : Incidents} {i : Incident} {id : IncidentId}

theorem Relies.createIncident {phase : CreationPhase} (h : Relies rows phase)
    (hactive : i.status.active = true) : Relies (rows.createIncident i) phase := by
  cases phase with
  | inserted call id => exact Incidents.Open.createIncident h hactive
  | fetching update => exact ⟨h.1.createIncident hactive, h.2⟩
  | merging update merged => exact ⟨h.1.createIncident hactive, h.2⟩
  | _ => trivial

/-- Who holds which incident of the pipeline after a write. -/
theorem activeAt_createIncident (hactive : i.status.active = true) :
    ActiveAt (rows.createIncident i) id ↔
      if id = i.incidentId then (rows.written i).pipelineId = text "icestream"
      else ActiveAt rows id := by
  have hstatus := (Incidents.written_columns rows i).1
  rw [ActiveAt, Incidents.lookup_createIncident_eq]
  split
  · constructor
    · rintro ⟨row, hrow, hpipeline, -⟩
      cases hrow
      exact hpipeline
    · intro hpipeline
      exact ⟨_, rfl, hpipeline, by rw [hstatus, hactive]⟩
  · exact Iff.rfl

/-- Writing back an incident that is active changes no pipeline's active incidents. -/
theorem activeAt_update (hopen : rows.Open i.incidentId) (hactive : i.status.active = true) :
    ActiveAt (rows.createIncident i) id ↔ ActiveAt rows id := by
  rw [activeAt_createIncident hactive]
  split
  · rename_i hid
    obtain ⟨row, hrow, hstatus⟩ := hopen
    have hwritten : (rows.written i).pipelineId = row.pipelineId := by
      simp only [Incidents.written, hrow]
      rfl
    rw [hwritten, hid, ActiveAt, hrow]
    simp [hstatus]
  · exact Iff.rfl

/-- The new incident `id` would be alone: the pipeline has no other active one, or `id` is
already stored for another pipeline. -/
def Alone (rows : Incidents) (id : IncidentId) : Prop :=
  ∀ other, ActiveAt rows other → other = id ∨
    ∃ row, rows.lookup id = some row ∧ row.pipelineId ≠ text "icestream"

/-- A new incident is of the pipeline, unless its id is another pipeline's. -/
theorem written_pipelineId (hpipeline : i.pipelineId = text "icestream") :
    (rows.written i).pipelineId = text "icestream" ↔
      ¬∃ row, rows.lookup i.incidentId = some row ∧ row.pipelineId ≠ text "icestream" := by
  unfold Incidents.written
  cases hrow : rows.lookup i.incidentId with
  | some row =>
    change row.pipelineId = _ ↔ _
    simp
  | none =>
    have hinserted : i.inserted.pipelineId = text "icestream" := by
      simp only [Incident.inserted, Incident.orText, hpipeline]
      rfl
    simp [hinserted]

theorem atMostOneActive_insert (h : AtMostOneActive rows) (hactive : i.status.active = true)
    (hpipeline : i.pipelineId = text "icestream") :
    AtMostOneActive (rows.createIncident i) ↔ Alone rows i.incidentId := by
  have hself : ActiveAt (rows.createIncident i) i.incidentId ↔
      ¬∃ row, rows.lookup i.incidentId = some row ∧ row.pipelineId ≠ text "icestream" := by
    rw [activeAt_createIncident hactive, if_pos rfl, written_pipelineId hpipeline]
  have hother {id : IncidentId} (hid : id ≠ i.incidentId) :
      ActiveAt (rows.createIncident i) id ↔ ActiveAt rows id := by
    rw [activeAt_createIncident hactive, if_neg hid]
  constructor
  · intro hone other hactive'
    by_contra hnot
    obtain ⟨hid, hforeign⟩ := not_or.mp hnot
    exact hid (hone other i.incidentId ((hother hid).mpr hactive') (hself.mpr hforeign))
  · intro halone id id' hid hid'
    by_cases heq : id = i.incidentId
    · by_cases heq' : id' = i.incidentId
      · rw [heq, heq']
      · rw [heq, hself] at hid
        rcases halone id' ((hother heq').mp hid') with hsame | hforeign
        · exact absurd hsame heq'
        · exact absurd hforeign hid
    · by_cases heq' : id' = i.incidentId
      · rw [heq', hself] at hid'
        rcases halone id ((hother heq).mp hid) with hsame | hforeign
        · exact absurd hsame heq
        · exact absurd hforeign hid'
      · exact h id id' ((hother heq).mp hid) ((hother heq').mp hid')

end

/-! ## Steps and runs -/

section

variable {creators : Creators} {s t : CreationThreads}

theorem incident_status (call : Creation) (id : IncidentId) :
    (call.incident creators id).status = .open_ := by
  cases call <;> rfl

theorem incident_id (call : Creation) (id : IncidentId) :
    (call.incident creators id).incidentId = id := by
  cases call <;> rfl

theorem incident_pipelineId (call : Creation) (id : IncidentId) :
    (call.incident creators id).pipelineId = text "icestream" := by
  cases call with
  | controller request circuitState now date => exact creators.pipelineId_eq
  | service report readings sent => rfl

/-- A thread that moves on relies on what its next step needs; the table stays. -/
theorem Consistent.moveTo (h : Consistent s) {thread : ℕ} {phase : CreationPhase}
    (hphase : Relies s.rows phase) : Consistent (s.moveTo thread phase) := by
  refine ⟨h.keyed, ?_⟩
  intro other
  by_cases hother : other = thread
  · rw [hother]
    change Relies s.rows (Function.update s.phase thread phase thread)
    rw [Function.update_self]
    exact hphase
  · change Relies s.rows (Function.update s.phase thread phase other)
    rw [Function.update_of_ne hother]
    exact h.relies other

theorem Consistent.withLock (h : Consistent s) (locked : Bool) :
    Consistent { s with locked := locked } := ⟨h.keyed, h.relies⟩

theorem Consistent.finish (h : Consistent s) (thread : ℕ) (held : Bool) :
    Consistent (s.finish thread held) :=
  (h.withLock _).moveTo trivial

/-- A write of an active incident, after which the thread is at `phase`. -/
theorem Consistent.write (h : Consistent s) {i : Incident} (hactive : i.status.active = true)
    {thread : ℕ} {phase : CreationPhase} (hphase : Relies (s.rows.createIncident i) phase) :
    Consistent (CreationThreads.moveTo { s with rows := s.rows.createIncident i } thread phase) := by
  have hwritten : Consistent { s with rows := s.rows.createIncident i } :=
    ⟨h.keyed.createIncident i, fun other => (h.relies other).createIncident hactive⟩
  exact hwritten.moveTo hphase

/-- What the service writes about its alert leaves the status. -/
theorem slackUpdates_status (sent : Except Exc Bool) (now : Date) (i : Incident) :
    (slackUpdates sent now i).status = i.status ∧
      (slackUpdates sent now i).incidentId = i.incidentId := by
  unfold slackUpdates
  split
  · exact ⟨rfl, rfl⟩
  · exact ⟨rfl, rfl⟩
  · exact ⟨rfl, rfl⟩

theorem consistent_found (h : Consistent s) {thread : ℕ} {active : Incident} {call : Creation}
    (hopen : s.rows.Open active.incidentId) : Consistent (s.found thread active call) := by
  cases call with
  | controller request circuitState now date => exact h.moveTo trivial
  | service report readings sent => exact h.moveTo ⟨hopen, fun _ => ⟨rfl, rfl⟩⟩

theorem consistent_stored (h : Consistent s) {thread : ℕ} {id : IncidentId} {call : Creation}
    (hopen : s.rows.Open id) : Consistent (s.stored thread id call) := by
  cases call with
  | controller request circuitState now date => exact h.moveTo trivial
  | service report readings sent =>
    exact (h.withLock false).moveTo ⟨hopen, fun i => slackUpdates_status _ _ i⟩

/-- The thread's next step inserts a new incident. -/
def Inserts (s : CreationThreads) (thread : ℕ) (id : IncidentId) : Prop :=
  ∃ call, s.phase thread = .inserting call id

/-- What a step does: it writes a new incident, or it leaves who is active. -/
theorem advance_cases (h : Consistent s) {thread : ℕ}
    (ht : s.advance creators thread (s.phase thread) = some t) : Consistent t ∧
      ((∃ call id, s.phase thread = .inserting call id ∧
          t.rows = s.rows.createIncident (call.incident creators id)) ∨
        (∀ id, ¬Inserts s thread id) ∧ ∀ id, ActiveAt t.rows id ↔ ActiveAt s.rows id) := by
  have hrelies := h.relies thread
  have hstill (hphase : ∀ call id, s.phase thread ≠ .inserting call id)
      (hrows : t.rows = s.rows) :
      (∀ id, ¬Inserts s thread id) ∧ ∀ id, ActiveAt t.rows id ↔ ActiveAt s.rows id := by
    refine ⟨fun id hinserts => ?_, fun id => by rw [hrows]⟩
    obtain ⟨call, hcall⟩ := hinserts
    exact hphase call id hcall
  cases hphase : s.phase thread with
  | idle =>
    rw [hphase] at ht
    cases ht
  | looking call =>
    rw [hphase] at ht
    simp only [CreationThreads.advance] at ht
    split at ht
    · rename_i active hactive
      obtain ⟨row, hrow, rfl, hstatus, -⟩ := Incidents.mem_of_findActiveIncident hactive
      cases ht
      refine ⟨consistent_found h ⟨row, h.keyed.lookup_of_mem hrow, hstatus⟩, .inr ?_⟩
      apply hstill (by simp [hphase])
      cases call <;> rfl
    · cases ht
      exact ⟨h.moveTo trivial, .inr (hstill (by simp [hphase]) rfl)⟩
  | generating call =>
    rw [hphase] at ht
    simp only [CreationThreads.advance] at ht
    split at ht
    · cases ht
      exact ⟨h.finish _ _, .inr (hstill (by simp [hphase]) rfl)⟩
    · cases ht
      exact ⟨h.moveTo trivial, .inr (hstill (by simp [hphase]) rfl)⟩
  | inserting call id =>
    rw [hphase] at ht
    cases ht
    have hactive : (call.incident creators id).status.active = true := by
      rw [incident_status]
      rfl
    refine ⟨h.write hactive ?_, .inl ⟨call, id, rfl, rfl⟩⟩
    have hopen : (s.rows.createIncident _).Open _ := Incidents.open_createIncident hactive
    rw [incident_id] at hopen
    exact hopen
  | inserted call id =>
    rw [hphase] at ht hrelies
    cases ht
    refine ⟨consistent_stored h hrelies, .inr ?_⟩
    apply hstill (by simp [hphase])
    cases call <;> rfl
  | fetching update =>
    rw [hphase] at ht hrelies
    simp only [CreationThreads.advance] at ht
    split at ht
    · cases ht
      exact ⟨h.finish _ _, .inr (hstill (by simp [hphase]) rfl)⟩
    · rename_i read hread
      cases ht
      refine ⟨h.moveTo ?_, .inr (hstill (by simp [hphase]) rfl)⟩
      obtain ⟨⟨row, hrow, hstatus⟩, hupdates⟩ := hrelies
      obtain ⟨row', hrow', rfl⟩ := Incidents.getIncident_eq_some.mp hread
      rw [hrow] at hrow'
      cases hrow'
      -- what was read is active, and the updates leave it so
      obtain ⟨hsame, hid⟩ := hupdates row.normalized
      refine ⟨⟨row, ?_, hstatus⟩, ?_⟩
      · change s.rows.lookup (update.updates row.normalized).incidentId = some row
        rw [hid]
        change s.rows.lookup row.incidentId = some row
        rw [Incidents.lookup_id hrow, hrow]
      · change (update.updates row.normalized).status.active = true
        rw [hsame]
        exact hstatus
  | merging update merged =>
    rw [hphase] at ht hrelies
    cases ht
    refine ⟨h.write hrelies.2 trivial, .inr ⟨?_, ?_⟩⟩
    · rintro id ⟨call, hcall⟩
      rw [hphase] at hcall
      cases hcall
    · intro id
      exact activeAt_update hrelies.1 hrelies.2
  | merged update =>
    rw [hphase] at ht
    cases ht
    exact ⟨h.finish _ _, .inr (hstill (by simp [hphase]) rfl)⟩

/-- A table with at most one active incident of the pipeline, and nobody at work. -/
structure Quiescent (s : CreationThreads) : Prop where
  keyed : s.rows.Keyed
  idle : ∀ thread, s.phase thread = .idle
  one : AtMostOneActive s.rows

/-- What a step inserts stands alone: the look-up that found no active incident still holds. -/
def InsertsAlone (s : CreationThreads) (a : CreationStep) (_ : CreationThreads) : Prop :=
  match a with
  | .start _ _ => True
  | .step thread => ∀ id, Inserts s thread id → Alone s.rows id

theorem consistent_start (h : Consistent s) {thread : ℕ} {call : Creation}
    (ht : s.step creators (.start thread call) = some t) : Consistent t ∧ t.rows = s.rows := by
  simp only [CreationThreads.step] at ht
  split at ht
  · split at ht
    · cases ht
    · cases ht
      exact ⟨(h.withLock _).moveTo trivial, rfl⟩
  · cases ht

theorem atMostOneActive_step_iff (h : Consistent s) (hone : AtMostOneActive s.rows)
    {a : CreationStep} (ht : s.step creators a = some t) :
    AtMostOneActive t.rows ↔ InsertsAlone s a t := by
  cases a with
  | start thread call =>
    rw [(consistent_start h ht).2]
    exact iff_of_true hone trivial
  | step thread =>
    obtain ⟨-, hcases⟩ := advance_cases h ht
    rcases hcases with ⟨call, id, hphase, hrows⟩ | ⟨hnot, hsame⟩
    · have hactive : (call.incident creators id).status.active = true := by
        rw [incident_status]
        rfl
      rw [hrows, atMostOneActive_insert hone hactive (incident_pipelineId call id), incident_id]
      constructor
      · rintro halone other ⟨call', hcall'⟩
        rw [hphase] at hcall'
        cases hcall'
        exact halone
      · intro hinserts
        exact hinserts id ⟨call, hphase⟩
    · refine iff_of_true ?_ fun id hinserts => absurd hinserts (hnot id)
      intro id id' hid hid'
      exact hone id id' ((hsame id).mp hid) ((hsame id').mp hid')

theorem consistent_step (h : Consistent s) {a : CreationStep} (ht : s.step creators a = some t) :
    Consistent t := by
  cases a with
  | start thread call => exact (consistent_start h ht).1
  | step thread => exact (advance_cases h ht).1

/-- However the threads' steps are interleaved, the pipeline has at most one active incident
after every step just in case every incident that a step inserts stands alone. -/
theorem one_active_incident_iff (creators : Creators) (s : CreationThreads) (h : Quiescent s)
    (steps : List CreationStep) :
    AllSteps (CreationThreads.step creators) (fun _ _ t => AtMostOneActive t.rows) s steps ↔
      AllSteps (CreationThreads.step creators) InsertsAlone s steps := by
  apply allSteps_iff_of_invariant (I := fun s => Consistent s ∧ AtMostOneActive s.rows)
  · intro s a t hs ht
    exact atMostOneActive_step_iff hs.1 hs.2 ht
  · intro s a t hs ht halone
    exact ⟨consistent_step hs.1 ht, (atMostOneActive_step_iff hs.1 hs.2 ht).mpr halone⟩
  · refine ⟨⟨h.keyed, ?_⟩, h.one⟩
    intro thread
    rw [h.idle thread]
    trivial

end

/-! ### Two names for one pipeline -/

def exampleCreators : Creators := ⟨⟨"icestream", .none⟩, .sqlite, .ascii, rfl⟩

def emptyTable : CreationThreads := ⟨[], false, fun _ => .idle⟩

theorem emptyTable_quiescent : Quiescent emptyTable := by
  refine ⟨List.nodup_nil, fun _ => rfl, ?_⟩
  rintro id id' ⟨row, hrow, -⟩
  cases hrow

def reportNamed (pipelineName : Text) : Creation :=
  .service { pipelineName := pipelineName } ⟨0, 0, 0, 0, "2026-0903"⟩ (.ok true)

/-- The first incident stands alone. -/
theorem first_incident_alone :
    AllSteps (CreationThreads.step exampleCreators) (fun _ _ t => AtMostOneActive t.rows) emptyTable
      (call 0 (reportNamed "checkout-stream") 3) := by
  apply (one_active_incident_iff exampleCreators emptyTable emptyTable_quiescent _).mpr
  have hnone (id : IncidentId) : Alone [] id := by
    rintro other ⟨row, hrow, -⟩
    cases hrow
  intro t ht
  cases ht
  refine ⟨trivial, ?_⟩
  intro t ht
  cases ht
  refine ⟨fun id _ => hnone id, ?_⟩
  intro t ht
  cases ht
  refine ⟨fun id _ => hnone id, ?_⟩
  intro t ht
  cases ht
  exact ⟨fun id _ => hnone id, trivial⟩

/-- The calls of two threads, one after the other, that name the pipeline differently. -/
def twoNames : List CreationStep :=
  call 0 (reportNamed "checkout-stream") 7 ++ call 1 (reportNamed "payment-stream") 3

/-- The second look-up does not find the incident of the first name. -/
theorem second_name_second_incident :
    ¬AllSteps (CreationThreads.step exampleCreators) (fun _ _ t => AtMostOneActive t.rows)
      emptyTable twoNames := by
  intro hall
  have hlast : AllSteps (CreationThreads.step exampleCreators)
      (fun _ _ t => AtMostOneActive t.rows) emptyTable (twoNames.dropLast ++ [.step 1]) := hall
  have hone := hlast.last rfl rfl
  have hsame := hone ⟨text "INC-2026-0903-0001", by decide⟩ ⟨text "INC-2026-0903-0002", by decide⟩
    ⟨_, rfl, rfl, rfl⟩ ⟨_, rfl, rfl, rfl⟩
  revert hsame
  decide

end IceStream.Backend
