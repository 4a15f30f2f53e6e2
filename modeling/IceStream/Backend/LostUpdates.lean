import IceStream.Backend.ClosedIncidents

/-!
# Lost updates

Whoever updates an incident reads the whole row, changes some of its fields and
writes the whole row back; a remediation even keeps the row it has loaded until
its end. A write takes back what others have changed since the row was read.
-/

namespace IceStream.Backend
open Python Remediation Stepping

/-- The columns that `ON CONFLICT(incident_id) DO UPDATE` sets. -/
inductive Column
  | status
  | severity
  | errorRate
  | threshold
  | failedEventCount
  | failedRecords
  | totalRecords
  | circuitState
  | quarantineCount
  | actionTaken
  | slackSent
  | slackSentAt
  | slackError
  | recoveryAttempt
  | lastError
  | updatedAt
  | resolvedAt
  deriving DecidableEq

namespace Column

/-- Two rows have the same value in the column. -/
def Same : Column → Incident → Incident → Prop
  | status, i, j => i.status = j.status
  | severity, i, j => i.severity = j.severity
  | errorRate, i, j => i.errorRate = j.errorRate
  | threshold, i, j => i.threshold = j.threshold
  | failedEventCount, i, j => i.failedEventCount = j.failedEventCount
  | failedRecords, i, j => i.failedRecords = j.failedRecords
  | totalRecords, i, j => i.totalRecords = j.totalRecords
  | circuitState, i, j => i.circuitState = j.circuitState
  | quarantineCount, i, j => i.quarantineCount = j.quarantineCount
  | actionTaken, i, j => i.actionTaken = j.actionTaken
  | slackSent, i, j => i.slackSent = j.slackSent
  | slackSentAt, i, j => i.slackSentAt = j.slackSentAt
  | slackError, i, j => i.slackError = j.slackError
  | recoveryAttempt, i, j => i.recoveryAttempt = j.recoveryAttempt
  | lastError, i, j => i.lastError = j.lastError
  | updatedAt, i, j => i.updatedAt = j.updatedAt
  | resolvedAt, i, j => i.resolvedAt = j.resolvedAt

variable {c : Column} {i j k : Incident}

theorem same_refl (c : Column) (i : Incident) : c.Same i i := by cases c <;> rfl

theorem Same.symm (h : c.Same i j) : c.Same j i := by cases c <;> exact Eq.symm h

theorem Same.trans (h : c.Same i j) (h' : c.Same j k) : c.Same i k := by
  cases c <;> exact Eq.trans h h'

/-- What a write over `row` leaves in these columns is what was written. -/
theorem same_overwritten (c : Column) (row new : Incident) : c.Same (row.overwritten new) new := by
  cases c <;> rfl

end Column

/-- What `create_incident` has written: the two counts of failures agree, and there is an action. -/
structure Stored (i : Incident) : Prop where
  counts : i.failedEventCount = i.failedRecords
  action : i.actionTaken ≠ []

/-- What is stored goes into the columns as it is. -/
theorem Stored.same_inserted {i : Incident} (h : Stored i) (c : Column) : c.Same i.inserted i := by
  have haction : Incident.orText i.actionTaken "Downstream pipeline paused." = i.actionTaken :=
    if_neg h.action
  cases c with
  | failedEventCount => exact h.counts.symm
  | actionTaken => exact haction
  | _ => rfl

theorem stored_overwritten (row new : Incident) : Stored (row.overwritten new.inserted) := by
  refine ⟨rfl, ?_⟩
  change Incident.orText new.actionTaken "Downstream pipeline paused." ≠ []
  unfold Incident.orText
  split
  · decide
  · assumption

theorem Stored.normalized {i : Incident} (h : Stored i) : Stored i.normalized := by
  refine ⟨h.counts, ?_⟩
  change Incident.orText i.actionTaken "Downstream pipeline paused." ≠ []
  rw [Incident.orText, if_neg h.action]
  exact h.action

/-! ## What an operation sets -/

/-- The fields that an operation sets explicitly, and how it sets them. -/
structure Assignment where
  set : Incident → Incident
  columns : List Column
  leaves : ∀ c, c ∉ columns → ∀ i, c.Same (set i) i
  stored : ∀ i, Stored i → Stored (set i)

namespace Assignment

/-- `update_incident` sets the date of the update as well. -/
def dated (a : Assignment) (now : Date) : Assignment where
  set i := { a.set i with updatedAt := now }
  columns := .updatedAt :: a.columns
  leaves := by
    intro c hc i
    have hne : c ≠ .updatedAt := fun h => hc (h ▸ List.mem_cons_self)
    have hsame := a.leaves c (fun h => hc (List.mem_cons_of_mem _ h)) i
    cases c with
    | updatedAt => exact absurd rfl hne
    | _ => exact hsame
  stored := by
    intro i hi
    exact ⟨(a.stored i hi).counts, (a.stored i hi).action⟩

def acknowledge (now : Date) : Assignment where
  set i := { i with status := .acknowledged, updatedAt := now }
  columns := [.status, .updatedAt]
  leaves := by
    intro c hc i
    cases c <;> first | rfl | simp at hc
  stored := fun _ hi => ⟨hi.counts, hi.action⟩

def resolve (errorRate : Float) (now : Date) : Assignment where
  set i := { i with
    status := .resolved
    errorRate := errorRate
    resolvedAt := some now
    updatedAt := now }
  columns := [.status, .errorRate, .resolvedAt, .updatedAt]
  leaves := by
    intro c hc i
    cases c <;> first | rfl | simp at hc
  stored := fun _ hi => ⟨hi.counts, hi.action⟩

/-- A failed alert leaves the date of an earlier one. -/
def slack (sent : Except Exc Bool) (now : Date) : Assignment where
  set := slackUpdates sent now
  columns := match sent with
    | .ok true => [.slackSent, .slackSentAt, .slackError]
    | _ => [.slackSent, .slackError]
  leaves := by
    intro c hc i
    unfold slackUpdates
    split at hc
    · cases c <;> first | rfl | simp at hc
    · split
      · rename_i hsent
        exact absurd rfl hsent
      · cases c <;> first | rfl | simp at hc
      · cases c <;> first | rfl | simp at hc
  stored := by
    intro i hi
    unfold slackUpdates
    split
    · exact ⟨hi.counts, hi.action⟩
    · exact ⟨hi.counts, hi.action⟩
    · exact ⟨hi.counts, hi.action⟩

def metrics (report : IncidentReport) (active : Incident) (now : Date) : Assignment where
  set := report.metrics active now
  columns := [.errorRate, .failedRecords, .failedEventCount, .totalRecords, .quarantineCount,
    .circuitState, .updatedAt]
  leaves := by
    intro c hc i
    cases c <;> first | rfl | simp at hc
  stored := fun _ hi => ⟨rfl, hi.action⟩

/-- The first write of an attempt. -/
def remediating (attempt : ℕ) : Assignment where
  set i := { i with recoveryAttempt := attempt, status := .remediating }
  columns := [.recoveryAttempt, .status]
  leaves := by
    intro c hc i
    cases c <;> first | rfl | simp at hc
  stored := fun _ hi => ⟨hi.counts, hi.action⟩

def recoveryFailed (error : Text) : Assignment where
  set i := { i with status := .recoveryFailed, lastError := some error }
  columns := [.status, .lastError]
  leaves := by
    intro c hc i
    cases c <;> first | rfl | simp at hc
  stored := fun _ hi => ⟨hi.counts, hi.action⟩

def recovered (now : Date) : Assignment where
  set i := { i with status := .recovered, resolvedAt := some now }
  columns := [.status, .resolvedAt]
  leaves := by
    intro c hc i
    cases c <;> first | rfl | simp at hc
  stored := fun _ hi => ⟨hi.counts, hi.action⟩

end Assignment

/-! ## Threads on one incident -/

/-- Where a thread stands between two of its accesses to the row. -/
inductive UpdatePhase
  | idle
  /-- `update_incident` has read the row, and what it will write is merged. -/
  | fetched (assignment : Assignment) (snapshot : Incident)
  /-- `execute_remediation` has loaded the row. -/
  | loaded (incident : Incident)
  /-- It has written `REMEDIATING`, and keeps what it wrote. -/
  | attempting (incident : Incident)

/-- One access to the row, or the end of a remediation without one. -/
inductive Access
  | fetch (assignment : Assignment) (now : Date)
  | write
  | load
  | exceed
  | begin_
  | fail (error : Text)
  | recover (now : Date)
  | raise_

/-- What an access leads to: what it sets, over which incident, and where the thread is then. -/
def UpdatePhase.access (row : Incident) :
    UpdatePhase → Access → Option (Option (Assignment × Incident) × UpdatePhase)
  | idle, .fetch assignment now => some (none, fetched (assignment.dated now) row.normalized)
  | fetched assignment snapshot, .write => some (some (assignment, snapshot), idle)
  | idle, .load => some (none, loaded row.normalized)
  | loaded _, .exceed => some (none, idle)
  | loaded incident, .begin_ =>
    some (some (.remediating (incident.recoveryAttempt + 1), incident),
      attempting (attempted incident))
  | attempting incident, .fail error => some (some (.recoveryFailed error, incident), idle)
  | attempting incident, .recover now => some (some (.recovered now, incident), idle)
  | attempting _, .raise_ => some (none, idle)
  | _, _ => none

/-- The row once `write` is made; the whole of it is written. -/
def rowAfter (row : Incident) : Option (Assignment × Incident) → Incident
  | none => row
  | some (assignment, held) => row.overwritten (assignment.set held).inserted

structure UpdateThreads where
  row : Incident
  phase : ℕ → UpdatePhase

structure UpdateStep where
  thread : ℕ
  access : Access

namespace UpdateThreads

/-- What the step sets, and the incident its thread holds. -/
def writes (s : UpdateThreads) (a : UpdateStep) : Option (Assignment × Incident) :=
  ((s.phase a.thread).access s.row a.access).bind Prod.fst

def step (s : UpdateThreads) (a : UpdateStep) : Option UpdateThreads :=
  ((s.phase a.thread).access s.row a.access).map fun (write, phase) =>
    { row := rowAfter s.row write
      phase := Function.update s.phase a.thread phase }

end UpdateThreads

/-- A step changes only the fields that its operation sets. -/
def NothingLost (s : UpdateThreads) (a : UpdateStep) (t : UpdateThreads) : Prop :=
  ∀ c : Column, (∀ assignment held, s.writes a = some (assignment, held) →
    c ∉ assignment.columns) → c.Same t.row s.row

/-- Where a step writes, the incident its thread holds is still that of the row, but for the
fields it sets. -/
def UpToDate (s : UpdateThreads) (a : UpdateStep) (_ : UpdateThreads) : Prop :=
  ∀ assignment held, s.writes a = some (assignment, held) →
    ∀ c : Column, c ∉ assignment.columns → c.Same held s.row

/-! ## Steps and runs -/

/-- The incident a thread holds. -/
def UpdatePhase.held : UpdatePhase → Option Incident
  | idle => none
  | fetched _ snapshot => some snapshot
  | loaded incident => some incident
  | attempting incident => some incident

structure WellStored (s : UpdateThreads) : Prop where
  row : Stored s.row
  held : ∀ thread i, (s.phase thread).held = some i → Stored i

section

variable {row : Incident} {phase phase' : UpdatePhase} {access : Access}
  {write : Option (Assignment × Incident)} {s t : UpdateThreads} {a : UpdateStep}

theorem access_write {assignment : Assignment} {held : Incident}
    (h : phase.access row access = some (some (assignment, held), phase')) :
    phase.held = some held := by
  cases phase <;> cases access <;> cases h <;> rfl

/-- A thread holds afterwards what it has read, what it held, or that with an attempt begun. -/
theorem access_held (hrow : Stored row) (hheld : ∀ i, phase.held = some i → Stored i)
    (h : phase.access row access = some (write, phase')) :
    ∀ i, phase'.held = some i → Stored i := by
  cases phase <;> cases access <;> cases h <;> intro i hi <;> cases hi
  · exact hrow.normalized
  · exact hrow.normalized
  · obtain ⟨hcounts, haction⟩ := hheld _ rfl
    exact ⟨hcounts, haction⟩

theorem rowAfter_stored (hrow : Stored row) (write : Option (Assignment × Incident)) :
    Stored (rowAfter row write) := by
  cases write with
  | none => exact hrow
  | some write => exact stored_overwritten _ _

/-- A column that is not set keeps its value just in case the writer had read it. -/
theorem same_rowAfter_iff {assignment : Assignment} {held : Incident} (hheld : Stored held)
    {c : Column} (hc : c ∉ assignment.columns) :
    c.Same (rowAfter row (some (assignment, held))) row ↔ c.Same held row := by
  have hwritten : c.Same (rowAfter row (some (assignment, held))) held :=
    ((c.same_overwritten row _).trans ((assignment.stored held hheld).same_inserted c)).trans
      (assignment.leaves c hc held)
  constructor
  · intro h
    exact hwritten.symm.trans h
  · intro h
    exact hwritten.trans h

theorem step_eq_some (h : s.step a = some t) : ∃ write phase,
    (s.phase a.thread).access s.row a.access = some (write, phase) ∧ s.writes a = write ∧
      t.row = rowAfter s.row write ∧ t.phase = Function.update s.phase a.thread phase := by
  obtain ⟨⟨write, phase⟩, haccess, rfl⟩ := Option.map_eq_some_iff.mp h
  refine ⟨write, phase, haccess, ?_, rfl, rfl⟩
  rw [UpdateThreads.writes, haccess]
  rfl

theorem WellStored.step (hs : WellStored s) (h : s.step a = some t) : WellStored t := by
  obtain ⟨write, phase, haccess, -, hrow, hphase⟩ := step_eq_some h
  constructor
  · rw [hrow]
    exact rowAfter_stored hs.row write
  · intro thread i hi
    rw [hphase] at hi
    by_cases hthread : thread = a.thread
    · rw [hthread, Function.update_self] at hi
      exact access_held hs.row (hs.held a.thread) haccess i hi
    · rw [Function.update_of_ne hthread] at hi
      exact hs.held thread i hi

theorem nothingLost_iff (hs : WellStored s) (h : s.step a = some t) :
    NothingLost s a t ↔ UpToDate s a t := by
  obtain ⟨write, phase, haccess, hwrites, hrow, -⟩ := step_eq_some h
  rw [NothingLost, UpToDate, hwrites, hrow]
  cases write with
  | none =>
    refine iff_of_true (fun c _ => c.same_refl s.row) ?_
    intro assignment held hnone
    cases hnone
  | some write =>
    obtain ⟨assignment, held⟩ := write
    have hheld := hs.held a.thread held (access_write haccess)
    constructor
    · intro hlost assignment' held' heq c hc
      cases heq
      apply (same_rowAfter_iff hheld hc).mp
      apply hlost
      intro assignment' held' heq
      cases heq
      exact hc
    · intro hfresh c hunset
      have hc := hunset assignment held rfl
      exact (same_rowAfter_iff hheld hc).mpr (hfresh assignment held rfl c hc)

/-- However the accesses to the incident are interleaved, each changes only what its operation
sets just in case no write is of an incident that has been overtaken in what it leaves alone. -/
theorem nothing_lost_iff (s : UpdateThreads) (hrow : Stored s.row)
    (hidle : ∀ thread, s.phase thread = .idle) (steps : List UpdateStep) :
    AllSteps UpdateThreads.step NothingLost s steps ↔
      AllSteps UpdateThreads.step UpToDate s steps := by
  apply allSteps_iff_of_invariant (I := WellStored)
  · intro s a t hs ht
    exact nothingLost_iff hs ht
  · intro s a t hs ht _
    exact hs.step ht
  · refine ⟨hrow, ?_⟩
    intro thread i hi
    rw [hidle thread] at hi
    cases hi

end

/-! ## The operations of the model -/

section

variable {φ : Type} {w : World φ} {s : UpdateThreads} {id : IncidentId}

/-- The row after a write is the one that `create_incident` leaves. -/
theorem rowAfter_eq {rows : Incidents} {row held : Incident} {assignment : Assignment}
    (hrow : rows.lookup id = some row) (hid : (assignment.set held).incidentId = id) :
    (rows.createIncident (assignment.set held)).lookup id =
      some (rowAfter row (some (assignment, held))) := by
  have hself := Incidents.lookup_createIncident_self rows (assignment.set held)
  rw [hid] at hself
  rw [hself, Incidents.written, hid, hrow]
  rfl

/-- An update that nobody comes between is `update_incident`. -/
theorem update_incident_alone {thread : ℕ} (assignment : Assignment) (now : Date)
    (hrow : w.incidents.lookup id = some s.row) (hidle : s.phase thread = .idle)
    (hset : ∀ i, (assignment.set i).incidentId = i.incidentId) :
    ∃ t, exec UpdateThreads.step s [⟨thread, .fetch assignment now⟩, ⟨thread, .write⟩] = some t ∧
      (updateIncident id assignment.set now w).2.incidents.lookup id = some t.row := by
  have hread : w.incidents.getIncident id = some s.row.normalized := by
    rw [Incidents.getIncident, hrow]
    rfl
  refine ⟨⟨rowAfter s.row (some (assignment.dated now, s.row.normalized)),
    Function.update s.phase thread .idle⟩, ?_, ?_⟩
  · simp [exec_cons, UpdateThreads.step, UpdatePhase.access, hidle, rowAfter]
  · rw [updateIncident_world hread]
    refine (rowAfter_eq hrow ?_ :
      (w.incidents.createIncident ((assignment.dated now).set _)).lookup id = _)
    change (assignment.set s.row.normalized).incidentId = id
    rw [hset]
    exact Incidents.getIncident_id hread

/-- What a remediation that has loaded `incident` may write. -/
inductive RemediationWrite (incident : Incident) : Incident → Prop
  | began : RemediationWrite incident
      ((Assignment.remediating (incident.recoveryAttempt + 1)).set incident)
  | failed (error : Text) :
    RemediationWrite incident ((Assignment.recoveryFailed error).set (attempted incident))
  | recovered (now : Date) :
    RemediationWrite incident ((Assignment.recovered now).set (attempted incident))

/-- A step that writes no incident, or one that a remediation of `incident` writes. -/
def WritesFor (incident : Incident) (w w' : World φ) : Prop :=
  w'.incidents = w.incidents ∨
    ∃ i, RemediationWrite incident i ∧ w'.incidents = w.incidents.createIncident i

abbrev WritesOnly {α : Type} (incident : Incident) (p : Program φ α) (w : World φ) : Prop :=
  p.Steps World.transition (WritesFor incident) w

end

section

open Resumption

variable {φ α : Type} {w : World φ} {incident : Incident} {readings : Readings} {ports : Ports φ}
  {incidentId : IncidentId}

theorem writesOnly_of_silent {p : Program φ α} (h : Silent p w) : WritesOnly incident p w :=
  Steps.imp (I := fun _ => True) (fun _ _ _ heq => ⟨trivial, .inl heq⟩) trivial h

theorem writesOnly_saveIncident {i : Incident} (h : RemediationWrite incident i) :
    WritesOnly incident (lift (World.saveIncident i) : Program φ Unit) w :=
  steps_lift.mpr (.inr ⟨i, h, rfl⟩)

theorem writesOnly_recordFailure (attempt : ℕ) (error : Text) : WritesOnly incident
    (Remediation.Stepwise.recordFailure readings incidentId (attempted incident) attempt error :
      Program φ Unit) w := by
  apply (writesOnly_of_silent (silent_enter _ _)).bind_any
  intro _ _
  exact writesOnly_saveIncident (.failed error)

theorem writesOnly_failed (attempt : ℕ) (error : Text) (row : RemediationAttempt)
    (result : RemediationResult) : WritesOnly incident (do
      Remediation.Stepwise.recordFailure readings incidentId (attempted incident) attempt error
      lift (World.recordAttempt row)
      pure result : Program φ RemediationResult) w := by
  apply (writesOnly_recordFailure attempt error).bind_any
  intro _ _
  apply (writesOnly_of_silent (silent_lift rfl)).bind_any
  intro _ _
  exact steps_pure _

theorem writesOnly_complete (attempt : ℕ) (result : ReprocessResult) (sink : IngestionResult) :
    WritesOnly incident (Remediation.Stepwise.complete ports readings incidentId
      (attempted incident) attempt result sink) w := by
  apply (writesOnly_of_silent (silent_lift rfl)).bind_any
  intro _ _
  apply (writesOnly_of_silent (silent_enter _ _)).bind_any
  intro _ _
  apply (writesOnly_of_silent (silent_enter _ _)).bind_any
  intro _ _
  apply (writesOnly_of_silent (silent_lift rfl)).bind_any
  intro _ _
  apply (writesOnly_of_silent (silent_lift rfl)).bind_any
  intro _ _
  apply (writesOnly_saveIncident (.recovered _)).bind_any
  intro _ _
  apply (writesOnly_of_silent (silent_lift rfl)).bind_any
  intro _ _
  exact steps_pure _

theorem writesOnly_reprocessAndReingest (attempt : ℕ) (events : List Dict) :
    WritesOnly incident (Remediation.Stepwise.reprocessAndReingest ports readings incidentId
      (attempted incident) attempt events) w := by
  apply (writesOnly_of_silent (silent_enter _ _)).bind_any
  intro _ _
  apply (writesOnly_of_silent (silent_lift rfl)).bind_any
  intro result _
  apply (writesOnly_of_silent (silent_enter _ _)).bind_any
  intro _ _
  apply (writesOnly_of_silent (silent_recordRecoveryResult _)).bind_any
  intro recorded _
  apply (writesOnly_of_silent (silent_mayReingest _ _)).bind_any
  intro proceed _
  cases proceed with
  | false => exact writesOnly_failed attempt _ _ _
  | true =>
    apply (writesOnly_of_silent (silent_enter _ _)).bind_any
    intro _ _
    apply (writesOnly_of_silent (silent_lift rfl)).bind_any
    intro sink _
    split
    · exact writesOnly_complete attempt result sink
    · exact writesOnly_failed attempt _ _ _

theorem writesOnly_recover (attempt : ℕ) (ctx : Dict) : WritesOnly incident
    (Remediation.Stepwise.recover ports readings incidentId (attempted incident) attempt ctx) w := by
  unfold Remediation.Stepwise.recover
  split
  · exact writesOnly_failed attempt _ _ _
  · apply (writesOnly_of_silent (silent_lift rfl)).bind_any
    intro _ _
    apply (writesOnly_of_silent (silent_enter _ _)).bind_any
    intro _ _
    apply (writesOnly_of_silent (silent_lift rfl)).bind_any
    intro fetched _
    cases fetched with
    | error e =>
      apply (writesOnly_recordFailure attempt _).bind_any
      intro _ _
      exact steps_pure _
    | ok events =>
      apply (writesOnly_of_silent (silent_lift rfl)).bind_any
      intro _ _
      exact writesOnly_reprocessAndReingest attempt events

theorem writesOnly_attemptWith (cfg : ControllerConfig) (ctx : Dict) : WritesOnly incident
    (attemptWith readings ports cfg incidentId ctx incident) w := by
  unfold attemptWith
  split
  · apply (writesOnly_of_silent (silent_enter _ _)).bind_any
    intro _ _
    exact steps_pure _
  · apply Steps.bind_any
    · apply (writesOnly_saveIncident .began).bind_any
      intro _ _
      exact writesOnly_of_silent (silent_begun _ _)
    · intro _ _
      exact writesOnly_recover _ ctx

/-- All that `execute_remediation` writes of the stored incident is what it has loaded, with the
fields of its attempt or of its end set. -/
theorem writesOnly_executeRemediation (cfg : ControllerConfig) (ctx : Dict)
    (hread : w.incidents.getIncident incidentId = some incident) : WritesOnly incident
      (Remediation.Stepwise.executeRemediation ports cfg readings incidentId ctx) w := by
  have hflag : Fallible.read World.active w = (.ok w.active, w) := rfl
  unfold Remediation.Stepwise.executeRemediation
  refine (steps_lift_bind hflag).mpr ⟨.inl rfl, ?_⟩
  split
  · exact steps_pure _
  · have hraised : Fallible.update (fun w : World φ => { w with active := true }) w =
        (.ok (), { w with active := true }) := rfl
    refine (steps_lift_bind hraised).mpr ⟨.inl rfl, ?_⟩
    refine steps_ensuring.mpr ⟨?_, .inl rfl⟩
    have hload : getOrCreateIncident cfg readings {} (some incidentId) { w with active := true } =
        (.ok incident, { w with active := true }) := by
      simp only [getOrCreateIncident, Fallible.read_bind, hread]
      rfl
    refine (steps_lift_bind hload).mpr ⟨.inl rfl, ?_⟩
    exact writesOnly_attemptWith cfg ctx

end

/-! ### Acknowledged while Slack answers -/

def exampleRow : UpdateThreads :=
  ⟨newIncident exampleConfig {} exampleIncident 0 .open_, fun _ => .idle⟩

theorem exampleRow_stored : Stored exampleRow.row := ⟨rfl, by decide⟩

/-- An acknowledgement that nobody comes between. -/
def acknowledgeAlone : List UpdateStep := [⟨0, .fetch (.acknowledge 1) 1⟩, ⟨0, .write⟩]

theorem nothing_lost_alone :
    AllSteps UpdateThreads.step NothingLost exampleRow acknowledgeAlone := by
  apply (nothing_lost_iff exampleRow exampleRow_stored (fun _ => rfl) acknowledgeAlone).mpr
  intro t ht
  cases ht
  constructor
  · intro assignment held hwrites
    cases hwrites
  intro t ht
  cases ht
  refine ⟨?_, trivial⟩
  intro assignment held hwrites c _
  cases hwrites
  cases c <;> rfl

/-- The alert is recorded between the read and the write of the acknowledgement. -/
def acknowledgeDuringAlert : List UpdateStep :=
  [⟨0, .fetch (.acknowledge 1) 1⟩, ⟨1, .fetch (.slack (.ok true) 1) 1⟩, ⟨1, .write⟩, ⟨0, .write⟩]

/-- The acknowledgement takes back that the alert was sent. -/
theorem alert_lost : ¬AllSteps UpdateThreads.step NothingLost exampleRow acknowledgeDuringAlert := by
  intro hall
  obtain ⟨-, h₁⟩ := hall _ rfl
  obtain ⟨-, h₂⟩ := h₁ _ rfl
  obtain ⟨-, h₃⟩ := h₂ _ rfl
  obtain ⟨hlost, -⟩ := h₃ _ rfl
  have hsame := hlost .slackSent (by
    intro assignment held hwrites
    cases hwrites
    decide)
  have hsent : false = true := hsame
  cases hsent

end IceStream.Backend
