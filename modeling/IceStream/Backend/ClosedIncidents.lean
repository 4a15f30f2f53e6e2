import IceStream.Backend.IncidentService
import IceStream.Lib.Stepping
import IceStream.Remediation.Outcomes
import IceStream.Remediation.Path

/-!
# Closed incidents

An incident that is `RESOLVED` or `RECOVERED` should stay so, and carry a date of
resolution just then. Acknowledging minds `RESOLVED` only, a remediation minds
neither, and an id that is given out a second time opens its incident again.
-/

namespace IceStream
open Python

/-! ## The rule of the table -/

namespace Incidents

variable {rows : Incidents} {i : Incident}

/-- An incident has a date of resolution just when it is closed. -/
def Dated (rows : Incidents) : Prop :=
  ∀ id row, rows.lookup id = some row → (row.resolvedAt.isSome = true ↔ row.status.active = false)

/-- What a step of the table must respect. -/
structure StaysClosed (rows rows' : Incidents) : Prop where
  closed : ∀ id row row', rows.lookup id = some row → rows'.lookup id = some row' →
    row.status.active = false → row'.status.active = false
  dated : rows'.Dated

/-- The write of `i` leaves a closed incident closed, and dates it. -/
structure Admits (rows : Incidents) (i : Incident) : Prop where
  closed : ∀ row, rows.lookup i.incidentId = some row → row.status.active = false →
    i.status.active = false
  dated : i.resolvedAt.isSome = true ↔ i.status.active = false

theorem dated_of_forall_mem
    (h : ∀ row ∈ rows, (row.resolvedAt.isSome = true ↔ row.status.active = false)) :
    rows.Dated := by
  intro id row hrow
  exact h row (List.mem_of_find?_eq_some hrow)

theorem staysClosed_refl (h : rows.Dated) : rows.StaysClosed rows := by
  refine ⟨?_, h⟩
  intro id row row' hrow hrow' hclosed
  rw [hrow] at hrow'
  cases hrow'
  exact hclosed

/-- A write breaks the rule only by what it says of its own incident. -/
theorem staysClosed_createIncident (h : rows.Dated) :
    rows.StaysClosed (rows.createIncident i) ↔ rows.Admits i := by
  obtain ⟨hstatus, -, hresolved⟩ := written_columns rows i
  have hwritten := lookup_createIncident_self rows i
  constructor
  · intro hstays
    constructor
    · intro row hrow hclosed
      rw [← hstatus]
      exact hstays.closed _ _ _ hrow hwritten hclosed
    · rw [← hstatus, ← hresolved]
      exact hstays.dated _ _ hwritten
  · intro hadmits
    constructor
    · intro id row row' hrow hrow' hclosed
      rw [lookup_createIncident_eq] at hrow'
      split at hrow'
      · rename_i hid
        cases hrow'
        rw [hid] at hrow
        rw [hstatus]
        exact hadmits.closed row hrow hclosed
      · rw [hrow] at hrow'
        cases hrow'
        exact hclosed
    · intro id row hrow
      rw [lookup_createIncident_eq] at hrow
      split at hrow
      · cases hrow
        rw [hstatus, hresolved]
        exact hadmits.dated
      · exact h id row hrow

/-- Reading a row back changes neither its status nor its dates. -/
theorem Dated.getIncident (h : rows.Dated) {id : IncidentId} (hi : rows.getIncident id = some i) :
    i.resolvedAt.isSome = true ↔ i.status.active = false := by
  obtain ⟨row, hrow, rfl⟩ := getIncident_eq_some.mp hi
  exact h id row hrow

/-- A write of the incident as read, but for its status and its dates. -/
theorem admits_of_getIncident {id : IncidentId} {read : Incident}
    (hread : rows.getIncident id = some read) (hid : i.incidentId = id) :
    rows.Admits i ↔ (read.status.active = false → i.status.active = false) ∧
      (i.resolvedAt.isSome = true ↔ i.status.active = false) := by
  obtain ⟨row, hrow, rfl⟩ := getIncident_eq_some.mp hread
  constructor
  · intro hadmits
    exact ⟨hadmits.closed row (hid ▸ hrow), hadmits.dated⟩
  · intro h
    refine ⟨?_, h.2⟩
    intro row' hrow' hclosed
    rw [hid, hrow] at hrow'
    cases hrow'
    exact h.1 hclosed

end Incidents

namespace Backend
open Remediation Resumption Stepping

variable {φ : Type}

/-- A step of a program leaves the table as the rule wants it. -/
def Minds (w w' : World φ) : Prop := w.incidents.StaysClosed w'.incidents

theorem minds_of_eq {w w' : World φ} (h : w.incidents.Dated) (heq : w'.incidents = w.incidents) :
    Minds w w' := by
  rw [Minds, heq]
  exact Incidents.staysClosed_refl h

/-! ## The service's operations -/

section

variable {w : World φ} {id : IncidentId} {read : Incident} {updates : Incident → Incident}
  {now : Date}

theorem minds_congr {w' w'' : World φ} (h : w''.incidents = w'.incidents) :
    Minds w w'' ↔ Minds w w' := by
  rw [Minds, h]
  exact Iff.rfl

theorem minds_updateIncident_iff (hdated : w.incidents.Dated)
    (hread : w.incidents.getIncident id = some read)
    (hid : (updates read).incidentId = read.incidentId) :
    Minds w (updateIncident id updates now w).2 ↔
      (read.status.active = false → (updates read).status.active = false) ∧
      ((updates read).resolvedAt.isSome = true ↔ (updates read).status.active = false) := by
  rw [updateIncident_world hread, Minds, Incidents.staysClosed_createIncident hdated]
  apply Incidents.admits_of_getIncident hread
  change (updates read).incidentId = id
  rw [hid, Incidents.getIncident_id hread]

/-- Updates that leave the status and the date of resolution alone break nothing. -/
theorem minds_updateIncident (hdated : w.incidents.Dated)
    (hid : ∀ i, (updates i).incidentId = i.incidentId)
    (hstatus : ∀ i, (updates i).status = i.status)
    (hresolved : ∀ i, (updates i).resolvedAt = i.resolvedAt) :
    Minds w (updateIncident id updates now w).2 := by
  cases hread : w.incidents.getIncident id with
  | none =>
    rw [updateIncident_missing hread]
    exact minds_of_eq hdated rfl
  | some read =>
    rw [minds_updateIncident_iff hdated hread (hid read), hstatus, hresolved]
    exact ⟨fun h => h, hdated.getIncident hread⟩

namespace IncidentService

variable (service : IncidentService φ) (readings : IncidentReadings)

/-- Acknowledging opens what a remediation has `RECOVERED`. -/
theorem minds_acknowledgeIncident (hdated : w.incidents.Dated) :
    Minds w (acknowledgeIncident readings id w).2 ↔
      ∀ i, w.incidents.getIncident id = some i → i.status ≠ .recovered := by
  simp only [acknowledgeIncident, Fallible.read_bind]
  cases hread : w.incidents.getIncident id with
  | none =>
    refine iff_of_true (minds_of_eq hdated rfl) ?_
    intro i hi
    cases hi
  | some read =>
    have hiff : (∀ i, some read = some i → i.status ≠ .recovered) ↔ read.status ≠ .recovered := by
      simp
    rw [hiff]
    dsimp only
    split
    · rename_i hresolved
      refine iff_of_true (minds_of_eq hdated rfl) ?_
      rw [hresolved]
      decide
    · split
      · rename_i hacknowledged
        refine iff_of_true (minds_of_eq hdated rfl) ?_
        rw [hacknowledged]
        decide
      · rename_i hresolved hacknowledged
        rw [minds_congr (updateIncident_bind fun _ _ => rfl),
          minds_updateIncident_iff hdated hread rfl]
        have hdate := hdated.getIncident hread
        -- the date of resolution is the one that was read
        change (read.status.active = false → true = false) ∧
          (read.resolvedAt.isSome = true ↔ true = false) ↔ _
        rw [hdate]
        cases hstatus : read.status with
        | resolved => exact absurd hstatus hresolved
        | acknowledged => exact absurd hstatus hacknowledged
        | _ => simp [IncidentStatus.active]

theorem minds_resolveIncident (hdated : w.incidents.Dated) (rate : Option Float) :
    Minds w (service.resolveIncident readings id rate w).2 := by
  simp only [resolveIncident, Fallible.read_bind]
  cases hread : w.incidents.getIncident id with
  | none => exact minds_of_eq hdated rfl
  | some read =>
    dsimp only
    split
    · exact minds_of_eq hdated rfl
    · rw [minds_congr (updateIncident_bind fun _ _ => rfl),
        minds_updateIncident_iff hdated hread rfl]
      exact ⟨fun _ => rfl, iff_of_true rfl rfl⟩

/-- The id that a new incident gets, where no active one is found. -/
def Opens (w : World φ) (report : IncidentReport) (id : IncidentId) : Prop :=
  w.incidents.findActiveIncident report.pipelineName = none ∧
    w.incidents.generateIncidentId service.collation service.unicode readings.date = .ok id

theorem minds_recordIncident (hdated : w.incidents.Dated) (report : IncidentReport) :
    Minds w (service.recordIncident readings report w).2 ↔
      ∀ id, service.Opens readings w report id →
        ∀ i, w.incidents.getIncident id = some i → i.status.active = true := by
  simp only [recordIncident, Fallible.read_bind, Opens]
  cases hfound : w.incidents.findActiveIncident report.pipelineName with
  | some active =>
    refine iff_of_true ?_ ?_
    · rw [minds_congr (updateIncident_bind fun _ _ => rfl)]
      exact minds_updateIncident hdated (fun _ => rfl) (fun _ => rfl) fun _ => rfl
    · intro id h
      cases h.1
  | none =>
    dsimp only
    cases hid : w.incidents.generateIncidentId service.collation service.unicode readings.date with
    | error e =>
      refine iff_of_true (minds_of_eq hdated rfl) ?_
      intro id h
      cases h.2
    | ok id =>
      have hiff : (∀ id', (none : Option Incident) = none ∧ (.ok id : Except Exc IncidentId) = .ok id' →
          ∀ i, w.incidents.getIncident id' = some i → i.status.active = true) ↔
          ∀ i, w.incidents.getIncident id = some i → i.status.active = true := by
        simp
      rw [hiff]
      change w.incidents.StaysClosed (w.incidents.createIncident (report.incident id readings.now)) ↔ _
      rw [Incidents.staysClosed_createIncident hdated]
      constructor
      · intro hadmits i hi
        obtain ⟨row, hrow, rfl⟩ := Incidents.getIncident_eq_some.mp hi
        by_contra hclosed
        have hopen := hadmits.closed row hrow (Bool.eq_false_iff.mpr hclosed)
        cases hopen
      · intro hfree
        refine ⟨?_, by simp [IncidentReport.incident, IncidentStatus.active]⟩
        intro row hrow hclosed
        have hactive : row.status.active = true :=
          hfree row.normalized (Incidents.getIncident_eq_some.mpr ⟨row, hrow, rfl⟩)
        rw [hclosed] at hactive
        cases hactive

theorem minds_notify (hdated : w.incidents.Dated) (created : Incident) :
    Minds w (service.notify readings created w).2 := by
  unfold notify
  rw [Fallible.attempt_bind]
  generalize hsent : (World.onOutside (service.slack.sendIncidentAlert created) w).1 = sent
  have hminds : Minds w (updateIncident created.incidentId (slackUpdates sent readings.slackSent)
      readings.slackUpdated (World.onOutside (service.slack.sendIncidentAlert created) w).2).2 := by
    refine minds_updateIncident (w := (World.onOutside (service.slack.sendIncidentAlert created) w).2)
      hdated ?_ ?_ ?_
    all_goals
      intro i
      unfold slackUpdates
      split
      · rfl
      · rfl
      · rfl
  rw [minds_congr (updateIncident_bind ?_)]
  · exact hminds
  · intro updated w'
    cases sent with
    | ok sent => rfl
    | error e => rfl

end IncidentService

end

/-! ## The remediation -/

abbrev MindsAll {α : Type} (p : Program φ α) (w : World φ) : Prop :=
  p.Steps World.transition Minds w

/-- The program leaves the table alone. -/
abbrev Silent {α : Type} (p : Program φ α) (w : World φ) : Prop :=
  p.Steps World.transition (fun s t => t.incidents = s.incidents) w

section

variable {α β : Type} {w : World φ} {p : Program φ α} {g : α → Program φ β}

theorem mindsAll_of_silent (hdated : w.incidents.Dated) (h : Silent p w) : MindsAll p w := by
  refine Steps.imp (I := fun w => w.incidents.Dated) ?_ hdated h
  intro s t hs heq
  refine ⟨?_, minds_of_eq hs heq⟩
  rw [heq]
  exact hs

theorem mindsAll_bind (hdated : w.incidents.Dated) (hp : MindsAll p w)
    (hg : ∀ a w', w'.incidents.Dated → MindsAll (g a) w') : MindsAll (p >>= g) w := by
  refine steps_bind.mpr ⟨hp, ?_⟩
  intro a w' hw'
  apply hg
  have hafter := hp.preserves (I := fun w => w.incidents.Dated) (fun _ _ _ h => h.dated) hdated
  rw [hw'] at hafter
  exact hafter

theorem silent_incidents (h : Silent p w) : (p.alone World.transition w).2.incidents = w.incidents :=
  h.preserves (I := fun w' => w'.incidents = w.incidents) (fun _ _ hs heq => heq.trans hs) rfl

/-- After a silent part the rest finds the same table. -/
theorem mindsAll_bind_silent (hdated : w.incidents.Dated) (hp : Silent p w)
    (hg : ∀ a w', w'.incidents = w.incidents → MindsAll (g a) w') : MindsAll (p >>= g) w := by
  refine steps_bind.mpr ⟨mindsAll_of_silent hdated hp, ?_⟩
  intro a w' hw'
  apply hg
  have hsame := silent_incidents hp
  rw [hw'] at hsame
  exact hsame

theorem silent_lift {x : WorldM φ α} (hx : (x w).2.incidents = w.incidents) :
    Silent (lift x : Program φ α) w :=
  steps_lift.mpr hx

theorem silent_enter (readings : Readings) (t : Transition) :
    Silent (Remediation.Stepwise.enter readings t : Program φ Unit) w := by
  refine steps_bind.mpr ⟨steps_request.mpr ?_, ?_⟩
  · rw [World.transition]
    split
    · rfl
    · rfl
  · intro _ _ _
    exact silent_lift rfl

end

section

variable {w : World φ} {incident : Incident} {readings : Readings} {ports : Ports φ}

/-- The table while a remediation works on `incident`. -/
structure Working (incident : Incident) (rows : Incidents) : Prop where
  dated : rows.Dated
  stored : ∀ row, rows.lookup incident.incidentId = some row → row.status.active = true
  undated : incident.resolvedAt = none

theorem mindsAll_saveIncident (i : Incident) (hdated : w.incidents.Dated) :
    MindsAll (lift (World.saveIncident i) : Program φ Unit) w ↔ w.incidents.Admits i :=
  steps_lift.trans (Incidents.staysClosed_createIncident hdated)

/-- Nothing closed is stored under the incident's id, so any status will do. -/
theorem Working.admits (h : Working incident w.incidents) {i : Incident}
    (hid : i.incidentId = incident.incidentId)
    (hdate : i.resolvedAt.isSome = true ↔ i.status.active = false) : w.incidents.Admits i := by
  refine ⟨?_, hdate⟩
  intro row hrow hclosed
  rw [hid] at hrow
  rw [h.stored row hrow] at hclosed
  cases hclosed

theorem mindsAll_recordFailure (h : Working incident w.incidents) (incidentId : IncidentId)
    (attempt : ℕ) (error : Text) : MindsAll
      (Remediation.Stepwise.recordFailure readings incidentId incident attempt error) w := by
  apply mindsAll_bind_silent h.dated (silent_enter _ _)
  intro _ w' hw'
  rw [← hw'] at h
  apply (mindsAll_saveIncident _ h.dated).mpr
  apply h.admits
  · rfl
  · simp [h.undated, IncidentStatus.active]

theorem mindsAll_failed (h : Working incident w.incidents) (incidentId : IncidentId)
    (attempt : ℕ) (error : Text) (row : RemediationAttempt) (result : RemediationResult) :
    MindsAll (do
      Remediation.Stepwise.recordFailure readings incidentId incident attempt error
      lift (World.recordAttempt row)
      pure result : Program φ RemediationResult) w := by
  apply mindsAll_bind h.dated (mindsAll_recordFailure h incidentId attempt error)
  intro _ w' hw'
  apply mindsAll_bind_silent hw' (silent_lift rfl)
  intro _ _ _
  exact steps_pure _

theorem mindsAll_complete (h : Working incident w.incidents) (incidentId : IncidentId)
    (attempt : ℕ) (result : ReprocessResult) (sink : IngestionResult) :
    MindsAll (Remediation.Stepwise.complete ports readings incidentId incident attempt result sink)
      w := by
  apply mindsAll_bind_silent h.dated (silent_lift rfl)
  intro _ w₁ h₁
  rw [← h₁] at h
  apply mindsAll_bind_silent h.dated (silent_enter _ _)
  intro _ w₂ h₂
  rw [← h₂] at h
  apply mindsAll_bind_silent h.dated (silent_enter _ _)
  intro _ w₃ h₃
  rw [← h₃] at h
  apply mindsAll_bind_silent h.dated (silent_lift rfl)
  intro _ w₄ h₄
  rw [← h₄] at h
  apply mindsAll_bind_silent h.dated (silent_lift rfl)
  intro _ w₅ h₅
  rw [← h₅] at h
  apply mindsAll_bind h.dated
  · apply (mindsAll_saveIncident _ h.dated).mpr
    apply h.admits
    · rfl
    · simp [IncidentStatus.active]
  · intro _ w₆ h₆
    apply mindsAll_bind_silent h₆ (silent_lift rfl)
    intro _ _ _
    exact steps_pure _

theorem silent_recordRecoveryResult (errorRate : Float) :
    Silent (lift (recordRecoveryResult readings errorRate) : Program φ CircuitState) w :=
  silent_lift (preserves_recordRecoveryResult (I := fun w' => w'.incidents = w.incidents)
    (fun _ _ h => h) (fun _ _ h => h) errorRate w rfl)

theorem silent_mayReingest (result : ReprocessResult) (recorded : CircuitState) :
    Silent (lift (mayReingest readings result recorded) : Program φ Bool) w :=
  silent_lift (preserves_mayReingest (I := fun w' => w'.incidents = w.incidents)
    (fun _ _ h => h) (fun _ _ h => h) result recorded w rfl)

theorem mindsAll_reprocessAndReingest (h : Working incident w.incidents) (incidentId : IncidentId)
    (attempt : ℕ) (events : List Dict) :
    MindsAll (Remediation.Stepwise.reprocessAndReingest ports readings incidentId incident attempt
      events) w := by
  apply mindsAll_bind_silent h.dated (silent_enter _ _)
  intro _ w₁ h₁
  rw [← h₁] at h
  apply mindsAll_bind_silent h.dated (silent_lift rfl)
  intro result w₂ h₂
  rw [← h₂] at h
  apply mindsAll_bind_silent h.dated (silent_enter _ _)
  intro _ w₃ h₃
  rw [← h₃] at h
  apply mindsAll_bind_silent h.dated (silent_recordRecoveryResult _)
  intro recorded w₄ h₄
  rw [← h₄] at h
  apply mindsAll_bind_silent h.dated (silent_mayReingest _ _)
  intro proceed w₅ h₅
  rw [← h₅] at h
  cases proceed with
  | false => exact mindsAll_failed h incidentId attempt _ _ _
  | true =>
    apply mindsAll_bind_silent h.dated (silent_enter _ _)
    intro _ w₆ h₆
    rw [← h₆] at h
    apply mindsAll_bind_silent h.dated (silent_lift rfl)
    intro sink w₇ h₇
    rw [← h₇] at h
    split
    · exact mindsAll_complete h incidentId attempt result sink
    · exact mindsAll_failed h incidentId attempt _ _ _

theorem mindsAll_recover (h : Working incident w.incidents) (incidentId : IncidentId)
    (attempt : ℕ) (ctx : Dict) : MindsAll
      (Remediation.Stepwise.recover ports readings incidentId incident attempt ctx) w := by
  unfold Remediation.Stepwise.recover
  split
  · exact mindsAll_failed h incidentId attempt _ _ _
  · apply mindsAll_bind_silent h.dated (silent_lift rfl)
    intro _ w₁ h₁
    rw [← h₁] at h
    apply mindsAll_bind_silent h.dated (silent_enter _ _)
    intro _ w₂ h₂
    rw [← h₂] at h
    apply mindsAll_bind_silent h.dated (silent_lift rfl)
    intro fetched w₃ h₃
    rw [← h₃] at h
    cases fetched with
    | error e =>
      apply mindsAll_bind h.dated (mindsAll_recordFailure h incidentId attempt _)
      intro _ _ _
      exact steps_pure _
    | ok events =>
      apply mindsAll_bind_silent h.dated (silent_lift rfl)
      intro _ w₄ h₄
      rw [← h₄] at h
      exact mindsAll_reprocessAndReingest h incidentId attempt events

/-- What follows the first write of an attempt leaves the table alone until it is paused. -/
theorem silent_begun (incidentId : IncidentId) (attempt : ℕ) : Silent (do
    Remediation.Stepwise.enter readings { stage incidentId attempt .remediating
      (text s!"Starting remediation attempt {attempt}") with force := true }
    lift (World.onOutside fun w => (.ok (), ports.pauseJob w))
    lift (World.log .flinkPaused) : Program φ Unit) w := by
  refine steps_bind.mpr ⟨silent_enter _ _, ?_⟩
  intro _ _ _
  refine steps_bind.mpr ⟨silent_lift rfl, ?_⟩
  intro _ _ _
  exact silent_lift rfl

variable (ports readings) (cfg : ControllerConfig) (incidentId : IncidentId) (ctx : Dict)

/-- What a remediation does with the incident it has loaded. -/
def attemptWith (incident : Incident) : Program φ RemediationResult :=
  if cfg.maxRecoveryAttempts.exceededBy (incident.recoveryAttempt + 1) then
    Remediation.Stepwise.maxAttemptsExceeded cfg readings incidentId (incident.recoveryAttempt + 1)
  else do
    Remediation.Stepwise.beginAttempt ports readings incidentId (attempted incident)
      (incident.recoveryAttempt + 1)
    Remediation.Stepwise.recover ports readings incidentId (attempted incident)
      (incident.recoveryAttempt + 1) ctx

variable {ports readings cfg incidentId ctx}

/-- An attempt opens its incident, which must have been open. -/
theorem mindsAll_attemptWith (hdated : w.incidents.Dated)
    (hread : w.incidents.getIncident incidentId = some incident) :
    MindsAll (attemptWith readings ports cfg incidentId ctx incident) w ↔
      (cfg.maxRecoveryAttempts.exceededBy (incident.recoveryAttempt + 1) = false →
        incident.status.active = true) := by
  have hid := Incidents.getIncident_id hread
  unfold attemptWith
  cases hexceeded : cfg.maxRecoveryAttempts.exceededBy (incident.recoveryAttempt + 1) with
  | true =>
    rw [if_pos rfl]
    refine iff_of_true ?_ (fun h => by cases h)
    apply mindsAll_bind_silent hdated (silent_enter _ _)
    intro _ _ _
    exact steps_pure _
  | false =>
    rw [if_neg Bool.false_ne_true]
    have hsave : w.incidents.Admits (attempted incident) ↔ incident.status.active = true := by
      rw [Incidents.admits_of_getIncident (i := attempted incident) hread hid]
      have hdate := hdated.getIncident hread
      change (incident.status.active = false → true = false) ∧
        (incident.resolvedAt.isSome = true ↔ true = false) ↔ _
      rw [hdate]
      simp
    constructor
    · intro hall _
      obtain ⟨hbegin, -⟩ := steps_bind.mp hall
      obtain ⟨hfirst, -⟩ := steps_bind.mp hbegin
      exact hsave.mp ((mindsAll_saveIncident _ hdated).mp hfirst)
    · intro hactive
      have hadmits := hsave.mpr (hactive rfl)
      have hstays := (Incidents.staysClosed_createIncident hdated).mpr hadmits
      refine steps_bind.mpr ⟨?_, ?_⟩
      · apply mindsAll_bind hdated ((mindsAll_saveIncident _ hdated).mpr hadmits)
        intro _ w₁ h₁
        exact mindsAll_of_silent h₁ (silent_begun _ _)
      · intro _ w₁ hw₁
        -- the table is the one with the incident `REMEDIATING`
        have htable : w₁.incidents = w.incidents.createIncident (attempted incident) := by
          have hrun : (Remediation.Stepwise.beginAttempt ports readings incidentId
              (attempted incident) (incident.recoveryAttempt + 1)).alone World.transition w =
              (.ok (), w₁) := hw₁
          have hworld := congrArg (fun r => r.2.incidents) hrun
          exact hworld.symm.trans (silent_incidents (silent_begun _ _))
        apply mindsAll_recover
        refine ⟨?_, ?_, ?_⟩
        · rw [htable]
          exact hstays.dated
        · intro row hrow
          rw [htable, Incidents.lookup_createIncident_self] at hrow
          cases hrow
          rw [(Incidents.written_columns _ _).1]
          rfl
        · rw [← Option.not_isSome_iff_eq_none]
          intro hsome
          rw [(hdated.getIncident hread).mp hsome] at hactive
          cases hactive rfl

/-- A remediation that passes its guards finds its incident open. -/
def FindsOpen (cfg : ControllerConfig) (incidentId : IncidentId) (w : World φ) : Prop :=
  w.active = false → ∀ i, w.incidents.getIncident incidentId = some i →
    cfg.maxRecoveryAttempts.exceededBy (i.recoveryAttempt + 1) = false → i.status.active = true

theorem mindsAll_remediate (hdated : w.incidents.Dated) :
    MindsAll (Remediation.Stepwise.remediate ports cfg readings incidentId ctx) w ↔
      ∀ i, w.incidents.getIncident incidentId = some i →
        cfg.maxRecoveryAttempts.exceededBy (i.recoveryAttempt + 1) = false →
        i.status.active = true := by
  change MindsAll (lift (getOrCreateIncident cfg readings {} (some incidentId)) >>=
    attemptWith readings ports cfg incidentId ctx) w ↔ _
  cases hread : w.incidents.getIncident incidentId with
  | some i =>
    have hload : getOrCreateIncident cfg readings {} (some incidentId) w = (.ok i, w) := by
      simp only [getOrCreateIncident, Fallible.read_bind, hread]
      rfl
    rw [MindsAll, steps_lift_bind hload, and_iff_right (minds_of_eq hdated rfl)]
    refine (mindsAll_attemptWith hdated hread).trans ?_
    simp
  | none =>
    -- an incident that is created is open, and found again
    let incident := newIncident cfg {} incidentId (readings.time .incidentCreated)
      (w.circuit.currentState (readings.breaker .incidentCreated)).state
    have hcreated : w.incidents.Admits incident := by
      refine ⟨?_, by simp [incident, newIncident, IncidentStatus.active]⟩
      intro row hrow
      have hnone : w.incidents.lookup incidentId = none := Option.map_eq_none_iff.mp hread
      have hfound : w.incidents.lookup incidentId = some row := hrow
      rw [hnone] at hfound
      cases hfound
    have hstays := (Incidents.staysClosed_createIncident hdated).mpr hcreated
    obtain ⟨row, hrow, hstatus, -⟩ := Incidents.getIncident_createIncident w.incidents incident
    have hload : getOrCreateIncident cfg readings {} (some incidentId) w = (.ok row, { w with
        circuit := w.circuit.currentState (readings.breaker .incidentCreated)
        incidents := w.incidents.createIncident incident }) := by
      simp only [getOrCreateIncident, Fallible.read_bind, hread]
      change (Except.ok (Option.getD ((w.incidents.createIncident incident).getIncident
        incident.incidentId) incident), _) = _
      rw [hrow]
      rfl
    rw [MindsAll, steps_lift_bind hload]
    refine iff_of_true ⟨hstays, ?_⟩ (fun i hi => by cases hi)
    apply (mindsAll_attemptWith hstays.dated hrow).mpr
    intro _
    rw [hstatus]
    rfl

/-- A remediation opens what it loads, unless a guard stops it. -/
theorem mindsAll_executeRemediation (hdated : w.incidents.Dated) :
    MindsAll (Remediation.Stepwise.executeRemediation ports cfg readings incidentId ctx) w ↔
      FindsOpen cfg incidentId w := by
  have hread : Minds w w := minds_of_eq hdated rfl
  unfold Remediation.Stepwise.executeRemediation FindsOpen
  have hflag : Fallible.read World.active w = (.ok w.active, w) := rfl
  rw [MindsAll, steps_lift_bind hflag, and_iff_right hread]
  cases hactive : w.active with
  | true =>
    refine iff_of_true ?_ (fun h => by cases h)
    exact steps_pure _
  | false =>
    have hset : Minds w { w with active := true } := minds_of_eq hdated rfl
    have hraised : Fallible.update (fun w : World φ => { w with active := true }) w =
        (.ok (), { w with active := true }) := rfl
    rw [if_neg Bool.false_ne_true, steps_lift_bind hraised, and_iff_right hset, steps_ensuring]
    have hremediate : MindsAll (Remediation.Stepwise.remediate ports cfg readings incidentId ctx)
      { w with active := true } ↔ _ := mindsAll_remediate hdated
    constructor
    · intro h _
      exact hremediate.mp h.1
    · intro h
      have hall := hremediate.mpr (h rfl)
      refine ⟨hall, ?_⟩
      apply minds_of_eq _ rfl
      exact hall.preserves (I := fun w => w.incidents.Dated) (fun _ _ _ h => h.dated) hdated

end

/-! ## Runs -/

inductive IncidentAction
  | acknowledge (id : IncidentId) (readings : IncidentReadings)
  | resolve (id : IncidentId) (currentErrorRate : Option Float) (readings : IncidentReadings)
  | createOrUpdate (report : IncidentReport) (readings : IncidentReadings)
  | remediate (id : IncidentId) (ctx : Dict) (readings : Readings)

section

variable (service : IncidentService φ) (ports : Ports φ) (cfg : ControllerConfig)

/-- The steps of an action, whatever it answers. -/
def actionProgram : IncidentAction → Program φ Unit
  | .acknowledge id readings => do
    let _ ← lift (IncidentService.acknowledgeIncident readings id)
  | .resolve id currentErrorRate readings => do
    let _ ← lift (service.resolveIncident readings id currentErrorRate)
  | .createOrUpdate report readings => do
    let _ ← service.createOrUpdateIncident readings report
  | .remediate id ctx readings => do
    let _ ← Remediation.Stepwise.executeRemediation ports cfg readings id ctx

def incidentStep (w : World φ) (a : IncidentAction) : Option (World φ) :=
  some ((actionProgram service ports cfg a).alone World.transition w).2

/-- At every point of the action the closed incidents are as they should be. -/
def KeepsClosed (w : World φ) (a : IncidentAction) (_ : World φ) : Prop :=
  MindsAll (actionProgram service ports cfg a) w

/-- The action acknowledges no `RECOVERED` incident, gives out no id of a closed one, and
remediates none past its guards. -/
def LeavesClosed (w : World φ) (a : IncidentAction) (_ : World φ) : Prop :=
  match a with
  | .acknowledge id _ => ∀ i, w.incidents.getIncident id = some i → i.status ≠ .recovered
  | .resolve _ _ _ => True
  | .createOrUpdate report readings => ∀ id, service.Opens readings w report id →
      ∀ i, w.incidents.getIncident id = some i → i.status.active = true
  | .remediate id _ _ => FindsOpen cfg id w

variable {service ports cfg} {w : World φ}

theorem mindsAll_discard {α : Type} {p : Program φ α} :
    MindsAll (do let _ ← p) w ↔ MindsAll p w := by
  rw [MindsAll, steps_bind]
  refine and_iff_left ?_
  intro _ _ _
  trivial

theorem keepsClosed_iff (hdated : w.incidents.Dated) (a : IncidentAction) (w' : World φ) :
    KeepsClosed service ports cfg w a w' ↔ LeavesClosed service cfg w a w' := by
  cases a with
  | acknowledge id readings =>
    refine mindsAll_discard.trans (steps_lift.trans ?_)
    exact IncidentService.minds_acknowledgeIncident readings hdated
  | resolve id currentErrorRate readings =>
    refine iff_of_true ?_ trivial
    refine mindsAll_discard.mpr (steps_lift.mpr ?_)
    exact service.minds_resolveIncident readings hdated currentErrorRate
  | createOrUpdate report readings =>
    refine mindsAll_discard.trans ?_
    refine Iff.trans ?_ (service.minds_recordIncident readings hdated report)
    unfold IncidentService.createOrUpdateIncident
    rw [MindsAll, steps_bind, steps_lift]
    refine and_iff_left_of_imp ?_
    intro hminds recorded w' hrecorded
    have hrun : service.recordIncident readings report w = (.ok recorded, w') := hrecorded
    have hdated' : w'.incidents.Dated := by
      rw [hrun] at hminds
      exact hminds.dated
    split
    · exact steps_lift.mpr (service.minds_notify readings hdated' recorded.1)
    · exact steps_pure _
  | remediate id ctx readings =>
    exact mindsAll_discard.trans (mindsAll_executeRemediation hdated)

variable (service ports cfg)

/-- From a table that dates its closed incidents on, they stay closed and dated at every point
of a run just in case no action of the run opens one. -/
theorem incidents_stay_closed_iff (w : World φ) (hdated : w.incidents.Dated)
    (actions : List IncidentAction) :
    AllSteps (incidentStep service ports cfg) (KeepsClosed service ports cfg) w actions ↔
      AllSteps (incidentStep service ports cfg) (LeavesClosed service cfg) w actions := by
  apply allSteps_iff_of_invariant (I := fun w => w.incidents.Dated)
  · intro w a w' hw _
    exact keepsClosed_iff hw a w'
  · intro w a w' hw hstep hleaves
    obtain rfl := Option.some.inj hstep
    have hall : KeepsClosed service ports cfg w a _ := (keepsClosed_iff hw a _).mpr hleaves
    exact hall.preserves (I := fun w => w.incidents.Dated) (fun _ _ _ h => h.dated) hw
  · exact hdated

end

/-! ### An incident that has recovered -/

/-- Slack takes every message. -/
def exampleIncidents : IncidentService Unit where
  slack := ⟨fun _ => pure true, fun _ => pure ()⟩
  collation := .sqlite
  unicode := .ascii

def exampleActionReadings : IncidentReadings := ⟨0, 0, 0, 0, "2026-0903"⟩

theorem exampleWorld_dated : exampleWorld.incidents.Dated :=
  Incidents.dated_of_forall_mem (by decide +kernel)

def remediateThenResolve : List IncidentAction :=
  [.remediate exampleIncident [] Remediation.exampleReadings,
    .resolve exampleIncident none exampleActionReadings]

/-- Resolving an incident that has recovered leaves it closed. -/
theorem recovered_incident_resolved :
    AllSteps (incidentStep exampleIncidents (examplePorts true) exampleConfig)
      (KeepsClosed exampleIncidents (examplePorts true) exampleConfig) exampleWorld
      remediateThenResolve := by
  apply (incidents_stay_closed_iff exampleIncidents (examplePorts true) exampleConfig exampleWorld
    exampleWorld_dated remediateThenResolve).mpr
  intro t _
  refine ⟨?_, fun _ _ => ⟨trivial, trivial⟩⟩
  intro _ i hi _
  have hactive : (exampleWorld.incidents.getIncident exampleIncident).map
      (fun i => i.status.active) = some true := by decide +kernel
  rw [hi] at hactive
  exact Option.some.inj hactive

def remediateThenAcknowledge : List IncidentAction :=
  [.remediate exampleIncident [] Remediation.exampleReadings,
    .acknowledge exampleIncident exampleActionReadings]

/-- Acknowledging it opens it again. -/
theorem recovered_incident_acknowledged :
    ¬AllSteps (incidentStep exampleIncidents (examplePorts true) exampleConfig)
      (KeepsClosed exampleIncidents (examplePorts true) exampleConfig) exampleWorld
      remediateThenAcknowledge := by
  intro hall
  obtain ⟨hremediated, hrest⟩ := hall _ rfl
  have hdated := hremediated.preserves (I := fun w => w.incidents.Dated) (fun _ _ _ h => h.dated)
    exampleWorld_dated
  obtain ⟨hacknowledged, -⟩ := hrest _ rfl
  have hleaves := (keepsClosed_iff hdated _ _).mp hacknowledged
  have hrecovered : (((actionProgram exampleIncidents (examplePorts true) exampleConfig
      (.remediate exampleIncident [] Remediation.exampleReadings)).alone World.transition
      exampleWorld).2.incidents.getIncident exampleIncident).map Incident.status =
      some .recovered := by decide +kernel
  obtain ⟨i, hi, hstatus⟩ := Option.map_eq_some_iff.mp hrecovered
  exact hleaves i hi hstatus

end Backend
end IceStream
