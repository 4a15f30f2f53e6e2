import IceStream.CircuitBreaker

/-!
# Incident rows

The table `pipeline_incidents` and the queries the remediation runs on it. A
row read back is normalised; a row written over an existing one leaves its
pipeline, its dates of creation and detection, its trigger and its message.
-/

namespace IceStream
open Python

/-- Callers treat an empty id as none. -/
abbrev IncidentId := { t : Text // t ≠ [] }

inductive IncidentStatus
  | open_
  | acknowledged
  | remediating
  | recoveryFailed
  | recovered
  | resolved
  deriving DecidableEq

/-- The statuses `find_active_incident` selects. -/
def IncidentStatus.active : IncidentStatus → Bool
  | .open_ => true
  | .acknowledged => true
  | .remediating => true
  | .recoveryFailed => true
  | .recovered => false
  | .resolved => false

inductive IncidentSeverity
  | critical
  | warning
  | healthy
  deriving DecidableEq

def severityOf (errorRate : Float) : IncidentSeverity :=
  if 0.02 < errorRate then .critical else if 0.01 ≤ errorRate then .warning else .healthy

structure Incident where
  incidentId : IncidentId
  pipelineId : Text
  pipelineName : Text
  createdAt : Date
  detectedAt : Date
  updatedAt : Date
  trigger : Text
  errorRate : Float
  threshold : Float
  circuitState : CircuitState
  failedEventCount : ℕ
  failedRecords : ℕ
  totalRecords : ℕ
  quarantineCount : ℕ
  status : IncidentStatus
  severity : IncidentSeverity
  message : Option Text
  actionTaken : Text
  slackSent : Bool
  slackSentAt : Option Date
  slackError : Option Text
  recoveryAttempt : ℕ
  lastError : Option Text
  resolvedAt : Option Date
  deriving DecidableEq

namespace Incident

def orText (t default : Text) : Text := if t = [] then default else t

/-- `_normalize_incident_dict` -/
def normalized (i : Incident) : Incident :=
  let pipelineName := orText i.pipelineName (orText i.pipelineId "checkout-stream")
  { i with
    pipelineName := pipelineName
    pipelineId := orText i.pipelineId pipelineName
    trigger := orText i.trigger "CRITICAL_ERROR_RATE"
    threshold := if i.threshold == 0 then 0.02 else i.threshold
    actionTaken := orText i.actionTaken "Downstream pipeline paused." }

/-- The row `create_incident` inserts. -/
def inserted (i : Incident) : Incident :=
  let pipelineName := orText i.pipelineName (orText i.pipelineId "checkout-stream")
  { i with
    pipelineName := pipelineName
    pipelineId := orText i.pipelineId pipelineName
    trigger := orText i.trigger "CRITICAL_ERROR_RATE"
    failedEventCount := i.failedRecords
    actionTaken := orText i.actionTaken "Downstream pipeline paused." }

/-- `ON CONFLICT(incident_id) DO UPDATE` -/
def overwritten (row new : Incident) : Incident :=
  { new with
    incidentId := row.incidentId
    pipelineId := row.pipelineId
    pipelineName := row.pipelineName
    createdAt := row.createdAt
    detectedAt := row.detectedAt
    trigger := row.trigger
    message := row.message }

end Incident

abbrev Incidents := List Incident

namespace Incidents

def lookup (rows : Incidents) (id : IncidentId) : Option Incident :=
  rows.find? fun i => i.incidentId = id

/-- `get_incident` -/
def getIncident (rows : Incidents) (id : IncidentId) : Option Incident :=
  (rows.lookup id).map Incident.normalized

/-- `create_incident`, which also updates. -/
def createIncident (rows : Incidents) (i : Incident) : Incidents :=
  if (rows.lookup i.incidentId).isSome then
    rows.map fun row => if row.incidentId = i.incidentId then row.overwritten i.inserted else row
  else rows ++ [i.inserted]

/-- `find_active_incident`: the latest created one. -/
def findActiveIncident (rows : Incidents) (pipeline : Text) : Option Incident :=
  let active := rows.filter fun i =>
    (i.pipelineName = pipeline || i.pipelineId = pipeline) && i.status.active
  (active.foldl (fun best i =>
    match best with
    | none => some i
    | some b => if b.createdAt < i.createdAt then some i else some b) none).map Incident.normalized

/-- The row that writing `i` leaves. -/
def written (rows : Incidents) (i : Incident) : Incident :=
  match rows.lookup i.incidentId with
  | some row => row.overwritten i.inserted
  | none => i.inserted

section

variable {rows : Incidents} {i row : Incident} {id : IncidentId}

theorem lookup_cons (r : Incident) (rows : Incidents) (id : IncidentId) :
    Incidents.lookup (r :: rows) id = if r.incidentId = id then some r else rows.lookup id := by
  simp only [lookup, List.find?_cons, decide_eq_true_eq]
  split
  · rename_i h
    rw [if_pos (by simpa using h)]
  · rename_i h
    rw [if_neg (by simpa using h)]

theorem lookup_append (rows rows' : Incidents) (id : IncidentId) :
    Incidents.lookup (rows ++ rows') id = (rows.lookup id).or (Incidents.lookup rows' id) := by
  rw [lookup, List.find?_append]
  rfl

theorem lookup_id (h : rows.lookup id = some row) : row.incidentId = id := by
  simpa using List.find?_some h

/-- A map over the rows that keeps their ids. -/
theorem lookup_map {f : Incident → Incident} (hf : ∀ r, (f r).incidentId = r.incidentId)
    (rows : Incidents) (id : IncidentId) :
    Incidents.lookup (rows.map f) id = (rows.lookup id).map f := by
  induction rows with
  | nil => rfl
  | cons r rows ih =>
    rw [List.map_cons, lookup_cons, lookup_cons, hf]
    split
    · rfl
    · exact ih

/-- What is found after a write: the written row under its id, and what was there under others. -/
theorem lookup_createIncident_eq (rows : Incidents) (i : Incident) (id : IncidentId) :
    (rows.createIncident i).lookup id =
      if id = i.incidentId then some (rows.written i) else rows.lookup id := by
  unfold createIncident written
  cases hrow : rows.lookup i.incidentId with
  | some row =>
    rw [Option.isSome_some, if_pos rfl, lookup_map]
    · split
      · rename_i hid
        rw [hid, hrow, Option.map_some, if_pos (lookup_id hrow)]
      · rename_i hid
        cases hother : rows.lookup id with
        | none => rfl
        | some other =>
          rw [Option.map_some, if_neg]
          rw [lookup_id hother]
          exact hid
    · intro r
      split
      · rfl
      · rfl
  | none =>
    have hinserted : Incidents.lookup [i.inserted] id =
        if i.incidentId = id then some i.inserted else none := lookup_cons _ _ _
    rw [Option.isSome_none, if_neg Bool.false_ne_true, lookup_append, hinserted]
    by_cases hid : id = i.incidentId
    · rw [if_pos hid, if_pos hid.symm, hid, hrow]
      rfl
    · rw [if_neg hid, if_neg (Ne.symm hid), Option.or_none]

theorem lookup_createIncident_self (rows : Incidents) (i : Incident) :
    (rows.createIncident i).lookup i.incidentId = some (rows.written i) := by
  rw [lookup_createIncident_eq, if_pos rfl]

theorem lookup_createIncident_of_ne (h : id ≠ i.incidentId) :
    (rows.createIncident i).lookup id = rows.lookup id := by
  rw [lookup_createIncident_eq, if_neg h]

/-- The incident is stored, and active. -/
def Open (rows : Incidents) (id : IncidentId) : Prop :=
  ∃ row, rows.lookup id = some row ∧ row.status.active = true

theorem getIncident_eq_some :
    rows.getIncident id = some i ↔ ∃ row, rows.lookup id = some row ∧ row.normalized = i :=
  Option.map_eq_some_iff

/-- Whatever was there, a write sets the status, the attempts and the date of resolution. -/
theorem written_columns (rows : Incidents) (i : Incident) :
    (rows.written i).status = i.status ∧ (rows.written i).recoveryAttempt = i.recoveryAttempt ∧
      (rows.written i).resolvedAt = i.resolvedAt := by
  unfold written
  split
  · exact ⟨rfl, rfl, rfl⟩
  · exact ⟨rfl, rfl, rfl⟩

/-- Writing an active incident closes none. -/
theorem Open.createIncident (h : rows.Open id) (hactive : i.status.active = true) :
    (rows.createIncident i).Open id := by
  rw [Open, lookup_createIncident_eq]
  split
  · refine ⟨rows.written i, rfl, ?_⟩
    rw [(written_columns rows i).1, hactive]
  · exact h

theorem open_createIncident (hactive : i.status.active = true) :
    (rows.createIncident i).Open i.incidentId := by
  refine ⟨rows.written i, lookup_createIncident_self rows i, ?_⟩
  rw [(written_columns rows i).1, hactive]

/-- The table has one row an id, as its primary key has it. -/
def Keyed (rows : Incidents) : Prop := (rows.map Incident.incidentId).Nodup

theorem Keyed.lookup_of_mem (h : rows.Keyed) (hrow : row ∈ rows) :
    rows.lookup row.incidentId = some row := by
  induction rows with
  | nil => cases hrow
  | cons r rows ih =>
    obtain ⟨hr, hkeyed⟩ := List.nodup_cons.mp h
    rw [lookup_cons]
    rcases List.mem_cons.mp hrow with rfl | hmem
    · rw [if_pos rfl]
    · rw [if_neg]
      · exact ih hkeyed hmem
      · intro hid
        apply hr
        change r.incidentId ∈ rows.map Incident.incidentId
        rw [hid]
        exact List.mem_map_of_mem hmem

theorem map_incidentId_createIncident (rows : Incidents) (i : Incident) :
    (rows.createIncident i).map Incident.incidentId =
      if (rows.lookup i.incidentId).isSome then rows.map Incident.incidentId
      else rows.map Incident.incidentId ++ [i.incidentId] := by
  unfold createIncident
  split
  · rw [List.map_map]
    apply List.map_congr_left
    intro r _
    rw [Function.comp_apply]
    split
    · rfl
    · rfl
  · rw [List.map_append]
    rfl

theorem Keyed.createIncident (h : rows.Keyed) (i : Incident) : (rows.createIncident i).Keyed := by
  rw [Keyed, map_incidentId_createIncident]
  split
  · exact h
  · rename_i hnew
    rw [List.nodup_append]
    refine ⟨h, List.nodup_singleton _, ?_⟩
    intro id hid id' hid' heq
    obtain ⟨row, hrow, rfl⟩ := List.mem_map.mp hid
    obtain rfl := List.mem_singleton.mp hid'
    apply hnew
    rw [← heq, h.lookup_of_mem hrow]
    rfl

/-- The look-up of an active incident finds one of the rows it selects. -/
theorem mem_of_findActiveIncident {pipeline : Text} (h : rows.findActiveIncident pipeline = some i) :
    ∃ row ∈ rows, row.normalized = i ∧ row.status.active = true ∧
      (row.pipelineName = pipeline ∨ row.pipelineId = pipeline) := by
  obtain ⟨row, hlatest, rfl⟩ := Option.map_eq_some_iff.mp h
  have hmem (active : List Incident) (best : Option Incident)
      (hfold : active.foldl (fun best i =>
        match best with
        | none => some i
        | some b => if b.createdAt < i.createdAt then some i else some b) best = some row) :
      row ∈ active ∨ best = some row := by
    induction active generalizing best with
    | nil => exact .inr hfold
    | cons r active ih =>
      rw [List.foldl_cons] at hfold
      rcases ih _ hfold with hlater | hnow
      · exact .inl (List.mem_cons_of_mem r hlater)
      · cases best with
        | none =>
          rw [← Option.some.inj hnow]
          exact .inl List.mem_cons_self
        | some b =>
          dsimp only at hnow
          split at hnow
          · rw [← Option.some.inj hnow]
            exact .inl List.mem_cons_self
          · exact .inr hnow
  rcases hmem _ none hlatest with hrow | hnone
  · obtain ⟨hrow, hselected⟩ := List.mem_filter.mp hrow
    rw [Bool.and_eq_true, Bool.or_eq_true, decide_eq_true_eq, decide_eq_true_eq] at hselected
    exact ⟨row, hrow, rfl, hselected.2, hselected.1⟩
  · cases hnone

end

theorem lookup_createIncident (rows : Incidents) (i : Incident) :
    ∃ row, (rows.createIncident i).lookup i.incidentId = some row ∧
      row.status = i.status ∧ row.recoveryAttempt = i.recoveryAttempt := by
  obtain ⟨hstatus, hattempt, -⟩ := written_columns rows i
  exact ⟨rows.written i, lookup_createIncident_self rows i, hstatus, hattempt⟩

theorem getIncident_createIncident (rows : Incidents) (i : Incident) :
    ∃ row, (rows.createIncident i).getIncident i.incidentId = some row ∧
      row.status = i.status ∧ row.recoveryAttempt = i.recoveryAttempt := by
  obtain ⟨row, hrow, hstatus, hattempt⟩ := lookup_createIncident rows i
  exact ⟨row.normalized, by rw [getIncident, hrow]; rfl, hstatus, hattempt⟩

/-- A row that is read back carries the id it was read by. -/
theorem getIncident_id {rows : Incidents} {id : IncidentId} {i : Incident}
    (h : rows.getIncident id = some i) : i.incidentId = id := by
  obtain ⟨row, hrow, rfl⟩ := Option.map_eq_some_iff.mp h
  have hid := List.find?_some hrow
  simpa [Incident.normalized] using hid

end Incidents
end IceStream
