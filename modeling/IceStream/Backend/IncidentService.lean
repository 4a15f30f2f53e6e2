import IceStream.Backend.PipelineService
import IceStream.Lib.Convert
import IceStream.Remediation.Stepwise

/-!
# The incident service

The operations behind the API's incident routes, on the controller's world. Slack
lies outside, and storage writes succeed. What the id of a new incident owes to
the database and to the Unicode tables is a parameter.
-/

namespace IceStream

/-- What a query leaves to the database: `LIKE 'prefix%'`, and the order of texts. -/
structure Collation where
  startsLike : Python.Text → Python.Text → Bool
  le : Python.Text → Python.Text → Bool

/-- SQLite's: `LIKE` does not tell ASCII letters' cases apart, the order is that of code points. -/
def Collation.sqlite : Collation where
  startsLike t pre := (Python.lower pre).isPrefixOf (Python.lower t)
  le s t := decide (s ≤ t)

namespace Incidents
open Python

/-- `ORDER BY incident_id DESC LIMIT 1` -/
def lastLike (collation : Collation) (pre : Text) (rows : Incidents) : Option IncidentId :=
  ((rows.map Incident.incidentId).filter fun id => collation.startsLike id.val pre).foldl
    (fun last id => match last with
      | none => some id
      | some l => if collation.le l.val id.val then some id else some l) none

/-- `t.split("-")[-1]` -/
def lastPart (t : Text) : Text := (t.reverse.takeWhile fun c => c.val != 0x2D).reverse

/-- The number behind that of the last id of the day; one that cannot be read counts as none. -/
def nextNumber (collation : Collation) (u : Unicode) (pre : Text) (rows : Incidents) : ℤ :=
  match rows.lastLike collation pre with
  | none => 1
  | some id => match intOfText u (lastPart id.val) with
    | .ok n => n + 1
    | .error _ => 1

/-- `generate_incident_id` on the day that `strftime` writes as `date`. -/
def generateIncidentId (collation : Collation) (u : Unicode) (date : Text) (rows : Incidents) :
    Except Exc IncidentId :=
  let pre := text "INC-" ++ date ++ text "-"
  let digits := toString (rows.nextNumber collation u pre)
  if maxStrDigits < digits.length then
    .error (valueError "Exceeds the limit (4300 digits) for integer string conversion; use sys.set_int_max_str_digits() to increase the limit")
  else .ok ⟨pre ++ text (padLeft 4 digits), by simp [pre, text]⟩

end Incidents

namespace Backend
open Python Remediation

variable {φ : Type}

/-- The Slack client; whether a resolution was delivered is not looked at. -/
structure SlackService (φ : Type) where
  sendIncidentAlert : Incident → Fallible φ Bool
  sendIncidentResolution : Incident → Fallible φ Unit

structure IncidentService (φ : Type) where
  slack : SlackService φ
  collation : Collation
  unicode : Unicode

/-- Where an operation reads the clock: at its start, in `update_incident`, and after Slack. -/
structure IncidentReadings where
  now : Date
  updated : Date
  slackSent : Date
  slackUpdated : Date
  date : Text

structure IncidentActionResponse where
  incidentId : IncidentId
  status : IncidentStatus
  message : Text
  updatedAt : Date
  incident : Incident

/-- The arguments of `create_or_update_incident` but the id. -/
structure IncidentReport where
  pipelineName : Text := "checkout-stream"
  trigger : Text := "CRITICAL_ERROR_RATE"
  errorRate : Float := 0.0372
  threshold : Float := 0.02
  failedRecords : ℕ := 372
  totalRecords : ℕ := 10000
  quarantineCount : ℕ := 0
  circuitState : CircuitState := .open_
  actionTaken : Text := "Downstream pipeline paused."
  message : Option Text := none

/-- `f"{x:.0f}"` -/
def rounded (x : Float) : String :=
  if x.isNaN || x.isInf then fixed 0 x else String.ofList (fixed 0 x).toList.dropLast

namespace IncidentReport

/-- The updates of an active incident. -/
def metrics (report : IncidentReport) (active : Incident) (now : Date) (i : Incident) : Incident :=
  { i with
    errorRate := report.errorRate
    failedRecords := report.failedRecords
    failedEventCount := report.failedRecords
    totalRecords := report.totalRecords
    quarantineCount := max active.quarantineCount report.quarantineCount
    circuitState := report.circuitState
    updatedAt := now }

/-- The incident that is created. -/
def incident (report : IncidentReport) (id : IncidentId) (now : Date) : Incident where
  incidentId := id
  pipelineId := "icestream"
  pipelineName := report.pipelineName
  createdAt := now
  detectedAt := now
  updatedAt := now
  trigger := report.trigger
  errorRate := report.errorRate
  threshold := report.threshold
  circuitState := report.circuitState
  failedEventCount := report.failedRecords
  failedRecords := report.failedRecords
  totalRecords := report.totalRecords
  quarantineCount := report.quarantineCount
  status := .open_
  severity := severityOf report.errorRate
  message := some (reasonOr report.message (text
    s!"Pipeline error rate {fixed 2 (report.errorRate * 100)}% exceeded threshold {rounded (report.threshold * 100)}%."))
  actionTaken := report.actionTaken
  slackSent := false
  slackSentAt := none
  slackError := none
  recoveryAttempt := 0
  lastError := none
  resolvedAt := none

end IncidentReport

/-- What the service writes about the alert, by what Slack did. -/
def slackUpdates (sent : Except Exc Bool) (now : Date) (i : Incident) : Incident :=
  match sent with
  | .ok true => { i with slackSent := true, slackSentAt := some now, slackError := none }
  | .ok false => { i with
      slackSent := false
      slackError := some "Slack notification failed or unconfigured." }
  | .error e => { i with slackSent := false, slackError := some e.message }

/-- `storage.update_incident` -/
def updateIncident (id : IncidentId) (updates : Incident → Incident) (now : Date) :
    WorldM φ (Option Incident) := do
  let incidents ← Fallible.read World.incidents
  match incidents.getIncident id with
  | none => pure none
  | some incident =>
    let merged := { updates incident with updatedAt := now }
    World.saveIncident merged
    Fallible.read fun w => some ((w.incidents.getIncident merged.incidentId).getD merged)

section

variable {w : World φ} {id : IncidentId} {read : Incident} {updates : Incident → Incident}
  {now : Date}

theorem updateIncident_world (hread : w.incidents.getIncident id = some read) :
    (updateIncident id updates now w).2 =
      { w with incidents := w.incidents.createIncident { updates read with updatedAt := now } } := by
  simp only [updateIncident, Fallible.read_bind, hread]
  rfl

theorem updateIncident_missing (hread : w.incidents.getIncident id = none) :
    updateIncident id updates now w = (.ok none, w) := by
  simp only [updateIncident, Fallible.read_bind, hread]
  rfl

theorem updateIncident_ok (id : IncidentId) (updates : Incident → Incident) (now : Date)
    (w : World φ) : ∃ updated, updateIncident id updates now w =
      (.ok updated, (updateIncident id updates now w).2) := by
  cases hread : w.incidents.getIncident id with
  | none =>
    rw [updateIncident_missing hread]
    exact ⟨none, rfl⟩
  | some read =>
    simp only [updateIncident, Fallible.read_bind, hread]
    exact ⟨_, rfl⟩

/-- What follows an update and leaves the table alone changes nothing more. -/
theorem updateIncident_bind {α : Type} {f : Option Incident → WorldM φ α}
    (hf : ∀ updated w, (f updated w).2.incidents = w.incidents) :
    ((updateIncident id updates now >>= f) w).2.incidents =
      (updateIncident id updates now w).2.incidents := by
  obtain ⟨updated, hok⟩ := updateIncident_ok id updates now w
  rw [Fallible.bind_ok hok, hf]

end

def notFound (id : IncidentId) : Exc :=
  httpException 404 (text "Incident '" ++ id.val ++ text "' not found")

namespace IncidentService

variable (service : IncidentService φ) (readings : IncidentReadings)

def acknowledgeIncident (id : IncidentId) : WorldM φ IncidentActionResponse := do
  let incidents ← Fallible.read World.incidents
  match incidents.getIncident id with
  | none => Fallible.raise (notFound id)
  | some incident =>
    if incident.status = .resolved then
      Fallible.raise (httpException 409
        (text "Cannot acknowledge resolved incident '" ++ id.val ++ text "'"))
    else if incident.status = .acknowledged then
      pure ⟨id, .acknowledged, "Incident is already acknowledged.", incident.updatedAt, incident⟩
    else
      let updated ← updateIncident id
        (fun i => { i with status := .acknowledged, updatedAt := readings.now }) readings.updated
      pure ⟨id, .acknowledged, "Incident acknowledged successfully.", readings.now,
        updated.getD incident⟩

/-- `force` is not looked at. -/
def resolveIncident (id : IncidentId) (currentErrorRate : Option Float) :
    WorldM φ IncidentActionResponse := do
  let incidents ← Fallible.read World.incidents
  match incidents.getIncident id with
  | none => Fallible.raise (notFound id)
  | some incident =>
    if incident.status = .resolved then
      pure ⟨id, .resolved, "Incident is already resolved.", incident.updatedAt, incident⟩
    else
      let resolved (i : Incident) := { i with
        status := .resolved
        errorRate := currentErrorRate.getD incident.errorRate
        resolvedAt := some readings.now
        updatedAt := readings.now }
      let updated ← updateIncident id resolved readings.updated
      let _ ← Fallible.attempt (World.onOutside
        (service.slack.sendIncidentResolution (updated.getD incident)))
      pure ⟨id, .resolved, "Incident resolved successfully.", readings.now,
        updated.getD incident⟩

/-- What `create_or_update_incident` does under the lock: the incident, and whether it is new. -/
def recordIncident (report : IncidentReport) : WorldM φ (Incident × Bool) := do
  let incidents ← Fallible.read World.incidents
  match incidents.findActiveIncident report.pipelineName with
  | some active =>
    let updated ← updateIncident active.incidentId (report.metrics active readings.now)
      readings.updated
    pure (updated.getD active, false)
  | none =>
    match incidents.generateIncidentId service.collation service.unicode readings.date with
    | .error e => Fallible.raise e
    | .ok id =>
      let incident := report.incident id readings.now
      World.saveIncident incident
      Fallible.read fun w => ((w.incidents.getIncident id).getD incident, true)

/-- The alert of a new incident, and what the service writes about it. -/
def notify (created : Incident) : WorldM φ Incident := do
  let sent ← Fallible.attempt (World.onOutside (service.slack.sendIncidentAlert created))
  let updated ← updateIncident created.incidentId (slackUpdates sent readings.slackSent)
    readings.slackUpdated
  match sent with
  | .ok _ => pure (updated.getD created)
  | .error _ => pure created

/-- `create_or_update_incident` without an explicit id, whose two writes are apart. -/
def createOrUpdateIncident (report : IncidentReport) : Program φ Incident := do
  let recorded ← Resumption.lift (service.recordIncident readings report)
  if recorded.2 then Resumption.lift (service.notify readings recorded.1)
  else pure recorded.1

end IncidentService
end Backend
end IceStream
