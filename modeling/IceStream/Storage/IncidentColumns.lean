import IceStream.Lib.Dates
import IceStream.Lib.Keyed

/-!
# Incidents by column

The table `pipeline_incidents` with all of its columns, and the update of a
stored incident: it is read through a normalising view, merged with the new
values, and written back by an insert whose conflict clause lists its columns.
-/

namespace IceStream
open Python

/-- A text that the database takes. -/
abbrev ColumnText := { t : Text // Encodable t }

def columnText (s : String) : ColumnText := ⟨text s, encodable_text s⟩

/-- `t or default` -/
def ColumnText.or (t default : ColumnText) : ColumnText := if t.val = [] then default else t

/-- The database takes a NaN for a missing value. -/
abbrev ColumnFloat := { x : Float // x.isNaN = false }

inductive IncidentColumn
  | incidentId
  | pipelineId
  | pipelineName
  | createdAt
  | detectedAt
  | updatedAt
  | trigger
  | triggerType
  | errorRate
  | threshold
  | circuitState
  | failedEventCount
  | failedRecords
  | totalRecords
  | quarantineCount
  | status
  | severity
  | message
  | actionTaken
  | slackSent
  | slackSentAt
  | slackError
  | recoveryAttempt
  | lastError
  | resolvedAt
  deriving DecidableEq

/-- What a column holds, where a date is a `δ`. -/
def IncidentColumn.Value (δ : Type) : IncidentColumn → Type
  | .incidentId => ColumnText
  | .pipelineId => ColumnText
  | .pipelineName => ColumnText
  | .createdAt => δ
  | .detectedAt => δ
  | .updatedAt => δ
  | .trigger => ColumnText
  | .triggerType => ColumnText
  | .errorRate => ColumnFloat
  | .threshold => ColumnFloat
  | .circuitState => ColumnText
  | .failedEventCount => Int64
  | .failedRecords => Int64
  | .totalRecords => Int64
  | .quarantineCount => Int64
  | .status => ColumnText
  | .severity => ColumnText
  | .message => Option ColumnText
  | .actionTaken => Option ColumnText
  | .slackSent => Bool
  | .slackSentAt => Option δ
  | .slackError => Option ColumnText
  | .recoveryAttempt => Int64
  | .lastError => Option ColumnText
  | .resolvedAt => Option δ

/-- The same value with its dates in another form. -/
def IncidentColumn.mapDates {δ ε : Type} (f : δ → ε) : (c : IncidentColumn) → c.Value δ → c.Value ε
  | .createdAt, d => f d
  | .detectedAt, d => f d
  | .updatedAt, d => f d
  | .slackSentAt, d => Option.map f d
  | .resolvedAt, d => Option.map f d
  | .incidentId, v => v
  | .pipelineId, v => v
  | .pipelineName, v => v
  | .trigger, v => v
  | .triggerType, v => v
  | .errorRate, v => v
  | .threshold, v => v
  | .circuitState, v => v
  | .failedEventCount, v => v
  | .failedRecords, v => v
  | .totalRecords, v => v
  | .quarantineCount, v => v
  | .status, v => v
  | .severity, v => v
  | .message, v => v
  | .actionTaken, v => v
  | .slackSent, v => v
  | .slackError, v => v
  | .recoveryAttempt, v => v
  | .lastError, v => v

/-- A date as a caller gives it. -/
inductive Stamp
  | at (moment : DateTime)
  | shown (t : ColumnText)

/-- A row, and the dictionary that is made of one. -/
abbrev IncidentRow := (c : IncidentColumn) → c.Value ColumnText

/-- An incident as a caller gives it. -/
abbrev IncidentDict := (c : IncidentColumn) → c.Value Stamp

/-- `d.isoformat() if isinstance(d, datetime) else str(d)` -/
def Stamp.written : Stamp → ColumnText
  | .at moment => columnText moment.isoformat
  | .shown t => t

/-- `d or other` -/
def Stamp.or (d other : Stamp) : Stamp :=
  match d with
  | .at moment => .at moment
  | .shown t => if t.val = [] then other else .shown t

/-- A date that may be missing; an empty one is missing. -/
def Stamp.written? (d : Option Stamp) : Option ColumnText :=
  match d with
  | none => none
  | some (.at moment) => some (columnText moment.isoformat)
  | some (.shown t) => if t.val = [] then none else some t

def severityText (errorRate : Float) : ColumnText :=
  if 0.02 < errorRate then columnText "CRITICAL"
  else if 0.01 ≤ errorRate then columnText "WARNING"
  else columnText "HEALTHY"

/-- `action_taken or ...` -/
def actionOr (action : Option ColumnText) : ColumnText :=
  (action.getD (columnText "")).or (columnText "Downstream pipeline paused.")

theorem isNaN_defaultThreshold : (0.02 : Float).isNaN = false := by decide +kernel

/-- `threshold or 0.02` -/
def thresholdOr (threshold : ColumnFloat) : ColumnFloat :=
  if threshold.val == 0 then ⟨0.02, isNaN_defaultThreshold⟩ else threshold

/-- `_normalize_incident_dict`; the counts are never missing. -/
def normalizeIncidentDict (row : IncidentRow) : IncidentRow :=
  let pName : ColumnText :=
    ColumnText.or (row .pipelineName) (ColumnText.or (row .pipelineId) (columnText "checkout-stream"))
  let trig : ColumnText :=
    ColumnText.or (row .triggerType) (ColumnText.or (row .trigger) (columnText "CRITICAL_ERROR_RATE"))
  fun c => match c with
  | .incidentId => row .incidentId
  | .pipelineId => ColumnText.or (row .pipelineId) pName
  | .pipelineName => pName
  | .createdAt => row .createdAt
  | .detectedAt => ColumnText.or (row .detectedAt) (row .createdAt)
  | .updatedAt => ColumnText.or (row .updatedAt) (row .createdAt)
  | .trigger => ColumnText.or (row .trigger) trig
  | .triggerType => trig
  | .errorRate => row .errorRate
  | .threshold => thresholdOr (row .threshold)
  | .circuitState => row .circuitState
  | .failedEventCount => row .failedEventCount
  | .failedRecords => row .failedRecords
  | .totalRecords => row .totalRecords
  | .quarantineCount => row .quarantineCount
  | .status => row .status
  | .severity => ColumnText.or (row .severity) (severityText (Subtype.val (row .errorRate)))
  | .message => row .message
  | .actionTaken => some (actionOr (row .actionTaken))
  | .slackSent => row .slackSent
  | .slackSentAt => Stamp.written? (Option.map Stamp.shown (row .slackSentAt))
  | .slackError => row .slackError
  | .recoveryAttempt => row .recoveryAttempt
  | .lastError => row .lastError
  | .resolvedAt => Stamp.written? (Option.map Stamp.shown (row .resolvedAt))

/-- The row that `create_incident` inserts. -/
def insertedRow (now : DateTime) (incident : IncidentDict) : IncidentRow :=
  let ts : Stamp := Stamp.or (incident .createdAt) (.at now)
  let pName : ColumnText := ColumnText.or (incident .pipelineName)
    (ColumnText.or (incident .pipelineId) (columnText "checkout-stream"))
  let trig : ColumnText := ColumnText.or (incident .triggerType)
    (ColumnText.or (incident .trigger) (columnText "CRITICAL_ERROR_RATE"))
  fun c => match c with
  | .incidentId => incident .incidentId
  | .pipelineId => ColumnText.or (incident .pipelineId) pName
  | .pipelineName => pName
  | .createdAt => ts.written
  | .detectedAt => (Stamp.or (incident .detectedAt) ts).written
  | .updatedAt => (Stamp.or (incident .updatedAt) (.at now)).written
  | .trigger => trig
  | .triggerType => trig
  | .errorRate => incident .errorRate
  | .threshold => incident .threshold
  | .circuitState => incident .circuitState
  | .failedEventCount => incident .failedRecords
  | .failedRecords => incident .failedRecords
  | .totalRecords => incident .totalRecords
  | .quarantineCount => incident .quarantineCount
  | .status => incident .status
  | .severity =>
    ColumnText.or (incident .severity) (severityText (Subtype.val (incident .errorRate)))
  | .message => incident .message
  | .actionTaken => some (actionOr (incident .actionTaken))
  | .slackSent => incident .slackSent
  | .slackSentAt => Stamp.written? (incident .slackSentAt)
  | .slackError => incident .slackError
  | .recoveryAttempt => incident .recoveryAttempt
  | .lastError => incident .lastError
  | .resolvedAt => Stamp.written? (incident .resolvedAt)

/-- The columns of `ON CONFLICT(incident_id) DO UPDATE SET` -/
def conflictColumns : List IncidentColumn :=
  [.status, .severity, .errorRate, .threshold, .failedEventCount, .failedRecords, .totalRecords,
    .circuitState, .quarantineCount, .actionTaken, .slackSent, .slackSentAt, .slackError,
    .recoveryAttempt, .lastError, .updatedAt, .resolvedAt]

/-- A row after an insert that conflicts with it. -/
def upserted (row inserted : IncidentRow) : IncidentRow :=
  fun c => if c ∈ conflictColumns then inserted c else row c

def rowId (row : IncidentRow) : ColumnText := row .incidentId

/-- The primary key is the id. -/
abbrev IncidentTable := Keyed rowId

namespace IncidentTable

variable (now : DateTime) (table : IncidentTable)

def getIncident (id : ColumnText) : Option IncidentRow :=
  (table.get? id).map normalizeIncidentDict

def createIncident (incident : IncidentDict) : IncidentTable :=
  match table.get? (incident .incidentId) with
  | some row => table.put (upserted row (insertedRow now incident))
  | none => table.put (insertedRow now incident)

/-- `dict(inc)`, updated, with a new date of update -/
def merged (incident : IncidentRow) (updates : (c : IncidentColumn) → Option (c.Value Stamp)) :
    IncidentDict :=
  fun c => match c with
  | .updatedAt => Stamp.at now
  | c => (updates c).getD (c.mapDates Stamp.shown (incident c))

/-- The table afterwards, and what is returned. -/
def updateIncident (id : ColumnText) (updates : (c : IncidentColumn) → Option (c.Value Stamp)) :
    IncidentTable × Option IncidentRow :=
  match getIncident table id with
  | none => (table, none)
  | some incident =>
    let table := createIncident now table (merged now incident updates)
    (table, getIncident table id)

end IncidentTable

end IceStream
