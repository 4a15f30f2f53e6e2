import IceStream.Lib.Text
import IceStream.Remediation.Controller
import IceStream.Rules.Clock
import Mathlib.Data.List.Infix

/-!
# The lakehouse sink

`write_events` appends the events to the table as one batch, in one commit that adds all rows
or, when it raises, none. Loading the table, reading its schema and each call on it may raise, and
the batch is what pyarrow makes of the columns.
-/

namespace IceStream.Remediation
open Python

/-! ## Columns -/

/-- A field of the table's schema, with `str(field.field_type)`. -/
structure SchemaField where
  name : Text
  fieldType : Text

/-- `BRONZE_CHECKOUT_EVENTS_SCHEMA` -/
def bronzeCheckoutEventsSchema : List SchemaField :=
  [("event_id", "string"), ("event_time", "timestamp"), ("customer_id", "string"),
    ("session_id", "string"), ("order_id", "string"), ("product_id", "string"),
    ("amount", "decimal(18, 2)"), ("currency", "string"), ("payment_method", "string"),
    ("payment_status", "string"), ("device", "string"), ("country", "string"),
    ("source_version", "string"), ("ingestion_time", "timestamp")].map
      fun (field : String × String) => ⟨text field.1, text field.2⟩

/-- What a column holds. A `datetime` with an offset is the instant it names, and a `Decimal` the
number its text shows. -/
inductive Cell
  | json (v : Json)
  | instant (t : ℤ)
  | decimal (shown : String)

/-- The instant of a date, which is UTC without an offset. -/
def instantOf (dt : DateTime) : ℤ := dt.wall - dt.offset.getD 0

/-- `datetime.fromtimestamp` of a number of seconds, or from 1e11 on of milliseconds. -/
def fromEpoch (platform : Platform) : Json → Except Exc Instant
  | .int i =>
    if i < 100000000000 then platform.fromtimestamp (.int i)
    else do
      let x ← floatOfInt i
      platform.fromtimestamp (.float (x / 1000))
  | .float x => platform.fromtimestamp (.float (if x < 100000000000 then x else x / 1000))
  | v => platform.fromtimestamp v

/-- A text that is no date becomes the current time. -/
def timestampCell (platform : Platform) (now : Instant) : Json → Except Exc Cell
  | .str s => match fromisoformat (replaceText (text "Z") (text "+00:00") s) with
    | some dt => .ok (.instant (instantOf dt))
    | none => .ok (.instant now)
  | .arr vs => .ok (.json (.arr vs))
  | .obj d => .ok (.json (.obj d))
  | v => (fromEpoch platform v).map .instant

def decimalCell (platform : Platform) (v : Json) : Cell :=
  match v.toFloat platform.unicode with
  | .ok x => .decimal (fixed 2 x)
  | .error _ => .decimal "0.00"

/-- The value of an event for a column. -/
def normalizeCell (platform : Platform) (now : Instant) (event : Dict) (field : SchemaField) :
    Except Exc Cell :=
  match Dict.getD event field.name .null with
  | .null => .ok (if field.name = text "ingestion_time" then .instant now else .json .null)
  | v =>
    let fieldType := lowerText field.fieldType
    if text "timestamp" <:+: fieldType then timestampCell platform now v
    else if text "decimal" <:+: fieldType then .ok (decimalCell platform v)
    else .ok (.json v)

abbrev Columns := List (Text × List Cell)

section

variable (platform : Platform) (now : Instant) (fields : List SchemaField)

/-- One event more in each column. -/
def appendEvent (columns : Columns) (event : Dict) : Except Exc Columns := do
  let cells ← fields.mapM (normalizeCell platform now event)
  pure (List.zipWith (fun column cell => (column.1, column.2 ++ [cell])) columns cells)

/-- `_normalize_events_for_schema` -/
def normalizeEventsForSchema (events : List Dict) : Except Exc Columns :=
  events.foldlM (appendEvent platform now fields) (fields.map fun field => (field.name, []))

end

/-! ## The table -/

/-- What the catalog and the table answer before the first attempt; the schema is read and
converted in one. -/
structure OpeningAnswers where
  loadTable : Except Exc Unit := .ok ()
  tableExists : Except Exc Bool := .ok true
  createTable : Except Exc Unit := .ok ()
  loadTableAgain : Except Exc Unit := .ok ()
  refresh : Except Exc Unit := .ok ()
  schema : Except Exc (List SchemaField)

/-- What the table answers in one attempt. The pause before the next raises when it is too long. -/
structure CommitAnswers where
  append : Except Exc Unit := .ok ()
  refresh : Except Exc Unit := .ok ()
  currentSnapshot : Except Exc (Option ℕ) := .ok none
  pause : Except Exc Unit := .ok ()
  refreshAgain : Except Exc Unit := .ok ()

/-- What the sink meets in a call, the batches being those of `pa.Table.from_pydict`. -/
structure SinkSurroundings (β : Type) where
  platform : Platform
  now : Instant
  opening : OpeningAnswers
  fromPydict : Columns → Except Exc β
  attempts : ℕ → CommitAnswers

/-- `ensure_table_exists`; what creating the namespace raises is passed over. -/
def ensureTableExists (opening : OpeningAnswers) : Except Exc Unit := do
  if ← opening.tableExists then pure () else opening.createTable

/-- From loading the table to its schema. -/
def openTable (opening : OpeningAnswers) : Except Exc (List SchemaField) := do
  match opening.loadTable with
  | .ok () => pure ()
  | .error _ => do
    ensureTableExists opening
    opening.loadTableAgain
  opening.refresh
  opening.schema

section

variable {β : Type}

/-- What is done before the first attempt. -/
def SinkSurroundings.batch (around : SinkSurroundings β) (events : List Dict) : Except Exc β := do
  let fields ← openTable around.opening
  let columns ← normalizeEventsForSchema around.platform around.now fields events
  around.fromPydict columns

/-- The batches appended so far, and the variables of the loop. -/
structure CommitState (β : Type) where
  appended : List β := []
  committed : Bool := false
  snapshotId : Option ℕ := none

/-- The body of the `try`. -/
def tryCommit (answers : CommitAnswers) (batch : β) : Fallible (CommitState β) Unit := do
  raising answers.append
  Fallible.update fun s => { s with appended := s.appended ++ [batch] }
  raising answers.refresh
  Fallible.update fun s => { s with committed := true }
  let snapshotId ← raising answers.currentSnapshot
  Fallible.update fun s => { s with snapshotId := snapshotId }

/-- What follows an exception in an attempt, with `remaining` attempts to come. -/
def afterFailure (answers : CommitAnswers) (remaining : ℕ) (e : Exc) :
    Fallible (CommitState β) Unit :=
  if remaining = 0 then Fallible.raise e
  else do
    raising answers.pause
    raising answers.refreshAgain

/-- The loop, after `made` attempts, with `remaining` of `max_retries` to come. -/
def commitLoop (attempts : ℕ → CommitAnswers) (batch : β) :
    ℕ → ℕ → Fallible (CommitState β) Unit
  | _, 0 => pure ()
  | made, remaining + 1 => do
    if ← Fallible.read CommitState.committed then pure ()
    else
      Fallible.catching (tryCommit (attempts made) batch) (afterFailure (attempts made) remaining)
      commitLoop attempts batch (made + 1) remaining

/-- What `write_events` returns, with what the controller does not read. -/
structure WriteResult extends IngestionResult where
  tableName : Text
  snapshotId : Option ℕ := none
  eventIds : List Text := []

structure IcebergLakehouseSink where
  tableName : Text := "bronze.checkout_events"
  maxRetries : ℕ := 5

namespace IcebergLakehouseSink

variable (sink : IcebergLakehouseSink)

def failed (eventIds : List Text) (e : Exc) : WriteResult where
  recordsWritten := 0
  success := false
  error := some (text "Failed to append remediated events to '" ++ sink.tableName ++ text "': " ++
    e.message)
  tableName := sink.tableName
  eventIds := eventIds

/-- `write_events`, with the batches it appended. -/
def writeEvents (around : SinkSurroundings β) (events : List Dict) : WriteResult × List β :=
  if events.isEmpty then
    ({ recordsWritten := 0, success := true, error := none, tableName := sink.tableName }, [])
  else
    let eventIds := events.map fun e =>
      (Dict.getD e (text "event_id") (.str [])).toText around.platform.unicode
    match around.batch events with
    | .error e => (sink.failed eventIds e, [])
    | .ok batch => match commitLoop around.attempts batch 0 sink.maxRetries {} with
      | (.error e, s) => (sink.failed eventIds e, s.appended)
      | (.ok (), s) => ({
          recordsWritten := events.length
          success := true
          error := none
          tableName := sink.tableName
          snapshotId := s.snapshotId
          eventIds := eventIds }, s.appended)

variable {around : SinkSurroundings β} {events : List Dict} {batch : β} {s : CommitState β}

theorem writeEvents_of_batch_error {e : Exc} (hevents : events ≠ [])
    (hbatch : around.batch events = .error e) : ∃ result,
      result.success = false ∧ sink.writeEvents around events = (result, []) := by
  have hsome : ¬events.isEmpty = true := by simpa using hevents
  rw [writeEvents, if_neg hsome, hbatch]
  exact ⟨_, rfl, rfl⟩

theorem writeEvents_of_loop_error {e : Exc} (hevents : events ≠ [])
    (hbatch : around.batch events = .ok batch)
    (hloop : commitLoop around.attempts batch 0 sink.maxRetries {} = (.error e, s)) : ∃ result,
      result.success = false ∧ sink.writeEvents around events = (result, s.appended) := by
  have hsome : ¬events.isEmpty = true := by simpa using hevents
  rw [writeEvents, if_neg hsome, hbatch]
  simp only [hloop]
  exact ⟨_, rfl, rfl⟩

theorem writeEvents_of_loop_ok (hevents : events ≠ []) (hbatch : around.batch events = .ok batch)
    (hloop : commitLoop around.attempts batch 0 sink.maxRetries {} = (.ok (), s)) : ∃ result,
      result.success = true ∧ sink.writeEvents around events = (result, s.appended) := by
  have hsome : ¬events.isEmpty = true := by simpa using hevents
  rw [writeEvents, if_neg hsome, hbatch]
  simp only [hloop]
  exact ⟨_, rfl, rfl⟩

end IcebergLakehouseSink

end

/-! ## What the columns hold -/

section

variable {platform : Platform} {now : Instant} {fields : List SchemaField}

/-- The column of a field: a cell for each event, in their order. -/
def IsColumn (platform : Platform) (now : Instant) (events : List Dict) (field : SchemaField)
    (column : Text × List Cell) : Prop :=
  column.1 = field.name ∧
    List.Forall₂ (fun event cell => normalizeCell platform now event field = .ok cell)
      events column.2

theorem appendEvent_isColumn {events : List Dict} {event : Dict} {columns columns' : Columns}
    (hcolumns : List.Forall₂ (IsColumn platform now events) fields columns)
    (h : appendEvent platform now fields columns event = .ok columns') :
    List.Forall₂ (IsColumn platform now (events ++ [event])) fields columns' := by
  rw [appendEvent] at h
  cases hcells : fields.mapM (normalizeCell platform now event) with
  | error e =>
    rw [hcells] at h
    cases h
  | ok cells =>
    rw [hcells] at h
    cases h
    have hrow := mapM_eq_ok_iff.mp hcells
    clear hcells
    induction hcolumns generalizing cells with
    | nil => exact .nil
    | cons hcolumn _ ih =>
      cases hrow with
      | cons hcell hrow =>
        refine .cons ⟨hcolumn.1, ?_⟩ (ih _ hrow)
        exact List.rel_append hcolumn.2 (.cons hcell .nil)

/-- The batch has each event once. -/
theorem normalizeEventsForSchema_isColumn {events : List Dict} {columns : Columns}
    (h : normalizeEventsForSchema platform now fields events = .ok columns) :
    List.Forall₂ (IsColumn platform now events) fields columns := by
  suffices hfrom : ∀ (later earlier : List Dict) (columns₀ : Columns),
      List.Forall₂ (IsColumn platform now earlier) fields columns₀ →
      later.foldlM (appendEvent platform now fields) columns₀ = .ok columns →
      List.Forall₂ (IsColumn platform now (earlier ++ later)) fields columns by
    refine hfrom events [] _ ?_ h
    rw [List.forall₂_map_right_iff]
    exact List.forall₂_same.mpr fun field _ => ⟨rfl, .nil⟩
  intro later
  induction later with
  | nil =>
    intro earlier columns₀ hcolumns hfold
    cases hfold
    rwa [List.append_nil]
  | cons event later ih =>
    intro earlier columns₀ hcolumns hfold
    rw [List.foldlM_cons] at hfold
    cases hevent : appendEvent platform now fields columns₀ event with
    | error e =>
      rw [hevent] at hfold
      cases hfold
    | ok columns₁ =>
      rw [hevent] at hfold
      have hrest := ih _ columns₁ (appendEvent_isColumn hcolumns hevent) hfold
      rwa [List.append_assoc] at hrest

end

end IceStream.Remediation
