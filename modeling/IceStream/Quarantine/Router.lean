import IceStream.Lib.JsonLoads
import IceStream.Lib.Preserves
import IceStream.Quarantine.ErrorCodes
import IceStream.Quarantine.Writer

/-!
# The quarantine router

An invalid event becomes a record, and the record goes through the writer unless
its id has been written before. A value from the payload may end up in the
columns `event_id` and `schema_version` whatever its type.
-/

namespace IceStream.Quarantine
open Python

structure QuarantineRecord where
  quarantineId : Text
  eventId : Json
  event : Text
  errorCode : Text
  errorMessage : Text
  failedRules : List Text
  detectedAt : Text
  pipelineVersion : Text
  schemaVersion : Json

def IsTextOrNull : Json → Prop
  | .null => True
  | .str _ => True
  | _ => False

/-- What goes into a column of type string: a text has to be encoded for it. -/
def FitsStringColumn : Json → Prop
  | .null => True
  | .str t => Encodable t
  | _ => False

@[simp] theorem fitsStringColumn_str (t : Text) : FitsStringColumn (.str t) ↔ Encodable t := Iff.rfl

instance : DecidablePred FitsStringColumn
  | .null => .isTrue trivial
  | .str t => inferInstanceAs (Decidable (Encodable t))
  | .bool _ | .int _ | .float _ | .arr _ | .obj _ => .isFalse id

namespace QuarantineRecord

/-- The values for the columns of type string; the list of rules is the one other column. -/
def stringColumns (r : QuarantineRecord) : List Json :=
  [.str r.quarantineId, r.eventId, .str r.event, .str r.errorCode, .str r.errorMessage,
    .str r.detectedAt, .str r.pipelineVersion, r.schemaVersion]

def HasTextColumns (r : QuarantineRecord) : Prop := ∀ v ∈ r.stringColumns, IsTextOrNull v

def Convertible (r : QuarantineRecord) : Prop :=
  (∀ v ∈ r.stringColumns, FitsStringColumn v) ∧ ∀ rule ∈ r.failedRules, Encodable rule

instance (r : QuarantineRecord) : Decidable r.Convertible :=
  inferInstanceAs (Decidable (_ ∧ _))

/-- `get_parsed_event`; `limit` is how deep the parser may nest. -/
def getParsedEvent (limit : ℕ) (r : QuarantineRecord) : Json :=
  match loads limit r.event with
  | .ok v => v
  | .error _ => .obj [(text "raw_event", .str r.event)]

end QuarantineRecord

inductive EventInput
  | event (e : QualityEvent)
  | payload (d : Dict)

namespace EventInput

def dict : EventInput → Dict
  | event e => e.toDict
  | payload d => d

def eventId : EventInput → Json
  | event e => e.value .eventId
  | payload d => d.getD (text "event_id") .null

def schemaVersion (input : EventInput) : Json :=
  ((input.dict.getD (text "source_version") .null).orElse
    (input.dict.getD (text "schema_version") .null)).orElse (.str "unknown")

end EventInput

def serializeEventPayload (input : EventInput) : Text := text ((Json.obj input.dict).dumps true)

structure QuarantineRouteResult where
  quarantineRecord : Option QuarantineRecord
  success : Bool
  error : Option String := none
  skippedReason : Option String := none

/-- `sha256Hex` is the hexadecimal digest of the UTF-8 form of a text. -/
structure QuarantineRouter where
  unicode : Unicode
  sha256Hex : Text → String
  pipelineVersion : Text := "0.1.0"
  writer : WriterConfig := {}

/-- One request to the router, with the reading of its clock. -/
structure RouteCall where
  input : EventInput
  results : List ValidationResult
  detectedAt : Text

namespace RouteCall

def failedResults (call : RouteCall) : List ValidationResult :=
  call.results.filter fun r => !r.passed

def primaryError (call : RouteCall) : PrimaryError := determinePrimaryError call.failedResults

def payload (call : RouteCall) : Text := serializeEventPayload call.input

end RouteCall

namespace QuarantineRouter

def dedupSeed (router : QuarantineRouter) (call : RouteCall) : Text :=
  (call.input.eventId.orElse (.str "none")).toText router.unicode ++ text ":" ++
    router.pipelineVersion ++ text ":" ++
    (text ",").intercalate call.primaryError.failedRules ++ text ":" ++ call.detectedAt

def quarantineId (router : QuarantineRouter) (call : RouteCall) : Text :=
  text "q_" ++ text (String.ofList ((router.sha256Hex (router.dedupSeed call)).toList.take 16))

def record (router : QuarantineRouter) (call : RouteCall) : QuarantineRecord where
  quarantineId := router.quarantineId call
  eventId := call.input.eventId
  event := call.payload
  errorCode := call.primaryError.errorCode
  errorMessage := call.primaryError.errorMessage
  failedRules := call.primaryError.failedRules
  detectedAt := call.detectedAt
  pipelineVersion := router.pipelineVersion
  schemaVersion := call.input.schemaVersion

end QuarantineRouter

/-- A call that gets as far as the writer: it has a failure, a seed that can be encoded and
an id not seen yet. -/
def QuarantineRouter.IsNew (router : QuarantineRouter) (seen : List Text) (call : RouteCall) :
    Prop :=
  call.failedResults ≠ [] ∧ Encodable (router.dedupSeed call) ∧ router.quarantineId call ∉ seen

instance (router : QuarantineRouter) (seen : List Text) :
    DecidablePred (router.IsNew seen) := fun call =>
  decidable_of_iff (call.failedResults.isEmpty = false ∧ Encodable (router.dedupSeed call) ∧
    router.quarantineId call ∉ seen) (by
      rw [QuarantineRouter.IsNew, List.isEmpty_eq_false_iff])

structure RouterWorld where
  seenQuarantineIds : List Text
  quarantineEventsTotal : ℕ
  quarantineEventsByErrorCode : Text → ℕ
  storage : WriterWorld QuarantineRecord

namespace RouterWorld

def init (port : TablePort QuarantineRecord) : RouterWorld := ⟨[], 0, fun _ => 0, .init port⟩

def table (s : RouterWorld) : List QuarantineRecord := s.storage.table

def buffer (s : RouterWorld) : List QuarantineRecord := s.storage.writer.buffer

/-- The record is written: its id is added to those seen, and it is counted. -/
def remembered (s : RouterWorld) (r : QuarantineRecord) : RouterWorld :=
  { s with
    seenQuarantineIds := r.quarantineId :: s.seenQuarantineIds
    quarantineEventsTotal := s.quarantineEventsTotal + 1
    quarantineEventsByErrorCode := fun code =>
      s.quarantineEventsByErrorCode code + if code = r.errorCode then 1 else 0 }

@[simp] theorem remembered_table (s : RouterWorld) (r : QuarantineRecord) :
    (s.remembered r).table = s.table := rfl

@[simp] theorem remembered_buffer (s : RouterWorld) (r : QuarantineRecord) :
    (s.remembered r).buffer = s.buffer := rfl

@[simp] theorem remembered_seen (s : RouterWorld) (r : QuarantineRecord) :
    (s.remembered r).seenQuarantineIds = r.quarantineId :: s.seenQuarantineIds := rfl

end RouterWorld

abbrev RouterM := Fallible RouterWorld

/-- A call of the writer, which does not touch the rest of the router. -/
def onWriter {α : Type} (x : WriterM QuarantineRecord α) : RouterM α := fun s =>
  ((x s.storage).1, { s with storage := (x s.storage).2 })

namespace QuarantineRouter

variable (router : QuarantineRouter) (port : TablePort QuarantineRecord)

def routeInvalidEvent (call : RouteCall) : RouterM QuarantineRouteResult :=
  if call.failedResults.isEmpty then
    pure { quarantineRecord := none, success := false, skippedReason := some "EVENT_IS_VALID" }
  else do
    -- the seed is encoded for the digest
    if ¬Encodable (router.dedupSeed call) then Fallible.raise unicodeEncodeError
    else
      let record := router.record call
      let seen ← Fallible.read RouterWorld.seenQuarantineIds
      if record.quarantineId ∈ seen then
        pure {
          quarantineRecord := some record
          success := true
          skippedReason := some "DUPLICATE_QUARANTINE_SKIPPED" }
      else
        let written ← onWriter (writeRecord router.writer port record true)
        if written then
          Fallible.update fun s => s.remembered record
          pure { quarantineRecord := some record, success := true }
        else
          pure {
            quarantineRecord := some record
            success := false
            error := some "Iceberg write failure" }

/-- `writer.flush()` -/
def flushWriter : RouterM (ℕ × Bool) := onWriter (flush port)

end QuarantineRouter

/-! ## The columns of a record

Only three of them are not settled by the seed: the two that come out of the
payload as they are, and the message.
-/

section

variable {router : QuarantineRouter} {call : RouteCall}

theorem hasTextColumns_record :
    (router.record call).HasTextColumns ↔
      IsTextOrNull call.input.eventId ∧ IsTextOrNull call.input.schemaVersion := by
  simp [QuarantineRecord.HasTextColumns, QuarantineRecord.stringColumns,
    QuarantineRouter.record, IsTextOrNull]

/-- A non-empty event id is part of the seed. -/
theorem fits_eventId_iff (hseed : Encodable (router.dedupSeed call)) :
    FitsStringColumn call.input.eventId ↔ IsTextOrNull call.input.eventId := by
  simp only [QuarantineRouter.dedupSeed, encodable_append] at hseed
  have hid := hseed.1.1.1.1.1.1
  cases hv : call.input.eventId with
  | str t =>
    have ht : Encodable t := by
      rcases t with _ | ⟨c, t⟩
      · simp [Python.Encodable]
      · simpa [hv, Json.orElse, Json.truthy, Json.toText] using hid
    simp [FitsStringColumn, IsTextOrNull, ht]
  | _ => simp [FitsStringColumn, IsTextOrNull]

theorem convertible_record_iff (hseed : Encodable (router.dedupSeed call)) :
    (router.record call).Convertible ↔
      IsTextOrNull call.input.eventId ∧ FitsStringColumn call.input.schemaVersion ∧
        Encodable call.primaryError.errorMessage := by
  have hid := fits_eventId_iff hseed
  simp only [QuarantineRouter.dedupSeed, encodable_append,
    encodable_intercalate (encodable_text _)] at hseed
  obtain ⟨⟨⟨⟨⟨⟨-, -⟩, hversion⟩, -⟩, hrules⟩, -⟩, hdetected⟩ := hseed
  have hquarantineId : Encodable (router.quarantineId call) :=
    encodable_append.mpr ⟨encodable_text _, encodable_text _⟩
  have hevent : Encodable call.payload := encodable_text _
  have hcode : Encodable (text call.primaryError.errorCode) := encodable_text _
  simp only [QuarantineRecord.Convertible, QuarantineRecord.stringColumns,
    QuarantineRouter.record, List.forall_mem_cons, fitsStringColumn_str, hid]
  constructor
  · rintro ⟨⟨-, heventId, -, -, hmessage, -, -, hschema, -⟩, -⟩
    exact ⟨heventId, hschema, hmessage⟩
  · rintro ⟨heventId, hschema, hmessage⟩
    refine ⟨⟨hquarantineId, heventId, hevent, hcode, hmessage, hdetected, hversion, hschema, ?_⟩,
      hrules⟩
    exact List.forall_mem_nil _

end

/-! ## What a call does -/

section

variable {router : QuarantineRouter} (port : TablePort QuarantineRecord) {call : RouteCall}
  (s : RouterWorld)

/-- A call with no failure is refused, and one whose seed cannot be encoded raises. -/
theorem route_of_valid (h : call.failedResults = []) :
    router.routeInvalidEvent port call s =
      (.ok { quarantineRecord := none, success := false,
             skippedReason := some "EVENT_IS_VALID" }, s) := by
  rw [QuarantineRouter.routeInvalidEvent, h]
  rfl

theorem route_of_unencodable (h : call.failedResults ≠ [])
    (hseed : ¬Encodable (router.dedupSeed call)) :
    router.routeInvalidEvent port call s = (.error unicodeEncodeError, s) := by
  have hempty : call.failedResults.isEmpty = false := by simpa using h
  simp only [QuarantineRouter.routeInvalidEvent, hempty, Bool.false_eq_true, ↓reduceIte, hseed,
    not_false_eq_true, Fallible.raise_apply]

theorem route_of_seen (h : call.failedResults ≠ []) (hseed : Encodable (router.dedupSeed call))
    (hseen : router.quarantineId call ∈ s.seenQuarantineIds) :
    router.routeInvalidEvent port call s =
      (.ok { quarantineRecord := some (router.record call), success := true,
             skippedReason := some "DUPLICATE_QUARANTINE_SKIPPED" }, s) := by
  have hempty : call.failedResults.isEmpty = false := by simpa using h
  have hid : (router.record call).quarantineId ∈ s.seenQuarantineIds := hseen
  simp only [QuarantineRouter.routeInvalidEvent, hempty, Bool.false_eq_true, ↓reduceIte, hseed,
    not_true_eq_false, Fallible.read_bind, hid, Fallible.pure_apply]

/-- Whatever becomes of the record, it is the one made of the call. -/
theorem returns_record : Fallible.Returns
    (fun result => ∀ r, result.quarantineRecord = some r → r = router.record call)
    (router.routeInvalidEvent port call) := by
  have hsome {r : QuarantineRecord} (h : some (router.record call) = some r) :
      r = router.record call := (Option.some.inj h).symm
  unfold QuarantineRouter.routeInvalidEvent
  split_ifs with hvalid hseed
  · apply Fallible.returns_pure
    intro r h
    cases h
  · refine Fallible.returns_bind fun seen => ?_
    split_ifs with hseen
    · exact Fallible.returns_pure fun r => hsome
    · refine Fallible.returns_bind fun written => ?_
      split_ifs
      · exact Fallible.returns_bind fun _ => Fallible.returns_pure fun r => hsome
      · exact Fallible.returns_pure fun r => hsome
  · exact Fallible.returns_raise _

/-- A new id goes to the writer, and is remembered once its record is written. -/
theorem route_of_fresh (h : call.failedResults ≠ []) (hseed : Encodable (router.dedupSeed call))
    (hfresh : router.quarantineId call ∉ s.seenQuarantineIds) :
    router.routeInvalidEvent port call s =
      (onWriter (writeRecord router.writer port (router.record call) true) >>= fun written =>
        if written then do
          Fallible.update fun s => s.remembered (router.record call)
          pure { quarantineRecord := some (router.record call), success := true }
        else
          pure {
            quarantineRecord := some (router.record call)
            success := false
            error := some "Iceberg write failure" }) s := by
  have hempty : call.failedResults.isEmpty = false := by simpa using h
  have hid : (router.record call).quarantineId ∉ s.seenQuarantineIds := hfresh
  simp only [QuarantineRouter.routeInvalidEvent, hempty, Bool.false_eq_true, ↓reduceIte, hseed,
    not_true_eq_false, Fallible.read_bind, hid]

/-- A new record that goes out takes everything buffered with it, and is remembered. -/
theorem route_of_goesOut (hnew : router.IsNew s.seenQuarantineIds call)
    (hout : GoesOut port (s.buffer ++ [router.record call]) s.storage.attempts) :
    ∃ w, router.routeInvalidEvent port call s =
        (.ok { quarantineRecord := some (router.record call), success := true },
          RouterWorld.remembered { s with storage := w } (router.record call)) ∧
      w.table = s.table ++ (s.buffer ++ [router.record call]) ∧ w.writer.buffer = [] := by
  obtain ⟨w, hwrite, htable, hbuffer⟩ := writeRecord_of_goesOut port router.writer hout
  have hwriter : onWriter (writeRecord router.writer port (router.record call) true) s =
      (.ok true, { s with storage := w }) := by
    rw [onWriter, hwrite]
  refine ⟨w, ?_, htable, hbuffer⟩
  rw [route_of_fresh port s hnew.1 hnew.2.1 hnew.2.2, Fallible.bind_ok hwriter]
  rfl

/-- One that does not leaves all but the writer's buffer as it is. -/
theorem route_of_not_goesOut (hnew : router.IsNew s.seenQuarantineIds call)
    (hout : ¬GoesOut port (s.buffer ++ [router.record call]) s.storage.attempts) :
    ∃ w, (router.routeInvalidEvent port call s).2 = { s with storage := w } ∧
      w.table = s.table := by
  obtain ⟨hresult, htable⟩ := writeRecord_of_not_goesOut port router.writer hout
  rcases hwrite : writeRecord router.writer port (router.record call) true s.storage with
    ⟨e | written, w⟩
  · rw [hwrite] at htable
    have hwriter : onWriter (writeRecord router.writer port (router.record call) true) s =
        (.error e, { s with storage := w }) := by
      rw [onWriter, hwrite]
    refine ⟨w, ?_, htable⟩
    rw [route_of_fresh port s hnew.1 hnew.2.1 hnew.2.2, Fallible.bind_error hwriter]
  · rw [hwrite] at htable hresult
    have hwriter : onWriter (writeRecord router.writer port (router.record call) true) s =
        (.ok written, { s with storage := w }) := by
      rw [onWriter, hwrite]
    cases written with
    | true => exact absurd rfl hresult
    | false =>
      refine ⟨w, ?_, htable⟩
      rw [route_of_fresh port s hnew.1 hnew.2.1 hnew.2.2, Fallible.bind_ok hwriter]
      rfl

theorem route_of_written (h : call.failedResults ≠ []) (hseed : Encodable (router.dedupSeed call))
    (hfresh : router.quarantineId call ∉ s.seenQuarantineIds)
    (harrow : port.arrow (s.buffer ++ [router.record call]) = .ok ())
    (hattempt : port.attempt s.storage.attempts = true) :
    ∃ t, router.routeInvalidEvent port call s =
        (.ok { quarantineRecord := some (router.record call), success := true }, t) ∧
      t.table = s.table ++ (s.buffer ++ [router.record call]) ∧ t.buffer = [] ∧
      t.seenQuarantineIds = router.quarantineId call :: s.seenQuarantineIds := by
  obtain ⟨w, hwrite, htable, hbuffer⟩ :=
    writeRecord_of_attempt port router.writer harrow hattempt
  have hwriter : onWriter (writeRecord router.writer port (router.record call) true) s =
      (.ok true, { s with storage := w }) := by
    rw [onWriter, hwrite]
  refine ⟨RouterWorld.remembered { s with storage := w } (router.record call), ?_, htable,
    hbuffer, rfl⟩
  rw [route_of_fresh port s h hseed hfresh, Fallible.bind_ok hwriter]
  rfl

theorem route_of_arrow_error {e : Exc} (h : call.failedResults ≠ [])
    (hseed : Encodable (router.dedupSeed call))
    (hfresh : router.quarantineId call ∉ s.seenQuarantineIds)
    (harrow : port.arrow (s.buffer ++ [router.record call]) = .error e) :
    ∃ t, router.routeInvalidEvent port call s = (.error e, t) ∧
      t.buffer = s.buffer ++ [router.record call] := by
  have hwrite := writeRecord_of_arrow_error port router.writer harrow
  let t : RouterWorld := { s with storage :=
    { s.storage with writer := s.storage.writer.buffered (router.record call) } }
  have hwriter : onWriter (writeRecord router.writer port (router.record call) true) s =
      (.error e, t) := by
    rw [onWriter, hwrite]
  refine ⟨t, ?_, rfl⟩
  rw [route_of_fresh port s h hseed hfresh, Fallible.bind_error hwriter]

theorem flushWriter_total (harrow : ∀ records, port.arrow records = .ok ()) :
    ∃ result t, QuarantineRouter.flushWriter port s = (.ok result, t) := by
  obtain ⟨result, w, hflush⟩ := flush_total port harrow s.storage
  refine ⟨result, { s with storage := w }, ?_⟩
  rw [QuarantineRouter.flushWriter, onWriter, hflush]

/-- Where the conversion to Arrow does not raise, only a seed that cannot be
encoded makes a call raise. -/
theorem route_total (harrow : ∀ records, port.arrow records = .ok ())
    (hseed : Encodable (router.dedupSeed call)) :
    ∃ result t, router.routeInvalidEvent port call s = (.ok result, t) := by
  by_cases hvalid : call.failedResults = []
  · exact ⟨_, _, route_of_valid port s hvalid⟩
  by_cases hseen : router.quarantineId call ∈ s.seenQuarantineIds
  · exact ⟨_, _, route_of_seen port s hvalid hseed hseen⟩
  obtain ⟨written, w, hwrite⟩ :=
    writeRecord_total port harrow router.writer (router.record call) s.storage
  have hwriter : onWriter (writeRecord router.writer port (router.record call) true) s =
      (.ok written, { s with storage := w }) := by
    rw [onWriter, hwrite]
  rw [route_of_fresh port s hvalid hseed hseen, Fallible.bind_ok hwriter]
  cases written with
  | true => exact ⟨_, _, rfl⟩
  | false => exact ⟨_, _, rfl⟩

end

end IceStream.Quarantine
