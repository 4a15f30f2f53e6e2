import IceStream.Lib.JsonLoaded
import IceStream.Streaming.TripLaw

/-!
# What the record of an invalid event keeps

The event of a record is JSON text. Parsed, it is the object that was validated,
which is the one received with an ingestion time; where the quality engine raised,
it holds the text of that object.
-/

namespace IceStream.Streaming
open Python Metrics Quarantine Remediation StreamWorld

variable {φ : Type}

/-! ## The record of a call -/

theorem getParsedEvent_record (router : QuarantineRouter) {call : RouteCall} {d : Dict} {limit : ℕ}
    (hinput : call.input = .payload d) (h : Readable limit (.obj d)) :
    ((router.record call).getParsedEvent limit).Same (.obj d) := by
  have hevent : (router.record call).event = text ((Json.obj d).dumps true) := by
    change serializeEventPayload call.input = _
    rw [hinput]
    rfl
  rw [QuarantineRecord.getParsedEvent, hevent, loads_dumps h le_rfl]
  exact h.same_arranged true

section

variable (v : StreamQualityValidator φ) (readings : StreamReadings)

/-- A record that comes back is the one made of `d`. -/
def Quarantines (d : Dict) (summary : ValidationSummary) (routed : Option QuarantineRouteResult) :
    Prop :=
  ∀ result r, routed = some result → result.quarantineRecord = some r →
    r = v.router.record (routeCall readings d summary)

theorem returns_autoRoute (d : Dict) (summary : ValidationSummary) :
    Fallible.Returns (Quarantines v readings d summary) (autoRoute v readings d summary) := by
  have hroute : Fallible.Returns
      (fun result => ∀ r, result.quarantineRecord = some r →
        r = v.router.record (routeCall readings d summary)) (route v readings d summary) := by
    intro s result t hrun
    obtain ⟨hresult, -⟩ := Prod.mk.inj hrun
    exact returns_record v.table s.quarantine result _ (Prod.ext hresult rfl)
  unfold autoRoute
  split_ifs
  · refine hroute.bind fun result hresult => ?_
    have hsome : Quarantines v readings d summary (some result) := by
      intro result' r h
      obtain rfl := Option.some.inj h
      exact hresult r
    exact Fallible.returns_pure hsome
  · have hnone : Quarantines v readings d summary none := fun result r h => by cases h
    exact Fallible.returns_pure hnone

theorem returns_malformed (payload errorMsg : Text) :
    Fallible.Returns
      (fun outcome => Quarantines v readings (malformedDict payload) (malformedSummary errorMsg)
        outcome.quarantineResult)
      (handleMalformedPayload v readings payload errorMsg) := by
  refine Fallible.returns_bind fun _ => (returns_autoRoute v readings _ _).bind fun routed h => ?_
  exact Fallible.returns_bind fun _ => Fallible.returns_bind fun _ => Fallible.returns_pure h

theorem returns_invalidExit (d : Dict) (eventId : Json) (summary : ValidationSummary) :
    Fallible.Returns (fun outcome => Quarantines v readings d summary outcome.quarantineResult)
      (invalidExit v readings d eventId summary) := by
  refine (returns_autoRoute v readings d summary).attempt.bind fun routed h => ?_
  -- what routing raises is caught, and then there is no record
  have hrouted : Quarantines v readings d summary routed.toOption.join := by
    cases routed with
    | error e => exact fun result r hresult => by cases hresult
    | ok routed => exact h routed rfl
  refine Fallible.returns_bind fun _ => ?_
  split_ifs
  · exact Fallible.returns_bind fun _ => Fallible.returns_bind fun _ =>
      Fallible.returns_pure hrouted
  · exact Fallible.returns_bind fun _ => Fallible.returns_bind fun _ =>
      Fallible.returns_pure hrouted

theorem returns_validExit (eventId : Json) (summary : ValidationSummary) :
    Fallible.Returns (fun outcome => outcome.isValid = true)
      (validExit v readings eventId summary) :=
  Fallible.returns_bind fun _ => Fallible.returns_bind fun _ => Fallible.returns_pure rfl

end

/-! ## The object that is validated -/

section

variable {v : StreamQualityValidator φ} {readings : StreamReadings}

theorem readable_withIngestionTime {limit : ℕ} {d : Dict} (hclock : Encodable readings.ingestionTime)
    (h : Readable limit (.obj d)) : Readable limit (.obj (withIngestionTime readings d)) := by
  unfold withIngestionTime
  split_ifs
  · exact h
  · cases h with
    | obj hkeys hjoined hvalues =>
      have hmembers : Members _ d := ⟨hkeys, hjoined, hvalues⟩
      have hkey : Joined (text "ingestion_time") := joined_of_encodable (encodable_text _)
      exact (hmembers.set hkey (.str _ (joined_of_encodable hclock))).readable

theorem pos_of_readable_obj {limit : ℕ} {d : Dict} (h : Readable limit (.obj d)) : 0 < limit := by
  cases h
  exact Nat.succ_pos _

theorem readable_malformedDict {limit : ℕ} {shown : Text} (hlimit : 0 < limit) (h : Encodable shown) :
    Readable limit (.obj (malformedDict shown)) := by
  obtain ⟨depth, rfl⟩ : ∃ depth, limit = depth + 1 := ⟨limit - 1, by omega⟩
  have hid : Readable depth (.str (text "malformed_event")) :=
    .str _ (joined_of_encodable (encodable_text _))
  have hkeys : [text "event_id", text "raw_payload"].Nodup := by decide
  refine .obj hkeys ?_ ?_
  · exact List.forall_mem_cons.mpr ⟨joined_of_encodable (encodable_text _),
      List.forall_mem_singleton.mpr (joined_of_encodable (encodable_text _))⟩
  · exact List.forall_mem_cons.mpr ⟨hid,
      List.forall_mem_singleton.mpr (.str _ (joined_of_encodable h))⟩

/-- Bytes hold nothing that cannot be written again; any other payload is to be an
object of JSON without a surrogate pair spelled out as its two halves. -/
def Preservable (limit : ℕ) (d : Dict) : Payload → Prop
  | .bytes _ => True
  | _ => Readable limit (.obj d)

theorem Preservable.readable {limit : ℕ} {d : Dict} {payload : Payload}
    (h : Preservable limit d payload) (hdecode : decode limit payload = .ok (.obj d)) :
    Readable limit (.obj d) := by
  cases payload with
  | bytes payload =>
    rw [decode] at hdecode
    cases htext : decodeUtf8 payload with
    | error e =>
      rw [htext] at hdecode
      cases hdecode
    | ok doc =>
      have hbind : (decodeUtf8 payload >>= loads limit) = loads limit doc := by
        rw [htext]
        rfl
      cases hloads : loads limit doc with
      | error e =>
        rw [hbind, hloads] at hdecode
        cases hdecode
      | ok w =>
        rw [hbind, hloads] at hdecode
        obtain rfl : w = .obj d := Except.ok.inj hdecode
        exact readable_loads (encodable_decodeUtf8 htext) hloads
  | _ => exact h

/-- The record keeps `d`, or, where the quality engine raised, the text of `d`. -/
def Keeps (limit : ℕ) (d : Dict) (r : QuarantineRecord) :
    Except Exc ValidationSummary → Prop
  | .ok _ => (r.getParsedEvent limit).Same (.obj d)
  | .error _ => ∃ raw w, (r.getParsedEvent limit).Same (.obj (malformedDict raw)) ∧
      loads limit raw = .ok w ∧ w.Same (.obj d)

/-- Parsing the event of a quarantine record gives back the object that was received,
with its ingestion time. -/
theorem record_keeps_event (hclock : Encodable readings.ingestionTime) {payload : Payload} {d : Dict}
    (hdecode : decode v.nestingLimit payload = .ok (.obj d))
    (hpreservable : Preservable v.nestingLimit d payload) {s t : StreamWorld φ}
    {outcome : ValidationOutcome} (hrun : validateEvent v readings payload s = (.ok outcome, t))
    (hinvalid : outcome.isValid = false) {result : QuarantineRouteResult} {r : QuarantineRecord}
    (hresult : outcome.quarantineResult = some result) (hrecord : result.quarantineRecord = some r) :
    Keeps v.nestingLimit (withIngestionTime readings d) r
      (v.qualityEngine.validateWithSummary v.unicode (.obj (withIngestionTime readings d))
        s.control.outside).1 := by
  have hreadable := readable_withIngestionTime hclock (hpreservable.readable hdecode)
  obtain ⟨s', -, hfollow⟩ := validateEvent_follows v readings payload s
  rw [hfollow, course, hdecode] at hrun
  simp only [engineCourse, rawValue] at hrun
  cases hengine : (v.qualityEngine.validateWithSummary v.unicode
      (.obj (withIngestionTime readings d)) s.control.outside).1 with
  | error e =>
    simp only [hengine, follow] at hrun
    set raw := text ((Json.obj (withIngestionTime readings d)).dumps false) with hraw
    obtain rfl := returns_malformed v readings raw _ s' outcome t hrun result r hresult hrecord
    have hlimit := pos_of_readable_obj hreadable
    refine ⟨raw, (Json.obj (withIngestionTime readings d)).arranged false, ?_, ?_, ?_⟩
    · exact getParsedEvent_record v.router rfl (readable_malformedDict hlimit (encodable_text _))
    · exact loads_dumps hreadable le_rfl false
    · exact hreadable.same_arranged false
  | ok summary =>
    simp only [hengine, Option.getD_some] at hrun
    cases hvalid : summary.isValid with
    | true =>
      simp only [hvalid, ↓reduceIte, follow] at hrun
      have hreturns : Fallible.Returns (fun outcome => outcome.isValid = true) (do
          record readings true
          validExit v readings (Dict.getD d (text "event_id") .null) summary) :=
        Fallible.returns_bind fun _ => returns_validExit v readings _ summary
      have hisValid : outcome.isValid = true := hreturns s' outcome t hrun
      rw [hinvalid] at hisValid
      cases hisValid
    | false =>
      simp only [hvalid, Bool.false_eq_true, ↓reduceIte, follow] at hrun
      have hreturns : Fallible.Returns
          (fun outcome => Quarantines v readings (withIngestionTime readings d) summary
            outcome.quarantineResult) (do
          record readings false
          invalidExit v readings (withIngestionTime readings d)
            (Dict.getD d (text "event_id") .null) summary) :=
        Fallible.returns_bind fun _ => returns_invalidExit v readings _ _ summary
      obtain rfl := hreturns s' outcome t hrun result r hresult hrecord
      exact getParsedEvent_record v.router rfl hreadable

end

/-! ## Events without an id -/

def exampleRun (d : Dict) : Except Exc ValidationOutcome × StreamWorld Unit :=
  validateEvent exampleValidator exampleReadings (.dict d) (exampleStream closedCircuit)

def recordOf (run : Except Exc ValidationOutcome × StreamWorld Unit) : Option QuarantineRecord := do
  let outcome ← run.1.toOption
  if outcome.isValid then none
  else
    let result ← outcome.quarantineResult
    result.quarantineRecord

theorem recordOf_eq_some {run : Except Exc ValidationOutcome × StreamWorld Unit}
    {r : QuarantineRecord} (h : recordOf run = some r) :
    ∃ outcome t result, run = (.ok outcome, t) ∧ outcome.isValid = false ∧
      outcome.quarantineResult = some result ∧ result.quarantineRecord = some r := by
  rcases run with ⟨e | outcome, t⟩
  · cases h
  · have h : (if outcome.isValid then none else
        outcome.quarantineResult.bind fun result => result.quarantineRecord) = some r := h
    split_ifs at h with hvalid
    obtain ⟨result, hresult, hrecord⟩ := Option.bind_eq_some_iff.mp h
    exact ⟨outcome, t, result, rfl, by simpa using hvalid, hresult, hrecord⟩

theorem empty_event_kept :
    ∃ outcome t result r, exampleRun [] = (.ok outcome, t) ∧ outcome.isValid = false ∧
      outcome.quarantineResult = some result ∧ result.quarantineRecord = some r ∧
      Keeps 1000 [(text "ingestion_time", .str exampleReadings.ingestionTime)] r
        (exampleValidator.qualityEngine.validateWithSummary .ascii
          (.obj [(text "ingestion_time", .str exampleReadings.ingestionTime)]) ()).1 := by
  have hsome : (recordOf (exampleRun [])).isSome = true := by decide +kernel
  obtain ⟨r, hr⟩ := Option.isSome_iff_exists.mp hsome
  obtain ⟨outcome, t, result, hrun, hinvalid, hresult, hrecord⟩ := recordOf_eq_some hr
  have hpreservable : Preservable exampleValidator.nestingLimit [] (.dict []) :=
    (members_nil 999).readable
  exact ⟨outcome, t, result, r, hrun, hinvalid, hresult, hrecord,
    record_keeps_event (encodable_text _) rfl hpreservable hrun hinvalid hresult hrecord⟩

/-- The event has a record, which does not give it back. -/
def Unkept (d : Dict) : Prop :=
  ∃ outcome t result r, exampleRun d = (.ok outcome, t) ∧ outcome.isValid = false ∧
    outcome.quarantineResult = some result ∧ result.quarantineRecord = some r ∧
    ¬(r.getParsedEvent 1000).Same (.obj d)

/-- The keys of an object and the texts under them. -/
def textsOf : Json → List Text
  | .obj kvs => kvs.flatMap fun p => match p.2 with
    | .str t => [p.1, t]
    | _ => [p.1]
  | _ => []

theorem unkept_of_texts {d : Dict}
    (h : (recordOf (exampleRun d)).any (fun r => textsOf ((r.getParsedEvent 1000).arranged true) !=
      textsOf ((Json.obj d).arranged true)) = true) : Unkept d := by
  obtain ⟨r, hr, htexts⟩ := (Option.any_eq_true _ _).mp h
  obtain ⟨outcome, t, result, hrun, hinvalid, hresult, hrecord⟩ := recordOf_eq_some hr
  refine ⟨outcome, t, result, r, hrun, hinvalid, hresult, hrecord, ?_⟩
  intro hsame
  rw [hsame, bne_self_eq_false] at htexts
  cases htexts

/-- An ingestion time is added; what makes the quality engine raise is kept as a text; the
halves of a surrogate pair come back as one code point. -/
theorem ingestion_time_added :
    Unkept [] ∧
      Unkept [(text "ingestion_time", .null), (text "quantity", .float (1 / 0))] ∧
      Unkept [(text "ingestion_time", .null),
        (text "device", .str [⟨0xD83D, by decide⟩, ⟨0xDE00, by decide⟩])] := by
  refine ⟨unkept_of_texts ?_, unkept_of_texts ?_, unkept_of_texts ?_⟩ <;> decide +kernel

end IceStream.Streaming
