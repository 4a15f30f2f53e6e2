import IceStream.Lib.Stepping
import IceStream.Quarantine.Router

/-!
# Runs of the router

Two laws over sequences of calls: that no call is in the way of another one, and
that no event is dropped for another one.
-/

namespace IceStream.Quarantine
open Python Stepping

/-- A call about an event with a failed result. -/
structure InvalidCall extends RouteCall where
  failed : toRouteCall.failedResults ≠ []

inductive RouterAction
  | route (call : InvalidCall)
  | flush

/-- The Arrow conversion refuses a batch when some value does not fit its column. -/
def ChecksColumns (port : TablePort QuarantineRecord) : Prop :=
  ∀ records, port.arrow records = .ok () ↔ ∀ r ∈ records, r.Convertible

section

variable (router : QuarantineRouter) (port : TablePort QuarantineRecord)

def routerStep (s : RouterWorld) : RouterAction → Option RouterWorld
  | .route call => some (router.routeInvalidEvent port call.toRouteCall s).2
  | .flush => some (QuarantineRouter.flushWriter port s).2

/-- The action does not raise, and a record that could be written is in the
table when its call returns. -/
def GoesThrough (s : RouterWorld) (a : RouterAction) (t : RouterWorld) : Prop :=
  match a with
  | .route call =>
    (∃ result, (router.routeInvalidEvent port call.toRouteCall s).1 = .ok result) ∧
      ((router.record call.toRouteCall).HasTextColumns →
        router.record call.toRouteCall ∈ t.table)
  | .flush => ∃ count, (QuarantineRouter.flushWriter port s).1 = .ok (count, true)

/-- The seed can be encoded; what a new id brings in fits its column; and what
comes under an old id is in the table already, or is no text. -/
def Routable (s : RouterWorld) (a : RouterAction) (_ : RouterWorld) : Prop :=
  match a with
  | .route call =>
    Encodable (router.dedupSeed call.toRouteCall) ∧
      (router.quarantineId call.toRouteCall ∉ s.seenQuarantineIds →
        IsTextOrNull call.input.eventId ∧ FitsStringColumn call.input.schemaVersion ∧
          Encodable call.primaryError.errorMessage) ∧
      (router.quarantineId call.toRouteCall ∈ s.seenQuarantineIds →
        IsTextOrNull call.input.eventId → IsTextOrNull call.input.schemaVersion →
        router.record call.toRouteCall ∈ s.table)
  | .flush => True

end

/-! ## No call is in the way of another one -/

section

variable {router : QuarantineRouter} {port : TablePort QuarantineRecord} {s t : RouterWorld}
  {a : RouterAction}

theorem flush_of_drained (h : s.buffer = []) :
    QuarantineRouter.flushWriter port s = (.ok (0, true), s) := by
  rw [QuarantineRouter.flushWriter, onWriter, flush_of_empty port h]

theorem arrow_of_unconvertible (harrow : ChecksColumns port) {records : List QuarantineRecord}
    {r : QuarantineRecord} (hmem : r ∈ records) (hr : ¬r.Convertible) :
    ∃ e, port.arrow records = .error e := by
  cases hresult : port.arrow records with
  | error e => exact ⟨e, rfl⟩
  | ok u =>
    rw [harrow] at hresult
    exact absurd (hresult r hmem) hr

theorem goesThrough_route_iff (harrow : ChecksColumns port) (hattempt : ∀ n, port.attempt n = true)
    (hs : s.buffer = []) (call : InvalidCall)
    (ht : routerStep router port s (.route call) = some t) :
    (GoesThrough router port s (.route call) t ↔ Routable router s (.route call) t) ∧
      (Routable router s (.route call) t → t.buffer = []) := by
  have ht : (router.routeInvalidEvent port call.toRouteCall s).2 = t := Option.some.inj ht
  by_cases hseed : Encodable (router.dedupSeed call.toRouteCall)
  swap
  · have hroute := route_of_unencodable port s call.failed hseed
    simp [GoesThrough, Routable, hroute, hseed]
  by_cases hseen : router.quarantineId call.toRouteCall ∈ s.seenQuarantineIds
  · have hroute := route_of_seen port s call.failed hseed hseen
    rw [hroute] at ht
    subst ht
    simp [GoesThrough, Routable, hroute, hseed, hseen, hasTextColumns_record, hs]
  have hcolumns := convertible_record_iff hseed
  have hbatch : s.buffer ++ [router.record call.toRouteCall] =
      [router.record call.toRouteCall] := by rw [hs, List.nil_append]
  by_cases hfits : (router.record call.toRouteCall).Convertible
  · have hok : port.arrow (s.buffer ++ [router.record call.toRouteCall]) = .ok () := by
      rw [harrow, hbatch]
      simpa using hfits
    obtain ⟨t', hroute, htable, hbuffer, -⟩ :=
      route_of_written port s call.failed hseed hseen hok (hattempt _)
    rw [hroute] at ht
    subst ht
    simp [GoesThrough, Routable, hroute, hseed, hseen, htable, hbuffer, hcolumns.mp hfits]
  · have hmem : router.record call.toRouteCall ∈ s.buffer ++ [router.record call.toRouteCall] :=
      List.mem_append_right _ (List.mem_singleton_self _)
    obtain ⟨e, herror⟩ := arrow_of_unconvertible harrow hmem hfits
    obtain ⟨t', hroute, -⟩ := route_of_arrow_error port s call.failed hseed hseen herror
    -- the batch that holds the record cannot be built
    have hnot : ¬Routable router s (.route call) t := by
      intro h
      exact hfits (hcolumns.mpr (h.2.1 hseen))
    have hraised : ¬GoesThrough router port s (.route call) t := by
      rintro ⟨⟨result, hresult⟩, -⟩
      rw [hroute] at hresult
      cases hresult
    exact ⟨iff_of_false hraised hnot, fun h => absurd h hnot⟩

theorem goesThrough_iff_routable (harrow : ChecksColumns port)
    (hattempt : ∀ n, port.attempt n = true) (hs : s.buffer = [])
    (ht : routerStep router port s a = some t) :
    GoesThrough router port s a t ↔ Routable router s a t := by
  cases a with
  | route call => exact (goesThrough_route_iff harrow hattempt hs call ht).1
  | flush => simp [GoesThrough, Routable, flush_of_drained hs]

theorem drained_of_routable (harrow : ChecksColumns port) (hattempt : ∀ n, port.attempt n = true)
    (hs : s.buffer = []) (ht : routerStep router port s a = some t)
    (h : Routable router s a t) : t.buffer = [] := by
  cases a with
  | route call => exact (goesThrough_route_iff harrow hattempt hs call ht).2 h
  | flush =>
    have ht : (QuarantineRouter.flushWriter port s).2 = t := Option.some.inj ht
    rw [flush_of_drained hs] at ht
    exact ht ▸ hs

/-! ### A record that does not fit stays in the way -/

def Stuck (s : RouterWorld) : Prop := ∃ r ∈ s.buffer, ¬r.Convertible

theorem flush_of_stuck (harrow : ChecksColumns port) (hs : Stuck s) :
    ∃ e, QuarantineRouter.flushWriter port s = (.error e, s) := by
  obtain ⟨r, hmem, hr⟩ := hs
  obtain ⟨e, he⟩ := arrow_of_unconvertible harrow hmem hr
  have hflush := flush_of_arrow_error port (List.ne_nil_of_mem hmem) he
  refine ⟨e, ?_⟩
  rw [QuarantineRouter.flushWriter, onWriter, hflush]

theorem stuck_step (harrow : ChecksColumns port) (hs : Stuck s)
    (ht : routerStep router port s a = some t) : Stuck t := by
  cases a with
  | flush =>
    have ht : (QuarantineRouter.flushWriter port s).2 = t := Option.some.inj ht
    obtain ⟨e, he⟩ := flush_of_stuck harrow hs
    rw [he] at ht
    exact ht ▸ hs
  | route call =>
    have ht : (router.routeInvalidEvent port call.toRouteCall s).2 = t := Option.some.inj ht
    by_cases hseed : Encodable (router.dedupSeed call.toRouteCall)
    swap
    · rw [route_of_unencodable port s call.failed hseed] at ht
      exact ht ▸ hs
    by_cases hseen : router.quarantineId call.toRouteCall ∈ s.seenQuarantineIds
    · rw [route_of_seen port s call.failed hseed hseen] at ht
      exact ht ▸ hs
    · obtain ⟨r, hmem, hr⟩ := hs
      obtain ⟨e, he⟩ := arrow_of_unconvertible harrow
        (List.mem_append_left [router.record call.toRouteCall] hmem) hr
      obtain ⟨t', hroute, hbuffer⟩ := route_of_arrow_error port s call.failed hseed hseen he
      rw [hroute] at ht
      subst ht
      exact ⟨r, hbuffer ▸ List.mem_append_left _ hmem, hr⟩

/-- Once a record that does not fit is in the buffer, no later flush succeeds,
however the appends would end. -/
theorem flush_raises_ever_after (harrow : ChecksColumns port) (hs : Stuck s)
    {actions : List RouterAction} (h : exec (routerStep router port) s actions = some t) :
    ∃ e, QuarantineRouter.flushWriter port t = (.error e, t) := by
  have hstuck : Stuck t :=
    exec_preserves (I := Stuck) (fun _ _ _ hs ht => stuck_step harrow hs ht) hs h
  exact flush_of_stuck harrow hstuck

/-! ### Whole runs -/

end

/-! ### A numeric event id, and one that is a text -/

def arrowColumns (records : List QuarantineRecord) : Except Exc Unit :=
  if ∀ r ∈ records, r.Convertible then .ok ()
  else .error ⟨"ArrowTypeError", false, "Expected bytes, got a 'int' object"⟩

/-- A table that accepts every append. -/
def exampleTable : TablePort QuarantineRecord where
  arrow := arrowColumns
  attempt _ := true
  clock _ := 0

theorem exampleTable_checksColumns : ChecksColumns exampleTable := by
  intro records
  have harrow : exampleTable.arrow records = arrowColumns records := rfl
  rw [harrow, arrowColumns]
  split <;> simp_all

def exampleSeed (eventId rule : String) : Text :=
  text (eventId ++ ":0.1.0:" ++ rule ++ ":2026-01-01T00:00:00+00:00")

/-- The digest, on the seeds of the examples. -/
def exampleDigest (seed : Text) : String :=
  if seed = exampleSeed "malformed_event" "malformed_json" then
    "183b420dd80e5670cc66dd28c927fd6b9b6722fc1609de9d5b45edb9eba9962f"
  else if seed = exampleSeed "5" "amount_not_null" then
    "3ad8136a721a4cc746953f13869846e48fe250e5e0c9329ae64d488ae660e8ed"
  else if seed = exampleSeed "e1" "amount_not_null" then
    "3a0143fe98a5ef64fc3c1c3240d0cae88a2a5fcdace9b83f8a46707c3aa76fbc"
  else ""

def exampleRouter : QuarantineRouter where
  unicode := .ascii
  sha256Hex := exampleDigest

def exampleCall (payload : Dict) (rule : String) : InvalidCall where
  input := .payload payload
  results := [{
    ruleName := rule
    passed := false
    severity := .critical
    message := "Field is null or unpopulated" }]
  detectedAt := "2026-01-01T00:00:00+00:00"
  failed := by simp [RouteCall.failedResults]

def numericIdCall : InvalidCall :=
  exampleCall [(text "event_id", .int 5), (text "amount", .null)] "amount_not_null"

def textIdCall : InvalidCall :=
  exampleCall [(text "event_id", .str "e1"), (text "amount", .null)] "amount_not_null"

structure Report where
  call : InvalidCall
  outcome : Except Exc QuarantineRouteResult

/-- The call was answered with success, for the record `r`. -/
def Report.Succeeded (report : Report) (r : QuarantineRecord) : Prop :=
  ∃ result, report.outcome = .ok result ∧ result.success = true ∧
    result.quarantineRecord = some r

section

variable (router : QuarantineRouter) (port : TablePort QuarantineRecord)

def routeAll : List InvalidCall → RouterWorld → List Report × RouterWorld
  | [], s => ([], s)
  | call :: calls, s =>
    let (outcome, s) := router.routeInvalidEvent port call.toRouteCall s
    let (reports, s) := routeAll calls s
    (⟨call, outcome⟩ :: reports, s)

end

/-- The rows under the id that a successful call reports hold its own payload,
there is such a row, and no row is shared by calls with different payloads. -/
structure NothingDropped (reports : List Report) (table : List QuarantineRecord) : Prop where
  carried : ∀ report ∈ reports, ∀ r, report.Succeeded r →
    ∃ row ∈ table, row.quarantineId = r.quarantineId ∧ row.event = report.call.payload
  unmerged : ∀ row ∈ table, ∀ report ∈ reports, ∀ report' ∈ reports, ∀ r r',
    report.Succeeded r → report'.Succeeded r' →
    row.quarantineId = r.quarantineId → row.quarantineId = r'.quarantineId →
    report.call.payload = report'.call.payload

/-- How things stand after the calls `past`, none of whose writes failed. -/
structure Recorded (router : QuarantineRouter) (past : List InvalidCall) (s : RouterWorld) :
    Prop where
  drained : s.buffer = []
  remembered : ∀ q ∈ s.seenQuarantineIds, ∃ row ∈ s.table, row.quarantineId = q
  written : ∀ call ∈ past, Encodable (router.dedupSeed call.toRouteCall) →
    router.quarantineId call.toRouteCall ∈ s.seenQuarantineIds
  own : ∀ row ∈ s.table, ∃ call ∈ past,
    Encodable (router.dedupSeed call.toRouteCall) ∧ row = router.record call.toRouteCall

/-- A call is answered with success unless its seed cannot be encoded. -/
def Answered (router : QuarantineRouter) (report : Report) : Prop :=
  if Encodable (router.dedupSeed report.call.toRouteCall) then
    ∃ result, report.outcome = .ok result ∧ result.success = true ∧
      result.quarantineRecord = some (router.record report.call.toRouteCall)
  else ∃ e, report.outcome = .error e

section

variable {router : QuarantineRouter} {port : TablePort QuarantineRecord} {s : RouterWorld}

theorem recorded_init : Recorded router [] (.init port) where
  drained := rfl
  remembered := by simp [RouterWorld.init]
  written := by simp
  own := by simp [RouterWorld.table, RouterWorld.init, WriterWorld.init]

/-- A call that leaves the world alone, for its record is there already or it has none. -/
theorem Recorded.skipped {past : List InvalidCall} {call : InvalidCall}
    (hs : Recorded router past s) (hseen : Encodable (router.dedupSeed call.toRouteCall) →
      router.quarantineId call.toRouteCall ∈ s.seenQuarantineIds) :
    Recorded router (past ++ [call]) s where
  drained := hs.drained
  remembered := hs.remembered
  written := by
    intro c hc hencodable
    obtain hpast | rfl := List.mem_append.mp hc |>.imp_right List.mem_singleton.mp
    · exact hs.written c hpast hencodable
    · exact hseen hencodable
  own := by
    intro row hrow
    obtain ⟨c, hc, h⟩ := hs.own row hrow
    exact ⟨c, List.mem_append_left _ hc, h⟩

/-- A call whose record is appended to the table. -/
theorem Recorded.appended {past : List InvalidCall} {call : InvalidCall}
    {t : RouterWorld} (hs : Recorded router past s)
    (hseed : Encodable (router.dedupSeed call.toRouteCall))
    (htable : t.table = s.table ++ [router.record call.toRouteCall]) (hbuffer : t.buffer = [])
    (hids : t.seenQuarantineIds = router.quarantineId call.toRouteCall :: s.seenQuarantineIds) :
    Recorded router (past ++ [call]) t where
  drained := hbuffer
  remembered := by
    intro q hq
    rw [hids] at hq
    obtain rfl | hq := List.mem_cons.mp hq
    · exact ⟨router.record call.toRouteCall, by simp [htable], rfl⟩
    · obtain ⟨row, hrow, hid⟩ := hs.remembered q hq
      exact ⟨row, htable ▸ List.mem_append_left _ hrow, hid⟩
  written := by
    intro c hc hencodable
    rw [hids]
    obtain hpast | rfl := List.mem_append.mp hc |>.imp_right List.mem_singleton.mp
    · exact List.mem_cons_of_mem _ (hs.written c hpast hencodable)
    · exact List.mem_cons_self
  own := by
    intro row hrow
    rw [htable] at hrow
    obtain hold | rfl := List.mem_append.mp hrow |>.imp_right List.mem_singleton.mp
    · obtain ⟨c, hc, h⟩ := hs.own row hold
      exact ⟨c, List.mem_append_left _ hc, h⟩
    · exact ⟨call, List.mem_append_right _ (List.mem_singleton_self _), hseed, rfl⟩

/-- One call more. -/
theorem recorded_route {past : List InvalidCall} {call : InvalidCall}
    (hs : Recorded router past s) (hattempt : ∀ n, port.attempt n = true)
    (harrow : port.arrow [router.record call.toRouteCall] = .ok ()) :
    Answered router ⟨call, (router.routeInvalidEvent port call.toRouteCall s).1⟩ ∧
      Recorded router (past ++ [call]) (router.routeInvalidEvent port call.toRouteCall s).2 := by
  by_cases hseed : Encodable (router.dedupSeed call.toRouteCall)
  swap
  · have hroute := route_of_unencodable port s call.failed hseed
    rw [hroute]
    exact ⟨by simp [Answered, hseed], hs.skipped fun hencodable => absurd hencodable hseed⟩
  by_cases hseen : router.quarantineId call.toRouteCall ∈ s.seenQuarantineIds
  · have hroute := route_of_seen port s call.failed hseed hseen
    rw [hroute]
    exact ⟨by simp [Answered, hseed], hs.skipped fun _ => hseen⟩
  · have hbatch : s.buffer ++ [router.record call.toRouteCall] =
        [router.record call.toRouteCall] := by rw [hs.drained, List.nil_append]
    have hok : port.arrow (s.buffer ++ [router.record call.toRouteCall]) = .ok () := by
      rw [hbatch, harrow]
    obtain ⟨t, hroute, htable, hbuffer, hids⟩ :=
      route_of_written port s call.failed hseed hseen hok (hattempt _)
    rw [hbatch] at htable
    rw [hroute]
    exact ⟨by simp [Answered, hseed], hs.appended hseed htable hbuffer hids⟩

theorem recorded_routeAll (hattempt : ∀ n, port.attempt n = true) {past calls : List InvalidCall}
    (hs : Recorded router past s)
    (harrow : ∀ call ∈ calls, port.arrow [router.record call.toRouteCall] = .ok ()) :
    (∀ report ∈ (routeAll router port calls s).1, Answered router report) ∧
      (routeAll router port calls s).1.map Report.call = calls ∧
      Recorded router (past ++ calls) (routeAll router port calls s).2 := by
  induction calls generalizing past s with
  | nil =>
    rw [List.append_nil]
    exact ⟨fun _ h => absurd h List.not_mem_nil, rfl, hs⟩
  | cons call calls ih =>
    obtain ⟨hanswer, hrecorded⟩ :=
      recorded_route hs hattempt (harrow call List.mem_cons_self)
    obtain ⟨hanswers, hcalls, hrest⟩ :=
      ih hrecorded fun c hc => harrow c (List.mem_cons_of_mem _ hc)
    rw [List.append_assoc, List.singleton_append] at hrest
    refine ⟨?_, ?_, hrest⟩
    · intro report hreport
      obtain rfl | hreport := List.mem_cons.mp hreport
      · exact hanswer
      · exact hanswers report hreport
    · exact congrArg (call :: ·) hcalls

theorem Answered.succeeded_iff {report : Report} (h : Answered router report)
    (r : QuarantineRecord) :
    report.Succeeded r ↔ Encodable (router.dedupSeed report.call.toRouteCall) ∧
      r = router.record report.call.toRouteCall := by
  by_cases hseed : Encodable (router.dedupSeed report.call.toRouteCall)
  · rw [Answered, if_pos hseed] at h
    obtain ⟨result, houtcome, hsuccess, hrecord⟩ := h
    constructor
    · rintro ⟨result', houtcome', -, hrecord'⟩
      have hsame : result' = result := by simpa [houtcome] using houtcome'.symm
      rw [hsame, hrecord, Option.some.injEq] at hrecord'
      exact ⟨hseed, hrecord'.symm⟩
    · rintro ⟨-, rfl⟩
      exact ⟨result, houtcome, hsuccess, hrecord⟩
  · rw [Answered, if_neg hseed] at h
    obtain ⟨e, he⟩ := h
    constructor
    · rintro ⟨result, hresult, -⟩
      rw [he] at hresult
      cases hresult
    · rintro ⟨hencodable, -⟩
      exact absurd hencodable hseed

theorem Recorded.row_of_mem {calls : List InvalidCall} (hs : Recorded router calls s)
    {call : InvalidCall} (hcall : call ∈ calls)
    (hseed : Encodable (router.dedupSeed call.toRouteCall)) :
    ∃ row ∈ s.table, row.quarantineId = router.quarantineId call.toRouteCall :=
  hs.remembered _ (hs.written call hcall hseed)

/-- The truncated digest tells the seeds of the calls apart. -/
def DigestInjective (router : QuarantineRouter) (calls : List InvalidCall) : Prop :=
  ∀ call ∈ calls, ∀ call' ∈ calls, Encodable (router.dedupSeed call.toRouteCall) →
    Encodable (router.dedupSeed call'.toRouteCall) →
    router.quarantineId call.toRouteCall = router.quarantineId call'.toRouteCall →
    router.dedupSeed call.toRouteCall = router.dedupSeed call'.toRouteCall

/-- Calls with one seed have one payload. -/
def SeedsTellPayloads (router : QuarantineRouter) (calls : List InvalidCall) : Prop :=
  ∀ call ∈ calls, ∀ call' ∈ calls, Encodable (router.dedupSeed call.toRouteCall) →
    router.dedupSeed call.toRouteCall = router.dedupSeed call'.toRouteCall →
    call.payload = call'.payload

theorem quarantineId_of_dedupSeed {call call' : RouteCall}
    (h : router.dedupSeed call = router.dedupSeed call') :
    router.quarantineId call = router.quarantineId call' := by
  rw [QuarantineRouter.quarantineId, QuarantineRouter.quarantineId, h]

/-- With all writes succeeding no event is dropped for another one just in case
no two events with different payloads have the same seed. -/
theorem nothing_dropped_iff {calls : List InvalidCall} (hattempt : ∀ n, port.attempt n = true)
    (harrow : ∀ call ∈ calls, port.arrow [router.record call.toRouteCall] = .ok ())
    (hinj : DigestInjective router calls) :
    NothingDropped (routeAll router port calls (.init port)).1
        (routeAll router port calls (.init port)).2.table ↔
      SeedsTellPayloads router calls := by
  obtain ⟨hanswers, hcalls, hrecorded⟩ := recorded_routeAll hattempt recorded_init harrow
  rw [List.nil_append] at hrecorded
  have hreports : ∀ report ∈ (routeAll router port calls (.init port)).1, report.call ∈ calls := by
    intro report hreport
    rw [← hcalls]
    exact List.mem_map_of_mem hreport
  constructor
  · intro h call hcall call' hcall' hseed hsame
    have hseed' : Encodable (router.dedupSeed call'.toRouteCall) := hsame ▸ hseed
    obtain ⟨row, hrow, hid⟩ := hrecorded.row_of_mem hcall hseed
    have hid' : row.quarantineId = router.quarantineId call'.toRouteCall :=
      hid.trans (quarantineId_of_dedupSeed hsame)
    rw [← hcalls] at hcall hcall'
    obtain ⟨report, hreport, rfl⟩ := List.mem_map.mp hcall
    obtain ⟨report', hreport', rfl⟩ := List.mem_map.mp hcall'
    have hsuccess := ((hanswers report hreport).succeeded_iff _).mpr ⟨hseed, rfl⟩
    have hsuccess' := ((hanswers report' hreport').succeeded_iff _).mpr ⟨hseed', rfl⟩
    exact h.unmerged row hrow report hreport report' hreport' _ _ hsuccess hsuccess' hid hid'
  · intro h
    -- a row under the id of a call is the record of a call with the same seed
    have hpayload : ∀ row ∈ (routeAll router port calls (.init port)).2.table, ∀ call ∈ calls,
        Encodable (router.dedupSeed call.toRouteCall) →
        row.quarantineId = router.quarantineId call.toRouteCall → row.event = call.payload := by
      intro row hrow call hcall hseed hid
      obtain ⟨owner, howner, hownerSeed, rfl⟩ := hrecorded.own row hrow
      have hsame := hinj owner howner call hcall hownerSeed hseed hid
      exact h owner howner call hcall hownerSeed hsame
    constructor
    · intro report hreport r hsuccess
      obtain ⟨hseed, rfl⟩ := ((hanswers report hreport).succeeded_iff r).mp hsuccess
      have hcall := hreports report hreport
      obtain ⟨row, hrow, hid⟩ := hrecorded.row_of_mem hcall hseed
      exact ⟨row, hrow, hid, hpayload row hrow _ hcall hseed hid⟩
    · intro row hrow report hreport report' hreport' r r' hsuccess hsuccess' hid hid'
      obtain ⟨hseed, rfl⟩ := ((hanswers report hreport).succeeded_iff r).mp hsuccess
      obtain ⟨hseed', rfl⟩ := ((hanswers report' hreport').succeeded_iff r').mp hsuccess'
      have hevent := hpayload row hrow _ (hreports report hreport) hseed hid
      have hevent' := hpayload row hrow _ (hreports report' hreport') hseed' hid'
      exact hevent.symm.trans hevent'

end

def malformedCall (raw : String) : InvalidCall :=
  exampleCall [(text "event_id", .str "malformed_event"), (text "raw_payload", .str raw)]
    "malformed_json"

theorem malformedCall_encodable (raw : String) :
    Encodable (exampleRouter.dedupSeed (malformedCall raw).toRouteCall) :=
  encodable_text "malformed_event:0.1.0:malformed_json:2026-01-01T00:00:00+00:00"

theorem malformedCall_arrow (raw : String) :
    exampleTable.arrow [exampleRouter.record (malformedCall raw).toRouteCall] = .ok () := by
  have hfits : (exampleRouter.record (malformedCall raw).toRouteCall).Convertible := by
    apply (convertible_record_iff (malformedCall_encodable raw)).mpr
    exact ⟨trivial, encodable_text "unknown", encodable_text "Field is null or unpopulated"⟩
  rw [exampleTable_checksColumns]
  simpa using hfits

/-- The same malformed text twice is one record. -/
theorem repeated_payload_kept :
    NothingDropped
      (routeAll exampleRouter exampleTable [malformedCall "[", malformedCall "["]
        (.init exampleTable)).1
      (routeAll exampleRouter exampleTable [malformedCall "[", malformedCall "["]
        (.init exampleTable)).2.table := by
  apply (nothing_dropped_iff (fun _ => rfl) ?_ ?_).mpr
  · simp [SeedsTellPayloads]
  · intro call hcall
    have hcall : call = malformedCall "[" := by simpa using hcall
    subst hcall
    exact malformedCall_arrow _
  · simp [DigestInjective]

/-- Two malformed texts at one reading of the clock: the second is reported as
quarantined, and is nowhere in the table. -/
theorem second_malformed_payload_dropped :
    DigestInjective exampleRouter [malformedCall "[", malformedCall "\x7b"] ∧
    ¬NothingDropped
      (routeAll exampleRouter exampleTable [malformedCall "[", malformedCall "\x7b"]
        (.init exampleTable)).1
      (routeAll exampleRouter exampleTable [malformedCall "[", malformedCall "\x7b"]
        (.init exampleTable)).2.table := by
  have hseed : exampleRouter.dedupSeed (malformedCall "\x7b").toRouteCall =
      exampleRouter.dedupSeed (malformedCall "[").toRouteCall := rfl
  constructor
  · simp [DigestInjective, hseed]
  intro h
  have harrow : ∀ call ∈ [malformedCall "[", malformedCall "\x7b"],
      exampleTable.arrow [exampleRouter.record call.toRouteCall] = .ok () := by
    intro call hcall
    obtain rfl | rfl : call = malformedCall "[" ∨ call = malformedCall "\x7b" := by
      simpa using hcall
    · exact malformedCall_arrow _
    · exact malformedCall_arrow _
  obtain ⟨hanswers, hcalls, -⟩ := recorded_routeAll (fun _ => rfl) recorded_init harrow
  have hcall : malformedCall "\x7b" ∈ [malformedCall "[", malformedCall "\x7b"] := by simp
  rw [← hcalls] at hcall
  obtain ⟨report, hreport, hsecond⟩ := List.mem_map.mp hcall
  have hencodable : Encodable (exampleRouter.dedupSeed report.call.toRouteCall) := by
    rw [hsecond]
    exact malformedCall_encodable _
  have hsuccess := ((hanswers report hreport).succeeded_iff _).mpr ⟨hencodable, rfl⟩
  obtain ⟨row, hrow, -, hevent⟩ := h.carried report hreport _ hsuccess
  have htable : (routeAll exampleRouter exampleTable [malformedCall "[", malformedCall "\x7b"]
      (.init exampleTable)).2.table.map QuarantineRecord.event =
        [(malformedCall "[").payload] := by decide +kernel
  have hfirst : row.event ∈ [(malformedCall "[").payload] := htable ▸ List.mem_map_of_mem hrow
  rw [hevent, hsecond, List.mem_singleton] at hfirst
  have hpayloads : (malformedCall "\x7b").payload ≠ (malformedCall "[").payload := by
    decide +kernel
  exact hpayloads hfirst

end IceStream.Quarantine
