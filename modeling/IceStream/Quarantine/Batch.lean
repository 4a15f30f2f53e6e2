import IceStream.Quarantine.Router
import IceStream.Quarantine.Routing
import Mathlib.Data.List.TakeWhile

/-!
# Routing a batch

`route_batch` decides about all its events before it writes any of them, and
then writes once. Beside it, the same events routed one by one.
-/

namespace IceStream.Quarantine
open Python

/-- `EVENT_IS_VALID` -/
def validResult : QuarantineRouteResult where
  quarantineRecord := none
  success := false
  skippedReason := some "EVENT_IS_VALID"

def duplicateResult (record : QuarantineRecord) : QuarantineRouteResult where
  quarantineRecord := some record
  success := true
  skippedReason := some "DUPLICATE_QUARANTINE_SKIPPED"

namespace QuarantineRouter

variable (router : QuarantineRouter) (port : TablePort QuarantineRecord)

/-- The loop over the events: what is to be written, and the results so far. -/
def collect (seen : List Text) :
    List RouteCall → Except Exc (List QuarantineRecord × List QuarantineRouteResult)
  | [] => .ok ([], [])
  | call :: calls =>
    if call.failedResults.isEmpty then do
      let (records, results) ← collect seen calls
      pure (records, validResult :: results)
    else if ¬Encodable (router.dedupSeed call) then .error unicodeEncodeError
    else do
      let record := router.record call
      let (records, results) ← collect seen calls
      if record.quarantineId ∈ seen then pure (records, duplicateResult record :: results)
      else pure (record :: records,
        { quarantineRecord := some record, success := false } :: results)

/-- `res.quarantine_record in records_to_write`: the record of a duplicate has an id that no
record to be written has. -/
def isAmong (records : List QuarantineRecord) (result : QuarantineRouteResult) : Bool :=
  result.quarantineRecord.any fun r => records.any fun r' => r'.quarantineId = r.quarantineId

/-- What the outcome of the write makes of a result. -/
def settle (records : List QuarantineRecord) (written : Bool) (result : QuarantineRouteResult) :
    QuarantineRouteResult :=
  if isAmong records result then
    if written then { result with success := true }
    else { result with success := false, error := some "Batch Iceberg write failure" }
  else result

def routeBatch (calls : List RouteCall) : RouterM (List QuarantineRouteResult) := do
  let seen ← Fallible.read RouterWorld.seenQuarantineIds
  match router.collect seen calls with
  | .error e => Fallible.raise e
  | .ok (records, results) =>
    if records.isEmpty then pure results
    else
      let (_, written) ← onWriter (writeBatch port records)
      if written then
        Fallible.update fun s => records.foldl RouterWorld.remembered s
      pure (results.map (settle records written))

/-- The events one after the other, up to the first that raises. -/
def routeEach : List RouteCall → RouterM (List QuarantineRouteResult)
  | [] => pure []
  | call :: calls => do
    let result ← router.routeInvalidEvent port call
    let results ← routeEach calls
    pure (result :: results)

end QuarantineRouter

/-! ## What a run takes in -/

/-- From `s` to `t` these records were written and counted, and their ids are seen. -/
structure Took (s : RouterWorld) (records : List QuarantineRecord) (t : RouterWorld) : Prop where
  table : t.table = s.table ++ records
  buffer : t.buffer = s.buffer
  seen : t.seenQuarantineIds =
    (records.map QuarantineRecord.quarantineId).reverse ++ s.seenQuarantineIds
  total : t.quarantineEventsTotal = s.quarantineEventsTotal + records.length
  byErrorCode : ∀ code, t.quarantineEventsByErrorCode code =
    s.quarantineEventsByErrorCode code + records.countP fun r => code = r.errorCode

section

variable {s t u : RouterWorld} {records records' : List QuarantineRecord}

theorem took_nil (s : RouterWorld) : Took s [] s := by
  refine ⟨(List.append_nil _).symm, rfl, rfl, rfl, ?_⟩
  intro code
  exact (Nat.add_zero _).symm

theorem Took.trans (h : Took s records t) (h' : Took t records' u) :
    Took s (records ++ records') u := by
  refine ⟨?_, h'.buffer.trans h.buffer, ?_, ?_, ?_⟩
  · rw [h'.table, h.table, List.append_assoc]
  · rw [h'.seen, h.seen, List.map_append, List.reverse_append, List.append_assoc]
  · rw [h'.total, h.total, List.length_append, Nat.add_assoc]
  · intro code
    rw [h'.byErrorCode, h.byErrorCode, List.countP_append, Nat.add_assoc]

theorem took_remembered {w : WriterWorld QuarantineRecord} {record : QuarantineRecord}
    (htable : w.table = s.table ++ [record]) (hbuffer : w.writer.buffer = s.buffer) :
    Took s [record] (RouterWorld.remembered { s with storage := w } record) := by
  refine ⟨htable, hbuffer, rfl, rfl, ?_⟩
  intro code
  by_cases hcode : code = record.errorCode <;> simp [RouterWorld.remembered, hcode]

/-- Remembering records one after the other. -/
theorem foldl_remembered (records : List QuarantineRecord) (s : RouterWorld) :
    (records.foldl RouterWorld.remembered s).storage = s.storage ∧
      (records.foldl RouterWorld.remembered s).seenQuarantineIds =
        (records.map QuarantineRecord.quarantineId).reverse ++ s.seenQuarantineIds ∧
      (records.foldl RouterWorld.remembered s).quarantineEventsTotal =
        s.quarantineEventsTotal + records.length ∧
      ∀ code, (records.foldl RouterWorld.remembered s).quarantineEventsByErrorCode code =
        s.quarantineEventsByErrorCode code + records.countP fun r => code = r.errorCode := by
  induction records generalizing s with
  | nil => exact ⟨rfl, rfl, rfl, fun _ => rfl⟩
  | cons record records ih =>
    obtain ⟨hstorage, hseen, htotal, hcode⟩ := ih (s.remembered record)
    refine ⟨hstorage, ?_, ?_, ?_⟩
    · rw [List.foldl_cons, hseen]
      simp
    · rw [List.foldl_cons, htotal, List.length_cons]
      change s.quarantineEventsTotal + 1 + records.length = _
      omega
    · intro code
      rw [List.foldl_cons, hcode, List.countP_cons]
      change s.quarantineEventsByErrorCode code + (if code = record.errorCode then 1 else 0) + _ = _
      by_cases hsame : code = record.errorCode
      · simp [hsame]
        omega
      · simp [hsame]

theorem took_foldl {w : WriterWorld QuarantineRecord} (records : List QuarantineRecord)
    (htable : w.table = s.table ++ records) (hbuffer : w.writer.buffer = s.buffer) :
    Took s records (records.foldl RouterWorld.remembered { s with storage := w }) := by
  obtain ⟨hstorage, hseen, htotal, hcode⟩ := foldl_remembered records { s with storage := w }
  refine ⟨?_, ?_, hseen, htotal, hcode⟩
  · rw [RouterWorld.table, hstorage]
    exact htable
  · rw [RouterWorld.buffer, hstorage]
    exact hbuffer

end

/-! ## What each way answers and writes -/

namespace QuarantineRouter

variable (router : QuarantineRouter)

/-- The call raises: its seed cannot be encoded. -/
def Refuses (call : RouteCall) : Prop :=
  call.failedResults ≠ [] ∧ ¬Encodable (router.dedupSeed call)

instance : DecidablePred router.Refuses := fun call =>
  decidable_of_iff (call.failedResults.isEmpty = false ∧ ¬Encodable (router.dedupSeed call)) (by
    rw [Refuses, List.isEmpty_eq_false_iff])

variable {router} in
theorem encodable_of_not_refuses {call : RouteCall} (h : ¬router.Refuses call)
    (hfailed : call.failedResults ≠ []) : Encodable (router.dedupSeed call) := by
  by_contra hseed
  exact h ⟨hfailed, hseed⟩

/-- The answer to a call that does not raise, when these ids have been seen. -/
def answer (seen : List Text) (call : RouteCall) : QuarantineRouteResult :=
  if router.IsNew seen call then
    { quarantineRecord := some (router.record call), success := true }
  else if call.failedResults.isEmpty then validResult
  else duplicateResult (router.record call)

/-- The answers to calls routed one after the other. -/
def answers (seen : List Text) : List RouteCall → List QuarantineRouteResult
  | [] => []
  | call :: calls =>
    router.answer seen call ::
      answers (if router.IsNew seen call then router.quarantineId call :: seen else seen) calls

/-- The records they write. -/
def writes (seen : List Text) : List RouteCall → List QuarantineRecord
  | [] => []
  | call :: calls =>
    if router.IsNew seen call then
      router.record call :: writes (router.quarantineId call :: seen) calls
    else writes seen calls

/-- The calls whose ids had not been seen when the batch began. -/
def newCalls (seen : List Text) (calls : List RouteCall) : List RouteCall :=
  calls.filter fun call => router.IsNew seen call

/-- Those before the first that raises. -/
def accepted (calls : List RouteCall) : List RouteCall :=
  calls.takeWhile fun call => !decide (router.Refuses call)

variable {router} {seen known : List Text} {call : RouteCall} {calls : List RouteCall}

theorem IsNew.mono (hsub : ∀ q ∈ seen, q ∈ known) (h : router.IsNew known call) :
    router.IsNew seen call :=
  ⟨h.1, h.2.1, fun hmem => h.2.2 (hsub _ hmem)⟩

theorem answer_of_isNew (h : router.IsNew seen call) : router.answer seen call =
    { quarantineRecord := some (router.record call), success := true } := if_pos h

/-- What is not new to the fewer ids is answered alike for the more. -/
theorem answer_congr (hsub : ∀ q ∈ seen, q ∈ known) (h : ¬router.IsNew seen call) :
    router.answer known call = router.answer seen call := by
  rw [answer, answer, if_neg h, if_neg fun hknown => h (hknown.mono hsub)]

theorem answer_ne_of_known (h : router.IsNew seen call) (hknown : router.quarantineId call ∈ known) :
    router.answer known call ≠ router.answer seen call := by
  have hempty : call.failedResults.isEmpty = false := List.isEmpty_eq_false_iff.mpr h.1
  rw [answer_of_isNew h, answer, if_neg fun hnew => hnew.2.2 hknown, hempty,
    if_neg Bool.false_ne_true]
  intro hsame
  cases congrArg QuarantineRouteResult.skippedReason hsame

theorem newCalls_cons_of_isNew (h : router.IsNew seen call) :
    router.newCalls seen (call :: calls) = call :: router.newCalls seen calls :=
  List.filter_cons_of_pos (decide_eq_true h)

theorem newCalls_cons_of_not_isNew (h : ¬router.IsNew seen call) :
    router.newCalls seen (call :: calls) = router.newCalls seen calls :=
  List.filter_cons_of_neg (by simpa using h)

/-- The ids are told apart from each other and from those in `known`. -/
def Apart (router : QuarantineRouter) (seen known : List Text) (calls : List RouteCall) : Prop :=
  ((router.newCalls seen calls).map router.quarantineId).Nodup ∧
    ∀ call ∈ router.newCalls seen calls, router.quarantineId call ∉ known

theorem apart_cons_of_isNew (h : router.IsNew seen call) :
    router.Apart seen known (call :: calls) ↔ router.quarantineId call ∉ known ∧
      router.Apart seen (router.quarantineId call :: known) calls := by
  rw [Apart, Apart, newCalls_cons_of_isNew h, List.map_cons, List.nodup_cons, List.forall_mem_cons]
  constructor
  · rintro ⟨⟨hself, hnodup⟩, hcall, hrest⟩
    refine ⟨hcall, hnodup, ?_⟩
    intro c hc
    rw [List.mem_cons, not_or]
    refine ⟨?_, hrest c hc⟩
    intro hsame
    exact hself (hsame ▸ List.mem_map_of_mem hc)
  · rintro ⟨hcall, hnodup, hrest⟩
    refine ⟨⟨?_, hnodup⟩, hcall, ?_⟩
    · intro hmem
      obtain ⟨c, hc, hsame⟩ := List.mem_map.mp hmem
      exact hrest c hc (hsame ▸ List.mem_cons_self)
    · intro c hc hknown
      exact hrest c hc (List.mem_cons_of_mem _ hknown)

theorem apart_cons_of_not_isNew (h : ¬router.IsNew seen call) :
    router.Apart seen known (call :: calls) ↔ router.Apart seen known calls := by
  rw [Apart, Apart, newCalls_cons_of_not_isNew h]

/-- Routing one by one answers like the batch exactly when the new ids are apart. -/
theorem answers_eq_iff (hsub : ∀ q ∈ seen, q ∈ known) :
    router.answers known calls = calls.map (router.answer seen) ↔
      router.Apart seen known calls := by
  induction calls generalizing known with
  | nil => exact iff_of_true rfl ⟨List.nodup_nil, fun _ hc => absurd hc List.not_mem_nil⟩
  | cons call calls ih =>
    rw [answers, List.map_cons, List.cons_eq_cons]
    by_cases hnew : router.IsNew seen call
    · rw [apart_cons_of_isNew hnew]
      by_cases hknown : router.quarantineId call ∈ known
      · refine iff_of_false ?_ fun h => h.1 hknown
        exact fun h => answer_ne_of_known hnew hknown h.1
      · have hnew' : router.IsNew known call := ⟨hnew.1, hnew.2.1, hknown⟩
        rw [answer_of_isNew hnew', answer_of_isNew hnew, if_pos hnew',
          ih fun q hq => List.mem_cons_of_mem _ (hsub q hq)]
        exact and_congr_left' (iff_of_true rfl hknown)
    · rw [apart_cons_of_not_isNew hnew, answer_congr hsub hnew,
        if_neg fun hknown => hnew (hknown.mono hsub), ih hsub]
      exact and_iff_right rfl

theorem writes_of_apart (hsub : ∀ q ∈ seen, q ∈ known) (h : router.Apart seen known calls) :
    router.writes known calls = (router.newCalls seen calls).map router.record := by
  induction calls generalizing known with
  | nil => rfl
  | cons call calls ih =>
    by_cases hnew : router.IsNew seen call
    · obtain ⟨hknown, hrest⟩ := (apart_cons_of_isNew hnew).mp h
      have hnew' : router.IsNew known call := ⟨hnew.1, hnew.2.1, hknown⟩
      rw [writes, if_pos hnew', ih (fun q hq => List.mem_cons_of_mem _ (hsub q hq)) hrest,
        newCalls_cons_of_isNew hnew, List.map_cons]
    · rw [writes, if_neg fun hknown => hnew (hknown.mono hsub),
        ih hsub ((apart_cons_of_not_isNew hnew).mp h), newCalls_cons_of_not_isNew hnew]

theorem writes_eq_nil_iff :
    router.writes seen calls = [] ↔ router.newCalls seen calls = [] := by
  induction calls with
  | nil => exact iff_of_true rfl rfl
  | cons call calls ih =>
    by_cases hnew : router.IsNew seen call
    · rw [writes, if_pos hnew, newCalls_cons_of_isNew hnew]
      exact iff_of_false (List.cons_ne_nil _ _) (List.cons_ne_nil _ _)
    · rw [writes, if_neg hnew, newCalls_cons_of_not_isNew hnew]
      exact ih

end QuarantineRouter

/-! ## Runs whose writes succeed -/

/-- Every attempt goes through, and the conversion takes the records of these calls. -/
structure WritesSucceed (router : QuarantineRouter) (port : TablePort QuarantineRecord)
    (calls : List RouteCall) : Prop where
  attempt : ∀ n, port.attempt n = true
  arrow : ∀ records, (∀ r ∈ records, ∃ call ∈ calls, r = router.record call) →
    port.arrow records = .ok ()

section

variable {router : QuarantineRouter} {port : TablePort QuarantineRecord} {s : RouterWorld}
  {call : RouteCall} {calls : List RouteCall}

theorem WritesSucceed.tail (h : WritesSucceed router port (call :: calls)) :
    WritesSucceed router port calls := by
  refine ⟨h.attempt, ?_⟩
  intro records hrecords
  apply h.arrow
  intro r hr
  obtain ⟨c, hc, hrecord⟩ := hrecords r hr
  exact ⟨c, List.mem_cons_of_mem _ hc, hrecord⟩

/-- One call on an empty buffer. -/
theorem route_takes (hbuffer : s.buffer = []) (hwrites : WritesSucceed router port (call :: calls))
    (haccepted : ¬router.Refuses call) :
    ∃ t, router.routeInvalidEvent port call s = (.ok (router.answer s.seenQuarantineIds call), t) ∧
      Took s (if router.IsNew s.seenQuarantineIds call then [router.record call] else []) t ∧
      t.seenQuarantineIds = if router.IsNew s.seenQuarantineIds call then
        router.quarantineId call :: s.seenQuarantineIds else s.seenQuarantineIds := by
  by_cases hnew : router.IsNew s.seenQuarantineIds call
  · have hbatch : s.buffer ++ [router.record call] = [router.record call] := by
      rw [hbuffer, List.nil_append]
    have hout : GoesOut port (s.buffer ++ [router.record call]) s.storage.attempts := by
      refine ⟨?_, 0, by decide, hwrites.attempt _⟩
      rw [hbatch]
      apply hwrites.arrow
      intro r hr
      exact ⟨call, List.mem_cons_self, List.mem_singleton.mp hr⟩
    obtain ⟨w, hroute, htable, hempty⟩ := route_of_goesOut port s hnew hout
    refine ⟨RouterWorld.remembered { s with storage := w } (router.record call), ?_, ?_, ?_⟩
    · rw [hroute, QuarantineRouter.answer_of_isNew hnew]
    · rw [if_pos hnew]
      rw [hbatch] at htable
      exact took_remembered htable (hempty.trans hbuffer.symm)
    · rw [if_pos hnew]
      rfl
  · refine ⟨s, ?_, ?_, (if_neg hnew).symm⟩
    · by_cases hvalid : call.failedResults = []
      · rw [route_of_valid port s hvalid, QuarantineRouter.answer, if_neg hnew, hvalid]
        rfl
      · have hseed := QuarantineRouter.encodable_of_not_refuses haccepted hvalid
        have hseen : router.quarantineId call ∈ s.seenQuarantineIds := by
          by_contra hseen
          exact hnew ⟨hvalid, hseed, hseen⟩
        have hempty : call.failedResults.isEmpty = false := List.isEmpty_eq_false_iff.mpr hvalid
        rw [route_of_seen port s hvalid hseed hseen, QuarantineRouter.answer, if_neg hnew, hempty]
        rfl
    · rw [if_neg hnew]
      exact took_nil s

/-- The calls one after the other. -/
theorem routeEach_takes (hbuffer : s.buffer = []) (hwrites : WritesSucceed router port calls) :
    ∃ t, (router.routeEach port calls s).2 = t ∧
      Took s (router.writes s.seenQuarantineIds (router.accepted calls)) t ∧
      ((∀ call ∈ calls, ¬router.Refuses call) →
        (router.routeEach port calls s).1 = .ok (router.answers s.seenQuarantineIds calls)) ∧
      ((∃ call ∈ calls, router.Refuses call) →
        (router.routeEach port calls s).1 = .error unicodeEncodeError) := by
  induction calls generalizing s with
  | nil =>
    refine ⟨s, rfl, took_nil s, fun _ => rfl, ?_⟩
    rintro ⟨call, hcall, -⟩
    cases hcall
  | cons call calls ih =>
    by_cases hrefuses : router.Refuses call
    · have hroute := route_of_unencodable port s hrefuses.1 hrefuses.2
      have heach : router.routeEach port (call :: calls) s = (.error unicodeEncodeError, s) := by
        rw [QuarantineRouter.routeEach, Fallible.bind_error hroute]
      refine ⟨s, ?_, ?_, ?_, ?_⟩
      · rw [heach]
      · rw [QuarantineRouter.accepted, List.takeWhile_cons_of_neg (by simpa using hrefuses)]
        exact took_nil s
      · intro hall
        exact absurd hrefuses (hall call List.mem_cons_self)
      · intro _
        rw [heach]
    · obtain ⟨t, hroute, htook, hseen⟩ := route_takes hbuffer hwrites hrefuses
      obtain ⟨u, hstate, hrest, hok, herror⟩ := ih (htook.buffer.trans hbuffer) hwrites.tail
      have heach : router.routeEach port (call :: calls) s = (router.routeEach port calls >>=
          fun results => pure (router.answer s.seenQuarantineIds call :: results)) t := by
        rw [QuarantineRouter.routeEach, Fallible.bind_ok hroute]
      have haccepted : router.accepted (call :: calls) = call :: router.accepted calls :=
        List.takeWhile_cons_of_pos (by simpa using hrefuses)
      have hwritten : router.writes s.seenQuarantineIds (router.accepted (call :: calls)) =
          (if router.IsNew s.seenQuarantineIds call then [router.record call] else []) ++
            router.writes t.seenQuarantineIds (router.accepted calls) := by
        rw [haccepted, QuarantineRouter.writes, hseen]
        split <;> rfl
      rw [heach, hwritten]
      rcases hrun : router.routeEach port calls t with ⟨e | results, u'⟩
      · rw [hrun] at hstate hok herror
        rw [Fallible.bind_error hrun]
        refine ⟨u, hstate, htook.trans hrest, ?_, ?_⟩
        · intro hall
          cases hok fun c hc => hall c (List.mem_cons_of_mem _ hc)
        · rintro ⟨c, hc, hcrefuses⟩
          obtain rfl | hc := List.mem_cons.mp hc
          · exact absurd hcrefuses hrefuses
          · exact herror ⟨c, hc, hcrefuses⟩
      · rw [hrun] at hstate hok herror
        rw [Fallible.bind_ok hrun]
        refine ⟨u, hstate, htook.trans hrest, ?_, ?_⟩
        · intro hall
          have hresults := Except.ok.inj (hok fun c hc => hall c (List.mem_cons_of_mem _ hc))
          rw [QuarantineRouter.answers, ← hseen, ← hresults]
          rfl
        · rintro ⟨c, hc, hcrefuses⟩
          obtain rfl | hc := List.mem_cons.mp hc
          · exact absurd hcrefuses hrefuses
          · cases herror ⟨c, hc, hcrefuses⟩

/-! ## The batch -/

/-- What the loop has for a call before anything is written. -/
def placed (router : QuarantineRouter) (seen : List Text) (call : RouteCall) :
    QuarantineRouteResult :=
  { router.answer seen call with
    success := (router.answer seen call).success && !decide (router.IsNew seen call) }

theorem collect_of_valid {seen : List Text} (h : call.failedResults = []) :
    router.collect seen (call :: calls) = (do
      let (records, results) ← router.collect seen calls
      pure (records, validResult :: results)) := by
  have hempty : call.failedResults.isEmpty = true := List.isEmpty_iff.mpr h
  rw [QuarantineRouter.collect, if_pos hempty]

theorem collect_of_refuses {seen : List Text} (h : router.Refuses call) :
    router.collect seen (call :: calls) = .error unicodeEncodeError := by
  have hempty : ¬call.failedResults.isEmpty = true := by
    rw [List.isEmpty_iff]
    exact h.1
  rw [QuarantineRouter.collect, if_neg hempty, if_pos h.2]

theorem collect_of_invalid {seen : List Text} (h : call.failedResults ≠ [])
    (hseed : Encodable (router.dedupSeed call)) :
    router.collect seen (call :: calls) = (do
      let (records, results) ← router.collect seen calls
      if router.quarantineId call ∈ seen then
        pure (records, duplicateResult (router.record call) :: results)
      else pure (router.record call :: records,
        { quarantineRecord := some (router.record call), success := false } :: results)) := by
  have hempty : ¬call.failedResults.isEmpty = true := by
    rw [List.isEmpty_iff]
    exact h
  rw [QuarantineRouter.collect, if_neg hempty, if_neg (not_not_intro hseed)]
  rfl

theorem collect_of_accepted {seen : List Text} (h : ∀ call ∈ calls, ¬router.Refuses call) :
    router.collect seen calls = .ok ((router.newCalls seen calls).map router.record,
      calls.map (placed router seen)) := by
  induction calls with
  | nil => rfl
  | cons call calls ih =>
    have hrest := ih fun c hc => h c (List.mem_cons_of_mem _ hc)
    by_cases hvalid : call.failedResults = []
    · have hold : ¬router.IsNew seen call := fun hnew => hnew.1 hvalid
      rw [collect_of_valid hvalid, hrest, QuarantineRouter.newCalls_cons_of_not_isNew hold,
        List.map_cons, placed, QuarantineRouter.answer, if_neg hold, hvalid]
      rfl
    · have hseed := QuarantineRouter.encodable_of_not_refuses (h call List.mem_cons_self) hvalid
      have hempty : call.failedResults.isEmpty = false := List.isEmpty_eq_false_iff.mpr hvalid
      rw [collect_of_invalid hvalid hseed, hrest]
      by_cases hseen : router.quarantineId call ∈ seen
      · have hold : ¬router.IsNew seen call := fun hnew => hnew.2.2 hseen
        rw [QuarantineRouter.newCalls_cons_of_not_isNew hold, List.map_cons, placed,
          QuarantineRouter.answer, if_neg hold, hempty, decide_eq_false hold]
        simp only [Except.bind, bind, if_pos hseen]
        rfl
      · have hnew : router.IsNew seen call := ⟨hvalid, hseed, hseen⟩
        rw [QuarantineRouter.newCalls_cons_of_isNew hnew, List.map_cons, List.map_cons, placed,
          QuarantineRouter.answer_of_isNew hnew, decide_eq_true hnew]
        simp only [Except.bind, bind, if_neg hseen]
        rfl

theorem collect_of_refused {seen : List Text} (h : ∃ call ∈ calls, router.Refuses call) :
    router.collect seen calls = .error unicodeEncodeError := by
  induction calls with
  | nil =>
    obtain ⟨call, hcall, -⟩ := h
    cases hcall
  | cons call calls ih =>
    by_cases hrefuses : router.Refuses call
    · exact collect_of_refuses hrefuses
    · have hrest : router.collect seen calls = .error unicodeEncodeError := by
        apply ih
        obtain ⟨c, hc, hcrefuses⟩ := h
        obtain rfl | hc := List.mem_cons.mp hc
        · exact absurd hcrefuses hrefuses
        · exact ⟨c, hc, hcrefuses⟩
      by_cases hvalid : call.failedResults = []
      · rw [collect_of_valid hvalid, hrest]
        rfl
      · have hseed := QuarantineRouter.encodable_of_not_refuses hrefuses hvalid
        rw [collect_of_invalid hvalid hseed, hrest]
        rfl

theorem not_mem_seen_of_new {seen : List Text} {r : QuarantineRecord}
    (hr : r ∈ (router.newCalls seen calls).map router.record) : r.quarantineId ∉ seen := by
  obtain ⟨c, hc, rfl⟩ := List.mem_map.mp hr
  have hnew : router.IsNew seen c := of_decide_eq_true (List.mem_filter.mp hc).2
  exact hnew.2.2

/-- The write makes the answer out of what the loop had. -/
theorem settle_placed {seen : List Text} (hcall : call ∈ calls) (h : ¬router.Refuses call) :
    QuarantineRouter.settle ((router.newCalls seen calls).map router.record) true
      (placed router seen call) = router.answer seen call := by
  let records := (router.newCalls seen calls).map router.record
  by_cases hnew : router.IsNew seen call
  · have hanswer := QuarantineRouter.answer_of_isNew hnew
    have hmem : router.record call ∈ records := by
      apply List.mem_map_of_mem
      exact List.mem_filter.mpr ⟨hcall, decide_eq_true hnew⟩
    have hamong : QuarantineRouter.isAmong records (placed router seen call) = true := by
      rw [QuarantineRouter.isAmong, placed, hanswer]
      exact List.any_eq_true.mpr ⟨_, hmem, decide_eq_true rfl⟩
    rw [QuarantineRouter.settle, if_pos hamong, placed, hanswer]
    rfl
  · have hplaced : placed router seen call = router.answer seen call := by
      rw [placed, decide_eq_false hnew]
      simp
    -- no record to be written has the id of a duplicate
    have hamong : QuarantineRouter.isAmong records (router.answer seen call) = false := by
      rw [QuarantineRouter.isAmong, QuarantineRouter.answer, if_neg hnew]
      by_cases hvalid : call.failedResults = []
      · rw [hvalid]
        rfl
      · have hseed := QuarantineRouter.encodable_of_not_refuses h hvalid
        have hseen : router.quarantineId call ∈ seen := by
          by_contra hseen
          exact hnew ⟨hvalid, hseed, hseen⟩
        rw [List.isEmpty_eq_false_iff.mpr hvalid]
        apply List.any_eq_false.mpr
        intro r hr hsame
        have hid : r.quarantineId = router.quarantineId call := of_decide_eq_true hsame
        exact not_mem_seen_of_new hr (hid ▸ hseen)
    rw [hplaced, QuarantineRouter.settle, if_neg (Bool.eq_false_iff.mp hamong)]

theorem routeBatch_of_accepted (hwrites : WritesSucceed router port calls)
    (h : ∀ call ∈ calls, ¬router.Refuses call) :
    ∃ t, router.routeBatch port calls s =
        (.ok (calls.map (router.answer s.seenQuarantineIds)), t) ∧
      Took s ((router.newCalls s.seenQuarantineIds calls).map router.record) t := by
  rw [QuarantineRouter.routeBatch, Fallible.read_bind, collect_of_accepted h]
  let records := (router.newCalls s.seenQuarantineIds calls).map router.record
  have hsettled : (calls.map (placed router s.seenQuarantineIds)).map
      (QuarantineRouter.settle records true) = calls.map (router.answer s.seenQuarantineIds) := by
    rw [List.map_map]
    apply List.map_congr_left
    intro call hcall
    exact settle_placed hcall (h call hcall)
  by_cases hempty : records = []
  · refine ⟨s, ?_, ?_⟩
    · have hresults : calls.map (placed router s.seenQuarantineIds) =
          calls.map (router.answer s.seenQuarantineIds) := by
        rw [← hsettled, hempty, List.map_map]
        apply List.map_congr_left
        intro call _
        have hamong : ∀ result, ¬QuarantineRouter.isAmong [] result = true := by
          intro result
          simp [QuarantineRouter.isAmong]
        exact (if_neg (hamong _)).symm
      rw [← hresults]
      change (if records.isEmpty then _ else _ : RouterM _) s = _
      rw [hempty]
      rfl
    · change Took s records s
      rw [hempty]
      exact took_nil s
  · have hnot : ¬records.isEmpty = true := by
      rw [List.isEmpty_iff]
      exact hempty
    have harrow : port.arrow records = .ok () := by
      apply hwrites.arrow
      intro r hr
      obtain ⟨c, hc, rfl⟩ := List.mem_map.mp hr
      exact ⟨c, List.mem_of_mem_filter hc, rfl⟩
    let w : WriterWorld QuarantineRecord :=
      { s.storage with
        table := s.storage.table ++ records
        writer := s.storage.writer.appended
        attempts := s.storage.attempts + 1 }
    have hwrite : onWriter (writeBatch port records) s =
        (.ok (records.length, true), { s with storage := w }) := by
      rw [onWriter, writeBatch_of_arrow_ok port hempty harrow]
      have happend : appendWithRetries port records maxRetries s.storage =
          (.ok (records.length, true), w) :=
        appendWithRetries_of_attempt port 4 (hwrites.attempt _)
      rw [happend]
    refine ⟨records.foldl RouterWorld.remembered { s with storage := w }, ?_, took_foldl records rfl rfl⟩
    rw [← hsettled]
    change (if records.isEmpty then _ else _ : RouterM _) s = _
    rw [if_neg hnot, Fallible.bind_ok hwrite]
    rfl

theorem routeBatch_of_refused (h : ∃ call ∈ calls, router.Refuses call) :
    router.routeBatch port calls s = (.error unicodeEncodeError, s) := by
  rw [QuarantineRouter.routeBatch, Fallible.read_bind, collect_of_refused h]
  rfl

end

/-! ## The batch and the calls one by one -/

/-- The same answers, the same rows in some order, the same ids seen and the same counts. -/
structure SameOutcome (x y : Except Exc (List QuarantineRouteResult) × RouterWorld) : Prop where
  results : x.1 = y.1
  table : x.2.table.Perm y.2.table
  seen : ∀ q, q ∈ x.2.seenQuarantineIds ↔ q ∈ y.2.seenQuarantineIds
  total : x.2.quarantineEventsTotal = y.2.quarantineEventsTotal
  byErrorCode : x.2.quarantineEventsByErrorCode = y.2.quarantineEventsByErrorCode

/-- No two calls bring in the same new id; and where one raises, none before it brings in any. -/
def Separable (router : QuarantineRouter) (seen : List Text) (calls : List RouteCall) : Prop :=
  if ∀ call ∈ calls, ¬router.Refuses call then
    ((router.newCalls seen calls).map router.quarantineId).Nodup
  else router.newCalls seen (router.accepted calls) = []

section

variable {router : QuarantineRouter} {port : TablePort QuarantineRecord} {s t u : RouterWorld}
  {calls : List RouteCall}

theorem Took.sameOutcome {records : List QuarantineRecord}
    {answer : Except Exc (List QuarantineRouteResult)} (ht : Took s records t)
    (hu : Took s records u) : SameOutcome (answer, t) (answer, u) := by
  refine ⟨rfl, ?_, ?_, ht.total.trans hu.total.symm, ?_⟩
  · exact List.Perm.of_eq (ht.table.trans hu.table.symm)
  · intro q
    exact Eq.to_iff (congrArg (q ∈ ·) (ht.seen.trans hu.seen.symm))
  · funext code
    exact (ht.byErrorCode code).trans (hu.byErrorCode code).symm

theorem accepted_of_accepting (h : ∀ call ∈ calls, ¬router.Refuses call) :
    router.accepted calls = calls := by
  apply List.takeWhile_eq_self_iff.mpr
  intro call hcall
  simpa using h call hcall

end

/-! ### Two events and one event twice -/

theorem writesSucceed_of_convertible {calls : List RouteCall}
    (h : ∀ call ∈ calls, (exampleRouter.record call).Convertible) :
    WritesSucceed exampleRouter exampleTable calls := by
  refine ⟨fun _ => rfl, ?_⟩
  intro records hrecords
  rw [exampleTable_checksColumns]
  intro r hr
  obtain ⟨call, hcall, rfl⟩ := hrecords r hr
  exact h call hcall

end IceStream.Quarantine
