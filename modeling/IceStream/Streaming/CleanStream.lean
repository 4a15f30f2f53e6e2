import IceStream.Generator.CleanEvents
import IceStream.Streaming.Unseen

/-!
# A clean stream

The consumer accepts every event of a generator that injects no faults, as long as no event id
and no order id comes twice. Nothing is quarantined, and the breaker is only looked at.
-/

namespace IceStream.Streaming
open Python Schema Metrics Quarantine QualityEngine Remediation Generator

/-! ## One message -/

/-- A clean event on its way: when it was generated, and the readings with which the validator
takes it. The time of ingestion is not half a minute behind that of the event. -/
structure CleanMessage where
  customers : ℕ
  generatedAt : Instant
  payload : Dict
  readings : StreamReadings
  ingestedAt : DateTime
  isInstant : IsInstant generatedAt
  generated : ∃ rnd rnd' : Python.Random ℚ,
    generateValidEvent (customerPool customers) generatedAt rnd = (.ok payload, rnd')
  ingestion : readings.ingestionTime = text ingestedAt.isoformat
  utc : ingestedAt.offset = some 0
  punctual : Punctual ingestedAt.wall (wholeMillis generatedAt)

namespace CleanMessage

variable (m : CleanMessage)

/-- The bytes that the producer sends. -/
def bytes : Bytes := dumpsUtf8 (.obj m.payload)

/-- The id that a detector looks up. -/
def idOf (kind : DuplicateKind) : Json := given m.payload kind.field

theorem exists_clean : ∃ e : CheckoutEvent, m.payload = e.toDict ∧
    e.Clean (customerPool m.customers) m.generatedAt := by
  obtain ⟨rnd, rnd', hrun⟩ := m.generated
  exact generateValidEvent_clean rnd m.payload rnd' hrun

theorem customer_shown : ∀ c ∈ customerPool m.customers, ∃ n, c = text "CUS" ++ padded 6 n :=
  fun _ hc => shown_of_mem_customerPool hc

theorem decoded {limit : ℕ} (hlimit : 1 ≤ limit) :
    decode limit (.bytes m.bytes) = .ok (.obj m.payload) := by
  obtain ⟨e, he, hclean⟩ := m.exists_clean
  have hreadable : Readable 1 (.obj m.payload) := he ▸ hclean.readable m.customer_shown
  rw [decode, bytes, loads_dumpsUtf8 hreadable hlimit]

/-- The time of ingestion is read by the rule and by the detectors. -/
theorem isIngestedAt (platform : Platform) : IngestedAt platform m.readings m.ingestedAt.wall := by
  constructor
  case timestamp =>
    rw [m.ingestion]
    exact ⟨_, m.ingestedAt, rfl, (readTimestamp_isoformat m.utc).2⟩
  case read =>
    rw [m.ingestion]
    exact parseIsoTimestamp_isoformat platform m.utc

/-- The event as the engine gets it. -/
def ingested : Dict := withIngestionTime m.readings m.payload

theorem given_ingested {f : QualityField} (hf : f ≠ .ingestionTime) :
    given m.ingested f = given m.payload f := given_withIngestionTime hf

/-- A detector looks up the id that the payload has. -/
theorem idOf_event {platform : Platform} {event : QualityEvent} {kind : DuplicateKind} {id : Text}
    (hevent : QualityEvent.fromDict platform.unicode m.ingested = .ok event)
    (hid : kind.idOf platform.unicode event = some id) : m.idOf kind = .str id := by
  obtain ⟨e, he, -⟩ := m.exists_clean
  have hvalue : event.value kind.field = given m.payload kind.field := by
    cases kind with
    | events =>
      rw [QualityEvent.value_of_fromDict _ hevent (by decide)]
      exact m.given_ingested (by decide)
    | orders =>
      rw [QualityEvent.value_of_fromDict _ hevent (by decide)]
      exact m.given_ingested (by decide)
  obtain ⟨-, hshown⟩ := DuplicateKind.populated_of_idOf hid
  rw [hvalue, he, e.given_toDict] at hshown
  rw [idOf, he, e.given_toDict, ← hshown]
  cases kind <;> rfl

/-- None of the ids of the message is kept. -/
def New (v : RuleWorld) : Prop :=
  ∀ kind : DuplicateKind, ∀ p ∈ kind.seen.get v, m.idOf kind ≠ .str p.1

/-- The engine finds a clean event valid, and remembers its ids. -/
theorem validated {platform : Platform} {w : EngineWorld} (hschemas : w.1.schemas = .loaded)
    (hstarted : Started w.1) (hnew : m.New w.1) :
    ∃ summary v' c, (collectingEngine platform (defaultRules platform)).validateWithSummary
        platform.unicode (.obj m.ingested) w = (.ok summary, (v', c)) ∧ summary.isValid = true ∧
      v'.clock = w.1.clock ∧ v'.schemas = .loaded ∧
      ∀ kind : DuplicateKind, ∀ p ∈ kind.seen.get v',
        p ∈ kind.seen.get w.1 ∨ m.idOf kind = .str p.1 := by
  obtain ⟨e, he, hclean⟩ := m.exists_clean
  have hpassable : Passable platform m.payload :=
    he ▸ hclean.passable m.isInstant m.customer_shown platform
  have habsent : m.payload.get? (text "ingestion_time") = none := by
    rw [he]
    rfl
  have htime : parseIsoTimestamp platform (given m.payload .eventTime) =
      .ok (some (wholeMillis m.generatedAt)) := by
    rw [he, e.given_toDict, CheckoutEvent.valueOf, hclean.eventTime]
    exact parseIsoTimestamp_shownTime platform m.isInstant
  have hbaseline : NamesBaseline platform.unicode m.ingested := by
    rw [NamesBaseline, m.given_ingested (by decide), he]
    exact hclean.namesBaseline platform.unicode
  have hunseen : ∀ event, QualityEvent.fromDict platform.unicode m.ingested = .ok event →
      NamesSchema platform event ∧ Unseen platform.unicode event w.1 := by
    intro event hevent
    refine ⟨namesSchema_baseline (providedVersion_of_namesBaseline hbaseline hevent), ?_⟩
    intro kind p hp hid
    exact hnew kind p hp (m.idOf_event hevent hid)
  obtain ⟨event, summary, v', c, hevent, hvalidate, hvalid, hasked⟩ :=
    validated_of_passable hpassable habsent (populated_of_parsed (m.isIngestedAt platform).read)
      (m.isIngestedAt platform) htime m.punctual hschemas hstarted hunseen
  refine ⟨summary, v', c, hvalidate, hvalid, hasked.clock, hasked.schemas.trans hschemas, ?_⟩
  intro kind p hp
  obtain hbefore | hid := hasked.seen kind p hp
  · exact .inl hbefore
  · exact .inr (m.idOf_event hevent hid)

end CleanMessage

/-- What a call does that accepts an event: the outcome is recorded, and the breaker looked at. -/
structure Accepted (v : StreamQualityValidator EngineWorld) (readings : StreamReadings)
    (s t : StreamWorld EngineWorld) : Prop where
  metrics : t.metrics = metricsAfter v readings true s.metrics
  quarantine : t.quarantine = s.quarantine
  spawned : t.spawned = s.spawned
  control : t.control = { s.control with
    outside := t.control.outside
    circuit := s.control.circuit.currentState readings.breaker }

theorem validateDict_accepts {v : StreamQualityValidator EngineWorld} {readings : StreamReadings}
    {d : Dict} {eventId : Json} {s : StreamWorld EngineWorld} {summary : ValidationSummary}
    {w' : EngineWorld}
    (h : v.qualityEngine.validateWithSummary v.unicode (.obj d) s.control.outside =
      (.ok summary, w')) (hvalid : summary.isValid = true) :
    ∃ outcome t, validateDict v readings (some d) eventId s = (.ok outcome, t) ∧
      outcome.isValid = true ∧ t.control.outside = w' ∧ Accepted v readings s t := by
  let s₁ : StreamWorld EngineWorld := { s with
    metrics := recordedMetrics readings true s.metrics
    control := { s.control with
      outside := w'
      circuit := s.control.circuit.currentState readings.breaker } }
  have hlocal : s₁.metrics.localEventsRecorded ≠ 0 := recordedMetrics_local readings true s.metrics
  have hrun : validateDict v readings (some d) eventId s =
      (calculate v readings >>= fun currentMetrics => pure {
        eventId := eventId
        isValid := true
        summary := summary
        circuitState := s₁.circuit.state
        errorRate := currentMetrics.errorRate }) s₁ := by
    have hengine : Fallible.attempt (StreamWorld.onControl (World.onOutside
        (v.qualityEngine.validateWithSummary v.unicode (rawValue (some d))))) s =
          (.ok (.ok summary), { s with control := { s.control with outside := w' } }) := by
      rw [Fallible.attempt_apply, StreamWorld.onControl, World.onOutside, rawValue, h]
    rw [validateDict, Fallible.bind_ok hengine]
    dsimp only
    rw [hvalid]
    rfl
  rw [hrun, Fallible.bind_ok (calculate_ok v readings hlocal)]
  exact ⟨_, _, rfl, rfl, rfl, rfl, rfl, rfl, rfl⟩

/-! ## A run -/

/-- The messages to come have ids of their own, and none that is kept. -/
structure Ready (s : StreamWorld EngineWorld) (messages : List CleanMessage) : Prop where
  schemas : s.control.outside.1.schemas = .loaded
  started : Started s.control.outside.1
  new : ∀ m ∈ messages, m.New s.control.outside.1
  distinct : messages.Pairwise fun m m' => ∀ kind : DuplicateKind, m.idOf kind ≠ m'.idOf kind

/-- What the poll of a clean stream returns. -/
inductive CleanPoll
  | nothing
  | kafkaError (code : ℤ)
  | message (m : CleanMessage)

def CleanPoll.poll : CleanPoll → Poll
  | nothing => .nothing
  | kafkaError code => .kafkaError code
  | message m => .message (.bytes m.bytes) m.readings

def CleanPoll.message? : CleanPoll → Option CleanMessage
  | message m => some m
  | _ => none

/-- The messages up to the limit. -/
def taken {α : Type} : Option ℕ → List α → List α
  | none, xs => xs
  | some limit, xs => xs.take limit

/-- The run has recorded valid outcomes and looked at the breaker, and done nothing else outside
of the engine. -/
structure Undisturbed (v : StreamQualityValidator EngineWorld) (messages : List CleanMessage)
    (s t : StreamWorld EngineWorld) : Prop where
  metrics : t.metrics = messages.foldl (fun e m => metricsAfter v m.readings true e) s.metrics
  quarantine : t.quarantine = s.quarantine
  spawned : t.spawned = s.spawned
  control : t.control = { s.control with
    outside := t.control.outside
    circuit := messages.foldl (fun c m => c.currentState m.readings.breaker) s.control.circuit }

section

variable {platform : Platform} {v : StreamQualityValidator EngineWorld}
  {s t u : StreamWorld EngineWorld} {m : CleanMessage} {messages : List CleanMessage}

/-- A clean message is accepted, and the next ones find the stream ready for them. -/
theorem validateEvent_clean (hv : Default platform v) (h : Ready s (m :: messages)) :
    ∃ outcome t, validateEvent v m.readings (.bytes m.bytes) s = (.ok outcome, t) ∧
      outcome.isValid = true ∧ Accepted v m.readings s t ∧ Ready t messages := by
  obtain ⟨hfirst, hrest⟩ := List.pairwise_cons.mp h.distinct
  obtain ⟨summary, w', c, hengine, hvalid, hclock, hschemas, hseen⟩ :=
    @CleanMessage.validated m platform _ h.schemas h.started (h.new m List.mem_cons_self)
  rw [← hv.engine, ← hv.unicode] at hengine
  obtain ⟨outcome, t, hrun, hisValid, houtside, haccepted⟩ :=
    @validateDict_accepts v m.readings _ (Dict.getD m.payload (text "event_id") .null) _ _ _ hengine
      hvalid
  refine ⟨outcome, t, ?_, hisValid, haccepted, ?_⟩
  · rw [validateEvent, m.decoded hv.nesting]
    exact hrun
  · constructor
    case schemas => rw [houtside, hschemas]
    case started =>
      intro n
      rw [houtside, hclock]
      exact h.started n
    case new =>
      intro m' hm' kind p hp
      rw [houtside] at hp
      obtain hbefore | hid := hseen kind p hp
      · exact h.new m' (List.mem_cons_of_mem m hm') kind p hbefore
      · rw [← hid]
        exact (hfirst m' hm' kind).symm
    case distinct => exact hrest

/-- Where nothing waits to be written, a flush does nothing. -/
theorem flushQuarantine_of_empty (h : s.quarantine.storage.writer.buffer = []) :
    flushQuarantine v s = (.ok (), s) := by
  have hflush : flush v.table s.quarantine.storage = (.ok (0, true), s.quarantine.storage) := by
    rw [flush, Fallible.read_bind, h]
    rfl
  have hstep : (StreamWorld.onQuarantine (QuarantineRouter.flushWriter v.table) :
      StreamM EngineWorld (ℕ × Bool)) s = (.ok (0, true), s) := by
    rw [StreamWorld.onQuarantine, QuarantineRouter.flushWriter, onWriter, hflush]
  rw [flushQuarantine, Fallible.bind_ok hstep]
  rfl

theorem Undisturbed.cons (hfirst : Accepted v m.readings s t) (hrest : Undisturbed v messages t u) :
    Undisturbed v (m :: messages) s u := by
  constructor
  case metrics => rw [hrest.metrics, hfirst.metrics, List.foldl_cons]
  case quarantine => exact hrest.quarantine.trans hfirst.quarantine
  case spawned => exact hrest.spawned.trans hfirst.spawned
  case control =>
    rw [hrest.control, hfirst.control, List.foldl_cons]

theorem undisturbed_nil (v : StreamQualityValidator EngineWorld) (s : StreamWorld EngineWorld) :
    Undisturbed v [] s s := ⟨rfl, rfl, rfl, rfl⟩

/-- The limit leaves nothing to take once it is reached. -/
theorem taken_none_left {α : Type} {maxMessages : Option ℕ} {processed : ℕ} (xs : List α)
    (h : maxMessages.any (· ≤ processed) = true) :
    taken (maxMessages.map (· - processed)) xs = [] := by
  cases maxMessages with
  | none => cases h
  | some limit =>
    have hle : limit ≤ processed := of_decide_eq_true h
    change xs.take (limit - processed) = []
    rw [Nat.sub_eq_zero_of_le hle, List.take_zero]

/-- One message is taken, and then those that the limit still allows. -/
theorem taken_cons {α : Type} {maxMessages : Option ℕ} {processed : ℕ} (x : α) (xs : List α)
    (h : ¬maxMessages.any (· ≤ processed) = true) :
    taken (maxMessages.map (· - processed)) (x :: xs) =
      x :: taken (maxMessages.map (· - (processed + 1))) xs := by
  cases maxMessages with
  | none => rfl
  | some limit =>
    have hlt : ¬limit ≤ processed := fun hle => h (decide_eq_true hle)
    have hone : limit - processed = (limit - (processed + 1)) + 1 := by omega
    change (x :: xs).take (limit - processed) = x :: xs.take (limit - (processed + 1))
    rw [hone, List.take_succ_cons]

/-- The loop takes the messages up to the limit and accepts all of them; the writer's buffer stays
empty, so the flush after every fiftieth message does nothing. -/
theorem pollLoop_clean (hv : Default platform v) (maxMessages : Option ℕ) (polls : List CleanPoll)
    (processed : ℕ) (s : StreamWorld EngineWorld)
    (hready : Ready s (polls.filterMap CleanPoll.message?))
    (hempty : s.quarantine.storage.writer.buffer = []) :
    ∃ messages t, taken (maxMessages.map (· - processed))
          (polls.filterMap CleanPoll.message?) = messages ∧
      pollLoop v maxMessages (polls.map CleanPoll.poll) processed s =
        (.ok (processed + messages.length), t) ∧ Undisturbed v messages s t := by
  induction polls generalizing processed s with
  | nil =>
    refine ⟨[], s, ?_, rfl, undisturbed_nil v s⟩
    cases maxMessages with
    | none => rfl
    | some limit => exact List.take_nil
  | cons poll polls ih =>
    rw [List.map_cons, pollLoop.eq_def]
    dsimp only
    by_cases hlimit : maxMessages.any (· ≤ processed) = true
    · rw [if_pos hlimit]
      exact ⟨[], s, taken_none_left _ hlimit, rfl, undisturbed_nil v s⟩
    · rw [if_neg hlimit]
      cases poll with
      | nothing => exact ih processed s hready hempty
      | kafkaError code => exact ih processed s hready hempty
      | message m =>
        obtain ⟨outcome, t, hrun, -, haccepted, hnext⟩ := validateEvent_clean hv hready
        have hbuffer : t.quarantine.storage.writer.buffer = [] := by
          rw [haccepted.quarantine]
          exact hempty
        obtain ⟨messages, u, htaken, hloop, hrest⟩ := ih (processed + 1) t hnext hbuffer
        refine ⟨m :: messages, u, ?_, ?_, hrest.cons haccepted⟩
        · rw [← htaken]
          exact taken_cons m _ hlimit
        · have hcount : processed + (m :: messages).length =
              processed + 1 + messages.length := by
            rw [List.length_cons]
            omega
          rw [hcount, ← hloop, CleanPoll.poll]
          dsimp only
          rw [Fallible.bind_ok hrun]
          by_cases hfifty : (processed + 1) % 50 = 0
          · rw [if_pos hfifty, Fallible.bind_ok (flushQuarantine_of_empty hbuffer)]
          · rw [if_neg hfifty]

/-- Where the generator injects no fault, the gate stops nothing: every message is accepted up to
the limit of the run, nothing goes to quarantine, and the breaker is only looked at. -/
theorem consumeStream_clean (hv : Default platform v) (maxMessages : Option ℕ)
    (polls : List CleanPoll) (hready : Ready s (polls.filterMap CleanPoll.message?))
    (hempty : s.quarantine.storage.writer.buffer = []) :
    ∃ messages t, messages = taken maxMessages (polls.filterMap CleanPoll.message?) ∧
      consumeStream v maxMessages (polls.map CleanPoll.poll) s = (.ok messages.length, t) ∧
      Undisturbed v messages s t := by
  obtain ⟨messages, t, htaken, hloop, hundisturbed⟩ :=
    pollLoop_clean hv maxMessages polls 0 s hready hempty
  have hall : maxMessages.map (· - 0) = maxMessages := Option.map_id'
  have hbuffer : t.quarantine.storage.writer.buffer = [] := by
    rw [hundisturbed.quarantine]
    exact hempty
  refine ⟨messages, t, ?_, ?_, hundisturbed⟩
  · rw [← htaken, hall]
  · have hflush := flushQuarantine_of_empty (v := v) hbuffer
    rw [consumeStream, Fallible.andFinally, hloop, Nat.zero_add]
    dsimp only
    rw [hflush]

end

/-! ### At the beginning of 2026 -/

theorem exists_newYearMessage : ∃ m : CleanMessage, m.generatedAt = newYear := by
  obtain ⟨d, rnd, hrun⟩ := newYear_generated
  have hpunctual : Punctual newYearRead.wall (wholeMillis newYear) := by
    rw [newYearRead_wall]
    exact punctual_newYear
  exact ⟨⟨1, newYear, d, { exampleReadings with ingestionTime := text newYearRead.isoformat },
    newYearRead, isInstant_newYear, ⟨zeros, rnd, hrun⟩, rfl, rfl, hpunctual⟩, rfl⟩

theorem consumeStream_clean_newYear : ∃ m : CleanMessage, m.generatedAt = newYear ∧
    ∃ messages t, messages = taken (some 3) [m] ∧
      consumeStream (defaultValidator .ascii) (some 3) [.nothing, .message (.bytes m.bytes) m.readings]
        (freshStream (constructed fun _ => newYear)) = (.ok messages.length, t) ∧
      Undisturbed (defaultValidator .ascii) messages
        (freshStream (constructed fun _ => newYear)) t := by
  obtain ⟨m, hm⟩ := exists_newYearMessage
  have hready : Ready (freshStream (constructed fun _ => newYear))
      ([CleanPoll.nothing, CleanPoll.message m].filterMap CleanPoll.message?) := by
    constructor
    case schemas => rfl
    case started => exact fun _ => ⟨newYear - 300 * 1000000, rfl⟩
    case new =>
      intro m' _ kind p hp
      cases kind <;> cases hp
    case distinct => exact List.pairwise_singleton _ m
  exact ⟨m, hm, consumeStream_clean (default_defaultValidator .ascii) (some 3)
    [.nothing, .message m] hready rfl⟩

end IceStream.Streaming
