import IceStream.Streaming.TripLaw

/-!
# Poison messages

With a quarantine that does not raise, the one thing that stops a call is a
payload that decodes to a value other than an object or `null`; in the consumer
loop it stops the loop.
-/

namespace IceStream.Streaming
open Python Metrics Metrics.ErrorRateEngine Quarantine Remediation StreamWorld

variable {φ : Type}

/-- The values the call looks into. -/
def IsEvent : Json → Prop
  | .null => True
  | .obj _ => True
  | _ => False

section

variable (v : StreamQualityValidator φ)

/-- The payload decodes to an array, a number, a text or a truth value. -/
def Poison (payload : Payload) : Prop :=
  ∃ value, decode v.nestingLimit payload = .ok value ∧ ¬IsEvent value

/-- The call returns, one more event is recorded, as failed when the outcome is
invalid. -/
def Processed (readings : StreamReadings) (payload : Payload) (s : StreamWorld φ) : Prop :=
  ∃ outcome t, validateEvent v readings payload s = (.ok outcome, t) ∧
    Appended s.metrics t.metrics (readings.timestamp, outcome.isValid) readings.recording.now
      readings.calculating.now

def Poll.payload? : Poll → Option Payload
  | .message payload _ => some payload
  | _ => none

def messages (polls : List Poll) : List Payload := polls.filterMap Poll.payload?

/-- The loop returns the number of messages, all of them processed. -/
def ConsumesAll (polls : List Poll) (s : StreamWorld φ) : Prop :=
  (consumeStream v none polls s).1 = .ok (messages polls).length

variable {v} {s : StreamWorld φ} {payload : Payload} {readings : StreamReadings}

theorem course_refused_iff :
    (∃ e, course v readings payload s = .refused e) ↔ Poison v payload := by
  unfold course Poison
  cases decode v.nestingLimit payload with
  | error e => simp
  | ok value =>
    have hengine (raw : Option Dict) (eventId : Json) (e : Exc) :
        engineCourse v raw eventId s ≠ .refused e := by
      unfold engineCourse
      split
      · simp
      · split <;> simp
    cases value with
    | null => simp [hengine, IsEvent]
    | obj d => simp [hengine, IsEvent]
    | _ => simp [IsEvent]

theorem processed_of_ended {isValid : Bool} {circuit : Circuit} {outcome : ValidationOutcome}
    {s' t : StreamWorld φ} (hbeside : Beside s s')
    (hrun : validateEvent v readings payload s = (.ok outcome, t))
    (hended : Ended v readings isValid s' circuit outcome t) : Processed v readings payload s := by
  refine ⟨outcome, t, hrun, ?_⟩
  rw [hended.metrics, hended.isValid, hbeside.metrics]
  exact appended_of_recorded s.metrics readings.recording isValid readings.timestamp
    v.circuitWindowSeconds readings.calculating.now

theorem processed_iff (harrow : ∀ records, v.table.arrow records = .ok ())
    (hversion : Encodable v.router.pipelineVersion) :
    Processed v readings payload s ↔ ¬Poison v payload := by
  obtain ⟨s', hbeside, hrun⟩ := validateEvent_follows v readings payload s
  have hrefused : (∃ e, course v readings payload s = .refused e) ↔ Poison v payload :=
    course_refused_iff
  rw [← hrefused]
  cases hcourse : course v readings payload s with
  | refused e =>
    have hpoison : ∃ e', Course.refused e = .refused e' := ⟨e, rfl⟩
    simp only [hpoison, not_true_eq_false, iff_false]
    rintro ⟨outcome, t, hok, -⟩
    rw [hrun, hcourse] at hok
    cases hok
  | malformed shown errorMsg =>
    simp only [reduceCtorEq, exists_false, not_false_eq_true, iff_true]
    rw [hcourse] at hrun
    obtain ⟨-, outcome, t, hend, hended⟩ | ⟨hraises, -⟩ :=
      handleMalformedPayload_ends v readings shown errorMsg s'
    · exact processed_of_ended hbeside (hrun.trans hend) hended
    · exact absurd (routes_malformed v readings harrow hversion _ _ _) hraises
  | valid eventId summary =>
    simp only [reduceCtorEq, exists_false, not_false_eq_true, iff_true]
    rw [hcourse] at hrun
    obtain ⟨outcome, t, hend, hended⟩ := validExit_ends v readings eventId summary s'
    exact processed_of_ended hbeside (hrun.trans hend) hended
  | invalid d eventId summary =>
    simp only [reduceCtorEq, exists_false, not_false_eq_true, iff_true]
    rw [hcourse] at hrun
    obtain ⟨outcome, t, c', hend, -, hended⟩ := invalidExit_ends v readings d eventId summary s'
    exact processed_of_ended hbeside (hrun.trans hend) hended

/-! ### The consumer loop -/

theorem flushQuarantine_ok (harrow : ∀ records, v.table.arrow records = .ok ())
    (s : StreamWorld φ) : ∃ t, flushQuarantine v s = (.ok (), t) := by
  obtain ⟨result, q, hflush⟩ := flushWriter_total v.table s.quarantine harrow
  refine ⟨{ s with quarantine := q }, ?_⟩
  have hon : onQuarantine (QuarantineRouter.flushWriter v.table) s =
      (.ok result, { s with quarantine := q }) := by
    rw [onQuarantine, hflush]
  rw [flushQuarantine, Fallible.bind_ok hon]
  rfl

/-- A poison message ends the loop, and the loop counts the other ones. -/
theorem pollLoop_ok_iff (harrow : ∀ records, v.table.arrow records = .ok ())
    (hversion : Encodable v.router.pipelineVersion) (polls : List Poll) (processed : ℕ)
    (s : StreamWorld φ) :
    (∃ n, (pollLoop v none polls processed s).1 = .ok n) ∧
        (pollLoop v none polls processed s).1 = .ok (processed + (messages polls).length) ∧
        (∀ payload ∈ messages polls, ¬Poison v payload) ∨
      (∃ e, (pollLoop v none polls processed s).1 = .error e) ∧
        ∃ payload ∈ messages polls, Poison v payload := by
  induction polls generalizing processed s with
  | nil => exact .inl ⟨⟨processed, rfl⟩, rfl, by simp [messages]⟩
  | cons poll polls ih =>
    cases poll with
    | nothing => exact ih processed s
    | kafkaError code => exact ih processed s
    | message payload readings =>
      -- what the loop does once the message is processed
      let rest : StreamM φ ℕ := do
        if (processed + 1) % 50 = 0 then flushQuarantine v
        pollLoop v none polls (processed + 1)
      have hmessages : messages (.message payload readings :: polls) =
          payload :: messages polls := rfl
      have hloop : pollLoop v none (.message payload readings :: polls) processed s =
          (validateEvent v readings payload >>= fun _ => rest) s := rfl
      by_cases hpoison : Poison v payload
      · right
        obtain ⟨s', -, hrun⟩ := validateEvent_follows v readings payload s
        obtain ⟨e, hcourse⟩ : ∃ e, course v readings payload s = .refused e :=
          course_refused_iff.mpr hpoison
        rw [hcourse] at hrun
        refine ⟨⟨e, ?_⟩, payload, by simp [hmessages], hpoison⟩
        rw [hloop, Fallible.bind_error hrun]
      · obtain ⟨outcome, t, hrun, -⟩ : Processed v readings payload s :=
          (processed_iff harrow hversion).mpr hpoison
        -- a flush between two messages does not raise, so it only changes the world
        have hrest : ∃ u, rest t = pollLoop v none polls (processed + 1) u := by
          obtain ⟨u, hflush⟩ := flushQuarantine_ok harrow t
          by_cases hperiod : (processed + 1) % 50 = 0
          · refine ⟨u, ?_⟩
            have heq : rest = flushQuarantine v >>= fun _ =>
                pollLoop v none polls (processed + 1) := if_pos hperiod
            rw [heq, Fallible.bind_ok hflush]
          · refine ⟨t, ?_⟩
            have heq : rest = pollLoop v none polls (processed + 1) := if_neg hperiod
            rw [heq]
        obtain ⟨u, hrest⟩ := hrest
        rw [hloop, Fallible.bind_ok hrun, hrest, hmessages]
        obtain ⟨hreturns, hcount, hfree⟩ | ⟨hraises, p, hp, hpp⟩ := ih (processed + 1) u
        · left
          refine ⟨hreturns, ?_, ?_⟩
          · rw [hcount, List.length_cons]
            congr 1
            omega
          · simpa using ⟨hpoison, hfree⟩
        · exact .inr ⟨hraises, p, by simp [hp], hpp⟩

theorem consumeStream_result (harrow : ∀ records, v.table.arrow records = .ok ())
    (polls : List Poll) (s : StreamWorld φ) :
    (consumeStream v none polls s).1 = (pollLoop v none polls 0 s).1 := by
  obtain ⟨u, hflush⟩ := flushQuarantine_ok harrow (pollLoop v none polls 0 s).2
  simp only [consumeStream, Fallible.andFinally, hflush]

/-- A call processes its payload just in case it is not poison, and the loop
processes every message just in case none of them is. -/
theorem no_poison_iff (harrow : ∀ records, v.table.arrow records = .ok ())
    (hversion : Encodable v.router.pipelineVersion) :
    (∀ payload readings s, Processed v readings payload s ↔ ¬Poison v payload) ∧
    ∀ polls s, ConsumesAll v polls s ↔ ∀ payload ∈ messages polls, ¬Poison v payload := by
  refine ⟨fun payload readings s => processed_iff harrow hversion, fun polls s => ?_⟩
  rw [ConsumesAll, consumeStream_result harrow]
  obtain ⟨-, hcount, hfree⟩ | ⟨⟨e, hraises⟩, payload, hpayload, hpoison⟩ :=
    pollLoop_ok_iff harrow hversion polls 0 s
  · rw [hcount, Nat.zero_add]
    exact iff_of_true rfl hfree
  · rw [hraises]
    exact iff_of_false (by simp) fun h => h payload hpayload hpoison

end

/-! ### A text, and an array -/

theorem example_not_poison : ¬Poison exampleValidator (.str "[") := by
  rintro ⟨value, hvalue, -⟩
  have hfails : (decode 1000 (.str "[")).toOption.isNone = true := rfl
  have hlimit : exampleValidator.nestingLimit = 1000 := rfl
  rw [hlimit] at hvalue
  rw [hvalue] at hfails
  cases hfails

/-- A text that is not JSON is processed, alone and by the loop. -/
theorem malformed_text_processed :
    Processed exampleValidator exampleReadings (.str "[") (exampleStream closedCircuit) ∧
      ConsumesAll exampleValidator [.nothing, .message (.str "[") exampleReadings]
        (exampleStream closedCircuit) := by
  obtain ⟨hprocessed, hconsumes⟩ :=
    no_poison_iff (v := exampleValidator) (fun _ => rfl) (encodable_text "0.1.0")
  refine ⟨(hprocessed _ _ _).mpr example_not_poison, (hconsumes _ _).mpr ?_⟩
  intro payload hpayload
  obtain rfl : Payload.str "[" = payload := by simpa [messages, Poll.payload?] using hpayload
  exact example_not_poison

def isArray : Except (Text × Text) Json → Bool
  | .ok (.arr _) => true
  | _ => false

/-- The bytes of an empty JSON array: the call raises, and so does the loop, which
leaves the message behind it unread. -/
theorem json_array_stops_loop :
    ¬Processed exampleValidator exampleReadings (.bytes [91, 93]) (exampleStream closedCircuit) ∧
    ¬ConsumesAll exampleValidator [.message (.bytes [91, 93]) exampleReadings,
      .message (.str "[") exampleReadings] (exampleStream closedCircuit) := by
  have harray : isArray (decode 1000 (.bytes [91, 93])) = true := rfl
  obtain ⟨values, hdecode⟩ : ∃ values, decode 1000 (.bytes [91, 93]) = .ok (.arr values) := by
    cases hresult : decode 1000 (.bytes [91, 93]) with
    | error e => simp [hresult, isArray] at harray
    | ok value =>
      cases value with
      | arr values => exact ⟨values, rfl⟩
      | _ => simp [hresult, isArray] at harray
  have hlimit : exampleValidator.nestingLimit = 1000 := rfl
  have hraises : ∃ e, validateEvent exampleValidator exampleReadings (.bytes [91, 93])
      (exampleStream closedCircuit) = (.error e, exampleStream closedCircuit) := by
    rw [validateEvent, hlimit, hdecode]
    exact ⟨_, rfl⟩
  obtain ⟨e, hraises⟩ := hraises
  constructor
  · rintro ⟨outcome, t, hok, -⟩
    rw [hraises] at hok
    cases hok
  · intro hconsumes
    rw [ConsumesAll, consumeStream_result fun _ => rfl, pollLoop] at hconsumes
    simp only [Option.any_none, Bool.false_eq_true, ↓reduceIte] at hconsumes
    rw [Fallible.bind_error hraises] at hconsumes
    cases hconsumes

end IceStream.Streaming
