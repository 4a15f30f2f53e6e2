import IceStream.Streaming.TripLaw

/-!
# The close law

After a call that finds the breaker `HALF_OPEN`, a window with enough events and a
rate within the threshold should leave it `CLOSED`. Only the exit for invalid
events looks.
-/

namespace IceStream.Streaming
open Python Metrics Quarantine Remediation Stepping StreamWorld

variable {φ : Type}

section

variable (v : StreamQualityValidator φ)

/-- The events in the circuit window when the call is over. -/
def circuitTotal (readings : StreamReadings) (t : StreamWorld φ) : ℕ :=
  (t.metrics.windowMetrics v.circuitWindowSeconds readings.calculating.now).totalEvents

/-- The events in the circuit window, with the outcome among them. -/
def totalAfter (readings : StreamReadings) (isValid : Bool) (e : ErrorRateEngine) : ℕ :=
  ((recordedMetrics readings isValid e).windowMetrics v.circuitWindowSeconds
    readings.calculating.now).totalEvents

def CloseLaw (s : StreamWorld φ) (a : StreamAction) (t : StreamWorld φ) : Prop :=
  match a with
  | .event payload readings =>
    (s.circuit.currentState readings.breaker).state = .halfOpen →
    Returned v payload readings s → 10 ≤ circuitTotal v readings t →
    circuitRate v readings t ≤ t.circuit.config.errorThreshold → t.circuit.state = .closed
  | .background _ _ => True

/-- A call that finds the breaker `HALF_OPEN` and ends with a healthy window takes
the exit that closes it, and is not undone by the row. -/
def Released (s : StreamWorld φ) (a : StreamAction) (_ : StreamWorld φ) : Prop :=
  match a with
  | .event payload readings =>
    (s.circuit.currentState readings.breaker).state = .halfOpen →
    match course v readings payload s with
    | .refused _ => True
    | .malformed shown errorMsg =>
      Routes v readings (malformedDict shown) (malformedSummary errorMsg) s.quarantine →
      ¬(10 ≤ totalAfter v readings false s.metrics ∧
        rateAfter v readings false s.metrics ≤ s.circuit.config.errorThreshold)
    | .valid _ _ => ¬(10 ≤ totalAfter v readings true s.metrics ∧
        rateAfter v readings true s.metrics ≤ s.circuit.config.errorThreshold)
    | .invalid _ _ _ => 10 ≤ totalAfter v readings false s.metrics →
      rateAfter v readings false s.metrics ≤ s.circuit.config.errorThreshold →
      ∀ row, ¬s.circuit.Rereads readings.breaker row
  | .background _ _ => True

variable {v} {s t : StreamWorld φ} {readings : StreamReadings}

theorem circuitTotal_of_metrics {isValid : Bool}
    (h : t.metrics = metricsAfter v readings isValid s.metrics) :
    circuitTotal v readings t = totalAfter v readings isValid s.metrics := by
  rw [circuitTotal, h, metricsAfter, ErrorRateEngine.windowMetrics_evicted]
  rfl

theorem closeLaw_iff_released (htrip : v.autoTripCircuit = true) (payload : Payload)
    (readings : StreamReadings) :
    CloseLaw v s (.event payload readings) (validateEvent v readings payload s).2 ↔
      Released v s (.event payload readings) (validateEvent v readings payload s).2 := by
  obtain ⟨s', hbeside, hrun⟩ := validateEvent_follows v readings payload s
  simp only [CloseLaw, Released, Returned, hrun]
  refine imp_congr_right fun hhalf => ?_
  cases course v readings payload s with
  | refused e => simp [follow]
  | malformed shown errorMsg =>
    simp only [follow]
    obtain ⟨hroutes, outcome, t, hend, hended⟩ | ⟨hraises, e, t, hend, -⟩ :=
      handleMalformedPayload_ends v readings shown errorMsg s'
    · rw [hbeside.quarantine] at hroutes
      simp [hend, hroutes, circuitTotal_of_metrics hended.metrics,
        circuitRate_of_metrics hended.metrics, hended.circuit, hbeside.metrics, hbeside.circuit,
        hhalf]
    · rw [hbeside.quarantine] at hraises
      simp [hend, hraises]
  | valid eventId summary =>
    obtain ⟨outcome, t, hend, hended⟩ := validExit_ends v readings eventId summary s'
    simp [hend, circuitTotal_of_metrics hended.metrics, circuitRate_of_metrics hended.metrics,
      hended.circuit, hbeside.metrics, hbeside.circuit, hhalf]
  | invalid d eventId summary =>
    obtain ⟨outcome, t, c', hend, hjudged, hended⟩ :=
      invalidExit_ends v readings d eventId summary s'
    replace hjudged := hjudged htrip
    rw [hbeside.circuit] at hjudged
    have htotal := circuitTotal_of_metrics hended.metrics
    have hrate := circuitRate_of_metrics hended.metrics
    rw [hbeside.metrics] at hjudged htotal hrate
    simp only [hend, Except.ok.injEq, exists_eq', forall_const, htotal, hrate, hended.circuit,
      Circuit.currentState_config, judged_config hjudged]
    refine imp_congr_right fun henough => imp_congr_right fun hhealthy => ?_
    -- this exit tells the half-open breaker of its recovery
    have htotal' : ((10 : ℕ) : ℤ) ≤ (exitMetrics v readings s.metrics).totalEvents :=
      Int.ofNat_le.mpr henough
    have hrecovers : Recovers readings (exitMetrics v readings s.metrics) s.circuit :=
      ⟨hhalf, htotal', hhealthy⟩
    rw [hjudged.1 hrecovers]
    exact Circuit.recovered_closed_iff hhalf _

/-- In every stream, the law holds after each call just in case each call is released. -/
theorem closeLaw_iff (htrip : v.autoTripCircuit = true) (s : StreamWorld φ)
    (actions : List StreamAction) :
    AllSteps (streamStep v) (CloseLaw v) s actions ↔
      AllSteps (streamStep v) (Released v) s actions := by
  apply allSteps_iff_of_invariant (I := fun _ => True)
  · intro s a t _ ht
    cases a with
    | event payload readings =>
      obtain rfl := Option.some.inj ht
      exact closeLaw_iff_released htrip payload readings
    | background breaker storage => exact Iff.rfl
  · exact fun _ _ _ _ _ _ => trivial
  · trivial

end

def halfOpenCircuit : Circuit :=
  (closedCircuit.moved exampleReadings.breaker .open_ "manual" none .none).moved
    exampleReadings.breaker .halfOpen "manual" none .none

/-- A `HALF_OPEN` breaker over a window of 49 valid events. -/
def recoveringStream : StreamWorld Unit :=
  { exampleStream halfOpenCircuit with
    metrics := (recordedMetrics exampleReadings true)^[49] (.init fun _ => none) }

/-- With the fiftieth event invalid, the rate is at the threshold. -/
theorem invalid_event_releases :
    AllSteps (streamStep exampleValidator) (CloseLaw exampleValidator) recoveringStream
      [.event (.dict []) exampleReadings] := by
  apply (closeLaw_iff rfl _ _).mpr
  intro t _
  have hcourse : (course exampleValidator exampleReadings (.dict [])
      recoveringStream).isInvalid = true := by decide +kernel
  refine ⟨?_, trivial⟩
  intro _
  split
  · trivial
  · rename_i hmalformed
    simp [hmalformed, Course.isInvalid] at hcourse
  · rename_i hvalid
    simp [hvalid, Course.isInvalid] at hcourse
  · intro _ _ row hrereads
    cases hrereads.adopted

/-! ### Nothing but valid events -/

def validEvent : StreamAction :=
  .event (.dict [(text "event_id", .str "e1")]) exampleReadings

def Course.isValid : Course → Bool
  | .valid _ _ => true
  | _ => false

/-- The breaker is `HALF_OPEN`, and one more valid event makes the window healthy. -/
def overdue (s : StreamWorld Unit) : Bool :=
  (s.circuit.currentState exampleReadings.breaker).state == .halfOpen &&
    (course exampleValidator exampleReadings (.dict [(text "event_id", .str "e1")]) s).isValid &&
    decide (10 ≤ totalAfter exampleValidator exampleReadings true s.metrics) &&
    decide (rateAfter exampleValidator exampleReadings true s.metrics ≤
      s.circuit.config.errorThreshold)

/-- Ten valid events and no other: the rate is zero, the breaker stays `HALF_OPEN`. -/
theorem valid_events_leave_half_open :
    ¬AllSteps (streamStep exampleValidator) (CloseLaw exampleValidator)
      (exampleStream halfOpenCircuit) (List.replicate 9 validEvent ++ [validEvent]) := by
  intro h
  have hoverdue : (exec (streamStep exampleValidator) (exampleStream halfOpenCircuit)
      (List.replicate 9 validEvent)).map overdue = some true := by decide +kernel
  obtain ⟨u, hu, hready⟩ := Option.map_eq_some_iff.mp hoverdue
  simp only [overdue, Bool.and_eq_true, beq_iff_eq, decide_eq_true_eq] at hready
  obtain ⟨⟨⟨hhalf, hcourse⟩, htotal⟩, hrate⟩ := hready
  have hlaw := h.last hu rfl
  rw [validEvent, closeLaw_iff_released rfl] at hlaw
  have hreleased := hlaw hhalf
  cases hcase : course exampleValidator exampleReadings
      (.dict [(text "event_id", .str "e1")]) u with
  | valid eventId summary =>
    rw [hcase] at hreleased
    exact hreleased ⟨htotal, hrate⟩
  | _ => simp [hcase, Course.isValid] at hcourse

end IceStream.Streaming
