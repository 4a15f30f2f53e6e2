import IceStream.Backend.HealthyPipeline
import IceStream.Remediation.Savepoints

/-!
# Pausing and resuming as a whole

A request acts on the Flink job first and on the pipeline's row second, and does not look at what
Flink reports.
-/

namespace IceStream.Backend
open Python Remediation Streaming World

variable {φ : Type}

/-- A Flink controller: what its calls report, and whether the job of its cluster runs. -/
structure Flink (φ : Type) where
  pauseJob : φ → Dict × φ
  resumeJob : φ → Dict × φ
  running : φ → Bool

/-- The service with this controller. -/
def Flink.serve (flink : Flink φ) (service : PipelineService φ) : PipelineService φ :=
  { service with
    ports := { service.ports with
      pauseJob := fun o => (flink.pauseJob o).2
      resumeJob := fun o => (flink.resumeJob o).2 } }

/-! ## The controller of the repository -/

namespace FlinkController
open Remediation.FlinkController FlinkWorld Fallible

variable (ports : FlinkPorts φ) (cfg : FlinkConfig) (controller : ℕ)

/-- What a computation that does not raise returns, and leaves. -/
def report (x : FlinkM φ Dict) (w : FlinkWorld φ) : Dict × FlinkWorld φ :=
  match x w with
  | (.ok report, w') => (report, w')
  | (.error _, w') => ([], w')

def flink (running : FlinkWorld φ → Bool) : Flink (FlinkWorld φ) where
  pauseJob := report (pauseJob ports cfg controller)
  resumeJob := report (resumeJob ports cfg controller)
  running := running

theorem total_onOutside {α : Type} {x : Fallible φ α} (h : Total x) :
    Total (FlinkWorld.onOutside x) := by
  intro w
  obtain ⟨a, o, hrun⟩ := h w.outside
  exact ⟨a, { w with outside := o }, by rw [FlinkWorld.onOutside, hrun]⟩

variable {ports cfg}

theorem total_getActiveJobId : Total (getActiveJobId ports cfg) :=
  total_catching fun _ => total_pure _

theorem total_getJobStatus (jobId : Text) : Total (getJobStatus ports cfg jobId) :=
  total_catching fun _ => total_pure _

theorem total_stopJob (jobId : Text) : Total (stopJob ports cfg jobId) := by
  apply Total.bind (total_catching fun _ => total_pure _)
  intro savepoint
  cases savepoint with
  | some path => exact total_pure _
  | none =>
    apply Total.bind (total_catching fun _ => total_pure _)
    intro cancelled
    cases cancelled with
    | true => exact total_pure _
    | false =>
      apply Total.bind (total_catching fun _ => total_pure _)
      intro cancelled
      cases cancelled with
      | true => exact total_pure _
      | false => exact total_pure _

theorem total_confirmStopped (jobId : Text) (polls : ℕ) :
    Total (confirmStopped ports cfg jobId polls) := by
  induction polls with
  | zero => exact total_pure _
  | succ polls ih =>
    apply (total_getJobStatus jobId).bind
    intro st
    dsimp only
    split
    · exact total_pure _
    · apply total_getActiveJobId.bind
      intro active
      split
      · exact total_pure _
      · exact ih

theorem total_confirmRunning (polls : ℕ) : Total (confirmRunning ports cfg polls) := by
  induction polls with
  | zero => exact total_pure _
  | succ polls ih =>
    apply total_getActiveJobId.bind
    intro active
    cases givenText active with
    | none => exact ih
    | some jobId => exact total_pure _

theorem total_pauseJob : Total (pauseJob ports cfg controller) := by
  apply (total_onOutside total_getActiveJobId).bind
  intro active
  cases givenText active with
  | none => exact total_pure _
  | some jobId =>
    apply (total_onOutside (total_stopJob jobId)).bind
    intro stopped
    cases stopped with
    | none => exact total_pure _
    | some savepoint =>
      apply (total_update _).bind
      intro _
      apply (total_update _).bind
      intro _
      apply (total_onOutside (total_confirmStopped jobId 10)).bind
      intro final
      cases final with
      | none => exact total_pure _
      | some state => exact total_pure _

theorem total_startJob (target : Json) : Total (startJob ports cfg controller target) := by
  apply (total_read _).bind
  intro there
  split
  · exact total_pure _
  · apply (total_attempt _).bind
    intro submitted
    cases submitted with
    | error e => exact total_pure _
    | ok =>
      apply (total_onOutside (total_confirmRunning 15)).bind
      intro found
      cases found with
      | none => exact total_pure _
      | some jobId =>
        apply (total_update _).bind
        intro _
        apply (total_update _).bind
        intro _
        exact total_pure _

theorem total_resumeJob (savepoint : Json) :
    Total (resumeJob ports cfg controller savepoint) := by
  apply (total_onOutside total_getActiveJobId).bind
  intro active
  cases givenText active with
  | some jobId => exact total_pure _
  | none =>
    apply (total_read _).bind
    intro last
    exact total_startJob controller _

/-- The reports are those of the calls, neither of which raises. -/
theorem flink_reports (running : FlinkWorld φ → Bool) (w : FlinkWorld φ) :
    pauseJob ports cfg controller w = (.ok ((flink ports cfg controller running).pauseJob w).1,
      ((flink ports cfg controller running).pauseJob w).2) ∧
    resumeJob ports cfg controller .null w =
      (.ok ((flink ports cfg controller running).resumeJob w).1,
        ((flink ports cfg controller running).resumeJob w).2) := by
  constructor
  · have htotal : Total (pauseJob ports cfg controller) := total_pauseJob controller
    obtain ⟨a, w', hrun⟩ := htotal w
    simp only [flink, report, hrun]
  · have htotal : Total (resumeJob ports cfg controller .null) := total_resumeJob controller .null
    obtain ⟨a, w', hrun⟩ := htotal w
    simp only [flink, report, hrun]

end FlinkController

/-! ## A request -/

/-- Flink reports that the action failed. -/
def Failed (report : Dict) : Prop := Dict.get? report (text "status") = some (.str (text "FAILED"))

/-- A request that raises has changed neither system; one that is answered has the pipeline in its
state, and Flink, if it was called, has not reported a failure. -/
def AllOrNothing (flink : Flink φ) (target : PipelineState) (call : Action) (report : Dict)
    (w : World φ) (run : Except Exc PipelineControlResponse × World φ) : Prop :=
  match run.1 with
  | .error _ => run.2.pipeline = w.pipeline ∧ flink.running run.2.outside = flink.running w.outside
  | .ok _ => run.2.pipeline.state = target ∧
    ∀ actions, run.2.trace = w.trace ++ actions → call ∈ actions → ¬Failed report

theorem AllOrNothing.of_raises {flink : Flink φ} {target : PipelineState} {call : Action}
    {report : Dict} {w : World φ} {run : Except Exc PipelineControlResponse × World φ}
    (h : AllOrNothing flink target call report w run) (hraises : run.1.isOk = false) :
    flink.running run.2.outside = flink.running w.outside := by
  rcases run with ⟨e | answer, w'⟩
  · exact h.2
  · cases hraises

/-- The pipeline is in the state; or the transition is legal and Flink reports no failure, or it is
not and Flink leaves the job as it was. -/
def GoesThrough (flink : Flink φ) (act : φ → Dict × φ) (target : PipelineState) (w : World φ) :
    Prop :=
  w.pipeline.state = target ∨
    if target ∈ w.pipeline.state.validTransitions then ¬Failed (act w.outside).1
    else flink.running (act w.outside).2 = flink.running w.outside

section

variable (flink : Flink φ) (service : PipelineService φ) (readings : ServiceReadings)
  (reason : Option Text) (w : World φ)

/-- A request that finds the pipeline elsewhere. -/
theorem allOrNothing_control (act : φ → Dict × φ) (call : Action) (t : Transition)
    (answer : PipelineControlResponse) (hforce : t.force = false)
    (hstate : w.pipeline.state ≠ t.toState) :
    AllOrNothing flink t.toState call (act w.outside).1 w ((do
      World.onOutside fun o => (.ok (), (act o).2)
      World.log call
      badRequest (World.enter readings.control t)
      pure answer : WorldM φ PipelineControlResponse) w) ↔
      GoesThrough flink act t.toState w := by
  rw [GoesThrough, or_iff_right hstate]
  set w₁ : World φ := { w with outside := (act w.outside).2, trace := w.trace ++ [call] } with hw₁
  change AllOrNothing flink t.toState call (act w.outside).1 w ((badRequest
    (World.enter readings.control t) >>= fun _ => pure answer) w₁) ↔ _
  have hallows : w₁.pipeline.allows t = decide (t.toState ∈ w.pipeline.state.validTransitions) := by
    have hne : (t.toState == w.pipeline.state) = false := beq_eq_false_iff_ne.mpr hstate.symm
    simp [Pipeline.allows, hforce, hw₁, hne]
  split_ifs with hlegal
  · rw [Fallible.bind_ok (PipelineService.badRequest_ok
      (enter_of_allows (hallows.trans (decide_eq_true hlegal))))]
    constructor
    · rintro ⟨-, hreport⟩
      apply hreport [call, .entered t.toState]
      · exact List.append_assoc ..
      · exact List.mem_cons_self
    · exact fun hreport => ⟨rfl, fun _ _ _ => hreport⟩
  · obtain ⟨e, henter⟩ : ∃ e, World.enter readings.control t w₁ = (.error e, w₁) := by
      rw [World.enter, Pipeline.transitionTo, hallows, decide_eq_false hlegal]
      exact ⟨_, rfl⟩
    rw [Fallible.bind_error (PipelineService.badRequest_error henter)]
    exact and_iff_right rfl

theorem pause_iff :
    AllOrNothing flink .paused .flinkPaused (flink.pauseJob w.outside).1 w
      ((flink.serve service).pause readings reason w) ↔
    GoesThrough flink flink.pauseJob .paused w := by
  by_cases hpaused : w.pipeline.state = .paused
  · refine iff_of_true ?_ (.inl hpaused)
    rw [PipelineService.pause, Fallible.read_bind, if_pos hpaused]
    refine ⟨hpaused, fun actions htrace hcall => ?_⟩
    rw [List.self_eq_append_right.mp htrace] at hcall
    cases hcall
  · rw [PipelineService.pause, Fallible.read_bind, if_neg hpaused]
    exact allOrNothing_control flink readings w flink.pauseJob .flinkPaused _ _ rfl hpaused

theorem resume_iff :
    AllOrNothing flink .running .flinkResumed (flink.resumeJob w.outside).1 w
      ((flink.serve service).resume readings reason w) ↔
    (w.circuit.currentState readings.breaker).state = .open_ ∨
      GoesThrough flink flink.resumeJob .running w := by
  set w₁ : World φ := { w with circuit := w.circuit.currentState readings.breaker } with hw₁
  have hread : World.circuitState readings.breaker w =
      (.ok (w.circuit.currentState readings.breaker).state, w₁) := rfl
  rw [PipelineService.resume, Fallible.bind_ok hread]
  by_cases hopen : (w.circuit.currentState readings.breaker).state = .open_
  · rw [if_pos hopen]
    exact iff_of_true ⟨rfl, rfl⟩ (.inl hopen)
  rw [if_neg hopen, Fallible.read_bind, or_iff_right hopen]
  by_cases hrunning : w.pipeline.state = .running
  · refine iff_of_true ?_ (.inl hrunning)
    rw [if_pos (show w₁.pipeline.row.state = .running from hrunning)]
    refine ⟨hrunning, fun actions htrace hcall => ?_⟩
    rw [List.self_eq_append_right.mp htrace] at hcall
    cases hcall
  · rw [if_neg (show ¬w₁.pipeline.row.state = .running from hrunning)]
    exact allOrNothing_control flink readings w₁ flink.resumeJob .flinkResumed _ _ rfl hrunning

/-- `pause` and `resume` happen as a whole or not at all when nothing is to be done, the breaker
refuses, or Flink's outcome suits the transition that follows. -/
theorem allOrNothing_iff :
    (AllOrNothing flink .paused .flinkPaused (flink.pauseJob w.outside).1 w
        ((flink.serve service).pause readings reason w) ↔
      GoesThrough flink flink.pauseJob .paused w) ∧
    (AllOrNothing flink .running .flinkResumed (flink.resumeJob w.outside).1 w
        ((flink.serve service).resume readings reason w) ↔
      (w.circuit.currentState readings.breaker).state = .open_ ∨
        GoesThrough flink flink.resumeJob .running w) :=
  ⟨pause_iff flink service readings reason w, resume_iff flink service readings reason w⟩

end

/-! ### A job stopped for a refused transition -/

/-- Whether the job runs, by what was last done to it. -/
def jobRuns (w : FlinkWorld φ) : Bool := !(w.past.head? matches some (.stopped _ _))

def remediatingPorts : Ports (FlinkWorld (List String)) where
  fetchForRecovery _ := pure []
  sourceReference := "replay_fixture:recovery_case_001"
  reprocessor :=
    { validateWithSummary := fun _ => pure (computeValidationSummary [] .null)
      writeInvalidEvent := none }
  writeEvents events := pure ⟨events.length, true, none⟩
  sendAlert _ w := (true, w)
  pauseJob w := w
  resumeJob w := w

def remediatingWorld : World (FlinkWorld (List String)) where
  pipeline := .init 0 .remediating
  incidents := []
  attempts := []
  circuit := closedCircuit
  active := true
  outside := .fresh stopAnswers
  trace := []

def exampleController : Flink (FlinkWorld (List String)) :=
  FlinkController.flink exampleFlink {} 0 jobRuns

def remediatingService : PipelineService (FlinkWorld (List String)) :=
  ⟨"icestream", remediatingPorts, exampleConfig⟩

/-- `REMEDIATING` does not lead to `PAUSED`, which the request finds out behind the savepoint. -/
theorem stopped_and_refused :
    ¬AllOrNothing exampleController .paused .flinkPaused
      (exampleController.pauseJob remediatingWorld.outside).1 remediatingWorld
      ((exampleController.serve remediatingService).pause PipelineService.exampleRequest none
        remediatingWorld) := by
  intro h
  have hruns := h.of_raises (by decide +kernel)
  revert hruns
  decide +kernel

end IceStream.Backend
