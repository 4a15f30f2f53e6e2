import IceStream.Lib.Stepping
import IceStream.Remediation.Outcomes
import IceStream.Remediation.Path
import IceStream.Streaming.StreamValidator

/-!
# The remediation and the thread that started it

The thread that trips the breaker starts the remediation in the background and
only then enters `CIRCUIT_OPEN`. A transition reads the row, reads it again for
its check, and writes it; nothing keeps two threads from doing so at once.
-/

namespace IceStream
open Python Stepping

/-- How far a transition is: `curr` is the state it read first. -/
inductive Phase
  | idle
  | read (curr : PipelineState)
  | checked (curr : PipelineState)

inductive Advance
  | continues (phase : Phase)
  | rejected (e : Exc)
  | written (p : Pipeline)

namespace Pipeline

/-- What `transition_to` writes, having read `curr`. -/
def written (p : Pipeline) (curr : PipelineState) (now : Date) (t : Transition) : Pipeline where
  row := ⟨t.toState, some curr, t.reason, now, t.incidentId, t.recoveryAttempt, t.lastError⟩
  history := p.history ++ [⟨curr, t.toState, t.reason, now, t.incidentId, t.recoveryAttempt⟩]

/-- The next access of `transition_to` to storage. -/
def advance (p : Pipeline) (now : Date) (t : Transition) : Phase → Advance
  | .idle => .continues (if t.force || t.toState == p.state then .checked p.state else .read p.state)
  | .read curr =>
    if p.state.validTransitions.contains t.toState then .continues (.checked curr)
    else .rejected (valueError (text
      s!"Invalid pipeline state transition from '{curr.value}' to '{t.toState.value}'"))
  | .checked curr => .written (p.written curr now t)

theorem advance_written {p p' : Pipeline} {now : Date} {t : Transition} {phase : Phase}
    (h : p.advance now t phase = .written p') : p'.state = t.toState := by
  cases phase with
  | idle => cases h
  | read curr =>
    simp only [advance] at h
    split at h <;> cases h
  | checked curr =>
    obtain rfl := Advance.written.inj h
    rfl

/-- A transition by force is not checked. -/
theorem advance_read {p : Pipeline} {now : Date} {t : Transition} {phase : Phase}
    {curr : PipelineState} (h : p.advance now t phase = .continues (.read curr)) :
    t.force = false := by
  cases phase with
  | idle =>
    have hphase := Advance.continues.inj h
    split at hphase
    · cases hphase
    · rename_i hunforced
      simp only [Bool.or_eq_true, not_or, Bool.not_eq_true] at hunforced
      exact hunforced.1
  | read curr' =>
    simp only [advance] at h
    split at h <;> cases h
  | checked curr' => cases h

end Pipeline

namespace Streaming
open Metrics Remediation Resumption

variable {φ : Type}

/-- The two threads: the remediation with the transition it is in and the state it
entered last, and the transition of the other thread, as long as that goes on. -/
structure Threads (φ : Type) where
  world : World φ
  remediation : Program φ RemediationResult
  phase : Phase
  entered : Option PipelineState
  tripping : Option Phase

inductive Thread
  | remediation
  | tripping

namespace Threads

/-- Both are about to begin. -/
def start (w : World φ) (p : Program φ RemediationResult) : Threads φ := ⟨w, p, .idle, none, some .idle⟩

/-- One step of a thread; `trip` is the transition of the thread that tripped. -/
def step (trip : TransitionCall) (s : Threads φ) : Thread → Option (Threads φ)
  | .remediation =>
    match s.remediation with
    | .ret _ => none
    | .work f k => some { s with
        world := f s.world
        remediation := k s.world }
    | .call c k =>
      match s.world.pipeline.advance c.now c.transition s.phase with
      | .continues phase => some { s with phase := phase }
      | .rejected e => some { s with
          remediation := k (.error e)
          phase := .idle }
      | .written p => some { s with
          world := { s.world with pipeline := p }
          remediation := k (.ok ())
          phase := .idle
          entered := some c.transition.toState }
  | .tripping =>
    s.tripping.map fun phase =>
      match s.world.pipeline.advance trip.now trip.transition phase with
      | .continues phase => { s with tripping := some phase }
      -- what the transition raises is logged
      | .rejected _ => { s with tripping := none }
      | .written p => { s with
          world := { s.world with pipeline := p }
          tripping := none }

/-- Both threads have come to their end. -/
def Done (s : Threads φ) : Prop := (∃ r, s.remediation = .ret r) ∧ s.tripping = none

/-- No transition of the remediation is rejected. -/
def NotRejected (s : Threads φ) (a : Thread) (_ : Threads φ) : Prop :=
  match a with
  | .remediation => ∀ c k e, s.remediation = .call c k →
    s.world.pipeline.advance c.now c.transition s.phase ≠ .rejected e
  | .tripping => True

/-- A remediation that reports success leaves the pipeline in `RUNNING`. -/
def Agree (s : Threads φ) : Prop :=
  ∀ result, s.remediation = .ret (.ok result) → result.success = true →
    s.world.pipeline.state = .running

/-- The check of a transition that `CIRCUIT_OPEN` does not allow does not find that
state, and `CIRCUIT_OPEN` is not written once the remediation has entered `RUNNING`. -/
def OutOfTheWay (s : Threads φ) (a : Thread) (_ : Threads φ) : Prop :=
  match a with
  | .remediation => ∀ c k curr, s.remediation = .call c k → s.phase = .read curr →
    s.world.pipeline.state = .circuitOpen →
      c.transition.toState ∈ PipelineState.circuitOpen.validTransitions
  | .tripping => ∀ curr, s.tripping = some (.checked curr) → s.entered ≠ some .running

/-- The remediation keeps to its path, and finds the state it entered last, or
`CIRCUIT_OPEN`. -/
structure OnPath (s : Threads φ) : Prop where
  keeps : Resumption.Keeps healingPath Final s.entered s.remediation
  state_eq : ∀ last ∈ s.entered,
    s.world.pipeline.state = last ∨ s.world.pipeline.state = .circuitOpen
  running : s.entered = some .running → s.world.pipeline.state = .running
  idle : (∀ c k, s.remediation ≠ .call c k) → s.phase = .idle
  unforced : ∀ c k curr, s.remediation = .call c k → s.phase = .read curr →
    c.transition.force = false

section

variable {trip : TransitionCall} {s t : Threads φ} {a : Thread}

theorem notRejected_iff (h : s.OnPath) : s.NotRejected .remediation t ↔ s.OutOfTheWay .remediation t := by
  constructor
  · intro hnot c k curr hcall hphase hopen
    by_contra hinvalid
    obtain ⟨e, hrejected⟩ : ∃ e, s.world.pipeline.advance c.now c.transition s.phase =
        .rejected e := by
      rw [hphase, Pipeline.advance, hopen, if_neg (by simpa using hinvalid)]
      exact ⟨_, rfl⟩
    exact hnot c k e hcall hrejected
  · intro hout c k e hcall hrejected
    cases hphase : s.phase with
    | idle =>
      rw [hphase] at hrejected
      cases hrejected
    | checked curr =>
      rw [hphase] at hrejected
      cases hrejected
    | read curr =>
      have hunforced := h.unforced c k curr hcall hphase
      have hkeeps := h.keeps
      rw [hcall] at hkeeps
      cases hkeeps with
      | call hallows hnext =>
        -- only a transition without force comes to its check
        obtain ⟨-, hforce | ⟨last, hlast, hvalid⟩⟩ := hallows
        · rw [hunforced] at hforce
          cases hforce
        · have hallowed : s.world.pipeline.state.validTransitions.contains c.transition.toState =
              true := by
            obtain hsame | hopen := h.state_eq last hlast
            · rw [hsame]
              simpa using hvalid
            · rw [hopen]
              simpa using hout c k curr hcall hphase hopen
          rw [hphase, Pipeline.advance, if_pos hallowed] at hrejected
          cases hrejected

theorem onPath_remediation (h : s.OnPath) (ht : s.step trip .remediation = some t)
    (hnot : s.NotRejected .remediation t) : t.OnPath := by
  obtain ⟨w, p, phase, entered, tripping⟩ := s
  cases p with
  | ret r => cases ht
  | work f k =>
    -- what is no transition leaves the pipeline as it is
    obtain rfl := Option.some.inj ht
    have hidle : phase = .idle := h.idle nofun
    cases h.keeps with
    | work hf hk =>
      have hpipeline : (f w).pipeline = w.pipeline := hf w
      refine ⟨hk w, ?_, ?_, fun _ => hidle, ?_⟩
      · intro last hlast
        rw [hpipeline]
        exact h.state_eq last hlast
      · intro hrunning
        rw [hpipeline]
        exact h.running hrunning
      · intro c k' curr _ hread
        have hread : phase = .read curr := hread
        rw [hidle] at hread
        cases hread
  | call c k =>
    cases hadvance : w.pipeline.advance c.now c.transition phase with
    | continues phase' =>
      simp only [step, hadvance, Option.some.injEq] at ht
      obtain rfl := ht
      refine ⟨h.keeps, h.state_eq, h.running, fun hnone => absurd rfl (hnone c k), ?_⟩
      intro c' k' curr hcall hread
      obtain ⟨rfl, -⟩ := Resumption.call.inj hcall
      have hread : phase' = .read curr := hread
      rw [hread] at hadvance
      exact Pipeline.advance_read hadvance
    | rejected e => exact absurd hadvance (hnot c k e rfl)
    | written p' =>
      simp only [step, hadvance, Option.some.injEq] at ht
      obtain rfl := ht
      have hstate := Pipeline.advance_written hadvance
      cases h.keeps with
      | call hallows hnext =>
        refine ⟨hnext, ?_, ?_, fun _ => rfl, ?_⟩
        · intro last hlast
          obtain rfl := Option.mem_some_iff.mp hlast
          exact .inl hstate
        · intro hrunning
          have hrunning : some c.transition.toState = some .running := hrunning
          rw [Option.some.injEq] at hrunning
          exact hstate.trans hrunning
        · intro c' k' curr _ hread
          cases hread

theorem onPath_tripping (htrip : trip.transition.toState = .circuitOpen) (h : s.OnPath)
    (ht : s.step trip .tripping = some t) (hout : s.OutOfTheWay .tripping t) : t.OnPath := by
  obtain ⟨phase, hphase, rfl⟩ := Option.map_eq_some_iff.mp ht
  cases hadvance : s.world.pipeline.advance trip.now trip.transition phase with
  | continues phase' => exact ⟨h.keeps, h.state_eq, h.running, h.idle, h.unforced⟩
  | rejected e => exact ⟨h.keeps, h.state_eq, h.running, h.idle, h.unforced⟩
  | written p =>
    have hstate : p.state = .circuitOpen := (Pipeline.advance_written hadvance).trans htrip
    refine ⟨h.keeps, fun _ _ => .inr hstate, ?_, h.idle, h.unforced⟩
    intro hrunning
    -- only the last access of a transition writes
    cases phase with
    | checked curr => exact absurd hrunning (hout curr hphase)
    | idle => cases hadvance
    | read curr =>
      simp only [Pipeline.advance] at hadvance
      split at hadvance <;> cases hadvance

theorem onPath_step (htrip : trip.transition.toState = .circuitOpen) (h : s.OnPath)
    (ht : s.step trip a = some t) (hnot : s.NotRejected a t) (hout : s.OutOfTheWay a t) :
    t.OnPath := by
  cases a with
  | remediation => exact onPath_remediation h ht hnot
  | tripping => exact onPath_tripping htrip h ht hout

/-! ### `CIRCUIT_OPEN` after `RUNNING` -/

/-- The remediation has entered `RUNNING`, and the pipeline is in `CIRCUIT_OPEN` for good. -/
structure Overwritten (s : Threads φ) : Prop where
  keeps : Resumption.Keeps healingPath Final (some .running) s.remediation
  state_eq : s.world.pipeline.state = .circuitOpen
  tripped : s.tripping = none

theorem overwritten_step (h : s.Overwritten) (ht : s.step trip a = some t) : t.Overwritten := by
  obtain ⟨w, p, phase, entered, tripping⟩ := s
  cases a with
  | tripping =>
    have htripped : tripping = none := h.tripped
    rw [htripped] at ht
    cases ht
  | remediation =>
    cases p with
    | ret r => cases ht
    | work f k =>
      obtain rfl := Option.some.inj ht
      cases h.keeps with
      | work hf hk =>
        refine ⟨hk w, ?_, h.tripped⟩
        have hpipeline : (f w).pipeline = w.pipeline := hf w
        rw [hpipeline]
        exact h.state_eq
    | call c k =>
      cases h.keeps with
      | call hallows hnext => exact absurd rfl hallows.1

theorem overwritten_disagrees (h : s.Overwritten) (hdone : s.Done) : ¬s.Agree := by
  intro hagree
  obtain ⟨r, hr⟩ := hdone.1
  have hkeeps := h.keeps
  rw [hr] at hkeeps
  cases hkeeps with
  | ok hfinal =>
    have hrunning := hagree _ hr (hfinal.mpr rfl)
    rw [h.state_eq] at hrunning
    cases hrunning
  | raised hraise => exact hraise rfl

/-- A write of `CIRCUIT_OPEN` after `RUNNING` is there for good. -/
theorem overwritten_of_write (htrip : trip.transition.toState = .circuitOpen) (h : s.OnPath)
    (ht : s.step trip .tripping = some t) {curr : PipelineState}
    (hchecked : s.tripping = some (.checked curr)) (hrunning : s.entered = some .running) :
    t.Overwritten := by
  obtain ⟨phase, hphase, rfl⟩ := Option.map_eq_some_iff.mp ht
  obtain rfl := Option.some.inj (hphase.symm.trans hchecked)
  have hkeeps := h.keeps
  rw [hrunning] at hkeeps
  exact ⟨hkeeps, htrip, rfl⟩

theorem agree_of_onPath (h : s.OnPath) : s.Agree := by
  intro result hr hsuccess
  have hkeeps := h.keeps
  rw [hr] at hkeeps
  cases hkeeps with
  | ok hfinal => exact h.running (hfinal.mp hsuccess)

theorem onPath_agree_iff (htrip : trip.transition.toState = .circuitOpen) {schedule : List Thread}
    (h : s.OnPath) (ht : exec (step trip) s schedule = some t) (hdone : t.Done) :
    AllSteps (step trip) NotRejected s schedule ∧ t.Agree ↔
      AllSteps (step trip) OutOfTheWay s schedule := by
  -- as long as the other thread keeps out of the way, the remediation is on its path
  induction schedule generalizing s with
  | nil =>
    obtain rfl := Option.some.inj ht
    exact iff_of_true ⟨trivial, agree_of_onPath h⟩ trivial
  | cons a schedule ih =>
    obtain ⟨u, hu, hut⟩ := Option.bind_eq_some_iff.mp ht
    constructor
    · rintro ⟨hsteps, hagree⟩
      obtain ⟨hnot, hrest⟩ := hsteps u hu
      have hout : s.OutOfTheWay a u := by
        cases a with
        | remediation => exact (notRejected_iff h).mp hnot
        | tripping =>
          intro curr hchecked hrunning
          -- once written, `CIRCUIT_OPEN` lasts to the end of the schedule
          have hover := overwritten_of_write htrip h hu hchecked hrunning
          have hend : t.Overwritten := exec_preserves (fun _ _ _ => overwritten_step) hover hut
          exact overwritten_disagrees hend hdone hagree
      have hpath := onPath_step htrip h hu hnot hout
      intro u' hu'
      obtain rfl := Option.some.inj (hu.symm.trans hu')
      exact ⟨hout, (ih hpath hut).mp ⟨hrest, hagree⟩⟩
    · intro hsteps
      obtain ⟨hout, hrest⟩ := hsteps u hu
      have hnot : s.NotRejected a u := by
        cases a with
        | remediation => exact (notRejected_iff h).mpr hout
        | tripping => trivial
      have hpath := onPath_step htrip h hu hnot hout
      obtain ⟨hall, hagree⟩ := (ih hpath hut).mpr hrest
      refine ⟨fun u' hu' => ?_, hagree⟩
      obtain rfl := Option.some.inj (hu.symm.trans hu')
      exact ⟨hnot, hall⟩

/-- The two threads agree just in case the other thread keeps out of the way: no
transition of the remediation is rejected and a success leaves `RUNNING`, if and only
if no check that minds `CIRCUIT_OPEN` finds it and none is written after `RUNNING`. -/
theorem threads_agree_iff (ports : Ports φ) (cfg : ControllerConfig) (readings : Readings)
    (incidentId : IncidentId) (ctx : Dict) (w : World φ) (now : Date) (metrics : ErrorRateMetrics)
    (tripId : Option IncidentId) {schedule : List Thread}
    (ht : exec (step ⟨now, circuitOpenTransition metrics tripId⟩)
      (start w (Stepwise.executeRemediation ports cfg readings incidentId ctx)) schedule = some t)
    (hdone : t.Done) :
    AllSteps (step ⟨now, circuitOpenTransition metrics tripId⟩) NotRejected
        (start w (Stepwise.executeRemediation ports cfg readings incidentId ctx)) schedule ∧
        t.Agree ↔
      AllSteps (step ⟨now, circuitOpenTransition metrics tripId⟩) OutOfTheWay
        (start w (Stepwise.executeRemediation ports cfg readings incidentId ctx)) schedule :=
  onPath_agree_iff rfl
    ⟨keeps_executeRemediation ctx, nofun, nofun, fun _ => rfl, fun _ _ _ _ hread => nomatch hread⟩
    ht hdone

/-! ### The remediation alone -/

/-- The steps of a transition that nobody comes between are the transition. -/
theorem solo_transition (trip c : TransitionCall)
    (k : Except Exc Unit → Program φ RemediationResult) (w : World φ)
    (entered : Option PipelineState) (tripping : Option Phase) :
    ∃ n entered', exec (step trip) ⟨w, .call c k, .idle, entered, tripping⟩
      (List.replicate n .remediation) = some ⟨(World.transition c w).2,
        k (World.transition c w).1, .idle, entered', tripping⟩ := by
  set state := w.pipeline.state with hstate
  have hwrite (hallows : w.pipeline.allows c.transition = true) : World.transition c w =
      (.ok (), { w with pipeline := w.pipeline.moved c.now c.transition }) := by
    simp only [World.transition, Pipeline.transitionTo_of_allows hallows]
  by_cases hfree : (c.transition.force || c.transition.toState == state) = true
  · -- without a check: one read and the write
    have hread : step trip ⟨w, .call c k, .idle, entered, tripping⟩ .remediation =
        some ⟨w, .call c k, .checked state, entered, tripping⟩ := by
      simp only [step, Pipeline.advance, ← hstate, hfree, ↓reduceIte]
    have hallows : w.pipeline.allows c.transition = true := by
      rw [Pipeline.allows, ← hstate, hfree, Bool.true_or]
    refine ⟨2, some c.transition.toState, ?_⟩
    rw [hwrite hallows, List.replicate_succ, exec_cons, hread, Option.bind_some]
    rfl
  · have hread : step trip ⟨w, .call c k, .idle, entered, tripping⟩ .remediation =
        some ⟨w, .call c k, .read state, entered, tripping⟩ := by
      simp only [step, Pipeline.advance, ← hstate, hfree, Bool.false_eq_true, ↓reduceIte]
    by_cases hvalid : state.validTransitions.contains c.transition.toState = true
    · have hcheck : step trip ⟨w, .call c k, .read state, entered, tripping⟩ .remediation =
          some ⟨w, .call c k, .checked state, entered, tripping⟩ := by
        simp only [step, Pipeline.advance, ← hstate, hvalid, ↓reduceIte]
      have hallows : w.pipeline.allows c.transition = true := by
        rw [Pipeline.allows, ← hstate, hvalid, Bool.or_true]
      refine ⟨3, some c.transition.toState, ?_⟩
      rw [hwrite hallows, List.replicate_succ, exec_cons, hread, Option.bind_some,
        List.replicate_succ, exec_cons, hcheck, Option.bind_some]
      rfl
    · have hallows : ¬w.pipeline.allows c.transition = true := by
        rw [Pipeline.allows, ← hstate, Bool.or_eq_true, not_or]
        exact ⟨hfree, hvalid⟩
      refine ⟨2, entered, ?_⟩
      rw [List.replicate_succ, exec_cons, hread, Option.bind_some]
      simp only [List.replicate_succ, List.replicate_zero, exec_cons, exec_nil, step,
        Pipeline.advance, ← hstate, hvalid, World.transition, Pipeline.transitionTo, hallows,
        Bool.false_eq_true, ↓reduceIte, Option.bind_some]

/-- Steps of the remediation alone come to what the workflow comes to. -/
theorem solo_run (trip : TransitionCall) (p : Program φ RemediationResult) (w : World φ)
    (entered : Option PipelineState) (tripping : Option Phase) :
    ∃ n t, exec (step trip) ⟨w, p, .idle, entered, tripping⟩ (List.replicate n .remediation) =
      some t ∧ t.remediation = .ret (p.alone World.transition w).1 ∧
        t.world = (p.alone World.transition w).2 := by
  induction p generalizing w entered with
  | ret r => exact ⟨0, _, rfl, rfl, rfl⟩
  | work f k ih =>
    obtain ⟨n, t, hrun, hend⟩ := ih w (f w) entered
    exact ⟨n + 1, t, hrun, hend⟩
  | call c k ih =>
    obtain ⟨m, entered', htransition⟩ := solo_transition trip c k w entered tripping
    obtain ⟨n, t, hrun, hend⟩ := ih (World.transition c w).1 (World.transition c w).2 entered'
    refine ⟨m + n, t, ?_, hend⟩
    rw [List.replicate_add, exec_append, htransition, Option.bind_some]
    exact hrun

/-- Without the other thread, the steps come to what `execute_remediation` comes to. -/
theorem solo_executeRemediation (trip : TransitionCall) (ports : Ports φ) (cfg : ControllerConfig)
    (readings : Readings) (incidentId : IncidentId) (ctx : Dict) (w : World φ) :
    ∃ n t, exec (step trip)
        (start w (Stepwise.executeRemediation ports cfg readings incidentId ctx))
        (List.replicate n .remediation) = some t ∧
      t.remediation = .ret (executeRemediation ports cfg readings incidentId ctx w).1 ∧
      t.world = (executeRemediation ports cfg readings incidentId ctx w).2 := by
  have hrun := solo_run trip (Stepwise.executeRemediation ports cfg readings incidentId ctx) w none
    (some .idle)
  rw [Stepwise.alone_executeRemediation] at hrun
  exact hrun

end

/-! ### Two schedules -/

/-- The remediation's next step rejects its transition. -/
def rejects (s : Threads φ) : Bool :=
  match s.remediation with
  | .call c _ =>
    match s.world.pipeline.advance c.now c.transition s.phase with
    | .rejected _ => true
    | _ => false
  | _ => false

def ended (s : Threads φ) : Bool :=
  match s.remediation with
  | .ret _ => s.tripping.isNone
  | _ => false

theorem not_notRejected {trip : TransitionCall} {s : Threads φ} {schedule : List Thread}
    (h : (exec (step trip) s schedule).map rejects = some true) :
    ¬AllSteps (step trip) NotRejected s (schedule ++ [.remediation]) := by
  intro hall
  obtain ⟨u, hu, hrejects⟩ := Option.map_eq_some_iff.mp h
  obtain ⟨w, p, phase, entered, tripping⟩ := u
  cases p with
  | ret r => cases hrejects
  | work f k => cases hrejects
  | call c k =>
    cases hadvance : w.pipeline.advance c.now c.transition phase with
    | rejected e =>
      have hnot : NotRejected _ .remediation _ := hall.last hu (by simp only [step, hadvance]; rfl)
      exact hnot c k e rfl hadvance
    | continues phase' => simp [rejects, hadvance] at hrejects
    | written p' => simp [rejects, hadvance] at hrejects

theorem done_of_ended {s : Threads φ} (h : s.ended = true) : s.Done := by
  obtain ⟨w, p, phase, entered, tripping⟩ := s
  cases p with
  | ret r => exact ⟨⟨r, rfl⟩, Option.isNone_iff_eq_none.mp h⟩
  | work f k => cases h
  | call c k => cases h

/-- Half of the events of the window failed. -/
def exampleMetrics : ErrorRateMetrics := ⟨60, 0, 0, 10, 5, 5, 0.5, 50, .critical, true, 0⟩

def exampleTrip : TransitionCall := ⟨0, circuitOpenTransition exampleMetrics (some exampleIncident)⟩

def exampleStart : Threads Unit :=
  start exampleWorld (Stepwise.executeRemediation (examplePorts true) exampleConfig
    Remediation.exampleReadings exampleIncident [])

/-- The remediation has entered `REFETCHING` before the other thread gets to write, and
is about to check its next transition. -/
def lateTrip : List Thread :=
  List.replicate 13 .remediation ++ List.replicate 3 .tripping ++ List.replicate 4 .remediation

/-- Its transition to `REPROCESSING` is rejected. -/
theorem late_trip_rejects_remediation :
    ¬AllSteps (step exampleTrip) NotRejected exampleStart (lateTrip ++ [.remediation]) :=
  not_notRejected (by decide +kernel)

/-- The other thread is through before the remediation begins. -/
def earlyTrip : List Thread := List.replicate 3 .tripping ++ List.replicate 46 .remediation

theorem early_trip_agrees_iff : ∃ t, exec (step exampleTrip) exampleStart earlyTrip = some t ∧
    (AllSteps (step exampleTrip) NotRejected exampleStart earlyTrip ∧ t.Agree ↔
      AllSteps (step exampleTrip) OutOfTheWay exampleStart earlyTrip) := by
  have hended : (exec (step exampleTrip) exampleStart earlyTrip).map ended = some true := by
    decide +kernel
  obtain ⟨t, ht, hdone⟩ := Option.map_eq_some_iff.mp hended
  exact ⟨t, ht, threads_agree_iff (examplePorts true) exampleConfig Remediation.exampleReadings
    exampleIncident [] exampleWorld 0 exampleMetrics (some exampleIncident) ht (done_of_ended hdone)⟩

end Threads
end Streaming
end IceStream
