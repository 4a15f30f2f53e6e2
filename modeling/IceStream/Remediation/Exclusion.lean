import IceStream.Lib.Stepping
import IceStream.Remediation.Outcomes
import IceStream.Remediation.Path
import IceStream.Remediation.Stepwise
import Mathlib.Logic.Function.Basic

/-!
# One remediation at a time

Each controller refuses a second remediation while its own is under way, by a
flag in its memory. Controllers in different processes share the pipeline, the
incidents and the breaker's row, but not the flag.
-/

namespace IceStream.Remediation
open Python Stepping Resumption

variable {φ : Type}

/-! ## The workflow behind its guard -/

namespace Stepwise

variable (ports : Ports φ) (cfg : ControllerConfig) (readings : Readings)
  (incidentId : IncidentId) (ctx : Dict)

/-- `with self._lock`: whether a remediation is under way, and from now on one is. -/
def guard : WorldM φ Bool := fun w => (.ok w.active, { w with active := true })

def clear (w : World φ) : World φ := { w with active := false }

/-- The `try` behind the guard, with its `finally`. -/
def guarded : Program φ RemediationResult :=
  (remediate ports cfg readings incidentId ctx).ensuring clear

/-- Run alone, the guard and what is behind it are the workflow. -/
theorem alone_guarded :
    (do
      if ← lift guard then pure (failure readings incidentId "IDEMPOTENT_SKIPPED" 0
        "Remediation workflow already in progress for this pipeline")
      else guarded ports cfg readings incidentId ctx : Program φ RemediationResult).alone
        World.transition = Remediation.executeRemediation ports cfg readings incidentId ctx := by
  funext w
  simp only [alone_bind, alone_lift, alone_ite, alone_pure, guarded, alone_ensuring,
    alone_remediate, Remediation.executeRemediation, Fallible.read_bind]
  have hguard : guard w = (.ok w.active, { w with active := true }) := rfl
  rw [Fallible.bind_ok hguard]
  cases hactive : w.active with
  | true =>
    have hsame : { w with active := true } = w := by rw [← hactive]
    simp only [↓reduceIte, hsame]
  | false => rfl

end Stepwise

/-! ## Who touches the flag -/

/-- Only the guard and the `finally` touch the flag. -/
def LeavesFlag (f : World φ → World φ) : Prop := ∀ w, (f w).active = w.active

section

variable {ports : Ports φ} {cfg : ControllerConfig} {readings : Readings}
  {incidentId : IncidentId}

abbrev Flagless {α : Type} (p : Program φ α) : Prop := p.Works LeavesFlag

theorem flagless_enter (t : Transition) :
    Flagless (Stepwise.enter readings t : Program φ Unit) :=
  (works_request _).bind fun _ => works_lift fun _ => rfl

theorem flagless_recordFailure (incident : Incident) (attempt : ℕ) (error : Text) :
    Flagless (Stepwise.recordFailure readings incidentId incident attempt error :
      Program φ Unit) :=
  (flagless_enter _).bind fun _ => works_lift fun _ => rfl

theorem flagless_failed (incident : Incident) (attempt : ℕ) (error : Text)
    (row : RemediationAttempt) (result : RemediationResult) : Flagless (do
      Stepwise.recordFailure readings incidentId incident attempt error
      lift (World.recordAttempt row)
      pure result : Program φ RemediationResult) := by
  apply (flagless_recordFailure incident attempt error).bind
  intro _
  apply (works_lift fun _ => rfl).bind
  intro _
  exact works_pure _

theorem flagless_complete (incident : Incident) (attempt : ℕ) (result : ReprocessResult)
    (sink : IngestionResult) :
    Flagless (Stepwise.complete ports readings incidentId incident attempt result sink) := by
  apply (works_lift fun _ => rfl).bind
  intro _
  apply (flagless_enter _).bind
  intro _
  apply (flagless_enter _).bind
  intro _
  apply (works_lift fun _ => rfl).bind
  intro _
  apply (works_lift fun _ => rfl).bind
  intro _
  apply (works_lift fun _ => rfl).bind
  intro _
  apply (works_lift fun _ => rfl).bind
  intro _
  exact works_pure _

theorem flagless_recordRecoveryResult (errorRate : Float) :
    Flagless (lift (recordRecoveryResult readings errorRate) : Program φ CircuitState) :=
  works_lift fun w => preserves_recordRecoveryResult (I := fun w' => w'.active = w.active)
    (fun _ _ h => h) (fun _ _ h => h) errorRate w rfl

theorem flagless_mayReingest (result : ReprocessResult) (recorded : CircuitState) :
    Flagless (lift (mayReingest readings result recorded) : Program φ Bool) :=
  works_lift fun w => preserves_mayReingest (I := fun w' => w'.active = w.active)
    (fun _ _ h => h) (fun _ _ h => h) result recorded w rfl

theorem flagless_reprocessAndReingest (incident : Incident) (attempt : ℕ) (events : List Dict) :
    Flagless (Stepwise.reprocessAndReingest ports readings incidentId incident attempt events) := by
  apply (flagless_enter _).bind
  intro _
  apply (works_lift fun _ => rfl).bind
  intro result
  apply (flagless_enter _).bind
  intro _
  apply (flagless_recordRecoveryResult _).bind
  intro recorded
  apply (flagless_mayReingest _ _).bind
  intro proceed
  cases proceed with
  | false => exact flagless_failed incident attempt _ _ _
  | true =>
    apply (flagless_enter _).bind
    intro _
    apply (works_lift fun _ => rfl).bind
    intro sink
    split
    · exact flagless_complete incident attempt result sink
    · exact flagless_failed incident attempt _ _ _

theorem flagless_recover (incident : Incident) (attempt : ℕ) (ctx : Dict) :
    Flagless (Stepwise.recover ports readings incidentId incident attempt ctx) := by
  unfold Stepwise.recover
  split
  · exact flagless_failed incident attempt _ _ _
  · apply (works_lift fun _ => rfl).bind
    intro _
    apply (flagless_enter _).bind
    intro _
    apply (works_lift fun _ => rfl).bind
    intro fetched
    cases fetched with
    | error e =>
      apply (flagless_recordFailure incident attempt _).bind
      intro _
      exact works_pure _
    | ok events =>
      apply (works_lift fun _ => rfl).bind
      intro _
      exact flagless_reprocessAndReingest incident attempt events

theorem flagless_getOrCreateIncident (request : IncidentRequest) (id : Option IncidentId) :
    Flagless (lift (getOrCreateIncident cfg readings request id) : Program φ Incident) := by
  apply works_lift
  intro w
  simp only [getOrCreateIncident, Fallible.read_bind]
  cases id with
  | some id =>
    dsimp only
    cases w.incidents.getIncident id <;> rfl
  | none =>
    dsimp only
    cases w.incidents.findActiveIncident cfg.pipelineId <;> rfl

theorem flagless_remediate (ctx : Dict) :
    Flagless (Stepwise.remediate ports cfg readings incidentId ctx) := by
  apply (flagless_getOrCreateIncident _ _).bind
  intro incident
  dsimp only
  split
  · apply (flagless_enter _).bind
    intro _
    exact works_pure _
  · apply Works.bind
    · apply (works_lift fun _ => rfl).bind
      intro _
      apply (flagless_enter _).bind
      intro _
      apply (works_lift fun _ => rfl).bind
      intro _
      exact works_lift fun _ => rfl
    · intro _
      exact flagless_recover _ _ ctx

end

/-! ## Controllers -/

/-- Controllers of one pipeline, each in its own process with its own services. -/
structure Controllers (φ : Type) where
  pipelineId : Text
  ports : ℕ → Ports φ
  cfg : ℕ → ControllerConfig
  pipelineId_eq : ∀ c, (cfg c).pipelineId = pipelineId

/-- A call of `execute_remediation`. -/
structure RemediationCall where
  controller : ℕ
  incidentId : IncidentId
  ctx : Dict
  readings : Readings

/-- Where a thread stands between two of its steps. -/
inductive WorkflowPhase (φ : Type)
  | idle
  | waiting (call : RemediationCall)
  /-- Past the guard and not yet finished. -/
  | working (controller : ℕ) (rest : Program φ RemediationResult)

/-- What the controllers share, and what each keeps in its memory. -/
structure ControllerThreads (φ : Type) where
  shared : World φ
  active : ℕ → Bool
  circuit : ℕ → Circuit
  phase : ℕ → WorkflowPhase φ

inductive WorkflowStep
  | call (thread : ℕ) (call : RemediationCall)
  | step (thread : ℕ)

namespace ControllerThreads

/-- The world as controller `c` sees it: its flag and its breaker, over the shared storage. -/
def view (s : ControllerThreads φ) (c : ℕ) : World φ :=
  { s.shared with
    active := s.active c
    circuit := { s.circuit c with storage := s.shared.circuit.storage } }

/-- What is left when `c` has made of its world `w`. -/
def put (s : ControllerThreads φ) (c : ℕ) (w : World φ) : ControllerThreads φ :=
  { s with
    shared := w
    active := Function.update s.active c w.active
    circuit := Function.update s.circuit c w.circuit }

def moveTo (s : ControllerThreads φ) (thread : ℕ) (phase : WorkflowPhase φ) :
    ControllerThreads φ :=
  { s with phase := Function.update s.phase thread phase }

/-- A program that has returned is over. -/
def goOn (s : ControllerThreads φ) (thread c : ℕ) : Program φ RemediationResult →
    ControllerThreads φ
  | .ret _ => s.moveTo thread .idle
  | p => s.moveTo thread (.working c p)

variable (controllers : Controllers φ)

def step (s : ControllerThreads φ) : WorkflowStep → Option (ControllerThreads φ)
  | .call thread asked => match s.phase thread with
    | .idle => some (s.moveTo thread (.waiting asked))
    | _ => none
  | .step thread => match s.phase thread with
    | .idle => none
    | .waiting asked =>
      let c := asked.controller
      if s.active c then some (s.moveTo thread .idle)
      else some ((s.put c (Stepwise.guard (s.view c)).2).goOn thread c
        (Stepwise.guarded (controllers.ports c) (controllers.cfg c) asked.readings
          asked.incidentId asked.ctx))
    | .working _ (Resumption.ret _) => some (s.moveTo thread .idle)
    | .working c (Resumption.work f k) =>
      some ((s.put c (f (s.view c))).goOn thread c (k (s.view c)))
    | .working c (Resumption.call t k) =>
      some ((s.put c (World.transition t (s.view c)).2).goOn thread c
        (k (World.transition t (s.view c)).1))

/-- A workflow of controller `c` is past the guard in this thread and not yet finished. -/
def Working (s : ControllerThreads φ) (thread c : ℕ) : Prop := ∃ p, s.phase thread = .working c p

def Exclusive (s : ControllerThreads φ) : Prop :=
  ∀ i j c d, s.Working i c → s.Working j d → i = j

/-- The step takes a call past its controller's guard. -/
def Admits (s : ControllerThreads φ) (a : WorkflowStep) (asked : RemediationCall) : Prop :=
  ∃ thread, a = .step thread ∧ s.phase thread = .waiting asked ∧
    s.active asked.controller = false

theorem Admits.free {s : ControllerThreads φ} {a : WorkflowStep} {asked : RemediationCall}
    (h : s.Admits a asked) : s.active asked.controller = false := by
  obtain ⟨-, -, -, hfree⟩ := h
  exact hfree

/-- A call taken past its guard finds no workflow of another controller under way. -/
def OthersRest (s : ControllerThreads φ) (a : WorkflowStep) : Prop :=
  ∀ asked, s.Admits a asked → ∀ i c, s.Working i c → c = asked.controller

/-! ## What a step does -/

/-- A workflow under way has its controller's flag set, and `finally` still before it. -/
structure Flagged (s : ControllerThreads φ) : Prop where
  flag : ∀ i c, s.Working i c → s.active c = true
  rest : ∀ i c p, s.phase i = .working c p →
    ∃ q : Program φ RemediationResult, p = q.ensuring Stepwise.clear ∧ Flagless q

/-- What a step does to the flags and the phases. -/
inductive Moves (s t : ControllerThreads φ) (a : WorkflowStep) : Prop
  | aside (thread : ℕ) (phase : WorkflowPhase φ) (hno : ∀ asked, ¬s.Admits a asked)
      (hphase : ∀ c p, phase ≠ .working c p)
      (hactive : t.active = s.active) (hphases : t.phase = Function.update s.phase thread phase)
  | enters (thread : ℕ) (asked : RemediationCall) (q : Program φ RemediationResult)
      (hwaiting : s.phase thread = .waiting asked) (hadmits : s.Admits a asked)
      (hq : Flagless q)
      (hactive : t.active = Function.update s.active asked.controller true)
      (hphases : t.phase = Function.update s.phase thread
        (.working asked.controller (q.ensuring Stepwise.clear)))
  | goesOn (thread c : ℕ) (q : Program φ RemediationResult)
      (hno : ∀ asked, ¬s.Admits a asked) (hworking : s.Working thread c) (hq : Flagless q)
      (hactive : t.active = s.active)
      (hphases : t.phase = Function.update s.phase thread
        (.working c (q.ensuring Stepwise.clear)))
  | ends (thread c : ℕ) (hno : ∀ asked, ¬s.Admits a asked) (hworking : s.Working thread c)
      (hactive : t.active = Function.update s.active c false)
      (hphases : t.phase = Function.update s.phase thread .idle)

theorem goOn_ensuring (s : ControllerThreads φ) (thread c : ℕ)
    (q : Program φ RemediationResult) :
    s.goOn thread c (q.ensuring Stepwise.clear) =
      s.moveTo thread (.working c (q.ensuring Stepwise.clear)) := by
  cases q <;> rfl

/-- A step that leaves the flag of its own view leaves every flag. -/
theorem put_active {s : ControllerThreads φ} {c : ℕ} {w : World φ} (h : w.active = s.active c) :
    (s.put c w).active = s.active := by
  change Function.update s.active c w.active = s.active
  rw [h, Function.update_eq_self]

variable {controllers} {s t : ControllerThreads φ} {a : WorkflowStep}

theorem not_admits_of_working {thread c : ℕ} (h : s.Working thread c) (asked : RemediationCall) :
    ¬s.Admits (.step thread) asked := by
  rintro ⟨i, hi, hwaiting, -⟩
  obtain ⟨p, hp⟩ := h
  cases hi
  rw [hwaiting] at hp
  cases hp

theorem moves_of_step (h : s.Flagged) (ht : step controllers s a = some t) : s.Moves t a := by
  cases a with
  | call thread asked =>
    simp only [step] at ht
    split at ht
    · rename_i hphase
      obtain rfl := Option.some.inj ht
      refine .aside thread (.waiting asked) ?_ ?_ rfl rfl
      · rintro asked' ⟨i, hi, -⟩
        cases hi
      · intro c p hp
        cases hp
    · cases ht
  | step thread =>
    simp only [step] at ht
    split at ht
    · cases ht
    · rename_i asked hphase
      split at ht
      · rename_i hshut
        obtain rfl := Option.some.inj ht
        refine .aside thread .idle ?_ ?_ rfl rfl
        · rintro asked' ⟨i, hi, hwaiting, hfree⟩
          cases hi
          rw [hphase] at hwaiting
          cases hwaiting
          rw [hshut] at hfree
          cases hfree
        · intro c p hp
          cases hp
      · rename_i hfree
        obtain rfl := Option.some.inj ht
        rw [Stepwise.guarded, goOn_ensuring]
        exact .enters thread asked _ hphase
          ⟨thread, rfl, hphase, Bool.eq_false_of_not_eq_true hfree⟩
          (flagless_remediate asked.ctx) rfl rfl
    · rename_i c r hphase
      -- a workflow under way has the `finally` before it and has not returned
      obtain ⟨q, hq, -⟩ := h.rest thread c _ hphase
      cases q <;> cases hq
    · rename_i c f k hphase
      obtain rfl := Option.some.inj ht
      obtain ⟨q, hq, hflagless⟩ := h.rest thread c _ hphase
      cases q with
      | ret r =>
        cases hq
        exact .ends thread c (not_admits_of_working ⟨_, hphase⟩) ⟨_, hphase⟩ rfl rfl
      | work g k' =>
        cases hq
        rw [goOn_ensuring]
        exact .goesOn thread c (k' (s.view c)) (not_admits_of_working ⟨_, hphase⟩)
          ⟨_, hphase⟩ (hflagless.2 _) (put_active (hflagless.1 _)) rfl
      | call call k' => cases hq
    · rename_i c call k hphase
      obtain rfl := Option.some.inj ht
      obtain ⟨q, hq, hflagless⟩ := h.rest thread c _ hphase
      cases q with
      | ret r => cases hq
      | work g k' => cases hq
      | call call' k' =>
        cases hq
        rw [goOn_ensuring]
        refine .goesOn thread c _ (not_admits_of_working ⟨_, hphase⟩) ⟨_, hphase⟩ (hflagless _)
          (put_active ?_) rfl
        unfold World.transition
        split <;> rfl

theorem working_update {thread : ℕ} {phase : WorkflowPhase φ}
    (h : t.phase = Function.update s.phase thread phase) {i c : ℕ} :
    t.Working i c ↔ (i = thread ∧ ∃ p, phase = .working c p) ∨ (i ≠ thread ∧ s.Working i c) := by
  unfold Working
  rw [h]
  by_cases hi : i = thread
  · subst hi
    simp
  · simp [hi]

/-- While workflows exclude each other, the one that ends lowers nobody else's flag. -/
theorem Moves.flagged (h : s.Flagged) (hone : s.Exclusive) (m : s.Moves t a) : t.Flagged := by
  cases m with
  | aside thread phase hno hphase hactive hphases =>
    constructor
    · intro i c hi
      rw [hactive]
      obtain ⟨-, p, hp⟩ | ⟨-, hold⟩ := (working_update hphases).mp hi
      · exact absurd hp (hphase c p)
      · exact h.flag i c hold
    · intro i c p hi
      rw [hphases] at hi
      by_cases hthread : i = thread
      · rw [hthread, Function.update_self] at hi
        exact absurd hi (hphase c p)
      · rw [Function.update_of_ne hthread] at hi
        exact h.rest i c p hi
  | enters thread asked q hwaiting hadmits hq hactive hphases =>
    constructor
    · intro i c hi
      rw [hactive]
      obtain ⟨-, p, hp⟩ | ⟨-, hold⟩ := (working_update hphases).mp hi
      · cases hp
        exact Function.update_self ..
      · by_cases hc : c = asked.controller
        · rw [hc, Function.update_self]
        · rw [Function.update_of_ne hc]
          exact h.flag i c hold
    · intro i c p hi
      rw [hphases] at hi
      by_cases hthread : i = thread
      · rw [hthread, Function.update_self] at hi
        cases hi
        exact ⟨q, rfl, hq⟩
      · rw [Function.update_of_ne hthread] at hi
        exact h.rest i c p hi
  | goesOn thread c q hno hworking hq hactive hphases =>
    constructor
    · intro i d hi
      rw [hactive]
      obtain ⟨-, p, hp⟩ | ⟨-, hold⟩ := (working_update hphases).mp hi
      · cases hp
        exact h.flag thread c hworking
      · exact h.flag i d hold
    · intro i d p hi
      rw [hphases] at hi
      by_cases hthread : i = thread
      · rw [hthread, Function.update_self] at hi
        cases hi
        exact ⟨q, rfl, hq⟩
      · rw [Function.update_of_ne hthread] at hi
        exact h.rest i d p hi
  | ends thread c hno hworking hactive hphases =>
    -- nobody else is under way, so there is no flag left to account for
    have hnone : ∀ i d, ¬t.Working i d := by
      intro i d hi
      obtain ⟨-, p, hp⟩ | ⟨hthread, hold⟩ := (working_update hphases).mp hi
      · cases hp
      · exact hthread (hone i thread d c hold hworking)
    exact ⟨fun i d hi => absurd hi (hnone i d), fun i d p hi => absurd ⟨p, hi⟩ (hnone i d)⟩

/-- A step that adds no workflow keeps them apart. -/
theorem Exclusive.of_working (hone : s.Exclusive)
    (h : ∀ i c, t.Working i c → s.Working i c) : t.Exclusive :=
  fun i j c d hi hj => hone i j c d (h i c hi) (h j d hj)

theorem Moves.exclusive_iff (h : s.Flagged) (hone : s.Exclusive) (m : s.Moves t a) :
    t.Exclusive ↔ s.OthersRest a := by
  cases m with
  | aside thread phase hno hphase hactive hphases =>
    refine iff_of_true (hone.of_working ?_) fun asked hadmits => absurd hadmits (hno asked)
    intro i c hi
    obtain ⟨-, p, hp⟩ | ⟨-, hold⟩ := (working_update hphases).mp hi
    · exact absurd hp (hphase c p)
    · exact hold
  | enters thread asked q hwaiting hadmits hq hactive hphases =>
    have hnot : ∀ i c, s.Working i c → i ≠ thread := by
      rintro i c ⟨p, hp⟩ hi
      rw [hi, hwaiting] at hp
      cases hp
    constructor
    · intro hexclusive asked' _ i c hi
      -- a workflow under way would now be a second one
      have hkept : t.Working i c := (working_update hphases).mpr (.inr ⟨hnot i c hi, hi⟩)
      have hthread : t.Working thread asked.controller :=
        (working_update hphases).mpr (.inl ⟨rfl, _, rfl⟩)
      exact absurd (hexclusive i thread c asked.controller hkept hthread) (hnot i c hi)
    · intro hothers
      -- the controller's own workflows have its flag up, and others are at rest
      have hnone : ∀ i c, ¬s.Working i c := by
        intro i c hi
        have hflag := h.flag i c hi
        rw [hothers asked hadmits i c hi, hadmits.free] at hflag
        cases hflag
      have hall : ∀ i c, t.Working i c → i = thread := by
        intro i c hi
        obtain ⟨hi, -⟩ | ⟨-, hold⟩ := (working_update hphases).mp hi
        · exact hi
        · exact absurd hold (hnone i c)
      intro i j c d hi hj
      rw [hall i c hi, hall j d hj]
  | goesOn thread c q hno hworking hq hactive hphases =>
    refine iff_of_true (hone.of_working ?_) fun asked hadmits => absurd hadmits (hno asked)
    intro i d hi
    obtain ⟨rfl, p, hp⟩ | ⟨-, hold⟩ := (working_update hphases).mp hi
    · cases hp
      exact hworking
    · exact hold
  | ends thread c hno hworking hactive hphases =>
    refine iff_of_true (hone.of_working ?_) fun asked hadmits => absurd hadmits (hno asked)
    intro i d hi
    obtain ⟨-, p, hp⟩ | ⟨-, hold⟩ := (working_update hphases).mp hi
    · cases hp
    · exact hold

/-! ## Every interleaving -/

/-- Over every interleaving, at most one workflow is past its guard exactly as long as no
call is taken past its own while a workflow of another controller is under way. -/
theorem exclusive_iff_others_rest (controllers : Controllers φ) (s : ControllerThreads φ)
    (h : ∀ i, s.phase i = .idle) (steps : List WorkflowStep) :
    AllSteps (step controllers) (fun _ _ t => t.Exclusive) s steps ↔
      AllSteps (step controllers) (fun s a _ => s.OthersRest a) s steps := by
  apply allSteps_iff_of_invariant (I := fun s => s.Flagged ∧ s.Exclusive)
  · intro s a t hs ht
    exact (moves_of_step hs.1 ht).exclusive_iff hs.1 hs.2
  · intro s a t hs ht hothers
    have hmoves := moves_of_step hs.1 ht
    exact ⟨hmoves.flagged hs.1 hs.2, (hmoves.exclusive_iff hs.1 hs.2).mpr hothers⟩
  · have hnone : ∀ i c p, s.phase i ≠ .working c p := by
      intro i c p hp
      rw [h i] at hp
      cases hp
    refine ⟨⟨?_, fun i c p hp => absurd hp (hnone i c p)⟩, ?_⟩
    · rintro i c ⟨p, hp⟩
      exact absurd hp (hnone i c p)
    · rintro i j c d ⟨p, hp⟩
      exact absurd hp (hnone i c p)

/-! ### The stream worker and the backend -/

/-- Two controllers of one pipeline. -/
def exampleControllers : Controllers Unit where
  pipelineId := "icestream"
  ports _ := examplePorts true
  cfg _ := exampleConfig
  pipelineId_eq _ := rfl

def exampleThreads : ControllerThreads Unit :=
  ⟨exampleWorld, fun _ => false, fun _ => exampleWorld.circuit, fun _ => .idle⟩

def exampleCallOf (controller : ℕ) : RemediationCall :=
  ⟨controller, exampleIncident, [], exampleReadings⟩

/-- One controller is called twice: the second call finds the flag. -/
def calledTwice : List WorkflowStep :=
  [.call 0 (exampleCallOf 0), .call 1 (exampleCallOf 0), .step 0, .step 1]

theorem one_controller_excludes :
    AllSteps (step exampleControllers) (fun _ _ t => t.Exclusive) exampleThreads calledTwice := by
  apply (exclusive_iff_others_rest exampleControllers exampleThreads (fun _ => rfl)
    calledTwice).mpr
  intro t ht
  obtain rfl := Option.some.inj ht
  refine ⟨fun asked ⟨i, hi, _⟩ => (by cases hi), fun t ht => ?_⟩
  obtain rfl := Option.some.inj ht
  refine ⟨fun asked ⟨i, hi, _⟩ => (by cases hi), fun t ht => ?_⟩
  obtain rfl := Option.some.inj ht
  constructor
  · intro asked hadmits i c hi
    -- both threads are waiting and the others idle
    obtain ⟨p, hp⟩ := hi
    rcases i with _ | _ | i <;> cases hp
  intro t ht
  obtain rfl := Option.some.inj ht
  refine ⟨?_, trivial⟩
  intro asked hadmits
  -- the first call has set the flag
  obtain ⟨i, hi, hwaiting, hfree⟩ := hadmits
  cases hi
  cases hwaiting
  cases hfree

/-- Each of two controllers is called: both find their own flag down. -/
def calledAtBoth : List WorkflowStep :=
  [.call 0 (exampleCallOf 0), .call 1 (exampleCallOf 1), .step 0, .step 1]

/-- Two controllers are in their workflows at once. -/
theorem two_controllers_at_once :
    ¬AllSteps (step exampleControllers) (fun _ _ t => t.Exclusive) exampleThreads
      calledAtBoth := by
  intro hall
  obtain ⟨-, h₁⟩ := hall _ rfl
  obtain ⟨-, h₂⟩ := h₁ _ rfl
  obtain ⟨-, h₃⟩ := h₂ _ rfl
  obtain ⟨hexclusive, -⟩ := h₃ _ rfl
  exact absurd (hexclusive 0 1 0 1 ⟨_, rfl⟩ ⟨_, rfl⟩) (by decide)

end ControllerThreads

end IceStream.Remediation
