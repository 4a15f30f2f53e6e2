import IceStream.Remediation.FlinkController

/-!
# Resuming from a savepoint

A controller remembers the savepoint of its own last stop until a resume of its
own is confirmed. The controllers of one cluster do not know of each other's.
-/

namespace IceStream.Remediation
open Python FlinkController FlinkWorld

variable {φ : Type}

/-! ## What a past says -/

/-- The latest stop that succeeded: by which controller, and its savepoint. -/
def latestStop : List FlinkAction → Option (ℕ × Json)
  | [] => none
  | .stopped controller savepoint :: _ => some (controller, savepoint)
  | .submitted .. :: past => latestStop past
  | .confirmed _ :: past => latestStop past

/-- The controller has confirmed a resume since the latest stop. -/
def confirmedSince (controller : ℕ) : List FlinkAction → Bool
  | [] => false
  | .stopped .. :: _ => false
  | .submitted .. :: past => confirmedSince controller past
  | .confirmed c :: past => c == controller || confirmedSince controller past

/-- The savepoint of the controller's own latest stop, unless it has confirmed a resume since. -/
def remembered (controller : ℕ) : List FlinkAction → Json
  | [] => .null
  | .stopped c savepoint :: past => if c = controller then savepoint else remembered controller past
  | .submitted .. :: past => remembered controller past
  | .confirmed c :: past => if c = controller then .null else remembered controller past

theorem remembered_of_no_stop {past : List FlinkAction} (h : latestStop past = none)
    (controller : ℕ) : remembered controller past = .null := by
  induction past with
  | nil => rfl
  | cons action past ih =>
    cases action with
    | stopped c savepoint => cases h
    | submitted c template script => exact ih h
    | confirmed c =>
      rw [remembered, ih h]
      exact ite_self _

theorem remembered_of_latestStop {past : List FlinkAction} {controller : ℕ} {savepoint : Json}
    (h : latestStop past = some (controller, savepoint)) :
    remembered controller past =
      if confirmedSince controller past then .null else savepoint := by
  induction past with
  | nil => cases h
  | cons action past ih =>
    cases action with
    | stopped c savepoint' =>
      obtain ⟨rfl, rfl⟩ := Prod.mk.inj (Option.some.inj h)
      exact if_pos rfl
    | submitted c template script => exact ih h
    | confirmed c =>
      by_cases hc : c = controller
      · simp [remembered, confirmedSince, hc]
      · simpa [remembered, confirmedSince, hc] using ih h

/-! ## What a script injects -/

/-- Where the template sets the enforcer, it does so by the very statement that
`resume_job` looks for. -/
def Configured (template : Text) : Prop :=
  enforcerSetting <:+: template → enforcerStatement <:+: template

/-- The script is the template with the directive for this savepoint, or without any when
there is no savepoint. -/
structure Injects (u : Unicode) (savepoint : Json) (template script : Text) : Prop where
  script_eq : script = renderScript u savepoint template
  directive : savepoint.truthy = true → Configured template →
    savepointDirective (savepoint.toText u) <:+: script

theorem infix_withExit {part script : Text} (h : part <:+: script) : part <:+: withExit script := by
  unfold withExit
  split
  · exact h
  · exact h.trans (List.prefix_append script _).isInfix

theorem infix_injectSavepoint (savepoint : Text) {template : Text} (h : Configured template) :
    savepointDirective savepoint <:+: injectSavepoint savepoint template := by
  unfold injectSavepoint
  split
  · rename_i hset
    have hbehind : savepointDirective savepoint <:+:
        enforcerStatement ++ text "\n" ++ savepointDirective savepoint :=
      (List.suffix_append _ _).isInfix
    exact hbehind.trans (infix_replaceText _ (by decide) (h hset))
  · exact (List.prefix_append _ template).isInfix

theorem injects_renderScript (u : Unicode) (savepoint : Json) (template : Text) :
    Injects u savepoint template (renderScript u savepoint template) := by
  refine ⟨rfl, ?_⟩
  intro htruthy hconfigured
  rw [renderScript, if_pos htruthy]
  exact infix_withExit (infix_injectSavepoint _ hconfigured)

/-! ## The law of a past -/

/-- Every action of the past stands before what `P` asks of it. -/
def AlongPast (P : List FlinkAction → FlinkAction → Prop) : List FlinkAction → Prop
  | [] => True
  | action :: past => P past action ∧ AlongPast P past

/-- A submission continues the latest stop when the submitting controller made it, unless
that controller has confirmed a resume since. -/
def ContinuesOwnStop (ports : ℕ → FlinkPorts φ) (past : List FlinkAction) : FlinkAction → Prop
  | .submitted controller template script =>
    match latestStop past with
    | none => Injects (ports controller).unicode .null template script
    | some (stopper, savepoint) => stopper = controller →
      Injects (ports controller).unicode
        (if confirmedSince controller past then .null else savepoint) template script
  | _ => True

/-- A submission continues the latest stop, whoever made it. -/
def ContinuesLatestStop (ports : ℕ → FlinkPorts φ) (past : List FlinkAction) :
    FlinkAction → Prop
  | .submitted controller template script =>
    Injects (ports controller).unicode (((latestStop past).map Prod.snd).getD .null)
      template script
  | _ => True

/-- What a controller remembers injects what the law asks for. -/
theorem continuesOwnStop_of_remembered (ports : ℕ → FlinkPorts φ) (past : List FlinkAction)
    {controller : ℕ} {template script : Text}
    (h : Injects (ports controller).unicode (remembered controller past) template script) :
    ContinuesOwnStop ports past (.submitted controller template script) := by
  unfold ContinuesOwnStop
  cases hstop : latestStop past with
  | none =>
    rw [remembered_of_no_stop hstop] at h
    exact h
  | some stop =>
    intro hown
    have hlatest : latestStop past = some (controller, stop.2) := by rw [hstop, ← hown]
    rw [remembered_of_latestStop hlatest] at h
    exact h

/-! ## Every call keeps it -/

/-- The memories are what the past makes of them, and the past keeps the law. -/
structure Accounted (ports : ℕ → FlinkPorts φ) (w : FlinkWorld φ) : Prop where
  memory : ∀ c, w.lastSavepointPath c = remembered c w.past
  law : AlongPast (ContinuesOwnStop ports) w.past

section

variable {ports : ℕ → FlinkPorts φ} {cfg : FlinkConfig} {controller : ℕ}

open Fallible

theorem accounted_onOutside {α : Type} (x : Fallible φ α) :
    Preserves (Accounted ports) (onOutside x) := fun _ h => ⟨h.memory, h.law⟩

/-- An action that is no submission, noted with the memory that goes with it. -/
theorem Accounted.noted {w : FlinkWorld φ} (h : Accounted ports w) {action : FlinkAction}
    {savepoint : Json} (hlaw : ContinuesOwnStop ports w.past action)
    (hself : remembered controller (action :: w.past) = savepoint)
    (hothers : ∀ c, c ≠ controller → remembered c (action :: w.past) = remembered c w.past) :
    Accounted ports { w with
      lastSavepointPath := Function.update w.lastSavepointPath controller savepoint
      past := action :: w.past } := by
  refine ⟨?_, hlaw, h.law⟩
  intro c
  by_cases hc : c = controller
  · rw [hc]
    exact (Function.update_self ..).trans hself.symm
  · exact (Function.update_of_ne hc _ _).trans ((h.memory c).trans (hothers c hc).symm)

theorem accounted_pauseJob :
    Preserves (Accounted ports) (pauseJob (ports controller) cfg controller) := by
  apply (accounted_onOutside _).bind
  intro found
  cases givenText found with
  | none => exact preserves_pure _
  | some jobId =>
    apply (accounted_onOutside _).bind
    intro stopped
    cases stopped with
    | none => exact preserves_pure _
    | some savepoint =>
      intro w h
      have hlaw : ContinuesOwnStop ports w.past (.stopped controller savepoint) := trivial
      have hself : remembered controller (.stopped controller savepoint :: w.past) = savepoint :=
        if_pos rfl
      have hnoted := h.noted hlaw hself fun c hc => if_neg (Ne.symm hc)
      simp only [remember, log, update_bind]
      refine (accounted_onOutside _).bind ?_ _ hnoted
      intro final
      cases final <;> exact preserves_pure _

/-- Accounted for, with `target` in the memory of the controller. -/
def Targets (ports : ℕ → FlinkPorts φ) (controller : ℕ) (target : Json) (w : FlinkWorld φ) : Prop :=
  Accounted ports w ∧ w.lastSavepointPath controller = target

theorem targets_onOutside {α : Type} {target : Json} (x : Fallible φ α) :
    Preserves (Targets ports controller target) (onOutside x) :=
  fun w h => ⟨accounted_onOutside x w h.1, h.2⟩

theorem targets_submitJob (target : Json) :
    Preserves (Targets ports controller target) (submitJob (ports controller) controller target) := by
  apply Preserves.attempt
  apply (targets_onOutside _).bind
  intro template
  apply Preserves.bind
  · intro w h
    have hinjects := injects_renderScript (ports controller).unicode target template
    rw [← h.2, h.1.memory controller] at hinjects
    refine ⟨⟨h.1.memory, ?_, h.1.law⟩, h.2⟩
    apply continuesOwnStop_of_remembered
    rw [← h.2, h.1.memory controller]
    exact hinjects
  · intro _
    exact targets_onOutside _

theorem accounted_startJob {w : FlinkWorld φ} (h : Accounted ports w) :
    Accounted ports (startJob (ports controller) cfg controller
      (w.lastSavepointPath controller) w).2 := by
  unfold startJob
  rw [read_bind]
  split
  · exact h
  · apply (targets_submitJob _).bind_imp (fun _ hnext => hnext.1) _
      (⟨h, rfl⟩ : Targets ports controller _ w)
    intro submitted
    cases submitted with
    | error e => exact fun _ hnext => hnext.1
    | ok _ =>
      intro v hv
      apply (accounted_onOutside _).bind _ v hv.1
      intro running
      cases running with
      | none => exact preserves_pure _
      | some jobId =>
        intro u hu
        exact hu.noted trivial (if_pos rfl) fun c hc => if_neg (Ne.symm hc)

theorem accounted_resumeJob :
    Preserves (Accounted ports) (resumeJob (ports controller) cfg controller) := by
  apply (accounted_onOutside _).bind
  intro found
  cases givenText found with
  | some activeId => exact preserves_pure _
  | none =>
    intro w h
    exact accounted_startJob h

end

/-! ## Every sequence of calls -/

/-- A call of a controller, without a savepoint of its own. -/
inductive FlinkCall
  | pause (controller : ℕ)
  | resume (controller : ℕ)

namespace FlinkWorld

variable (ports : ℕ → FlinkPorts φ) (cfg : ℕ → FlinkConfig)

def perform (w : FlinkWorld φ) : FlinkCall → FlinkWorld φ
  | .pause c => (pauseJob (ports c) (cfg c) c w).2
  | .resume c => (resumeJob (ports c) (cfg c) c .null w).2

/-- Controllers that have not been called. -/
def fresh (outside : φ) : FlinkWorld φ := ⟨fun _ => .null, [], outside⟩

def run (outside : φ) (calls : List FlinkCall) : FlinkWorld φ :=
  calls.foldl (perform ports cfg) (fresh outside)

theorem accounted_perform {w : FlinkWorld φ} (h : Accounted ports w) (call : FlinkCall) :
    Accounted ports (perform ports cfg w call) := by
  cases call with
  | pause c => exact accounted_pauseJob w h
  | resume c => exact accounted_resumeJob w h

theorem accounted_foldl {w : FlinkWorld φ} (h : Accounted ports w) (calls : List FlinkCall) :
    Accounted ports (calls.foldl (perform ports cfg) w) := by
  induction calls generalizing w with
  | nil => exact h
  | cons call calls ih => exact ih (accounted_perform ports cfg h call)

/-- Whatever the calls and whatever the cluster answers, a job is submitted with the
savepoint of the latest stop when the submitting controller made that stop and has not
confirmed a resume since, and without one when it has. -/
theorem resume_continues_own_stop (outside : φ) (calls : List FlinkCall) :
    AlongPast (ContinuesOwnStop ports) (run ports cfg outside calls).past :=
  (accounted_foldl ports cfg (w := fresh outside) ⟨fun _ => rfl, trivial⟩ calls).law

end FlinkWorld

/-! ### Stopped by one controller, resumed by another -/

/-- A cluster that gives the answers of a list, one for each request. -/
def exampleFlink : FlinkPorts (List String) where
  urlopen _ := fun
    | [] => (.error ⟨"URLError", false, "Connection refused"⟩, [])
    | answer :: answers =>
      (.ok ⟨200, .ok (answer.toList.map fun c => UInt8.ofNat c.toNat)⟩, answers)
  runCommand _ := Fallible.raise ⟨"FileNotFoundError", false, "docker"⟩
  sqlPath := "kafka_to_iceberg.sql"
  sqlExists _ := true
  readSql := pure enforcerStatement
  getenv _ _ := none
  submit _ := pure ()
  unicode := .ascii
  nestingLimit := 100

def noJobs : String := "\x7b\"jobs\":[]\x7d"

def oneJob : String := "\x7b\"jobs\":[\x7b\"jid\":\"a\",\"state\":\"RUNNING\",\"name\":\"icestream\"\x7d]\x7d"

/-- The answers to a `pause_job` that stops the job with a savepoint. -/
def stopAnswers : List String :=
  [oneJob, "\x7b\"request-id\":\"1\"\x7d",
    "\x7b\"status\":\x7b\"id\":\"COMPLETED\"\x7d,\"operation\":\x7b\"location\":\"s3://sp\"\x7d\x7d",
    "\x7b\"state\":\"FINISHED\"\x7d"]

/-- The answers to a `resume_job` that is confirmed. -/
def resumeAnswers : List String := [noJobs, oneJob]

def exampleFlinkRun (calls : List FlinkCall) (answers : List String) : List FlinkAction :=
  (FlinkWorld.run (fun _ => exampleFlink) (fun _ => {}) answers calls).past

/-- What the latest action injects, beside what the law of the latest stop asks for. -/
def latestInjection : List FlinkAction → Option (Text × Text)
  | .submitted _ template script :: past =>
    some (script, renderScript .ascii (((latestStop past).map Prod.snd).getD .null) template)
  | _ => none

/-- The one controller stops the job and the other resumes it. -/
def resumedElsewhere : List FlinkAction :=
  exampleFlinkRun [.pause 0, .resume 1] (stopAnswers ++ [noJobs])

/-- The job is stopped, resumed, ends by itself and is resumed once more. -/
def resumedAgain : List FlinkAction :=
  exampleFlinkRun [.pause 0, .resume 0, .resume 0] (stopAnswers ++ resumeAnswers ++ [noJobs])

theorem not_continued {past : List FlinkAction}
    (h : (latestInjection past).any (fun p => p.1 ≠ p.2) = true) :
    ¬AlongPast (ContinuesLatestStop fun _ => exampleFlink) past := by
  intro hlaw
  obtain ⟨p, hp, hne⟩ := (Option.any_eq_true _ _).mp h
  cases past with
  | nil => cases hp
  | cons action past =>
    cases action with
    | submitted c template script =>
      obtain rfl := Option.some.inj hp
      exact of_decide_eq_true hne hlaw.1.script_eq
    | _ => cases hp

/-- Neither the savepoint of another controller's stop nor one that a resume has used up
is injected. -/
theorem latest_stop_not_continued :
    ¬AlongPast (ContinuesLatestStop fun _ => exampleFlink) resumedElsewhere ∧
      ¬AlongPast (ContinuesLatestStop fun _ => exampleFlink) resumedAgain := by
  constructor
  · apply not_continued
    decide +kernel
  · apply not_continued
    decide +kernel

end IceStream.Remediation
