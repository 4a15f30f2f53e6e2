import IceStream.Lib.Stepping
import IceStream.Remediation.StateManager
import Mathlib.Data.List.Chain

/-!
# The audit trail of a pipeline

Any number of state managers write one row and one history. Each keeps the state
it saw last, and falls back on it only where the stored text is no state.
-/

namespace IceStream
open Python Stepping

namespace PipelineState

def all : List PipelineState :=
  [running, paused, degraded, quarantining, circuitOpen, remediating, refetching, reprocessing,
    validating, reIngesting, resuming, recoveryFailed, recovered]

/-- `PipelineState(t)`, `none` where it raises -/
def ofText (t : Text) : Option PipelineState := all.find? fun s => text s.value == t

theorem ofText_value (s : PipelineState) : ofText (text s.value) = some s := by
  cases s <;> decide +kernel

theorem value_injective {s s' : PipelineState} (h : text s.value = text s'.value) : s = s' := by
  have hs := ofText_value s
  rw [h, ofText_value] at hs
  exact (Option.some.inj hs).symm

end PipelineState

namespace Remediation

/-- A row of `pipeline_state`. -/
structure StoredState where
  state : Text
  previousState : Option Text
  reason : Option Text
  updatedAt : Date
  activeIncidentId : Option Text
  recoveryAttempt : ℤ
  lastError : Option Text

/-- A row of `pipeline_state_history`. -/
structure StoredTransition where
  fromState : Text
  toState : Text
  reason : Option Text
  timestamp : Date
  incidentId : Option Text
  recoveryAttempt : ℤ

/-- What the storage holds of one pipeline. -/
structure StateStorage where
  row : Option StoredState
  history : List StoredTransition

/-- What `to_state` may be: a member of the enumeration, or something else with its `str`. -/
inductive ToState
  | member (s : PipelineState)
  | other (str : Text)

/-- The arguments of `transition_to`, with its defaults. -/
structure TransitionRequest where
  toState : ToState
  reason : Option Text := none
  incidentId : Option Text := none
  recoveryAttempt : ℤ := 0
  lastError : Option Text := none
  force : Bool := false

/-- What a call works on: the storage and the manager's `_current_state`. -/
structure ManagerView where
  storage : StateStorage
  current : PipelineState

abbrev ManagerM := Fallible ManagerView

def ToState.resolve : ToState → ManagerM PipelineState
  | member s => pure s
  | other str =>
    match PipelineState.ofText str with
    | some s => pure s
    | none => Fallible.raise (valueError (text "'" ++ str ++ text "' is not a valid PipelineState"))

namespace PipelineStateManager

/-- The constructor; the cache of the new manager comes with the storage. -/
def new (now : Date) (initialState : PipelineState) (storage : StateStorage) : ManagerView :=
  match storage.row with
  | none =>
    ⟨{ storage with row := some ⟨text initialState.value, none, some "Initial system startup", now,
        none, 0, none⟩ }, initialState⟩
  | some existing => ⟨storage, (PipelineState.ofText existing.state).getD initialState⟩

/-- The stored state, where there is one and it is known. -/
def known (storage : StateStorage) : Option PipelineState :=
  storage.row.bind fun existing => PipelineState.ofText existing.state

/-- The property `current_state` -/
def currentState : ManagerM PipelineState := do
  Fallible.update fun view => { view with current := (known view.storage).getD view.current }
  Fallible.read (·.current)

def canTransitionTo (target : PipelineState) : ManagerM Bool := do
  let curr ← currentState
  pure (curr.validTransitions.contains target)

def invalidTransition (curr toState : PipelineState) : Exc :=
  valueError (text
    s!"Invalid pipeline state transition from '{curr.value}' to '{toState.value}'")

/-- The row that a transition writes. -/
def updatedRow (now : Date) (curr toState : PipelineState) (request : TransitionRequest) :
    StoredState :=
  ⟨text toState.value, some (text curr.value), request.reason, now, request.incidentId,
    request.recoveryAttempt, request.lastError⟩

/-- The row that a transition adds to the history. -/
def auditRow (now : Date) (curr toState : PipelineState) (request : TransitionRequest) :
    StoredTransition :=
  ⟨text curr.value, text toState.value, request.reason, now, request.incidentId,
    request.recoveryAttempt⟩

/-- `if not force and to_state != curr: if not self.can_transition_to(to_state): raise` -/
def checkTransition (force : Bool) (curr toState : PipelineState) : ManagerM Unit :=
  if !force && toState != curr then do
    let allowed ← canTransitionTo toState
    if allowed then pure () else Fallible.raise (invalidTransition curr toState)
  else pure ()

/-- `transition_to` -/
def transitionTo (now : Date) (request : TransitionRequest) : ManagerM StoredState := do
  let toState ← request.toState.resolve
  let curr ← currentState
  checkTransition request.force curr toState
  let row := updatedRow now curr toState request
  Fallible.update fun view => { view with storage.row := some row }
  Fallible.update fun view =>
    { view with storage.history := view.storage.history ++ [auditRow now curr toState request] }
  Fallible.update fun view => { view with current := toState }
  pure row

/-- The transition that `record_failure` forces. -/
def failureRequest (error : Text) (incidentId : Option Text) (recoveryAttempt : ℤ) :
    TransitionRequest where
  toState := .member .recoveryFailed
  reason := some (text "Recovery failed: " ++ error)
  incidentId := incidentId
  recoveryAttempt := recoveryAttempt
  lastError := some error
  force := true

/-- `record_failure` -/
def recordFailure (now : Date) (error : Text) (incidentId : Option Text) (recoveryAttempt : ℤ) :
    ManagerM StoredState :=
  transitionTo now (failureRequest error incidentId recoveryAttempt)

/-! ## What a call does -/

/-- The state a manager goes by. -/
def seen (view : ManagerView) : PipelineState := (known view.storage).getD view.current

/-- A transition from `curr` is let through. -/
def allows (force : Bool) (curr toState : PipelineState) : Bool :=
  force || toState == curr || curr.validTransitions.contains toState

theorem resolve_eq (toState : ToState) (view : ManagerView) :
    (∃ s, toState.resolve view = (.ok s, view)) ∨ ∃ e, toState.resolve view = (.error e, view) := by
  cases toState with
  | member s => exact Or.inl ⟨s, rfl⟩
  | other str =>
    rw [ToState.resolve]
    cases PipelineState.ofText str with
    | none => exact Or.inr ⟨_, rfl⟩
    | some s => exact Or.inl ⟨s, rfl⟩

/-- Seeing the state twice is seeing it once. -/
theorem canTransitionTo_seen (target : PipelineState) (view : ManagerView) :
    canTransitionTo target { view with current := seen view } =
      (.ok ((seen view).validTransitions.contains target),
        { view with current := seen view }) := by
  have hagain : (known view.storage).getD (seen view) = seen view := by
    rw [seen]
    cases known view.storage <;> rfl
  change (Except.ok (((known view.storage).getD (seen view)).validTransitions.contains target),
    ({ view with current := (known view.storage).getD (seen view) } : ManagerView)) = _
  rw [hagain]

variable {now : Date} {request : TransitionRequest} {view : ManagerView} {toState : PipelineState}

theorem transitionTo_unknown {e : Exc} (hresolve : request.toState.resolve view = (.error e, view)) :
    transitionTo now request view = (.error e, view) := by
  rw [transitionTo, Fallible.bind_error hresolve]

/-- Before it writes, a call looks at the state and decides. -/
theorem checkTransition_eq (force : Bool) (toState : PipelineState) (view : ManagerView) :
    checkTransition force (seen view) toState { view with current := seen view } =
      (if allows force (seen view) toState then .ok ()
        else .error (invalidTransition (seen view) toState), { view with current := seen view }) := by
  rw [checkTransition]
  by_cases hguard : (!force && toState != seen view) = true
  · rw [if_pos hguard, Fallible.bind_ok (canTransitionTo_seen toState view)]
    rw [Bool.and_eq_true, Bool.not_eq_true', bne_iff_ne] at hguard
    rw [allows, hguard.1, beq_false_of_ne hguard.2, Bool.or_false, Bool.false_or]
    cases (seen view).validTransitions.contains toState <;> rfl
  · rw [if_neg hguard]
    have hallows : allows force (seen view) toState = true := by
      rw [Bool.and_eq_true, Bool.not_eq_true', bne_iff_ne, not_and_or, Bool.not_eq_false,
        not_not] at hguard
      obtain hforce | hself := hguard
      · rw [allows, hforce, Bool.true_or, Bool.true_or]
      · rw [allows, beq_iff_eq.mpr hself, Bool.or_true, Bool.true_or]
    rw [if_pos hallows]
    rfl

theorem transitionTo_refused (hresolve : request.toState.resolve view = (.ok toState, view))
    (h : allows request.force (seen view) toState = false) :
    transitionTo now request view =
      (.error (invalidTransition (seen view) toState), { view with current := seen view }) := by
  have hcurrent : currentState view = (.ok (seen view), { view with current := seen view }) := rfl
  have hcheck := checkTransition_eq request.force toState view
  rw [if_neg (by simp [h])] at hcheck
  rw [transitionTo, Fallible.bind_ok hresolve, Fallible.bind_ok hcurrent,
    Fallible.bind_error hcheck]

theorem transitionTo_allowed (hresolve : request.toState.resolve view = (.ok toState, view))
    (h : allows request.force (seen view) toState = true) :
    transitionTo now request view =
      (.ok (updatedRow now (seen view) toState request),
        { storage :=
            { row := some (updatedRow now (seen view) toState request)
              history := view.storage.history ++ [auditRow now (seen view) toState request] }
          current := toState }) := by
  have hcurrent : currentState view = (.ok (seen view), { view with current := seen view }) := rfl
  have hcheck := checkTransition_eq request.force toState view
  rw [if_pos h] at hcheck
  rw [transitionTo, Fallible.bind_ok hresolve, Fallible.bind_ok hcurrent, Fallible.bind_ok hcheck]
  rfl

/-- A call either moves the pipeline to an allowed state or raises and writes nothing. -/
theorem transitionTo_cases (now : Date) (request : TransitionRequest) (view : ManagerView) :
    (∃ toState, allows request.force (seen view) toState = true ∧
      transitionTo now request view =
        (.ok (updatedRow now (seen view) toState request),
          { storage :=
              { row := some (updatedRow now (seen view) toState request)
                history := view.storage.history ++ [auditRow now (seen view) toState request] }
            current := toState })) ∨
      ∃ e current, transitionTo now request view = (.error e, { view with current := current }) := by
  obtain ⟨toState, hresolve⟩ | ⟨e, hresolve⟩ := resolve_eq request.toState view
  · by_cases h : allows request.force (seen view) toState = true
    · exact Or.inl ⟨toState, h, transitionTo_allowed hresolve h⟩
    · rw [Bool.not_eq_true] at h
      exact Or.inr ⟨_, _, transitionTo_refused hresolve h⟩
  · exact Or.inr ⟨e, view.current, transitionTo_unknown hresolve⟩

/-- A call that raises leaves the storage as it is. -/
theorem storage_of_error {e : Exc} {view' : ManagerView}
    (h : transitionTo now request view = (.error e, view')) : view'.storage = view.storage := by
  obtain ⟨toState, -, hrun⟩ | ⟨e', current, hrun⟩ := transitionTo_cases now request view
  · rw [hrun] at h
    cases h
  · rw [hrun] at h
    obtain ⟨-, rfl⟩ := Prod.mk.inj h
    rfl

end PipelineStateManager

/-! ## Any number of managers -/

open PipelineStateManager

/-- One storage and the caches of the managers on it. For the statement only, `forced` says of
each row of the history whether its call was forced. -/
structure AuditWorld where
  storage : StateStorage
  managers : ℕ → Option PipelineState
  forced : List Bool

inductive ManagerCall
  | new (initialState : PipelineState)
  | transitionTo (request : TransitionRequest)
  | recordFailure (error : Text) (incidentId : Option Text) (recoveryAttempt : ℤ)

structure AuditAction where
  manager : ℕ
  now : Date
  call : ManagerCall

namespace AuditWorld

/-- What a call of a manager leaves. -/
def called (w : AuditWorld) (m : ℕ) (forced : Bool) (outcome : Except Exc StoredState × ManagerView) :
    AuditWorld where
  storage := outcome.2.storage
  managers := Function.update w.managers m (some outcome.2.current)
  forced := w.forced ++ match outcome.1 with
    | .ok _ => [forced]
    | .error _ => []

/-- Only a manager that was built can be called. -/
def step (w : AuditWorld) (a : AuditAction) : Option AuditWorld :=
  match a.call with
  | .new initialState =>
    let view := PipelineStateManager.new a.now initialState w.storage
    some { w with
      storage := view.storage
      managers := Function.update w.managers a.manager (some view.current) }
  | .transitionTo request =>
    (w.managers a.manager).map fun current => w.called a.manager request.force
      (PipelineStateManager.transitionTo a.now request ⟨w.storage, current⟩)
  | .recordFailure error incidentId recoveryAttempt =>
    (w.managers a.manager).map fun current => w.called a.manager true
      (PipelineStateManager.recordFailure a.now error incidentId recoveryAttempt
        ⟨w.storage, current⟩)

end AuditWorld

/-- The row stays in its state or follows `VALID_TRANSITIONS`. -/
def ValidRow (row : StoredTransition) : Prop :=
  ∃ curr toState : PipelineState, row.fromState = text curr.value ∧
    row.toState = text toState.value ∧ (toState = curr ∨ toState ∈ curr.validTransitions)

/-- The to-state of the last row, `initial` before the first. -/
def lastState (initial : PipelineState) (history : List StoredTransition) : Text :=
  (history.getLast?.map (·.toState)).getD (text initial.value)

structure AuditTrail (initial : PipelineState) (w : AuditWorld) : Prop where
  first : ∀ row ∈ w.storage.history.head?, row.fromState = text initial.value
  chain : w.storage.history.IsChain fun row next => next.fromState = row.toState
  allowed : List.Forall₂ (fun row forced => forced = false → ValidRow row)
    w.storage.history w.forced
  stored : w.storage.row.map (·.state) = some (lastState initial w.storage.history)
  isState : ∃ s : PipelineState, lastState initial w.storage.history = text s.value

namespace AuditTrail

variable {initial : PipelineState} {w : AuditWorld}

/-- A manager goes by the to-state of the last row, whatever it saw before. -/
theorem seen_eq (h : AuditTrail initial w) (current : PipelineState) :
    text (seen ⟨w.storage, current⟩).value = lastState initial w.storage.history := by
  obtain ⟨s, hs⟩ := h.isState
  obtain ⟨row, hrow, hstate⟩ := Option.map_eq_some_iff.mp h.stored
  have hknown : known w.storage = some s := by
    rw [known, hrow, Option.bind_some, hstate, hs, PipelineState.ofText_value]
  rw [seen, hknown, hs]
  rfl

theorem lastState_append (initial : PipelineState) (history : List StoredTransition)
    (row : StoredTransition) : lastState initial (history ++ [row]) = row.toState := by
  rw [lastState, List.getLast?_append]
  rfl

/-- A transition that is let through extends the trail. -/
theorem extend (h : AuditTrail initial w) {now : Date} {request : TransitionRequest}
    {curr toState : PipelineState} {forced : Bool} (managers : ℕ → Option PipelineState)
    (hcurr : text curr.value = lastState initial w.storage.history)
    (hallows : allows forced curr toState = true) :
    AuditTrail initial
      { storage :=
          { row := some (updatedRow now curr toState request)
            history := w.storage.history ++ [auditRow now curr toState request] }
        managers := managers
        forced := w.forced ++ [forced] } where
  first := by
    intro row hrow
    cases hhistory : w.storage.history with
    | nil =>
      rw [hhistory] at hrow hcurr
      obtain rfl := Option.some.inj hrow
      exact hcurr
    | cons first rest =>
      rw [hhistory] at hrow
      exact h.first row (by rw [hhistory]; exact hrow)
  chain := by
    rw [List.isChain_append]
    refine ⟨h.chain, List.isChain_singleton _, ?_⟩
    intro row hrow next hnext
    obtain rfl := Option.some.inj hnext
    rw [lastState, hrow] at hcurr
    exact hcurr
  allowed := by
    refine List.rel_append h.allowed (List.Forall₂.cons ?_ List.Forall₂.nil)
    intro hforced
    rw [allows, hforced, Bool.false_or, Bool.or_eq_true, beq_iff_eq, List.contains_iff_mem] at hallows
    exact ⟨curr, toState, rfl, rfl, hallows⟩
  stored := by
    rw [lastState_append]
    rfl
  isState := ⟨toState, by rw [lastState_append]; rfl⟩

/-- The trail does not depend on the managers. -/
theorem congr (h : AuditTrail initial w) {w' : AuditWorld} (hstorage : w'.storage = w.storage)
    (hforced : w'.forced = w.forced) : AuditTrail initial w' := by
  obtain ⟨storage, managers, forced⟩ := w'
  obtain rfl := hstorage
  obtain rfl := hforced
  exact ⟨h.first, h.chain, h.allowed, h.stored, h.isState⟩

/-- A call of a manager keeps the trail, forced or not. -/
theorem called (h : AuditTrail initial w) (now : Date) (request : TransitionRequest) (m : ℕ)
    (current : PipelineState) :
    AuditTrail initial
      (w.called m request.force (transitionTo now request ⟨w.storage, current⟩)) := by
  obtain ⟨toState, hallows, hrun⟩ | ⟨e, current', hrun⟩ :=
    transitionTo_cases now request ⟨w.storage, current⟩
  · rw [hrun]
    exact h.extend _ (h.seen_eq current) hallows
  · rw [hrun]
    exact h.congr rfl (List.append_nil _)

/-- A new manager finds a row and leaves it. -/
theorem step (h : AuditTrail initial w) {a : AuditAction} {w' : AuditWorld}
    (hstep : w.step a = some w') : AuditTrail initial w' := by
  obtain ⟨m, now, call⟩ := a
  cases call with
  | new initialState =>
    obtain ⟨row, hrow, -⟩ := Option.map_eq_some_iff.mp h.stored
    obtain rfl := Option.some.inj hstep
    refine h.congr ?_ rfl
    dsimp only
    rw [PipelineStateManager.new, hrow]
  | transitionTo request =>
    obtain ⟨current, -, rfl⟩ := Option.map_eq_some_iff.mp hstep
    exact h.called now request m current
  | recordFailure error incidentId recoveryAttempt =>
    obtain ⟨current, -, rfl⟩ := Option.map_eq_some_iff.mp hstep
    exact h.called now (failureRequest error incidentId recoveryAttempt) m current

end AuditTrail

/-- The storage holds no history and the initial state, or the first manager writes that. -/
def Begins (initial : PipelineState) (start : AuditWorld) (actions : List AuditAction) : Prop :=
  start.storage.history = [] ∧ start.forced = [] ∧
    match start.storage.row with
    | some row => row.state = text initial.value
    | none => ∃ m now rest, actions = ⟨m, now, .new initial⟩ :: rest

/-- A pipeline without history that is in its initial state. -/
theorem auditTrail_of_empty {initial : PipelineState} {w : AuditWorld}
    (hhistory : w.storage.history = []) (hforced : w.forced = [])
    (hrow : w.storage.row.map (·.state) = some (text initial.value)) : AuditTrail initial w where
  first := by simp [hhistory]
  chain := by simp [hhistory]
  allowed := by simp [hhistory, hforced]
  stored := by rw [hrow, hhistory]; rfl
  isState := ⟨initial, by rw [hhistory]; rfl⟩

/-- The first manager writes its initial state. -/
theorem auditTrail_of_new {initial : PipelineState} {start w : AuditWorld} {m : ℕ} {now : Date}
    (hhistory : start.storage.history = []) (hforced : start.forced = [])
    (hrow : start.storage.row = none) (hstep : start.step ⟨m, now, .new initial⟩ = some w) :
    AuditTrail initial w := by
  obtain rfl := Option.some.inj hstep
  have hnew : PipelineStateManager.new now initial start.storage =
      ⟨{ start.storage with row := some ⟨text initial.value, none,
          some "Initial system startup", now, none, 0, none⟩ }, initial⟩ := by
    rw [PipelineStateManager.new, hrow]
  apply auditTrail_of_empty
  · dsimp only
    rw [hnew]
    exact hhistory
  · exact hforced
  · dsimp only
    rw [hnew]
    rfl

/-- However many managers work on a pipeline, its history is a chain of allowed or forced
transitions that ends in the stored state, and a call that raises changes neither. -/
theorem audit_trail {initial : PipelineState} {start w : AuditWorld} {actions : List AuditAction}
    (hbegins : Begins initial start actions)
    (hrun : exec AuditWorld.step start actions = some w) :
    AuditTrail initial w ∧
      ∀ now request current e view,
        transitionTo now request ⟨w.storage, current⟩ = (.error e, view) →
          view.storage = w.storage := by
  refine ⟨?_, fun now request current e view h => storage_of_error h⟩
  have hkeeps : ∀ w a w', AuditTrail initial w → AuditWorld.step w a = some w' →
      AuditTrail initial w' := fun w a w' h hstep => h.step hstep
  obtain ⟨hhistory, hforced, hstart⟩ := hbegins
  cases hrow : start.storage.row with
  | some row =>
    rw [hrow] at hstart
    have htrail : AuditTrail initial start :=
      auditTrail_of_empty hhistory hforced (by rw [hrow, Option.map_some, hstart])
    exact exec_preserves hkeeps htrail hrun
  | none =>
    rw [hrow] at hstart
    obtain ⟨m, now, rest, rfl⟩ := hstart
    obtain ⟨first, hfirst, hrest⟩ := Option.bind_eq_some_iff.mp hrun
    exact exec_preserves hkeeps (auditTrail_of_new hhistory hforced hrow hfirst) hrest

/-- Two managers on an empty storage: the second finds what the first wrote, is refused a
transition, fails, and the first goes on from there. -/
def twoManagers : List AuditAction :=
  [⟨0, 1, .new .running⟩, ⟨1, 2, .new .paused⟩,
    ⟨0, 3, .transitionTo { toState := .other "CIRCUIT_OPEN" }⟩,
    ⟨1, 4, .transitionTo { toState := .member .validating }⟩,
    ⟨1, 5, .recordFailure "no source" none 1⟩,
    ⟨0, 6, .transitionTo { toState := .member .remediating }⟩]

def emptyWorld : AuditWorld := ⟨⟨none, []⟩, fun _ => none, []⟩

theorem audit_trail_twoManagers :
    ∃ w, exec AuditWorld.step emptyWorld twoManagers = some w ∧ AuditTrail .running w ∧
      w.forced = [false, true, false] := by
  have hforced : (exec AuditWorld.step emptyWorld twoManagers).map (·.forced) =
      some [false, true, false] := by
    decide +kernel
  obtain ⟨w, hrun, hw⟩ := Option.map_eq_some_iff.mp hforced
  have hbegins : Begins .running emptyWorld twoManagers := by
    refine ⟨rfl, rfl, ?_⟩
    exact ⟨0, 1, _, rfl⟩
  exact ⟨w, hrun, (audit_trail hbegins hrun).1, hw⟩

/-! ## The typed pipeline -/

/-- The row as it is stored. -/
def stored (row : PipelineRow) : StoredState :=
  ⟨text row.state.value, row.previousState.map (text ·.value), row.reason, row.updatedAt,
    row.activeIncidentId.map (·.val), row.recoveryAttempt, row.lastError⟩

def storedTransition (row : StateHistoryRow) : StoredTransition :=
  ⟨text row.fromState.value, text row.toState.value, row.reason, row.timestamp,
    row.incidentId.map (·.val), row.recoveryAttempt⟩

def storedPipeline (p : Pipeline) : StateStorage :=
  ⟨some (stored p.row), p.history.map storedTransition⟩

def typedRequest (t : Transition) : TransitionRequest :=
  ⟨.member t.toState, t.reason, t.incidentId.map (·.val), t.recoveryAttempt, t.lastError, t.force⟩

/-- On a stored pipeline, `transition_to` is the transition of the pipeline itself. -/
theorem transitionTo_storedPipeline (p : Pipeline) (now : Date) (t : Transition)
    (current : PipelineState) :
    ((transitionTo now (typedRequest t) ⟨storedPipeline p, current⟩).1.map fun _ => ()) =
      ((p.transitionTo now t).map fun _ => ()) ∧
    (transitionTo now (typedRequest t) ⟨storedPipeline p, current⟩).2.storage =
      ((p.transitionTo now t).toOption.map storedPipeline).getD (storedPipeline p) := by
  have hseen : seen ⟨storedPipeline p, current⟩ = p.state := by
    rw [seen, known, storedPipeline, Option.bind_some, stored, PipelineState.ofText_value]
    rfl
  have hresolve : (typedRequest t).toState.resolve ⟨storedPipeline p, current⟩ =
      (.ok t.toState, ⟨storedPipeline p, current⟩) := rfl
  have hallows : allows (typedRequest t).force (seen ⟨storedPipeline p, current⟩) t.toState =
      p.allows t := by
    rw [hseen]
    rfl
  rw [Pipeline.transitionTo]
  by_cases h : p.allows t = true
  · rw [transitionTo_allowed hresolve (hallows.trans h), if_pos h, hseen]
    refine ⟨rfl, ?_⟩
    simp [Except.toOption, storedPipeline, Pipeline.moved, stored, storedTransition, updatedRow,
      auditRow, typedRequest]
  · rw [transitionTo_refused hresolve (hallows.trans (Bool.not_eq_true _ ▸ h)), if_neg h, hseen]
    exact ⟨rfl, rfl⟩

end Remediation
end IceStream
