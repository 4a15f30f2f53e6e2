import IceStream.Rules.Engine

/-!
# Rules one by one

The engine has one result for each rule, in order; what a rule raises becomes the result of
that rule and of no other.
-/

namespace IceStream
open Python

variable {φ : Type}

namespace QualityEngine

section

variable {event : QualityEvent} {rule : QualityRule φ} {rules : List (QualityRule φ)}
  {r : ValidationResult} {w w' : φ}

/-- What a rule answers the engine takes as it is. -/
theorem runRule_of_ok (h : rule.validate event w = (.ok (.ok r), w')) :
    runRule event rule w = (.ok r, w') := by
  apply Fallible.catching_ok
  rw [Fallible.bind_ok h]
  rfl

/-- What a rule raises is turned into a result. -/
theorem runRule_of_error {e : Exc} (h : rule.validate event w = (.error e, w')) :
    runRule event rule w = (.ok (ruleFailure rule (event.value .eventId) e), w') := by
  apply Fallible.catching_error
  exact Fallible.bind_error h

/-- The result of a rule, in some state of the surroundings. -/
def Answers (event : QualityEvent) (rule : QualityRule φ) (r : ValidationResult) : Prop :=
  ∃ w w', runRule event rule w = (.ok r, w')

/-- The rule answers by itself, with a result the engine tolerates. -/
def Tolerated (event : QualityEvent) (rule : QualityRule φ) (w : φ) : Prop :=
  ∃ r w', rule.validate event w = (.ok (.ok r), w') ∧ r.isCriticalFailure = false

/-- There is one result for each rule, in order. -/
theorem answers_of_runRules {results : List ValidationResult}
    (h : runRules event rules w = (.ok results, w')) :
    List.Forall₂ (Answers event) rules results := by
  induction rules generalizing w results with
  | nil =>
    cases h
    exact .nil
  | cons rule rules ih =>
    obtain ⟨r, w₁, hrule⟩ : ∃ r w₁, runRule event rule w = (.ok r, w₁) :=
      Fallible.catching_total (fun _ _ => ⟨_, _, rfl⟩) w
    obtain ⟨rest, w₂, hrest⟩ := runRules_total event rules w₁
    rw [runRules, Fallible.bind_ok hrule, Fallible.bind_ok hrest] at h
    cases h
    exact .cons ⟨w, w₁, hrule⟩ (ih hrest)

theorem isCriticalFailure_ruleFailure (rule : QualityRule φ) (eventId : Json) (e : Exc) :
    (ruleFailure rule eventId e).isCriticalFailure = true := rfl

/-- A result that is tolerated is the rule's own. -/
theorem tolerated_of_answers (h : Answers event rule r) (hr : r.isCriticalFailure = false) :
    ∃ w, Tolerated event rule w := by
  obtain ⟨w, w', hrun⟩ := h
  rcases hvalidate : rule.validate event w with ⟨e | result, w₁⟩
  · rw [runRule_of_error hvalidate] at hrun
    cases hrun
    exact absurd hr (by rw [isCriticalFailure_ruleFailure]; decide)
  · cases result with
    | ok r' =>
      rw [runRule_of_ok hvalidate] at hrun
      cases hrun
      exact ⟨w, r, _, hvalidate, hr⟩
    | error typeName =>
      have hraised : runRule event rule w = (.ok (ruleFailure rule (event.value .eventId)
          (typeError (text "Rule " ++ rule.name ++
            text s!" returned {typeName}, expected ValidationResult"))), w₁) := by
        apply Fallible.catching_error
        rw [Fallible.bind_ok hvalidate]
        rfl
      rw [hraised] at hrun
      cases hrun
      exact absurd hr (by rw [isCriticalFailure_ruleFailure]; decide)

/-- Rules that all leave the surroundings alone and are tolerated are so together. -/
theorem runRules_of_tolerated (h : ∀ rule ∈ rules, ∃ r : ValidationResult,
      r.isCriticalFailure = false ∧ ∀ w, rule.validate event w = (.ok (.ok r), w)) :
    ∃ results, (∀ r ∈ results, r.isCriticalFailure = false) ∧
      ∀ w, runRules event rules w = (.ok results, w) := by
  induction rules with
  | nil => exact ⟨[], fun _ hr => absurd hr List.not_mem_nil, fun _ => rfl⟩
  | cons rule rules ih =>
    obtain ⟨r, hr, hvalidate⟩ := h rule List.mem_cons_self
    obtain ⟨results, hresults, hrun⟩ := ih fun rule hrule => h rule (List.mem_cons_of_mem _ hrule)
    refine ⟨r :: results, List.forall_mem_cons.mpr ⟨hr, hresults⟩, fun w => ?_⟩
    rw [runRules, Fallible.bind_ok (runRule_of_ok (hvalidate w)), Fallible.bind_ok (hrun w)]
    rfl

theorem runRules_append (rules' : List (QualityRule φ)) {results results' : List ValidationResult}
    {w'' : φ} (h : runRules event rules w = (.ok results, w'))
    (h' : runRules event rules' w' = (.ok results', w'')) :
    runRules event (rules ++ rules') w = (.ok (results ++ results'), w'') := by
  induction rules generalizing w results with
  | nil =>
    cases h
    exact h'
  | cons rule rules ih =>
    obtain ⟨r, w₁, hrule⟩ : ∃ r w₁, runRule event rule w = (.ok r, w₁) :=
      Fallible.catching_total (fun _ _ => ⟨_, _, rfl⟩) w
    obtain ⟨rest, w₂, hrest⟩ := runRules_total event rules w₁
    rw [runRules, Fallible.bind_ok hrule, Fallible.bind_ok hrest] at h
    cases h
    rw [List.cons_append, runRules, Fallible.bind_ok hrule, Fallible.bind_ok (ih hrest)]
    rfl

end

end QualityEngine

/-- An event is valid when no result is a critical failure. -/
theorem isValid_iff (results : List ValidationResult) (eventId : Json) :
    (computeValidationSummary results eventId).isValid = true ↔
      ∀ r ∈ results, r.isCriticalFailure = false := by
  rw [← Bool.not_eq_false, isValid_eq_false_iff]
  change ¬0 < (results.filter ValidationResult.isCriticalFailure).length ↔ _
  rw [Nat.pos_iff_ne_zero, not_not, List.length_eq_zero_iff, List.filter_eq_nil_iff]
  simp only [Bool.not_eq_true]

theorem failedRules_eq_zero_iff (results : List ValidationResult) (eventId : Json) :
    (computeValidationSummary results eventId).failedRules = 0 ↔ ∀ r ∈ results, r.passed = true := by
  change (results.filter fun r => !r.passed).length = 0 ↔ _
  rw [List.length_eq_zero_iff, List.filter_eq_nil_iff]
  simp

end IceStream
