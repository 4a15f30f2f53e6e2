import IceStream.Quarantine.Router

/-!
# The order of the rules

No two results of rules with different names precede each other. So whatever order the
rules ran in, there is one order of their failures, one error and one identifier.
-/

namespace IceStream.Quarantine
open Python

section

variable {results results' : List ValidationResult}

theorem eq_of_precedes (hdistinct : (results.map ValidationResult.ruleName).Nodup)
    {r r' : ValidationResult} (hr : r ∈ results) (hr' : r' ∈ results) (h : Precedes r r')
    (h' : Precedes r' r) : r = r' := by
  apply List.inj_on_of_nodup_map hdistinct hr hr'
  obtain hlt | ⟨heq, hle⟩ := h
  · obtain hlt' | ⟨heq', -⟩ := h'
    · exact absurd hlt hlt'.asymm
    · exact absurd hlt (heq' ▸ lt_irrefl _)
  · obtain hlt' | ⟨-, hle'⟩ := h'
    · exact absurd hlt' (heq ▸ lt_irrefl _)
    · exact le_antisymm hle hle'

/-- The results are sorted into one order, whatever order they come in. -/
theorem sortFailedResults_of_perm (hdistinct : (results.map ValidationResult.ruleName).Nodup)
    (hperm : results'.Perm results) : sortFailedResults results' = sortFailedResults results := by
  have hsorted (rs : List ValidationResult) : (sortFailedResults rs).Perm rs :=
    List.perm_insertionSort Precedes rs
  refine List.Perm.eq_of_pairwise ?_ (List.pairwise_insertionSort Precedes results')
    (List.pairwise_insertionSort Precedes results)
    ((hsorted results').trans (hperm.trans (hsorted results).symm))
  intro r r' hr hr'
  exact eq_of_precedes hdistinct (hperm.subset ((hsorted results').subset hr))
    ((hsorted results).subset hr')

theorem determinePrimaryError_of_perm (hdistinct : (results.map ValidationResult.ruleName).Nodup)
    (hperm : results'.Perm results) : determinePrimaryError results' = determinePrimaryError results := by
  rw [determinePrimaryError, sortFailedResults_of_perm hdistinct hperm]
  rfl

/-- The primary error does not depend on the order of the results: the rules are named by
descending weight and then by name, and the first of them has the greatest weight. -/
theorem primary_error_order_independent (hne : results ≠ [])
    (hdistinct : (results.map ValidationResult.ruleName).Nodup) :
    (∀ results', results'.Perm results →
      determinePrimaryError results' = determinePrimaryError results) ∧
    (determinePrimaryError results).failedRules.Perm (results.map ValidationResult.ruleName) ∧
    (∃ ordered : List ValidationResult, ordered.Perm results ∧ ordered.Pairwise Precedes ∧
      (determinePrimaryError results).failedRules = ordered.map ValidationResult.ruleName) ∧
    ∃ primary ∈ results,
      (determinePrimaryError results).failedRules.head? = some primary.ruleName ∧
      (determinePrimaryError results).errorCode = errorCodeForRule primary.ruleName ∧
      ∀ r ∈ results, severityWeight r.severity ≤ severityWeight primary.severity := by
  have hperm : (sortFailedResults results).Perm results := List.perm_insertionSort Precedes results
  have hsorted : (sortFailedResults results).Pairwise Precedes :=
    List.pairwise_insertionSort Precedes results
  refine ⟨fun results' h => determinePrimaryError_of_perm hdistinct h, failedRules_perm results,
    ⟨_, hperm, hsorted, failedRules_determinePrimaryError results⟩, ?_⟩
  rcases hs : sortFailedResults results with _ | ⟨primary, rest⟩
  · rw [hs] at hperm
    exact absurd hperm.nil_eq.symm hne
  · rw [hs] at hperm hsorted
    refine ⟨primary, hperm.subset List.mem_cons_self, ?_, ?_, fun r hr => ?_⟩
    · rw [failedRules_determinePrimaryError, hs]
      rfl
    · cases rest <;> simp only [determinePrimaryError, hs]
    · obtain rfl | hmem := List.mem_cons.mp (hperm.symm.subset hr)
      · exact le_rfl
      · obtain hlt | ⟨heq, -⟩ := List.rel_of_pairwise_cons hsorted hmem
        · exact hlt.le
        · exact heq.ge

end

/-- Nor does what is recorded of an event, its identifier included. -/
theorem record_of_perm (router : QuarantineRouter) (call : RouteCall)
    {results' : List ValidationResult} (hperm : results'.Perm call.results)
    (hdistinct : (call.failedResults.map ValidationResult.ruleName).Nodup) :
    router.record { call with results := results' } = router.record call := by
  have herror : determinePrimaryError (results'.filter fun r => !r.passed) = call.primaryError :=
    determinePrimaryError_of_perm hdistinct (hperm.filter _)
  have hprimary : RouteCall.primaryError { call with results := results' } = call.primaryError :=
    herror
  simp only [QuarantineRouter.record, QuarantineRouter.quarantineId, QuarantineRouter.dedupSeed,
    hprimary, RouteCall.payload]

/-! ### Two rules -/

def lateResult : ValidationResult :=
  ⟨"late_event", false, .low, "Event is late", none, .str "evt_1"⟩

def nullResult : ValidationResult :=
  ⟨"amount_not_null", false, .critical, "amount is null", none, .str "evt_1"⟩

theorem heavier_rule_first :
    determinePrimaryError [lateResult, nullResult] = determinePrimaryError [nullResult, lateResult] ∧
      ∃ primary ∈ [nullResult, lateResult], (determinePrimaryError [nullResult, lateResult]).errorCode =
        errorCodeForRule primary.ruleName := by
  obtain ⟨hsame, -, -, primary, hmem, -, hcode, -⟩ :=
    @primary_error_order_independent [nullResult, lateResult] (List.cons_ne_nil _ _) (by decide)
  exact ⟨hsame _ (List.Perm.swap _ _ _), primary, hmem, hcode⟩

end IceStream.Quarantine
