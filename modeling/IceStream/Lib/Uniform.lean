import IceStream.Lib.Random
import Mathlib.Analysis.Convex.SpecificFunctions.Basic
import Mathlib.Data.List.GetD
import Mathlib.MeasureTheory.Measure.Lebesgue.Basic
import Mathlib.Probability.ProductMeasure

/-!
# Independent uniform draws

A draw is uniform on the unit interval, its right end left out. Of a sequence of
independent draws, each one compared with a bound of its own, none is below its bound
with the product of the single probabilities.
-/

open MeasureTheory Python

noncomputable section

def unitUniform : Measure ℝ := volume.restrict (Set.Ico 0 1)

instance : IsProbabilityMeasure unitUniform where
  measure_univ := by
    rw [unitUniform, Measure.restrict_apply MeasurableSet.univ, Set.univ_inter, Real.volume_Ico,
      sub_zero, ENNReal.ofReal_one]

/-- A draw is not below a bound between nought and one. -/
theorem unitUniform_Ici {p : ℝ} (hp : 0 ≤ p) : unitUniform (Set.Ici p) = ENNReal.ofReal (1 - p) := by
  have hinter : Set.Ici p ∩ Set.Ico 0 1 = Set.Ico p 1 := by
    ext x
    constructor
    · exact fun h => ⟨h.1, h.2.2⟩
    · exact fun h => ⟨h.1, hp.trans h.1, h.2⟩
  rw [unitUniform, Measure.restrict_apply measurableSet_Ici, hinter, Real.volume_Ico]

def uniformDraws : Measure (ℕ → ℝ) := Measure.infinitePi fun _ => unitUniform

instance : IsProbabilityMeasure uniformDraws := by
  unfold uniformDraws
  infer_instance

theorem someBelow_iff {K : Type*} [LT K] [Zero K] {bounds : List K} {draws : ℕ → K} :
    SomeBelow bounds draws ↔ ∃ i < bounds.length, draws i < bounds.getD i 0 := by
  induction bounds generalizing draws with
  | nil => exact iff_of_false id fun ⟨_, h, _⟩ => Nat.not_lt_zero _ h
  | cons p bounds ih =>
    unfold SomeBelow
    rw [ih]
    constructor
    · rintro (h | ⟨i, hi, h⟩)
      · exact ⟨0, Nat.succ_pos _, h⟩
      · exact ⟨i + 1, Nat.succ_lt_succ hi, h⟩
    · rintro ⟨i, hi, h⟩
      cases i with
      | zero => exact .inl h
      | succ i => exact .inr ⟨i, Nat.lt_of_succ_lt_succ hi, h⟩

theorem prod_range_getD {K : Type*} [Zero K] (f : K → ENNReal) (bounds : List K) :
    ∏ i ∈ Finset.range bounds.length, f (bounds.getD i 0) = (bounds.map f).prod := by
  induction bounds with
  | nil => rfl
  | cons p bounds ih =>
    rw [List.length_cons, Finset.prod_range_succ', List.map_cons, List.prod_cons, ← ih, mul_comm]
    rfl

theorem ofReal_prod {factors : List ℝ} (h : ∀ x ∈ factors, 0 ≤ x) :
    ENNReal.ofReal factors.prod = (factors.map ENNReal.ofReal).prod := by
  induction factors with
  | nil => exact ENNReal.ofReal_one
  | cons x factors ih =>
    obtain ⟨hx, hrest⟩ := List.forall_mem_cons.mp h
    rw [List.prod_cons, ENNReal.ofReal_mul hx, ih hrest]
    rfl

/-- The probability that some draw is below its bound. -/
theorem uniformDraws_someBelow {bounds : List ℝ} (h : ∀ p ∈ bounds, 0 ≤ p ∧ p ≤ 1) :
    uniformDraws {draws | SomeBelow bounds draws} =
      ENNReal.ofReal (1 - (bounds.map fun p => 1 - p).prod) := by
  set above : Set (ℕ → ℝ) :=
    Set.pi (Finset.range bounds.length) fun i => Set.Ici (bounds.getD i 0) with habove
  have hmeasurable : MeasurableSet above :=
    MeasurableSet.pi (Finset.countable_toSet _) fun _ _ => measurableSet_Ici
  have hcompl : {draws | SomeBelow bounds draws} = aboveᶜ := by
    ext draws
    rw [Set.mem_compl_iff, habove, Set.mem_pi]
    push Not
    refine someBelow_iff.trans (exists_congr fun i => ?_)
    rw [Finset.mem_coe, Finset.mem_range, Set.mem_Ici, not_le]
  have hnonneg : ∀ x ∈ bounds.map fun p => 1 - p, 0 ≤ x := by
    intro x hx
    obtain ⟨p, hp, rfl⟩ := List.mem_map.mp hx
    exact sub_nonneg.mpr (h p hp).2
  have hnone : uniformDraws above = ENNReal.ofReal (bounds.map fun p => 1 - p).prod := by
    have hbound : ∀ i, 0 ≤ bounds.getD i 0 := by
      intro i
      by_cases hi : i < bounds.length
      · rw [← List.getElem_eq_getD 0]
        exact (h _ (List.getElem_mem hi)).1
      · rw [List.getD_eq_default _ _ (not_lt.mp hi)]
    rw [uniformDraws, habove, Measure.infinitePi_pi _ fun _ _ => measurableSet_Ici,
      ofReal_prod hnonneg, List.map_map, ← prod_range_getD]
    exact Finset.prod_congr rfl fun i _ => unitUniform_Ici (hbound i)
  rw [hcompl, prob_compl_eq_one_sub hmeasurable, hnone,
    ENNReal.ofReal_sub _ (List.prod_nonneg hnonneg), ENNReal.ofReal_one]

theorem prod_one_sub_mem {bounds : List ℝ} (h : ∀ p ∈ bounds, 0 ≤ p ∧ p ≤ 1) :
    0 ≤ (bounds.map fun p => 1 - p).prod ∧ (bounds.map fun p => 1 - p).prod ≤ 1 := by
  induction bounds with
  | nil => exact ⟨zero_le_one, le_rfl⟩
  | cons p bounds ih =>
    obtain ⟨⟨hp, hp'⟩, hrest⟩ := List.forall_mem_cons.mp h
    obtain ⟨hnonneg, hle⟩ := ih hrest
    rw [List.map_cons, List.prod_cons]
    exact ⟨mul_nonneg (sub_nonneg.mpr hp') hnonneg,
      mul_le_one₀ (sub_le_self 1 hp) hnonneg hle⟩

/-- Of positive bounds, some draw has a chance. -/
theorem prod_one_sub_lt_one {bounds : List ℝ} (h : ∀ p ∈ bounds, 0 < p ∧ p ≤ 1)
    (hne : bounds ≠ []) : (bounds.map fun p => 1 - p).prod < 1 := by
  obtain ⟨p, rest, rfl⟩ := List.exists_cons_of_ne_nil hne
  obtain ⟨⟨hp, hp'⟩, hrest⟩ := List.forall_mem_cons.mp h
  have hle := (prod_one_sub_mem fun q hq => ⟨(hrest q hq).1.le, (hrest q hq).2⟩).2
  rw [List.map_cons, List.prod_cons]
  calc (1 - p) * (rest.map fun p => 1 - p).prod
      ≤ (1 - p) * 1 := mul_le_mul_of_nonneg_left hle (sub_nonneg.mpr hp')
    _ < 1 := by rw [mul_one]; exact sub_lt_self 1 hp

/-- Bernoulli's inequality is strict from the second power on. -/
theorem one_sub_mul_lt_pow {x : ℝ} (hpos : 0 < x) (hone : x ≤ 1) {n : ℕ} (hn : 2 ≤ n) :
    1 - n * x < (1 - x) ^ n := by
  have hbernoulli := one_add_mul_self_lt_rpow_one_add (neg_le_neg hone) (neg_ne_zero.mpr hpos.ne')
    (p := n) (by exact_mod_cast hn)
  rw [Real.rpow_natCast, mul_neg, ← sub_eq_add_neg, ← sub_eq_add_neg] at hbernoulli
  exact hbernoulli

end
