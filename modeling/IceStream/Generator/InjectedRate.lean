import IceStream.Generator.FaultInjection
import IceStream.Lib.Uniform

/-!
# The rate at which faults are injected

An error rate is shared out among the modes, and each of them draws for itself. So the
probability that one of them is triggered falls short of the rate as soon as there are two.
-/

namespace IceStream.Generator
open Python Fallible FaultInjectionEngine MeasureTheory

/-! ## The engine of a configuration -/

/-- The engine that the generator builds. -/
def faultEngine {K : Type} (u : Unicode) (config : GeneratorConfig) (rnd : Python.Random K) :
    Except Exc (FaultInjectionEngine K) :=
  FaultInjectionEngine.init u (some config.getFaultModeRates) config.faultModes
    config.schemaDriftTypes rnd

/-- The rate that the configuration gives a mode. -/
def GeneratorConfig.modeRate (config : GeneratorConfig) (mode : Text) : ℚ :=
  (config.getFaultModeRates.lookup mode).getD 0

theorem lookup_map {β : Type} (f : Text → β) {names : List Text} {name : Text}
    (h : name ∈ names) : (names.map fun n => (n, f n)).lookup name = some (f name) := by
  induction names with
  | nil => exact absurd h List.not_mem_nil
  | cons n names ih =>
    rw [List.map_cons, List.lookup_cons]
    by_cases hname : name = n
    · rw [hname, beq_self_eq_true]
    · rw [beq_eq_false_iff_ne.mpr hname]
      exact ih ((List.mem_cons.mp h).resolve_left hname)

section

variable {K : Type} [LinearOrder K] [RatCast K]

omit [LinearOrder K] in
theorem bounds_congr {rate rate' : Text → ℚ} {modes : List Text}
    (h : ∀ mode ∈ modes, rate mode = rate' mode) :
    (bounds rate modes : List K) = bounds rate' modes := by
  have hfilter : (modes.filter fun mode => 0 < rate mode) =
      modes.filter fun mode => 0 < rate' mode :=
    List.filter_congr fun mode hmode => by rw [h mode hmode]
  rw [bounds, bounds, hfilter]
  exact List.map_congr_left fun mode hmode => by rw [h mode (List.mem_filter.mp hmode).1]

/-- The engine is built, and draws for the modes that were named. -/
theorem faultEngine_selects (u : Unicode) {config : GeneratorConfig} (hvalid : config.Valid)
    {modes : List Text} (hmodes : config.faultModes = some modes) (hne : modes ≠ [])
    (rnd : Python.Random K) :
    (∃ engine selected, faultEngine u config rnd = .ok engine ∧
      (selectFaultMode engine).1 = .ok (some selected)) ↔
        SomeBelow (bounds config.modeRate modes) rnd.draws := by
  have hsupported : ∀ m ∈ modes, m ∈ allFaultModes := by
    intro m hm
    apply hvalid.faultModes
    rwa [hmodes, Option.getD_some]
  have hcheck : checkModes u modes = .ok () :=
    forM_eq_ok_iff.mpr fun m hm => require_eq_ok_iff.mpr (hsupported m hm)
  obtain ⟨engine, hengine, hactive, hrnd, hrate⟩ : ∃ engine : FaultInjectionEngine K,
      faultEngine u config rnd = .ok engine ∧ engine.activeModes = modes ∧
        engine.rnd = rnd ∧ ∀ m ∈ allFaultModes, engine.rate m = config.modeRate m := by
    rw [faultEngine, FaultInjectionEngine.init, hmodes, Option.getD_some, hcheck]
    refine ⟨_, rfl, if_neg hne, rfl, fun m hm => ?_⟩
    rw [FaultInjectionEngine.rate]
    dsimp only
    rw [lookup_map _ hm]
    rfl
  obtain ⟨selected, rnd', hrun, hiff⟩ := selectFaultMode_run engine
  have hbounds : (bounds engine.rate engine.activeModes : List K) =
      bounds config.modeRate modes := by
    rw [hactive]
    exact bounds_congr fun m hm => hrate m (hsupported m hm)
  rw [hbounds, hrnd] at hiff
  rw [← hiff, Option.isSome_iff_exists]
  constructor
  · rintro ⟨engine'', m, hengine'', hm⟩
    obtain rfl := Except.ok.inj (hengine.symm.trans hengine'')
    rw [hrun] at hm
    exact ⟨m, Except.ok.inj hm⟩
  · rintro ⟨m, rfl⟩
    exact ⟨engine, m, hengine, by rw [hrun]⟩

end

/-! ## Rates -/

section

variable {config : GeneratorConfig} {modes : List Text}

theorem modeRate_of_individual (hindividual : config.hasIndividual = true)
    {r : Text × FaultMode × Option ℚ} (hr : r ∈ config.individualRates) :
    config.modeRate r.2.1.value = r.2.2.getD 0 := by
  rw [GeneratorConfig.modeRate, GeneratorConfig.getFaultModeRates, if_pos hindividual]
  simp only [GeneratorConfig.individualRates, List.mem_cons, List.not_mem_nil, or_false] at hr ⊢
  obtain rfl | rfl | rfl | rfl | rfl | rfl | rfl := hr <;> rfl

theorem modeRate_of_errorRate (hvalid : config.Valid) (hpos : 0 < config.errorRate) {mode : Text}
    (hactive : mode ∈ config.activeModes) (hmode : mode ∈ allFaultModes) :
    config.modeRate mode = config.errorRate / config.activeModes.length := by
  have hnone : ¬config.hasIndividual = true := fun h => hpos.ne' (hvalid.oneKind h)
  rw [GeneratorConfig.modeRate, GeneratorConfig.getFaultModeRates, if_neg hnone, if_pos hpos,
    lookup_map _ hmode, Option.getD_some, if_pos hactive]

theorem modeRate_of_none (hnone : ¬config.hasIndividual = true) (hzero : config.errorRate = 0)
    {mode : Text} (hmode : mode ∈ allFaultModes) : config.modeRate mode = 0 := by
  rw [GeneratorConfig.modeRate, GeneratorConfig.getFaultModeRates, if_neg hnone,
    if_neg (by rw [hzero]; exact lt_irrefl 0), lookup_map _ hmode, Option.getD_some]

theorem activeModes_eq (hmodes : config.faultModes = some modes) (hne : modes ≠ []) :
    config.activeModes = modes := by
  rw [GeneratorConfig.activeModes, givenOr, hmodes, Option.getD_some, if_neg hne]

/-- Every mode has its rate, if only none. -/
theorem exists_individual {mode : Text} (hmode : mode ∈ allFaultModes) :
    ∃ r ∈ config.individualRates, r.2.1.value = mode := by
  have hnames : allFaultModes = config.individualRates.map fun r => r.2.1.value := rfl
  rw [hnames] at hmode
  exact List.mem_map.mp hmode

/-- The rate of a mode is a percentage. -/
theorem modeRate_le (hvalid : config.Valid) {mode : Text} (hmode : mode ∈ allFaultModes) :
    config.modeRate mode ≤ 100 := by
  by_cases hindividual : config.hasIndividual = true
  · obtain ⟨r, hr, rfl⟩ := @exists_individual config mode hmode
    rw [modeRate_of_individual hindividual hr]
    cases hrate : r.2.2 with
    | none => norm_num
    | some rate => exact (hvalid.rates r hr rate hrate).2
  · obtain hpos | hzero := hvalid.errorRate.1.lt_or_eq
    · rw [GeneratorConfig.modeRate, GeneratorConfig.getFaultModeRates, if_neg hindividual,
        if_pos hpos, lookup_map _ hmode, Option.getD_some]
      split_ifs with hactive
      · have hlength : (1 : ℚ) ≤ config.activeModes.length := by
          exact_mod_cast List.length_pos_of_mem hactive
        exact (div_le_self hpos.le hlength).trans hvalid.errorRate.2
      · norm_num
    · rw [modeRate_of_none hindividual hzero.symm hmode]
      norm_num

end

/-- The draws with which the engine of a configuration selects some mode. -/
def Selecting (u : Unicode) (config : GeneratorConfig) (picks : ℕ → ℕ) : Set (ℕ → ℝ) :=
  {draws | ∃ engine mode, faultEngine u config ⟨draws, picks⟩ = .ok engine ∧
    (selectFaultMode engine).1 = .ok (some mode)}

/-- No rate but 0 is given for one of the modes. -/
def NoIndividual (config : GeneratorConfig) (modes : List Text) : Prop :=
  ∀ r ∈ config.individualRates, r.2.1.value ∈ modes → r.2.2.getD 0 = 0

section

variable {config : GeneratorConfig} {modes : List Text}

theorem bounds_range (hvalid : config.Valid) (hmodes : config.faultModes = some modes) :
    ∀ p ∈ (bounds config.modeRate modes : List ℝ), 0 < p ∧ p ≤ 1 := by
  intro p hp
  obtain ⟨mode, hmode, rfl⟩ := List.mem_map.mp hp
  obtain ⟨hmem, hpos⟩ := List.mem_filter.mp hmode
  have hsupported : mode ∈ allFaultModes := by
    apply hvalid.faultModes
    rwa [hmodes, Option.getD_some]
  have hrate := modeRate_le hvalid hsupported
  have hpos' : 0 < config.modeRate mode := of_decide_eq_true hpos
  constructor
  · exact_mod_cast div_pos hpos' (by norm_num)
  · have hle : config.modeRate mode / 100 ≤ 1 := (div_le_one (by norm_num)).mpr hrate
    exact_mod_cast hle

/-- The probability that some mode is selected. -/
theorem uniformDraws_selecting (u : Unicode) (picks : ℕ → ℕ) (hvalid : config.Valid)
    (hmodes : config.faultModes = some modes) (hne : modes ≠ []) :
    uniformDraws (Selecting u config picks) = ENNReal.ofReal
      (1 - ((bounds config.modeRate modes).map fun p => 1 - p).prod) := by
  have hset : Selecting u config picks =
      {draws | SomeBelow (bounds config.modeRate modes) draws} := by
    ext draws
    exact faultEngine_selects u hvalid hmodes hne ⟨draws, picks⟩
  have hrange := bounds_range hvalid hmodes
  rw [hset, uniformDraws_someBelow fun p hp => ⟨(hrange p hp).1.le, (hrange p hp).2⟩]

/-- An error rate is shared out in equal parts. -/
theorem bounds_of_errorRate (hvalid : config.Valid) (hmodes : config.faultModes = some modes)
    (hne : modes ≠ []) (hpos : 0 < config.errorRate) :
    (bounds config.modeRate modes : List ℝ) =
      List.replicate modes.length ((config.errorRate : ℝ) / 100 / modes.length) := by
  have hrate : ∀ mode ∈ modes, config.modeRate mode = config.errorRate / modes.length := by
    intro mode hmode
    have hactive : mode ∈ config.activeModes := by rwa [activeModes_eq hmodes hne]
    have hsupported : mode ∈ allFaultModes := by
      apply hvalid.faultModes
      rwa [hmodes, Option.getD_some]
    rw [modeRate_of_errorRate hvalid hpos hactive hsupported, activeModes_eq hmodes hne]
  have hlength : (0 : ℚ) < modes.length := by exact_mod_cast List.length_pos_iff.mpr hne
  have hall : modes.filter (fun mode => 0 < config.modeRate mode) = modes := by
    apply List.filter_eq_self.mpr
    intro mode hmode
    rw [decide_eq_true_eq, hrate mode hmode]
    exact div_pos hpos hlength
  rw [bounds, hall, ← List.map_const']
  apply List.map_congr_left
  intro mode hmode
  rw [hrate mode hmode]
  push_cast
  rw [div_right_comm]

/-- Without an error rate, a mode draws where it has a rate of its own. -/
theorem bounds_eq_nil_iff (hvalid : config.Valid) (hmodes : config.faultModes = some modes)
    (hzero : config.errorRate = 0) :
    (bounds config.modeRate modes : List ℝ) = [] ↔ NoIndividual config modes := by
  have hsupported : ∀ mode ∈ modes, mode ∈ allFaultModes := by
    intro mode hmode
    apply hvalid.faultModes
    rwa [hmodes, Option.getD_some]
  rw [bounds, List.map_eq_nil_iff, List.filter_eq_nil_iff]
  by_cases hindividual : config.hasIndividual = true
  · constructor
    · intro h r hr hmode
      have hrate := h _ hmode
      rw [decide_eq_true_eq, not_lt, modeRate_of_individual hindividual hr] at hrate
      apply le_antisymm hrate
      cases hr' : r.2.2 with
      | none => exact le_rfl
      | some rate => exact (hvalid.rates r hr rate hr').1
    · intro h mode hmode
      obtain ⟨r, hr, rfl⟩ := @exists_individual config mode (hsupported mode hmode)
      rw [decide_eq_true_eq, not_lt, modeRate_of_individual hindividual hr, h r hr hmode]
  · have hnone : ∀ r ∈ config.individualRates, r.2.2 = none := by
      intro r hr
      rw [GeneratorConfig.hasIndividual, List.any_eq_true] at hindividual
      cases hr' : r.2.2 with
      | none => rfl
      | some rate => exact absurd ⟨r, hr, by rw [hr']; rfl⟩ hindividual
    refine iff_of_true (fun mode hmode => ?_) fun r hr _ => ?_
    · rw [decide_eq_true_eq, not_lt, modeRate_of_none hindividual hzero (hsupported mode hmode)]
    · rw [hnone r hr]
      rfl

/-- The rate is met by a single mode, and where it is 0 and no mode has a rate of its own. -/
theorem error_rate_met_iff (u : Unicode) (picks : ℕ → ℕ) {args config : GeneratorConfig}
    {modes : List Text} (hconfig : args.postInit u = .ok config)
    (hmodes : config.faultModes = some modes) (hne : modes ≠ []) :
    uniformDraws (Selecting u config picks) = ENNReal.ofReal (config.errorRate / 100) ↔
      0 < config.errorRate ∧ modes.length = 1 ∨
        config.errorRate = 0 ∧ NoIndividual config modes := by
  have hvalid := valid_of_postInit hconfig
  have hrange := bounds_range hvalid hmodes
  obtain ⟨hproduct, hle⟩ := prod_one_sub_mem fun p hp => ⟨(hrange p hp).1.le, (hrange p hp).2⟩
  have hrate : (0 : ℝ) ≤ config.errorRate / 100 :=
    div_nonneg (by exact_mod_cast hvalid.errorRate.1) (by norm_num)
  rw [uniformDraws_selecting u picks hvalid hmodes hne,
    ENNReal.ofReal_eq_ofReal_iff (sub_nonneg.mpr hle) hrate]
  obtain hpos | hzero := hvalid.errorRate.1.lt_or_eq
  · have hlength : (0 : ℝ) < modes.length := by exact_mod_cast List.length_pos_iff.mpr hne
    have hshare : (0 : ℝ) < config.errorRate / 100 / modes.length :=
      div_pos (div_pos (by exact_mod_cast hpos) (by norm_num)) hlength
    have htotal : modes.length * ((config.errorRate : ℝ) / 100 / modes.length) =
        config.errorRate / 100 := mul_div_cancel₀ _ hlength.ne'
    have hbounds := bounds_of_errorRate hvalid hmodes hne hpos
    rw [or_iff_left fun h => hpos.ne' h.1, and_iff_right hpos, hbounds, List.map_replicate,
      List.prod_replicate]
    constructor
    · intro h
      by_contra hmany
      have htwo : 2 ≤ modes.length := by
        have hone := List.length_pos_iff.mpr hne
        omega
      have hone : (config.errorRate : ℝ) / 100 / modes.length ≤ 1 := by
        apply (hrange _ _).2
        rw [hbounds]
        exact List.mem_replicate.mpr ⟨by omega, rfl⟩
      have hstrict := one_sub_mul_lt_pow hshare hone htwo
      rw [htotal] at hstrict
      linarith
    · intro h
      rw [h, pow_one, Nat.cast_one, div_one, sub_sub_cancel]
  · rw [← hzero, Rat.cast_zero, zero_div, sub_eq_zero]
    rw [or_iff_right fun h => lt_irrefl _ h.1, and_iff_right rfl,
      ← bounds_eq_nil_iff hvalid hmodes hzero.symm]
    constructor
    · intro h
      by_contra hsome
      exact (prod_one_sub_lt_one hrange hsome).ne h.symm
    · intro h
      rw [h]
      rfl

end

/-! ### Two modes -/

/-- A tenth of the events, shared out among these modes. -/
def tenPercent (modes : List Text) : GeneratorConfig where
  errorRate := 10
  faultModes := some modes

theorem one_mode_meets : uniformDraws (Selecting .ascii (tenPercent ["NULL"]) fun _ => 0) =
    ENNReal.ofReal ((tenPercent ["NULL"]).errorRate / 100) := by
  have hconfig : (tenPercent ["NULL"]).postInit .ascii = .ok (tenPercent ["NULL"]) := rfl
  have hpos : 0 < (tenPercent ["NULL"]).errorRate := by decide +kernel
  exact (error_rate_met_iff .ascii _ hconfig rfl (List.cons_ne_nil _ _)).mpr (.inl ⟨hpos, rfl⟩)

/-- One event in four hundred is missing. -/
theorem two_modes_fall_short :
    (tenPercent ["NULL", "DUPLICATE"]).postInit .ascii = .ok (tenPercent ["NULL", "DUPLICATE"]) ∧
      uniformDraws (Selecting .ascii (tenPercent ["NULL", "DUPLICATE"]) fun _ => 0) ≠
        ENNReal.ofReal ((tenPercent ["NULL", "DUPLICATE"]).errorRate / 100) := by
  have hconfig : (tenPercent ["NULL", "DUPLICATE"]).postInit .ascii =
      .ok (tenPercent ["NULL", "DUPLICATE"]) := rfl
  have hvalid := valid_of_postInit hconfig
  refine ⟨hconfig, ?_⟩
  rw [uniformDraws_selecting .ascii _ hvalid rfl (by decide),
    bounds_of_errorRate hvalid rfl (by decide) (by decide +kernel), List.map_replicate,
    List.prod_replicate]
  rw [Ne, ENNReal.ofReal_eq_ofReal_iff (by norm_num [tenPercent]) (by norm_num [tenPercent])]
  norm_num [tenPercent]

end IceStream.Generator
