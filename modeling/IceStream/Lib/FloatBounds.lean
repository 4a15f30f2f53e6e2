import IceStream.Lib.Convert
import IceStream.Lib.FloatDigits

/-!
# Bounds on a float

A float that is positive and not above a bound is finite and at most the bound; and an
integer that was converted to such a float lies between the same bounds itself.
-/

namespace Python
open Float.Model Float.Model.UnpackedFloat

/-- Positive, not above `bound`, and finite by that. -/
structure Within (bound x : Float) : Prop where
  pos : 0 < x
  le : x ≤ bound
  finite : x.isNaN = false ∧ x.isInf = false

section

variable {x y : Float} {m : ℕ} {e : ℤ}

theorem lt_iff_compare : x < y ↔ x.toModel.unpack.compare y.toModel.unpack = some .lt := by
  constructor
  · intro h
    have hmodel : x.toModel.unpack.lt y.toModel.unpack = true := of_decide_eq_true h
    exact eq_of_beq hmodel
  · intro h
    apply decide_eq_true
    change x.toModel.unpack.lt y.toModel.unpack = true
    exact beq_iff_eq.mpr h

/-- Floats above zero are finite or infinite. -/
theorem unpack_of_pos (h : 0 < x) :
    x.toModel.unpack = .infinity .positive ∨ ∃ m e, IsPositive x m e := by
  have hcompare := lt_iff_compare.mp h
  rw [toModel_zero] at hcompare
  cases hx : x.toModel.unpack with
  | notANumber => rw [hx] at hcompare; cases hcompare
  | infinity s =>
    rw [hx] at hcompare
    cases s with
    | positive => exact .inl rfl
    | negative => cases hcompare
  | zero s => rw [hx] at hcompare; cases hcompare
  | finite s m e hm =>
    rw [hx] at hcompare
    cases s with
    | positive => exact .inr ⟨m, e, hm, hx⟩
    | negative => cases hcompare

theorem IsPositive.finite (h : IsPositive x m e) : x.isNaN = false ∧ x.isInf = false := by
  have hnan : x.isNaN = x.toModel.unpack.isNaN := rfl
  have hinf : x.isInf = x.toModel.unpack.isInf := rfl
  rw [hnan, hinf, h.unpack]
  exact ⟨rfl, rfl⟩

/-- What is positive and not above a positive float is within it. -/
theorem IsPositive.within (hy : IsPositive y m e) (hpos : 0 < x) (hle : ¬y < x) : Within y x := by
  rw [lt_iff_compare, hy.unpack] at hle
  obtain hinf | ⟨m', e', hx⟩ := unpack_of_pos hpos
  · rw [hinf] at hle
    exact absurd rfl hle
  · refine ⟨hpos, ?_, hx.finite⟩
    rw [hx.unpack] at hle
    have horder : (compare e e').then (compare m m') ≠ .lt := fun h => hle (congrArg some h)
    have hswap : ((compare e' e).then (compare m' m)).isLE = true := by
      rw [← compare_finite_swap]
      cases hc : (compare e e').then (compare m m') with
      | lt => exact absurd hc horder
      | eq => rfl
      | gt => rfl
    apply decide_eq_true
    change UnpackedFloat.le x.toModel.unpack y.toModel.unpack = true
    rw [hx.unpack, hy.unpack]
    exact hswap

/-- What is within a float is not above it. -/
theorem IsPositive.not_lt_of_within (hy : IsPositive y m e) (h : Within y x) : ¬y < x := by
  obtain hinf | ⟨m', e', hx⟩ := unpack_of_pos h.pos
  · have hfinite : x.toModel.unpack.isInf = false := h.finite.2
    rw [hinf] at hfinite
    cases hfinite
  · have hle : UnpackedFloat.le x.toModel.unpack y.toModel.unpack = true := of_decide_eq_true h.le
    rw [hx.unpack, hy.unpack] at hle
    rw [lt_iff_compare, hx.unpack, hy.unpack]
    intro hlt
    have horder : ((compare e' e).then (compare m' m)).isLE = true := hle
    have hreverse : (compare e e').then (compare m m') = .lt := Option.some.inj hlt
    rw [← compare_finite_swap, hreverse] at horder
    cases horder

end

/-! ## Rounding upwards of a float -/

theorem le_roundedMantissa (em : ExtendedMantissa) : em.mantissa ≤ em.roundedMantissa := by
  obtain ⟨mantissa, roundBit, stickyBit⟩ := em
  cases roundBit <;> cases stickyBit <;>
    simp [ExtendedMantissa.roundedMantissa, ExtendedMantissa.accuracy, Accuracy.roundToNearestEven]

/-- A mantissa is rounded to one of its two neighbours. -/
theorem Stands.near {em : ExtendedMantissa} {x : ℚ} (h : Stands em x) :
    em.mantissa ≤ x ∧ x < em.mantissa + 1 := by
  obtain ⟨rest, hlow, hhigh, -, hx⟩ := h
  have hbit : ((em.roundBit.toNat : ℕ) : ℚ) ≤ 1 := by
    cases em.roundBit <;> simp
  have hbit' : (0 : ℚ) ≤ (em.roundBit.toNat : ℕ) := by positivity
  constructor <;> linarith

/-- The mantissa and the exponent of a positive float come before those of another one. -/
def Before (m : ℕ) (e : ℤ) (m' : ℕ) (e' : ℤ) : Prop := e < e' ∨ e = e' ∧ m < m'

theorem compare_of_before {m m' : ℕ} {e e' : ℤ} (h : Before m e m' e') :
    (compare e e').then (compare m m') = .lt := by
  obtain h | ⟨rfl, h⟩ := h
  · rw [Int.compare_eq_lt.mpr h]
    rfl
  · rw [Int.compare_eq_eq.mpr rfl]
    exact Nat.compare_eq_lt.mpr h

section

variable {x y : Float} {m m' : ℕ} {e e' : ℤ}

theorem IsPositive.lt_pack (hy : IsPositive y m e) (hm : Canonical m' e')
    (h : Before m e m' e') :
    y < .ofModel (.pack (.finite .positive m' e' hm.pos)) := by
  rw [lt_iff_compare, hy.unpack]
  by_cases hlarge : e' ≤ 971
  · have hunpack : (Float.ofModel (.pack (.finite .positive m' e' hm.pos))).toModel.unpack =
        .finite .positive m' e' hm.pos := hm.unpack_pack hlarge
    rw [hunpack]
    exact congrArg some (compare_of_before h)
  · have hunpack : (Float.ofModel (.pack (.finite .positive m' e' hm.pos))).toModel.unpack =
        .infinity .positive := by
      change UnpackedFloat.unpack Format.binary64 (UnpackedFloat.pack Format.binary64 _) = _
      rw [pack_finite, if_pos (by omega)]
      rfl
    rw [hunpack]
    rfl

/-- What lies a place above a float is not rounded to it or below. -/
theorem Rounds.lt {r : ℚ} (hx : Rounds x r) (hy : IsPositive y m e)
    (h : (m + 1) * (2 : ℚ) ^ e ≤ r) : y < x := by
  obtain ⟨q, e₀, accuracy, happrox, rfl⟩ := hx
  have hm := hy.canonical.1
  have hpow : (0 : ℚ) < 2 ^ e := by positivity
  have hr := happrox.pos
  rw [happrox.round_eq_settled]
  have hstands := happrox.shifted
  set em := ExtendedMantissa.ofMantissaAndAccuracy q accuracy >>> (exponentOf r - e₀).toNat with hem
  have hmax : exponentOf r = max (Int.log 2 r - 52) (-1074) := rfl
  set E := exponentOf r with hE
  have hlow : -1074 ≤ E := le_max_right _ _
  have hnear := hstands.near
  have hscale : (0 : ℚ) < 2 ^ E := by positivity
  -- the exponent is not below that of the float
  have hexponent : e ≤ E := by
    obtain hnormal | hleast := hm.normal
    · have hlog : e + 52 ≤ Int.log 2 r := by
        apply (Int.zpow_le_iff_le_log (by norm_num) hr).mp
        have hcast : (2 : ℚ) ^ 52 ≤ m := by exact_mod_cast hnormal
        rw [add_comm, zpow_add₀ (by norm_num)]
        push_cast
        calc (2 : ℚ) ^ (52 : ℤ) * 2 ^ e ≤ (m + 1) * 2 ^ e := by
              apply mul_le_mul_of_nonneg_right _ hpow.le
              rw [zpow_ofNat]
              linarith
          _ ≤ r := h
      omega
    · omega
  have hupper : em.mantissa < 2 ^ 53 := by
    have hlog : r < 2 ^ (E + 53) := by
      have hlt : Int.log 2 r < E + 53 := by omega
      exact_mod_cast (Int.lt_zpow_iff_log_lt (by norm_num) hr).mpr hlt
    have hcast : (em.mantissa : ℚ) < 2 ^ 53 := by
      apply hnear.1.trans_lt
      rw [div_lt_iff₀ hscale]
      rwa [add_comm, zpow_add₀ (by norm_num)] at hlog
    exact_mod_cast hcast
  have hfull : e < E → 2 ^ 52 ≤ em.mantissa := by
    intro hlt
    have hmin := hm.low
    have hlog : E + 52 = Int.log 2 r := by omega
    have hle : (2 : ℚ) ^ (E + 52) ≤ r := by
      rw [hlog]
      exact_mod_cast Int.zpow_log_le_self (by norm_num) hr
    have hcast : (2 : ℚ) ^ 52 < em.mantissa + 1 := by
      apply lt_of_le_of_lt _ hnear.2
      rw [le_div_iff₀ hscale]
      rwa [add_comm, zpow_add₀ (by norm_num)] at hle
    have hnat : 2 ^ 52 < em.mantissa + 1 := by exact_mod_cast hcast
    omega
  have hsame : e = E → m < em.mantissa := by
    intro heq
    have hcast : (m : ℚ) + 1 < em.mantissa + 1 := by
      apply lt_of_le_of_lt _ hnear.2
      rw [le_div_iff₀ hscale, ← heq]
      exact h
    have hnat : m + 1 < em.mantissa + 1 := by exact_mod_cast hcast
    omega
  have hbefore : Before m e em.mantissa E := by
    obtain hlt | heq := lt_or_eq_of_le hexponent
    · exact .inl hlt
    · exact .inr ⟨heq, hsame heq⟩
  have hrounded := le_roundedMantissa em
  have hrounded' := roundedMantissa_le em
  by_cases hover : em.roundedMantissa = 2 ^ 53
  · rw [hover, settled_of_eq hlow]
    refine hy.lt_pack ⟨by norm_num, by norm_num, by omega, .inl le_rfl⟩ ?_
    exact .inl (by omega)
  · have hpos : 0 < em.roundedMantissa := by
      obtain hlt | ⟨-, hlt⟩ := hbefore
      · have := hfull hlt
        omega
      · omega
    have hcanonical : Canonical em.roundedMantissa E := by
      refine ⟨hpos, by omega, hlow, ?_⟩
      obtain hlt | heq := lt_or_eq_of_le hexponent
      · have := hfull hlt
        exact .inl (by omega)
      · have := hsame heq
        obtain hnormal | hleast := hm.normal
        · exact .inl (by omega)
        · exact .inr (by omega)
    rw [settled_of_lt hpos (by omega) hlow]
    refine hy.lt_pack hcanonical ?_
    obtain hlt | ⟨heq, hlt⟩ := hbefore
    · exact .inl hlt
    · exact .inr ⟨heq, by omega⟩

end

/-! ## Integers -/

theorem rounds_trueDiv {i : ℤ} (hi : 0 < i) : Rounds (trueDiv i 1 (by decide)) i := by
  obtain ⟨n, rfl⟩ := Int.eq_ofNat_of_zero_le hi.le
  have hpos : 0 < n := by omega
  have hne : (n : ℤ) ≠ 0 := hi.ne'
  have hsign : ¬(n : ℤ) < 0 := by omega
  have h := rounds_div hpos Nat.one_pos 0 0
  have hvalue : ((n : ℚ) * 2 ^ (0 : ℤ)) / ((1 : ℕ) * 2 ^ (0 : ℤ)) = ((n : ℤ) : ℚ) := by simp
  rw [hvalue] at h
  simp only [trueDiv, dif_neg hne, hsign, ↓reduceIte, Int.natAbs_natCast]
  exact h

/-- A float with a sign, and the negative ones are not above zero. -/
theorem not_pos_of_negative {x : UnpackedFloat}
    (hx : x = .zero .negative ∨ ∃ m e hm, x = .finite .negative m e hm) :
    ¬0 < Float.ofModel (.pack x) := by
  rw [lt_iff_compare, toModel_zero]
  change ¬UnpackedFloat.compare _
    (UnpackedFloat.unpack Format.binary64 (UnpackedFloat.pack Format.binary64 x)) = _
  obtain rfl | ⟨m, e, hm, rfl⟩ := hx
  · decide +kernel
  · rw [pack_finite]
    split_ifs
    · decide +kernel
    all_goals
      rw [unpack_packComponents]
      split_ifs <;> simp [UnpackedFloat.compare]

theorem roundWithAccuracy_negative (q : ℕ) (e : ℤ) (accuracy : Accuracy) :
    roundWithAccuracy Format.binary64 .negative q e accuracy = .zero .negative ∨
      ∃ m e' hm, roundWithAccuracy Format.binary64 .negative q e accuracy =
        .finite .negative m e' hm := by
  simp only [roundWithAccuracy]
  split_ifs with h
  · exact .inl rfl
  · exact .inr ⟨_, _, Nat.pos_of_ne_zero h, rfl⟩

theorem not_pos_trueDiv {i : ℤ} (hi : i ≤ 0) : ¬0 < trueDiv i 1 (by decide) := by
  obtain rfl | hneg := eq_or_lt_of_le hi
  · decide +kernel
  · have hne : i ≠ 0 := hneg.ne
    simp only [trueDiv, dif_neg hne, hneg, ↓reduceIte]
    apply not_pos_of_negative
    exact roundWithAccuracy_negative _ _ _

/-- An integer whose float is within a whole bound lies within it as well. -/
theorem within_of_floatOfInt {i : ℤ} {x y : Float} {m n : ℕ} {e : ℤ} (hy : IsPositive y m e)
    (hn : (m + 1) * (2 : ℚ) ^ e ≤ n + 1) (hx : floatOfInt i = .ok x) (h : Within y x) :
    0 < i ∧ i ≤ n := by
  have hfloat : trueDiv i 1 (by decide) = x := by
    rw [floatOfInt] at hx
    split_ifs at hx
    exact Except.ok.inj hx
  have hpos : 0 < i := by
    by_contra hi
    have hnot := not_pos_trueDiv (not_lt.mp hi)
    rw [hfloat] at hnot
    exact hnot h.pos
  refine ⟨hpos, ?_⟩
  by_contra hi
  have hcast : ((n : ℚ) + 1) ≤ i := by exact_mod_cast not_le.mp hi
  have hrounds := rounds_trueDiv hpos
  rw [hfloat] at hrounds
  exact not_le_of_lt (hrounds.lt hy (hn.trans hcast)) h.le

end Python
