import IceStream.Lib.FloatQuotient

/-!
# Rounding a rational

A mantissa with its round bit and its sticky bit tells where a rational lies
between two integers. Approximations of one rational are therefore rounded alike,
and one that is close enough to a float is rounded to it.
-/

namespace Python
open Float.Model Float.Model.UnpackedFloat

/-! ## Extended mantissas -/

/-- The integer part of `x` is the mantissa, the round bit counts a half, and the sticky bit
tells whether there is a rest. -/
def Stands (em : ExtendedMantissa) (x : ℚ) : Prop :=
  ∃ rest : ℚ, 0 ≤ rest ∧ rest < 1 / 2 ∧ (em.stickyBit = true ↔ rest ≠ 0) ∧
    x = em.mantissa + em.roundBit.toNat / 2 + rest

theorem Stands.unique {em em' : ExtendedMantissa} {x : ℚ} (h : Stands em x) (h' : Stands em' x) :
    em = em' := by
  obtain ⟨m, r, s⟩ := em
  obtain ⟨m', r', s'⟩ := em'
  obtain ⟨rest, hlow, hhigh, hsticky, hx⟩ := h
  obtain ⟨rest', hlow', hhigh', hsticky', hx'⟩ := h'
  simp only at hsticky hx hsticky' hx'
  -- both count the halves in `x`
  have hhalves : 2 * m + r.toNat = 2 * m' + r'.toNat := by
    have hle : ((2 * m + r.toNat : ℕ) : ℚ) < (2 * m' + r'.toNat : ℕ) + 1 := by
      push_cast
      linarith
    have hge : ((2 * m' + r'.toNat : ℕ) : ℚ) < (2 * m + r.toNat : ℕ) + 1 := by
      push_cast
      linarith
    have hle : 2 * m + r.toNat < 2 * m' + r'.toNat + 1 := by exact_mod_cast hle
    have hge : 2 * m' + r'.toNat < 2 * m + r.toNat + 1 := by exact_mod_cast hge
    omega
  have hbits : m = m' ∧ r = r' := by
    cases r <;> cases r' <;> simp at hhalves ⊢ <;> omega
  obtain ⟨rfl, rfl⟩ := hbits
  have hrest : rest = rest' := by linarith
  subst hrest
  have hsame : s = s' := Bool.eq_iff_iff.mpr (hsticky.trans hsticky'.symm)
  rw [hsame]

theorem Stands.shiftRightOne {em : ExtendedMantissa} {x : ℚ} (h : Stands em x) :
    Stands em.shiftRightOne (x / 2) := by
  obtain ⟨m, r, s⟩ := em
  obtain ⟨rest, hlow, hhigh, hsticky, hx⟩ := h
  simp only at hsticky hx
  refine ⟨r.toNat / 4 + rest / 2, by positivity, ?_, ?_, ?_⟩
  · cases r <;> simp <;> linarith
  · cases r with
    | true =>
      have hpos : (0 : ℚ) < 1 / 4 + rest / 2 := by positivity
      simpa [ExtendedMantissa.shiftRightOne] using hpos.ne'
    | false => simpa [ExtendedMantissa.shiftRightOne] using hsticky
  · have hmod : (m % 2 != 0).toNat = m % 2 := by
      obtain h | h := Nat.mod_two_eq_zero_or_one m <;> simp [h]
    have hm : (m : ℚ) = 2 * (m / 2 : ℕ) + (m % 2 : ℕ) := by
      exact_mod_cast (Nat.div_add_mod m 2).symm
    simp only [ExtendedMantissa.shiftRightOne, hmod]
    rw [hx, hm]
    ring

theorem Stands.shiftRight {em : ExtendedMantissa} {x : ℚ} (h : Stands em x) (n : ℕ) :
    Stands (em >>> n) (x / 2 ^ n) := by
  induction n with
  | zero =>
    rw [pow_zero, div_one]
    exact h
  | succ n ih =>
    have hstep := ih.shiftRightOne
    rw [div_div, ← pow_succ] at hstep
    exact hstep

/-- Rounding goes to an integer that is less than a half away. -/
theorem Stands.roundedMantissa {em : ExtendedMantissa} {x : ℚ} {m : ℕ} (h : Stands em x)
    (hclose : |x - m| < 1 / 2) : em.roundedMantissa = m := by
  obtain ⟨q, r, s⟩ := em
  obtain ⟨rest, hlow, hhigh, hsticky, hx⟩ := h
  simp only at hsticky hx
  obtain ⟨hleft, hright⟩ := abs_lt.mp hclose
  cases r with
  | false =>
    have hq : q = m := by
      have hle : (q : ℚ) < m + 1 := by
        simp only [Bool.toNat_false, Nat.cast_zero, zero_div] at hx
        linarith
      have hge : (m : ℚ) < q + 1 := by
        simp only [Bool.toNat_false, Nat.cast_zero, zero_div] at hx
        linarith
      have hle : q < m + 1 := by exact_mod_cast hle
      have hge : m < q + 1 := by exact_mod_cast hge
      omega
    cases s <;>
      simp [ExtendedMantissa.roundedMantissa, ExtendedMantissa.accuracy,
        Accuracy.roundToNearestEven, hq]
  | true =>
    simp only [Bool.toNat_true, Nat.cast_one] at hx
    have hge : (q : ℚ) < m := by linarith
    have hle : (m : ℚ) < q + 1 + rest := by linarith
    have hge : q < m := by exact_mod_cast hge
    cases s with
    | true =>
      have hle : (m : ℚ) < q + 2 := by linarith
      have hle : m < q + 2 := by exact_mod_cast hle
      simp only [ExtendedMantissa.roundedMantissa, ExtendedMantissa.accuracy,
        Accuracy.roundToNearestEven]
      omega
    | false =>
      -- on the half itself there is no such integer
      have hrest : rest = 0 := by simpa using hsticky
      have hle : (m : ℚ) < q + 1 := by linarith
      have hle : m < q + 1 := by exact_mod_cast hle
      omega

/-! ## Approximations -/

/-- The exponent a float near `r` has. -/
def exponentOf (r : ℚ) : ℤ := max (Int.log 2 r - 52) (-1074)

/-- `q * 2 ^ e`, with what `accuracy` says of the rest, is `r`, and `e` is fine enough. -/
structure Approximates (q : ℕ) (e : ℤ) (accuracy : Accuracy) (r : ℚ) : Prop where
  pos : 0 < r
  stands : Stands (.ofMantissaAndAccuracy q accuracy) (r / 2 ^ e)
  fine : e ≤ Format.binary64.targetExponent (totalExponent q e)

theorem targetExponent_eq (q : ℕ) (e : ℤ) :
    Format.binary64.targetExponent (totalExponent q e) = max (q.log2 + e - 52) (-1074) := by
  simp only [Format.targetExponent, totalExponent, Format.mantissaBits, Format.minExponent]
  omega

section

variable {q : ℕ} {e : ℤ} {accuracy : Accuracy} {r : ℚ}

theorem Approximates.le (h : Approximates q e accuracy r) : q * (2 : ℚ) ^ e ≤ r := by
  obtain ⟨rest, hlow, -, -, hx⟩ := h.stands
  rw [mantissa_ofMantissaAndAccuracy] at hx
  have hpos : (0 : ℚ) < 2 ^ e := by positivity
  rw [← le_div_iff₀ hpos, hx]
  have hbit : (0 : ℚ) ≤ (ExtendedMantissa.ofMantissaAndAccuracy q accuracy).roundBit.toNat / 2 := by
    positivity
  linarith

theorem Approximates.lt (h : Approximates q e accuracy r) : r < (q + 1) * (2 : ℚ) ^ e := by
  obtain ⟨rest, -, hhigh, -, hx⟩ := h.stands
  rw [mantissa_ofMantissaAndAccuracy] at hx
  have hpos : (0 : ℚ) < 2 ^ e := by positivity
  rw [← div_lt_iff₀ hpos, hx]
  have hbit : ((ExtendedMantissa.ofMantissaAndAccuracy q accuracy).roundBit.toNat : ℚ) ≤ 1 := by
    exact_mod_cast Bool.toNat_le _
  linarith

theorem Approximates.targetExponent (h : Approximates q e accuracy r) :
    Format.binary64.targetExponent (totalExponent q e) = exponentOf r := by
  have hle := h.le
  have hlt := h.lt
  have hfine := h.fine
  rw [targetExponent_eq] at hfine ⊢
  rw [exponentOf]
  by_cases hq : q = 0
  · subst hq
    simp only [Nat.log2_zero, Nat.cast_zero, zero_add, one_mul] at hfine hlt ⊢
    have hlog : Int.log 2 r < e := (Int.lt_zpow_iff_log_lt (by norm_num) h.pos).mp (by exact_mod_cast hlt)
    omega
  · have hlog : Int.log 2 r = q.log2 + e := by
      apply le_antisymm
      · have hupper : r < (2 : ℚ) ^ ((q.log2 : ℤ) + e + 1) := by
          apply hlt.trans_le
          have hnat : q + 1 ≤ 2 ^ (q.log2 + 1) := Nat.lt_log2_self
          have hcast : (q + 1 : ℚ) ≤ 2 ^ (q.log2 + 1) := by exact_mod_cast hnat
          calc (q + 1) * (2 : ℚ) ^ e ≤ 2 ^ (q.log2 + 1) * 2 ^ e := by gcongr
            _ = 2 ^ ((q.log2 : ℤ) + e + 1) := by
              rw [← zpow_natCast, ← zpow_add₀ (by norm_num)]
              congr 1
              push_cast
              ring
        have := (Int.lt_zpow_iff_log_lt (b := 2) (by norm_num) h.pos).mp (by exact_mod_cast hupper)
        omega
      · apply (Int.zpow_le_iff_le_log (b := 2) (by norm_num) h.pos).mp
        have hnat : 2 ^ q.log2 ≤ q := Nat.log2_self_le hq
        have hcast : (2 : ℚ) ^ q.log2 ≤ q := by exact_mod_cast hnat
        calc ((2 : ℕ) : ℚ) ^ ((q.log2 : ℤ) + e) = 2 ^ q.log2 * 2 ^ e := by
              rw [zpow_add₀ (by norm_num)]
              norm_cast
          _ ≤ q * 2 ^ e := by gcongr
          _ ≤ r := hle
    rw [hlog]

/-- The first shift brings an approximation to the exponent of its float. -/
theorem Approximates.shifted (h : Approximates q e accuracy r) :
    Stands (ExtendedMantissa.ofMantissaAndAccuracy q accuracy >>> (exponentOf r - e).toNat)
      (r / 2 ^ exponentOf r) := by
  have hfine : e ≤ exponentOf r := h.targetExponent ▸ h.fine
  have hstands := h.stands.shiftRight (exponentOf r - e).toNat
  have hexponent : e + ((exponentOf r - e).toNat : ℤ) = exponentOf r := by omega
  rw [div_div, ← zpow_natCast, ← zpow_add₀ (by norm_num), hexponent] at hstands
  exact hstands

/-- What rounding does after the mantissa is an integer again. -/
def settled (s : Sign) (m : ℕ) (e : ℤ) : UnpackedFloat :=
  let (em, e') := shiftToTargetExponent Format.binary64 m e .exact
  if h : em.mantissa = 0 then .zero s else .finite s em.mantissa e' (Nat.pos_of_ne_zero h)

theorem Approximates.round_eq_settled (h : Approximates q e accuracy r) (s : Sign) :
    roundWithAccuracy Format.binary64 s q e accuracy =
      settled s (ExtendedMantissa.ofMantissaAndAccuracy q accuracy >>>
        (exponentOf r - e).toNat).roundedMantissa (exponentOf r) := by
  have hfine : e ≤ exponentOf r := h.targetExponent ▸ h.fine
  have hexponent : e + ((exponentOf r - e).toNat : ℤ) = exponentOf r := by omega
  have hfirst : shiftToTargetExponent Format.binary64 q e accuracy =
      (ExtendedMantissa.ofMantissaAndAccuracy q accuracy >>> (exponentOf r - e).toNat,
        exponentOf r) := by
    rw [shiftToTargetExponent, h.targetExponent, shiftToExponent, hexponent]
  rw [roundWithAccuracy, hfirst]
  rfl

/-- Two approximations of one rational are rounded to one float. -/
theorem Approximates.round_eq {q' : ℕ} {e' : ℤ} {accuracy' : Accuracy}
    (h : Approximates q e accuracy r) (h' : Approximates q' e' accuracy' r) (s : Sign) :
    roundWithAccuracy Format.binary64 s q e accuracy =
      roundWithAccuracy Format.binary64 s q' e' accuracy' := by
  rw [h.round_eq_settled, h'.round_eq_settled, h.shifted.unique h'.shifted]

end

/-! ## Floats near a rational -/

section

variable {s : Sign} {m : ℕ} {e : ℤ}

theorem settled_eq (he : -1074 ≤ e) : settled s m e =
    if h : m / 2 ^ (m.log2 - 52) = 0 then .zero s
    else .finite s (m / 2 ^ (m.log2 - 52)) (e + (m.log2 - 52 : ℕ)) (Nat.pos_of_ne_zero h) := by
  have hshift : (Format.binary64.targetExponent (totalExponent m e) - e).toNat = m.log2 - 52 :=
    shift_eq he
  simp only [settled, shiftToTargetExponent, shiftToExponent, hshift, mantissa_shiftRight,
    mantissa_ofMantissaAndAccuracy]

theorem settled_of_lt (hpos : 0 < m) (hm : m < 2 ^ 53) (he : -1074 ≤ e) :
    settled s m e = .finite s m e hpos := by
  have hlog : m.log2 - 52 = 0 := by
    have := (Nat.log2_lt hpos.ne').mpr hm
    omega
  rw [settled_eq he, hlog]
  simp [hpos.ne']

theorem settled_of_eq (he : -1074 ≤ e) :
    settled s (2 ^ 53) e = .finite s (2 ^ 52) (e + 1) (by norm_num) := by
  have hlog : (2 ^ 53).log2 - 52 = 1 := by rw [Nat.log2_two_pow]
  rw [settled_eq he, hlog]
  rfl

/-- A mantissa of at most 53 bits; if it has fewer, the exponent is the least one. -/
structure Canonical (m : ℕ) (e : ℤ) : Prop where
  pos : 0 < m
  lt : m < 2 ^ 53
  low : -1074 ≤ e
  normal : 2 ^ 52 ≤ m ∨ e = -1074

/-- What is as close to a float as a decimal of 17 digits is rounded to it. -/
theorem Approximates.round_near {q : ℕ} {e' : ℤ} {accuracy : Accuracy} {r : ℚ}
    (h : Approximates q e' accuracy r) (hm : Canonical m e)
    (hclose : |r - m * 2 ^ e| ≤ m * 2 ^ e / (2 * 10 ^ 16)) :
    roundWithAccuracy Format.binary64 s q e' accuracy = .finite s m e hm.pos := by
  have hpow : (0 : ℚ) < 2 ^ e := by positivity
  have hlt : (m : ℚ) + 1 ≤ 2 ^ 53 := by exact_mod_cast hm.lt
  have hpos : (1 : ℚ) ≤ m := by exact_mod_cast hm.pos
  obtain ⟨hlow, hhigh⟩ := abs_le.mp hclose
  -- in units of the last place of the float
  have hunit : |r / 2 ^ e - m| ≤ m / (2 * 10 ^ 16) := by
    rw [abs_le]
    constructor
    · rw [neg_le_sub_iff_le_add, ← sub_le_iff_le_add, le_div_iff₀ hpow]
      linarith
    · rw [sub_le_iff_le_add, div_le_iff₀ hpow]
      linarith
  obtain ⟨hleft, hright⟩ := abs_le.mp hunit
  have hupper : Int.log 2 r < e + 53 := by
    apply (Int.lt_zpow_iff_log_lt (by norm_num) h.pos).mp
    rw [add_comm, zpow_add₀ (by norm_num), ← div_lt_iff₀ (by positivity)]
    push_cast
    linarith
  have hclosest : |r / 2 ^ e - m| < 1 / 2 := by
    apply hunit.trans_lt
    linarith
  have hsame (hexponent : exponentOf r = e) :
      roundWithAccuracy Format.binary64 s q e' accuracy = .finite s m e hm.pos := by
    have hstands := h.shifted
    rw [h.round_eq_settled, hexponent] at *
    rw [hstands.roundedMantissa hclosest, settled_of_lt hm.pos hm.lt hm.low]
  by_cases hleast : e = -1074
  · apply hsame
    rw [exponentOf]
    omega
  have hnormal : 2 ^ 52 ≤ m := hm.normal.resolve_right hleast
  have hcast : (2 : ℚ) ^ 52 ≤ m := by exact_mod_cast hnormal
  have hlower : e + 51 ≤ Int.log 2 r := by
    apply (Int.zpow_le_iff_le_log (by norm_num) h.pos).mp
    rw [add_comm, zpow_add₀ (by norm_num), ← le_div_iff₀ (by positivity)]
    push_cast
    linarith
  have hlow := hm.low
  by_cases hlog : Int.log 2 r = e + 52
  · apply hsame
    rw [exponentOf]
    omega
  -- just below a power of two, where the float has more room below than above
  have hexponent : exponentOf r = e - 1 := by
    rw [exponentOf]
    omega
  have hbelow : r / 2 ^ e < 2 ^ 52 := by
    have hr : r < ((2 : ℕ) : ℚ) ^ (e + 52) :=
      (Int.lt_zpow_iff_log_lt (by norm_num) h.pos).mpr (by omega)
    rw [add_comm, zpow_add₀ (by norm_num)] at hr
    rw [div_lt_iff₀ hpow]
    exact_mod_cast hr
  have hpower : m = 2 ^ 52 := by
    apply le_antisymm _ hnormal
    have hm' : (m : ℚ) < 2 ^ 52 + 1 := by linarith
    exact Nat.lt_succ_iff.mp (by exact_mod_cast hm')
  subst hpower
  have hstands := h.shifted
  rw [hexponent, zpow_sub_one₀ (by norm_num), ← div_div, div_inv_eq_mul] at hstands
  have hrounded : |r / 2 ^ e * 2 - (2 ^ 53 : ℕ)| < 1 / 2 := by
    rw [abs_lt]
    push_cast at hleft hright ⊢
    constructor <;> linarith
  rw [h.round_eq_settled, hexponent, hstands.roundedMantissa hrounded,
    settled_of_eq (by omega)]
  congr 1
  omega

end

end Python
