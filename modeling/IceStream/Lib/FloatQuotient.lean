import IceStream.Lib.Float
import Mathlib

/-!
# A quotient of counts is at most one

`trueDiv a b` rounds once, and rounding does not cross the float one: for
`0 ≤ a ≤ b` the result lies between zero and one.
-/

namespace Python
open Float.Model Float.Model.UnpackedFloat

/-! ## Shifting and rounding -/

theorem mantissa_shiftRight (em : ExtendedMantissa) (n : ℕ) :
    (em >>> n).mantissa = em.mantissa / 2 ^ n := by
  change (n.repeat ExtendedMantissa.shiftRightOne em).mantissa = _
  induction n with
  | zero => simp [Nat.repeat]
  | succ n ih =>
    change (n.repeat ExtendedMantissa.shiftRightOne em).mantissa / 2 = _
    rw [ih, Nat.div_div_eq_div_mul, pow_succ]

theorem roundedMantissa_le (em : ExtendedMantissa) : em.roundedMantissa ≤ em.mantissa + 1 := by
  obtain ⟨mantissa, roundBit, stickyBit⟩ := em
  have hmod : mantissa % 2 ≤ 1 := by omega
  cases roundBit <;> cases stickyBit <;>
    simp [ExtendedMantissa.roundedMantissa, ExtendedMantissa.accuracy, Accuracy.roundToNearestEven]
  omega

theorem mantissa_ofMantissaAndAccuracy (m : ℕ) (accuracy : Accuracy) :
    (ExtendedMantissa.ofMantissaAndAccuracy m accuracy).mantissa = m := by
  rcases accuracy with _ | (_ | _ | _) <;> rfl

/-- How far a mantissa is shifted until it has at most 53 bits. -/
theorem shift_eq {m : ℕ} {e : ℤ} (he : -1074 ≤ e) :
    (Format.binary64.targetExponent (totalExponent m e) - e).toNat = m.log2 - 52 := by
  simp only [Format.targetExponent, totalExponent, Format.mantissaBits, Format.minExponent]
  omega

/-- The positive floats up to one, and zero. -/
def AtMostOne : UnpackedFloat → Prop
  | .zero s => s = .positive
  | .finite s m e _ => s = .positive ∧ (e < -52 ∨ e = -52 ∧ m ≤ 2 ^ 52)
  | _ => False

/-- A mantissa below `2 ^ s` at exponent `-s` is rounded to at most one. -/
theorem atMostOne_round {q s : ℕ} (accuracy : Accuracy) (hlow : 53 ≤ s) (hhigh : s ≤ 1074)
    (hq : q < 2 ^ s) :
    AtMostOne (roundWithAccuracy Format.binary64 .positive q (-s) accuracy) := by
  have hfirst := shift_eq (m := q) (e := -(s : ℤ)) (by omega)
  set k := q.log2 - 52 with hk
  set r := (ExtendedMantissa.ofMantissaAndAccuracy q accuracy >>> k).roundedMantissa with hr
  have hsecond := shift_eq (m := r) (e := -(s : ℤ) + k) (by omega)
  set j := r.log2 - 52 with hj
  have hround : roundWithAccuracy Format.binary64 .positive q (-s) accuracy =
      if h : r / 2 ^ j = 0 then .zero .positive
      else .finite .positive (r / 2 ^ j) (-s + k + j) (Nat.pos_of_ne_zero h) := by
    simp only [roundWithAccuracy, shiftToTargetExponent, shiftToExponent, hfirst, ← hr, hsecond,
      mantissa_shiftRight, mantissa_ofMantissaAndAccuracy]
  have hpos : 0 < 2 ^ k := Nat.two_pow_pos k
  have hkle : k ≤ s := by
    by_cases hzero : q = 0
    · simp [hk, hzero]
    · have := (Nat.log2_lt hzero).mpr hq
      omega
  have hquotient : q / 2 ^ k < 2 ^ (s - k) := by
    rw [Nat.div_lt_iff_lt_mul hpos, ← pow_add, Nat.sub_add_cancel hkle]
    exact hq
  have hrle : r ≤ 2 ^ (s - k) := by
    have hle := roundedMantissa_le (ExtendedMantissa.ofMantissaAndAccuracy q accuracy >>> k)
    rw [mantissa_shiftRight, mantissa_ofMantissaAndAccuracy, ← hr] at hle
    omega
  rw [hround]
  split
  · rfl
  rename_i hm
  refine ⟨rfl, ?_⟩
  by_cases hexponent : -(s : ℤ) + k + j < -52
  · exact .inl hexponent
  right
  have hrpos : r ≠ 0 := by
    intro hzero
    simp [hzero] at hm
  by_cases hbits : 52 ≤ r.log2
  · have hrlow : 2 ^ r.log2 ≤ r := Nat.log2_self_le hrpos
    have hmle : 2 ^ r.log2 ≤ 2 ^ (s - k) := hrlow.trans hrle
    have hlog : r.log2 ≤ s - k := (Nat.pow_le_pow_iff_right (by norm_num)).mp hmle
    refine ⟨by omega, ?_⟩
    have hsplit : s - k = 52 + j := by omega
    rw [hsplit, pow_add] at hrle
    exact Nat.div_le_of_le_mul (by rw [Nat.mul_comm]; exact hrle)
  · -- the mantissa has too few bits for its exponent
    exfalso
    have hkpos : 0 < k := by omega
    have hqpos : q ≠ 0 := by
      intro hzero
      simp [hk, hzero] at hkpos
    have := (Nat.log2_lt hqpos).mpr hq
    omega

/-! ## Packing -/

theorem toNat_pos_of_ne {m : BitVec 52} (h : m ≠ 0#52) : 0 < m.toNat := by
  simpa [BitVec.toNat_pos, BitVec.pos_iff_ne_zero] using h

/-- Below the bits of infinity, what was packed is zero or finite. -/
theorem unpack_packed (e : BitVec 11) (m : BitVec 52) (he : e ≠ -1#11) :
    UnpackedFloat.unpack Format.binary64 (packComponents Format.binary64 .positive e m) =
      if e = 0#11 then
        if h : m = 0#52 then .zero .positive
        else .finite .positive m.toNat (-1074) (toNat_pos_of_ne h)
      else .finite .positive (1#1 ++ m).toNat ((e.toNat : ℤ) - 1075) (by
        rw [BitVec.toNat_append]
        exact Nat.pos_of_ne_zero (by simp)) := by
  simp only [UnpackedFloat.unpack, unpackMantissa_packComponents, unpackExponent_packComponents,
    unpackSign_packComponents, Sign.ofBitVec_toBitVec, he, ↓reduceIte]
  split
  · rename_i hzero
    subst hzero
    rfl
  · rfl

theorem toModel_zero : (0 : Float).toModel.unpack = .zero .positive := rfl

theorem toModel_one :
    (1 : Float).toModel.unpack = .finite .positive (2 ^ 52) (-52) (by norm_num) :=
  rfl

/-- What a packed float that is at most one is unpacked to is at most one. -/
theorem atMostOne_unpack_pack {x : UnpackedFloat} (hx : AtMostOne x) :
    AtMostOne (UnpackedFloat.unpack Format.binary64 (UnpackedFloat.pack Format.binary64 x)) := by
  cases x with
  | infinity s => exact hx.elim
  | notANumber => exact hx.elim
  | zero s =>
    obtain rfl : s = .positive := hx
    rfl
  | finite s m e hm =>
    obtain ⟨rfl, he⟩ := hx
    set b := (e + Format.binary64.exponentBias + Format.binary64.mantissaBitsWithoutImplicit).toNat
      with hb
    have hbias : b = (e + 1075).toNat := by
      simp only [hb, Format.exponentBias]
      norm_num
      omega
    have hfits : ¬2 ^ Format.binary64.exponentBits ≤ b + 1 := by
      change ¬2 ^ 11 ≤ b + 1
      omega
    have hne : BitVec.ofNat 11 b ≠ -1#11 := by
      intro h
      have := congrArg BitVec.toNat h
      simp at this
      omega
    have htoNat : (BitVec.ofNat 11 b).toNat = b := by
      rw [BitVec.toNat_ofNat, Nat.mod_eq_of_lt (by omega)]
    rw [UnpackedFloat.pack]
    simp only [← hb, hfits, ↓reduceIte]
    split
    · rename_i hbits
      rw [unpack_packed _ _ hne]
      split
      · split
        · rfl
        · exact ⟨rfl, .inl (by norm_num)⟩
      · refine ⟨rfl, ?_⟩
        rw [htoNat]
        obtain hlow | ⟨rfl, hle⟩ := he
        · exact .inl (by omega)
        · have hlog : m.log2 = 52 := by
            simp only [Format.mantissaBits] at hbits
            omega
          have hge : 2 ^ m.log2 ≤ m := Nat.log2_self_le hm.ne'
          have hone : m = 2 ^ 52 := by
            rw [hlog] at hge
            omega
          subst hone
          exact .inr ⟨by omega, by decide⟩
    · rw [unpack_packed _ _ (by decide)]
      simp only [↓reduceIte]
      split
      · rfl
      · exact ⟨rfl, .inl (by norm_num)⟩

/-- A packed float that is at most one compares so with zero and one. -/
theorem unit_interval_of_atMostOne {x : UnpackedFloat} (hx : AtMostOne x) :
    0 ≤ Float.ofModel (.pack x) ∧ Float.ofModel (.pack x) ≤ 1 := by
  set y := UnpackedFloat.unpack Format.binary64 (UnpackedFloat.pack Format.binary64 x) with hy
  have hatMost : AtMostOne y := atMostOne_unpack_pack hx
  have hlow : UnpackedFloat.le (.zero .positive) y = true := by
    clear_value y
    cases y with
    | zero s => rfl
    | finite s m e hm =>
      obtain ⟨rfl, -⟩ := hatMost
      rfl
    | _ => exact hatMost.elim
  have hhigh : UnpackedFloat.le y (.finite .positive (2 ^ 52) (-52) (by norm_num)) = true := by
    clear_value y
    cases y with
    | zero s => rfl
    | finite s m e hm =>
      obtain ⟨rfl, he⟩ := hatMost
      have horder : ((compare e (-52)).then (compare m (2 ^ 52))).isLE = true := by
        obtain hlt | ⟨rfl, hle⟩ := he
        · rw [Int.compare_eq_lt.mpr hlt]
          rfl
        · rw [Int.compare_eq_eq.mpr rfl]
          exact Nat.isLE_compare.mpr hle
      exact horder
    | _ => exact hatMost.elim
  have hunpack : (Float.Model.pack x).unpack = y := rfl
  constructor
  · apply decide_eq_true
    change UnpackedFloat.le (0 : Float).toModel.unpack (Float.Model.pack x).unpack = true
    rw [toModel_zero, hunpack]
    exact hlow
  · apply decide_eq_true
    change UnpackedFloat.le (Float.Model.pack x).unpack (1 : Float).toModel.unpack = true
    rw [toModel_one, hunpack]
    exact hhigh

/-! ## The quotient -/

/-- The bits of precision the division asks for: at least 53, unless the
quotient is below the normal range. -/
def quotientShift (a b : ℕ) : ℕ := min (b.log2 + 53 - a.log2) 1074

theorem divCore_eq {a b : ℕ} (ha : 0 < a) (hab : a ≤ b) :
    divCore Format.binary64 a 0 b 0 =
      (a * 2 ^ quotientShift a b / b, -(quotientShift a b : ℤ),
        accuracyOfFraction (a * 2 ^ quotientShift a b % b) b) := by
  have hlog : a.log2 ≤ b.log2 := by
    have hle : 2 ^ a.log2 ≤ b := (Nat.log2_self_le ha.ne').trans hab
    exact (Nat.le_log2 (by omega)).mpr hle
  have htarget : min (0 - 0 : ℤ)
      (Format.binary64.targetExponent (totalExponent a 0 - totalExponent b 0)) =
        -(quotientShift a b : ℤ) := by
    simp only [Format.targetExponent, totalExponent, Format.mantissaBits, Format.minExponent,
      quotientShift]
    omega
  have hshift : (0 - 0 - -(quotientShift a b : ℤ)).toNat = quotientShift a b := by omega
  simp only [divCore, htarget, hshift, Nat.shiftLeft_eq]

theorem atMostOne_div {a b : ℕ} (ha : 0 < a) (hb : 0 < b) (hab : a ≤ b) :
    AtMostOne (UnpackedFloat.div Format.binary64 (.finite .positive a 0 ha)
      (.finite .positive b 0 hb)) := by
  have hlog : a.log2 ≤ b.log2 := by
    have hle : 2 ^ a.log2 ≤ b := (Nat.log2_self_le ha.ne').trans hab
    exact (Nat.le_log2 (by omega)).mpr hle
  have hlow : 53 ≤ quotientShift a b := by
    simp only [quotientShift]
    omega
  have hhigh : quotientShift a b ≤ 1074 := Nat.min_le_right _ _
  simp only [UnpackedFloat.div, divCore_eq ha hab]
  obtain hlt | rfl := Nat.lt_or_eq_of_le hab
  · apply atMostOne_round _ hlow hhigh
    rw [Nat.div_lt_iff_lt_mul hb, Nat.mul_comm]
    exact Nat.mul_lt_mul_of_pos_left hlt (Nat.two_pow_pos _)
  · have hshift : quotientShift a a = 53 := by
      simp only [quotientShift]
      omega
    have hmod : a * 2 ^ 53 % a = 0 := Nat.mul_mod_right a _
    have hone : roundWithAccuracy Format.binary64 .positive (2 ^ 53) (-53) .exact =
        .finite .positive (2 ^ 52) (-52) (by norm_num) := rfl
    rw [hshift, hmod, Nat.mul_div_cancel_left _ ha]
    change AtMostOne (roundWithAccuracy Format.binary64 .positive (2 ^ 53) (-53) .exact)
    rw [hone]
    exact ⟨rfl, .inr ⟨rfl, le_rfl⟩⟩

/-- The rate of a count among a total is between zero and one. -/
theorem trueDiv_unit_interval {a b : ℤ} (hb : b ≠ 0) (ha : 0 ≤ a) (hab : a ≤ b) :
    0 ≤ trueDiv a b hb ∧ trueDiv a b hb ≤ 1 := by
  unfold trueDiv
  split
  · decide +kernel
  · rename_i hne
    obtain ⟨a, rfl⟩ := Int.eq_ofNat_of_zero_le ha
    obtain ⟨b, rfl⟩ := Int.eq_ofNat_of_zero_le (ha.trans hab)
    have hpos : 0 < a := by omega
    have hpos' : 0 < b := by omega
    have hle : a ≤ b := by omega
    have hnonneg : ¬(a : ℤ) < 0 := by omega
    have hnonneg' : ¬(b : ℤ) < 0 := by omega
    simp only [hnonneg, hnonneg', ↓reduceIte, Int.natAbs_natCast]
    exact unit_interval_of_atMostOne (atMostOne_div hpos hpos' hle)

end Python
