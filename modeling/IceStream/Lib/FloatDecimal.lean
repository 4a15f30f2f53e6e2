import IceStream.Lib.FloatRounding

/-!
# Reading a decimal

`Float.ofScientific` rounds its decimal once, whichever way it takes: so it
depends on the value of the decimal only.
-/

namespace Python
open Float.Model Float.Model.UnpackedFloat

/-! ## Packing -/

theorem exists_packComponents (b : BitVec Format.binary64.numBits) :
    ∃ s e m, b = packComponents Format.binary64 s e m := by
  refine ⟨.ofBitVec (unpackSign b), unpackExponent b, unpackMantissa b, ?_⟩
  have hsign (c : BitVec 1) : (Sign.ofBitVec c).toBitVec = c := by
    revert c
    decide
  rw [packComponents, hsign]
  simp only [unpackSign, unpackExponent, unpackMantissa, BitVec.extractLsb]
  ext i hi
  grind

theorem toNat_implicit (m : BitVec 52) : (1#1 ++ m).toNat = 2 ^ 52 + m.toNat := by
  rw [BitVec.toNat_append, ← Nat.shiftLeft_add_eq_or_of_lt m.isLt]
  rfl

theorem unpack_packComponents (s : Sign) (e : BitVec 11) (m : BitVec 52) :
    UnpackedFloat.unpack Format.binary64 (packComponents Format.binary64 s e m) =
      if e = -1#11 then if m = 0#52 then .infinity s else .notANumber
      else if e = 0#11 then
        if h : m = 0#52 then .zero s
        else .finite s m.toNat (-1074) (toNat_pos_of_ne h)
      else .finite s (2 ^ 52 + m.toNat) ((e.toNat : ℤ) - 1075) (by positivity) := by
  simp only [UnpackedFloat.unpack, unpackMantissa_packComponents, unpackExponent_packComponents,
    unpackSign_packComponents, Sign.ofBitVec_toBitVec, toNat_implicit]
  split
  · rfl
  split
  · rename_i hzero
    subst hzero
    rfl
  · rfl

theorem pack_finite (s : Sign) (m : ℕ) (e : ℤ) (hm : 0 < m) :
    UnpackedFloat.pack Format.binary64 (.finite s m e hm) =
      if 2047 ≤ (e + 1075).toNat then packedInfinity Format.binary64 s
      else if m.log2 = 52 then
        packComponents Format.binary64 s (.ofNat 11 (e + 1075).toNat) (.ofNat 52 m)
      else packComponents Format.binary64 s 0#11 (.ofNat 52 m) := by
  have hbias : e + Format.binary64.exponentBias + Format.binary64.mantissaBitsWithoutImplicit =
      e + 1075 := by
    rw [add_assoc]
    rfl
  have hbits : (m.log2 + 1 = Format.binary64.mantissaBits) = (m.log2 = 52) := by
    apply propext
    change m.log2 + 1 = 53 ↔ _
    omega
  have hlarge (n : ℕ) : (2 ^ Format.binary64.exponentBits ≤ n + 1) = (2047 ≤ n) := by
    apply propext
    change 2048 ≤ n + 1 ↔ _
    omega
  simp only [UnpackedFloat.pack, hbias, hbits, hlarge]

/-- Packing undoes unpacking. -/
theorem pack_unpack_bits {b : BitVec Format.binary64.numBits} (hb : Format.binary64.Valid b) :
    UnpackedFloat.pack Format.binary64 (UnpackedFloat.unpack Format.binary64 b) = b := by
  obtain ⟨s, e, m, rfl⟩ := exists_packComponents b
  have he : e.toNat < 2 ^ 11 := e.isLt
  have hm : m.toNat < 2 ^ 52 := m.isLt
  rw [unpack_packComponents]
  split
  · rename_i hinf
    split
    · rename_i hzero
      rw [hinf, hzero]
      rfl
    · rename_i hzero
      apply (hb.eq_packedNaN _ _).symm
      · rw [unpackExponent_packComponents, hinf]
      · rw [unpackMantissa_packComponents]
        exact hzero
  rename_i hfinite
  have hne : e.toNat ≠ 2047 := by
    intro h
    apply hfinite
    apply BitVec.eq_of_toNat_eq
    rw [h]
    rfl
  split
  · rename_i hleast
    split
    · rename_i hzero
      rw [hleast, hzero]
      rfl
    · rename_i hzero
      have hpos : m.toNat ≠ 0 := by simpa [BitVec.toNat_eq] using hzero
      have hlog : m.toNat.log2 < 52 := (Nat.log2_lt hpos).mpr hm
      rw [pack_finite, if_neg (by decide), if_neg hlog.ne, BitVec.ofNat_toNat, hleast]
      simp
  · rename_i hnormal
    have hlog : (2 ^ 52 + m.toNat).log2 = 52 := by
      rw [Nat.log2_eq_iff (by positivity)]
      omega
    have hexponent : ((e.toNat : ℤ) - 1075 + 1075).toNat = e.toNat := by omega
    have hmantissa : BitVec.ofNat 52 (2 ^ 52 + m.toNat) = m := by
      apply BitVec.eq_of_toNat_eq
      rw [BitVec.toNat_ofNat]
      omega
    rw [pack_finite, hexponent, if_neg (by omega), if_pos hlog, hmantissa, BitVec.ofNat_toNat]
    simp

/-- Packing undoes unpacking. -/
theorem pack_unpack (x : Float.Model) : Float.Model.pack x.unpack = x := by
  obtain ⟨bits, hvalid⟩ := x
  have hbits := pack_unpack_bits hvalid
  simp only [Float.Model.pack, Float.Model.unpack, hbits]

theorem Canonical.unpack_pack {m : ℕ} {e : ℤ} (h : Canonical m e) (he : e ≤ 971) :
    (Float.Model.pack (.finite .positive m e h.pos)).unpack = .finite .positive m e h.pos := by
  have hlow := h.low
  have hlt := h.lt
  change UnpackedFloat.unpack Format.binary64 (UnpackedFloat.pack Format.binary64 _) = _
  rw [pack_finite, if_neg (by omega)]
  by_cases hnormal : 2 ^ 52 ≤ m
  · have hlog : m.log2 = 52 := (Nat.log2_eq_iff h.pos.ne').mpr ⟨hnormal, hlt⟩
    have hexponent : (BitVec.ofNat 11 (e + 1075).toNat).toNat = (e + 1075).toNat := by
      rw [BitVec.toNat_ofNat]
      omega
    have hmantissa : (BitVec.ofNat 52 m).toNat = m - 2 ^ 52 := by
      rw [BitVec.toNat_ofNat]
      omega
    have hfinite : BitVec.ofNat 11 (e + 1075).toNat ≠ -1#11 := by
      intro hinf
      rw [hinf] at hexponent
      have htop : (-1#11).toNat = 2047 := rfl
      omega
    have hpos : BitVec.ofNat 11 (e + 1075).toNat ≠ 0#11 := by
      intro hzero
      rw [hzero] at hexponent
      have hbottom : (0#11).toNat = 0 := rfl
      omega
    rw [if_pos hlog, unpack_packComponents, if_neg hfinite, if_neg hpos]
    congr 1 <;> omega
  · have hlog : m.log2 ≠ 52 := by
      have := (Nat.log2_lt h.pos.ne').mpr (Nat.lt_of_not_le hnormal)
      omega
    have hleast : e = -1074 := h.normal.resolve_left hnormal
    have hmantissa : (BitVec.ofNat 52 m).toNat = m := by
      rw [BitVec.toNat_ofNat]
      omega
    have hpos : BitVec.ofNat 52 m ≠ 0#52 := by
      intro hzero
      have := h.pos
      rw [hzero] at hmantissa
      have hbottom : (0#52).toNat = 0 := rfl
      omega
    rw [if_neg hlog, unpack_packComponents, if_neg (by decide), if_pos rfl, dif_neg hpos]
    congr 1
    exact hleast.symm

/-- A finite float is unpacked to a canonical form. -/
theorem canonical_of_unpack {x : Float.Model} {s : Sign} {m : ℕ} {e : ℤ} {hm : 0 < m}
    (h : x.unpack = .finite s m e hm) : Canonical m e ∧ e ≤ 971 := by
  obtain ⟨bits, hvalid⟩ := x
  obtain ⟨s', e', m', hcomponents⟩ := exists_packComponents bits.toBitVec
  have hunpack : UnpackedFloat.unpack Format.binary64 bits.toBitVec = .finite s m e hm := h
  rw [hcomponents, unpack_packComponents] at hunpack
  have he : e'.toNat < 2 ^ 11 := e'.isLt
  have hm : m'.toNat < 2 ^ 52 := m'.isLt
  split at hunpack
  · split at hunpack <;> cases hunpack
  rename_i hfinite
  have hne : e'.toNat ≠ 2047 := by
    intro h
    apply hfinite
    apply BitVec.eq_of_toNat_eq
    rw [h]
    rfl
  split at hunpack
  · split at hunpack
    · cases hunpack
    · cases hunpack
      exact ⟨⟨‹_›, by omega, by norm_num, .inr rfl⟩, by norm_num⟩
  · rename_i hnormal
    have hpos : e'.toNat ≠ 0 := by simpa [BitVec.toNat_eq] using hnormal
    cases hunpack
    exact ⟨⟨‹_›, by omega, by omega, .inl (by omega)⟩, by omega⟩

/-! ## Quotients and products -/

theorem stands_div (a : ℕ) {b : ℕ} (hb : 0 < b) :
    Stands (.ofMantissaAndAccuracy (a / b) (accuracyOfFraction (a % b) b)) ((a : ℚ) / b) := by
  have hpos : (0 : ℚ) < b := by exact_mod_cast hb
  have hsplit : (a : ℚ) / b = (a / b : ℕ) + (a % b : ℕ) / b := by
    have hnat : (a : ℚ) = b * (a / b : ℕ) + (a % b : ℕ) := by
      exact_mod_cast (Nat.div_add_mod a b).symm
    rw [hnat, add_div, mul_div_cancel_left₀ _ hpos.ne']
  have hlt : ((a % b : ℕ) : ℚ) < b := by exact_mod_cast Nat.mod_lt a hb
  rw [accuracyOfFraction]
  by_cases hzero : a % b = 0
  · rw [if_pos hzero]
    refine ⟨0, le_rfl, by norm_num, by simp [ExtendedMantissa.ofMantissaAndAccuracy], ?_⟩
    rw [hsplit, hzero]
    simp [ExtendedMantissa.ofMantissaAndAccuracy]
  have hrest : (0 : ℚ) < (a % b : ℕ) / b := by
    have hmod : (0 : ℚ) < (a % b : ℕ) := by exact_mod_cast Nat.pos_of_ne_zero hzero
    positivity
  rw [if_neg hzero]
  rcases hcompare : compare (2 * (a % b)) b with _ | _ | _
  · have hhalf : 2 * ((a % b : ℕ) : ℚ) < b := by exact_mod_cast Nat.compare_eq_lt.mp hcompare
    refine ⟨(a % b : ℕ) / b, hrest.le, ?_, ?_, ?_⟩
    · rw [div_lt_iff₀ hpos]
      linarith
    · simp [ExtendedMantissa.ofMantissaAndAccuracy, hrest.ne']
    · rw [hsplit]
      simp [ExtendedMantissa.ofMantissaAndAccuracy]
  · have hhalf : 2 * ((a % b : ℕ) : ℚ) = b := by exact_mod_cast Nat.compare_eq_eq.mp hcompare
    refine ⟨0, le_rfl, by norm_num, by simp [ExtendedMantissa.ofMantissaAndAccuracy], ?_⟩
    have hquotient : ((a % b : ℕ) : ℚ) / b = 1 / 2 := by
      rw [div_eq_iff hpos.ne']
      linarith
    rw [hsplit, hquotient]
    simp [ExtendedMantissa.ofMantissaAndAccuracy]
  · have hhalf : (b : ℚ) < 2 * (a % b : ℕ) := by exact_mod_cast Nat.compare_eq_gt.mp hcompare
    have hpast : (1 : ℚ) / 2 < (a % b : ℕ) / b := by
      rw [lt_div_iff₀ hpos]
      linarith
    have hbelow : ((a % b : ℕ) : ℚ) / b < 1 := by rwa [div_lt_one hpos]
    refine ⟨(a % b : ℕ) / b - 1 / 2, by linarith, by linarith, ?_, ?_⟩
    · have hne : ((a % b : ℕ) : ℚ) / b - 1 / 2 ≠ 0 := by linarith
      simp only [ExtendedMantissa.ofMantissaAndAccuracy, true_iff]
      exact hne
    · rw [hsplit]
      simp only [ExtendedMantissa.ofMantissaAndAccuracy, Bool.toNat_true, Nat.cast_one]
      ring

/-- The quotient has the bits that rounding it needs. -/
theorem approximates_divCore {m₁ m₂ : ℕ} (hm₁ : 0 < m₁) (hm₂ : 0 < m₂) (e₁ e₂ : ℤ) :
    ∃ q e accuracy, divCore Format.binary64 m₁ e₁ m₂ e₂ = (q, e, accuracy) ∧
      Approximates q e accuracy ((m₁ * 2 ^ e₁) / (m₂ * 2 ^ e₂)) := by
  set target := min (e₁ - e₂)
    (Format.binary64.targetExponent (totalExponent m₁ e₁ - totalExponent m₂ e₂)) with htarget
  set shift := (e₁ - e₂ - target).toNat with hshift
  have htargetExponent : Format.binary64.targetExponent
      (totalExponent m₁ e₁ - totalExponent m₂ e₂) =
        max ((m₁.log2 + e₁) - (m₂.log2 + e₂) - 53) (-1074) := by
    simp only [Format.targetExponent, totalExponent, Format.mantissaBits, Format.minExponent]
    omega
  have hexponent : e₁ - e₂ = target + shift := by omega
  refine ⟨m₁ * 2 ^ shift / m₂, target, accuracyOfFraction (m₁ * 2 ^ shift % m₂) m₂, ?_, ?_, ?_, ?_⟩
  · simp only [divCore, ← htarget, ← hshift, Nat.shiftLeft_eq]
  · have hpos₁ : (0 : ℚ) < m₁ := by exact_mod_cast hm₁
    have hpos₂ : (0 : ℚ) < m₂ := by exact_mod_cast hm₂
    positivity
  · have hvalue : (m₁ * (2 : ℚ) ^ e₁) / (m₂ * 2 ^ e₂) / 2 ^ target =
        (m₁ * 2 ^ shift : ℕ) / m₂ := by
      have hscale : (2 : ℚ) ^ e₁ = 2 ^ e₂ * 2 ^ target * 2 ^ shift := by
        rw [← zpow_natCast, ← zpow_add₀ (by norm_num), ← zpow_add₀ (by norm_num)]
        congr 1
        omega
      have hpos₂ : (m₂ : ℚ) ≠ 0 := by exact_mod_cast hm₂.ne'
      rw [hscale]
      push_cast
      field_simp
    rw [hvalue]
    exact stands_div _ hm₂
  · rw [targetExponent_eq]
    by_cases hleast : target ≤ -1074
    · omega
    -- at least 53 bits
    have hbits : 52 ≤ (m₁ * 2 ^ shift / m₂).log2 := by
      have hlog : m₂.log2 + 53 ≤ m₁.log2 + shift := by omega
      have hlow : 2 ^ (m₂.log2 + 53) ≤ m₁ * 2 ^ shift := by
        calc 2 ^ (m₂.log2 + 53) ≤ 2 ^ (m₁.log2 + shift) := Nat.pow_le_pow_right (by norm_num) hlog
          _ = 2 ^ m₁.log2 * 2 ^ shift := pow_add ..
          _ ≤ m₁ * 2 ^ shift := Nat.mul_le_mul_right _ (Nat.log2_self_le hm₁.ne')
      have hquotient : 2 ^ 52 ≤ m₁ * 2 ^ shift / m₂ := by
        rw [Nat.le_div_iff_mul_le hm₂]
        have hupper : m₂ < 2 ^ (m₂.log2 + 1) := Nat.lt_log2_self
        calc 2 ^ 52 * m₂ ≤ 2 ^ 52 * 2 ^ (m₂.log2 + 1) := Nat.mul_le_mul_left _ hupper.le
          _ = 2 ^ (m₂.log2 + 53) := by ring
          _ ≤ _ := hlow
      exact (Nat.le_log2 (by omega)).mpr hquotient
    omega

theorem approximates_exact {q : ℕ} {e : ℤ} (hbits : 52 ≤ q.log2) :
    Approximates q e .exact (q * 2 ^ e) := by
  have hq : q ≠ 0 := by
    rintro rfl
    simp at hbits
  have hpos : (0 : ℚ) < q := by exact_mod_cast Nat.pos_of_ne_zero hq
  refine ⟨by positivity, ⟨0, le_rfl, by norm_num, ?_, ?_⟩, ?_⟩
  · simp [ExtendedMantissa.ofMantissaAndAccuracy]
  · have hpow : (2 : ℚ) ^ e ≠ 0 := by positivity
    simp [ExtendedMantissa.ofMantissaAndAccuracy, hpow]
  · rw [targetExponent_eq]
    omega

/-! ## Decimals -/

/-- `x` is the positive rational `r`, rounded. -/
def Rounds (x : Float) (r : ℚ) : Prop :=
  ∃ q e accuracy, Approximates q e accuracy r ∧
    x = .ofModel (.pack (roundWithAccuracy Format.binary64 .positive q e accuracy))

theorem Rounds.unique {x y : Float} {r : ℚ} (hx : Rounds x r) (hy : Rounds y r) : x = y := by
  obtain ⟨q, e, accuracy, h, rfl⟩ := hx
  obtain ⟨q', e', accuracy', h', rfl⟩ := hy
  rw [h.round_eq h']

theorem rounds_div {m₁ m₂ : ℕ} (hm₁ : 0 < m₁) (hm₂ : 0 < m₂) (e₁ e₂ : ℤ) :
    Rounds (.ofModel (.pack (UnpackedFloat.div Format.binary64 (.finite .positive m₁ e₁ hm₁)
      (.finite .positive m₂ e₂ hm₂)))) ((m₁ * 2 ^ e₁) / (m₂ * 2 ^ e₂)) := by
  obtain ⟨q, e, accuracy, hcore, h⟩ := approximates_divCore hm₁ hm₂ e₁ e₂
  refine ⟨q, e, accuracy, h, ?_⟩
  rw [UnpackedFloat.div]
  simp only [hcore]
  rfl

theorem rounds_mul {m₁ m₂ : ℕ} (hm₁ : 0 < m₁) (hm₂ : 0 < m₂) (e₁ e₂ : ℤ)
    (hbits : 2 ^ 52 ≤ m₁) :
    Rounds (.ofModel (.pack (UnpackedFloat.mul Format.binary64 (.finite .positive m₁ e₁ hm₁)
      (.finite .positive m₂ e₂ hm₂)))) ((m₁ * 2 ^ e₁) * (m₂ * 2 ^ e₂)) := by
  have hlog : 52 ≤ (m₁ * m₂).log2 :=
    (Nat.le_log2 (Nat.mul_pos hm₁ hm₂).ne').mpr (hbits.trans (Nat.le_mul_of_pos_right _ hm₂))
  have h := approximates_exact (e := e₁ + e₂) hlog
  have hvalue : ((m₁ * m₂ : ℕ) : ℚ) * 2 ^ (e₁ + e₂) = (m₁ * 2 ^ e₁) * (m₂ * 2 ^ e₂) := by
    rw [zpow_add₀ (by norm_num)]
    push_cast
    ring
  exact ⟨_, _, _, hvalue ▸ h, rfl⟩

/-- A small integer as a float. -/
theorem unpack_toFloat {m : ℕ} (hm : 0 < m) (hlt : m < 2 ^ 53) :
    ∃ q e hq, m.toUInt64.toFloat.toModel.unpack = .finite .positive q e hq ∧ 2 ^ 52 ≤ q ∧
      (q : ℚ) * 2 ^ e = m := by
  have hlog : m.log2 ≤ 52 := by
    have := (Nat.log2_lt hm.ne').mpr hlt
    omega
  set shift := 52 - m.log2 with hshift
  have hlow : 2 ^ 52 ≤ m * 2 ^ shift := by
    calc 2 ^ 52 = 2 ^ m.log2 * 2 ^ shift := by rw [← pow_add]; congr 1; omega
      _ ≤ m * 2 ^ shift := Nat.mul_le_mul_right _ (Nat.log2_self_le hm.ne')
  have hhigh : m * 2 ^ shift < 2 ^ 53 := by
    calc m * 2 ^ shift < 2 ^ (m.log2 + 1) * 2 ^ shift :=
          Nat.mul_lt_mul_of_pos_right Nat.lt_log2_self (Nat.two_pow_pos _)
      _ = 2 ^ 53 := by rw [← pow_add]; congr 1; omega
  have hcanonical : Canonical (m * 2 ^ shift) (-(shift : ℤ)) :=
    ⟨by positivity, hhigh, by omega, .inl hlow⟩
  have hbits : 52 ≤ (m * 2 ^ shift).log2 := (Nat.le_log2 hcanonical.pos.ne').mpr hlow
  have hround : roundWithAccuracy Format.binary64 .positive (m * 2 ^ shift) (-(shift : ℤ)) .exact =
      .finite .positive (m * 2 ^ shift) (-(shift : ℤ)) hcanonical.pos := by
    apply (approximates_exact hbits).round_near hcanonical
    rw [sub_self, abs_zero]
    positivity
  have htoNat : m.toUInt64.toNat = m := by
    rw [Nat.toUInt64, UInt64.toNat_ofNat']
    omega
  have hunpacked : UnpackedFloat.ofUInt64 Format.binary64 m.toUInt64 =
      .finite .positive (m * 2 ^ shift) (-(shift : ℤ)) hcanonical.pos := by
    have hcompare : compare (m : ℤ) 0 = .gt := Int.compare_eq_gt.mpr (by omega)
    have hdecrease : decreaseExponent m 0
        (Format.binary64.targetExponent (totalExponent m 0)) = (m * 2 ^ shift, -(shift : ℤ)) := by
      have hamount : (0 - max ((m.log2 : ℤ) + 0 - 52) (-1074)).toNat = shift := by omega
      rw [targetExponent_eq, decreaseExponent, hamount, Nat.shiftLeft_eq, zero_sub]
    rw [UnpackedFloat.ofUInt64, UnpackedFloat.ofNat, UnpackedFloat.ofInt,
      UnpackedFloat.normalize, htoNat,
      hcompare]
    change UnpackedFloat.round Format.binary64 .positive m 0 = _
    rw [UnpackedFloat.round, hdecrease]
    exact hround
  refine ⟨m * 2 ^ shift, -(shift : ℤ), hcanonical.pos, ?_, hlow, ?_⟩
  · change (Float.Model.pack (UnpackedFloat.ofUInt64 Format.binary64 m.toUInt64)).unpack = _
    rw [hunpacked]
    exact hcanonical.unpack_pack (by omega)
  · push_cast
    rw [mul_assoc, ← zpow_natCast, ← zpow_add₀ (by norm_num), add_neg_cancel, zpow_zero, mul_one]

/-- The float is `10 ^ k`, by its mantissa and exponent. -/
def isPowerOfTen (x : Float) (k : ℕ) : Bool :=
  match x.toModel.unpack with
  | .finite .positive m e _ => 2 ^ 52 ≤ m && m * 2 ^ e.toNat == 10 ^ k * 2 ^ (-e).toNat
  | _ => false

theorem table_powers :
    ∀ k : Fin 23, isPowerOfTen (getElem Float.exactlyRepresentablePowersOfTen k.val k.isLt) k = true := by
  decide +kernel

theorem unpack_of_isPowerOfTen {x : Float} {k : ℕ} (h : isPowerOfTen x k = true) :
    ∃ q e hq, x.toModel.unpack = .finite .positive q e hq ∧ (q : ℚ) * 2 ^ e = 10 ^ k := by
  rw [isPowerOfTen] at h
  split at h
  · rename_i m e hm hunpack
    obtain ⟨-, hvalue⟩ := (Bool.and_eq_true _ _).mp h
    have hnat : m * 2 ^ e.toNat = 10 ^ k * 2 ^ (-e).toNat := eq_of_beq hvalue
    have hcast : (m : ℚ) * 2 ^ e.toNat = 10 ^ k * 2 ^ (-e).toNat := by exact_mod_cast hnat
    refine ⟨m, e, hm, hunpack, ?_⟩
    have hexponent : e = (e.toNat : ℤ) - ((-e).toNat : ℤ) := by omega
    rw [hexponent, zpow_sub₀ (by norm_num), zpow_natCast, zpow_natCast, ← mul_div_assoc, hcast,
      mul_div_cancel_right₀ _ (by positivity)]
  · cases h

/-- The value of the decimal `m * 10 ^ ±k`. -/
def decimal (m : ℕ) (negative : Bool) (k : ℕ) : ℚ :=
  if negative then m / 10 ^ k else m * 10 ^ k

theorem rounds_ofScientific_fast {m k : ℕ} (negative : Bool) (hm : 0 < m) (hlt : m < 2 ^ 53)
    (hk : k ≤ 22) : Rounds (Float.ofScientific m negative k) (decimal m negative k) := by
  obtain ⟨q, e, hq, hunpack, hbits, hvalue⟩ := unpack_toFloat hm hlt
  obtain ⟨q', e', hq', hunpack', hvalue'⟩ :=
    unpack_of_isPowerOfTen (table_powers ⟨k, Nat.lt_succ_of_le hk⟩)
  rw [Float.ofScientific, dif_pos ⟨hlt, hk⟩]
  cases negative with
  | true =>
    have h := rounds_div hq hq' e e'
    rw [hvalue, hvalue', ← hunpack, ← hunpack'] at h
    exact h
  | false =>
    have h := rounds_mul hq hq' e e' hbits
    rw [hvalue, hvalue', ← hunpack, ← hunpack'] at h
    exact h

theorem rounds_ofScientific_slow {m : ℕ} {e : ℤ} (hm : 0 < m) (hlow : -2048 ≤ e)
    (hhigh : e ≤ 2048) : Rounds (.ofModel (Float.Model.ofScientific m e)) (m * 10 ^ e) := by
  have hlarge : ¬e > 2 ^ Format.binary64.exponentBits := by
    change ¬e > 2048
    omega
  have hsmall : ¬e < -((2 ^ Format.binary64.exponentBits : ℤ) + m.log2) := by
    change ¬e < -(2048 + (m.log2 : ℤ))
    omega
  rw [Float.Model.ofScientific, UnpackedFloat.ofScientific, dif_neg hm.ne', if_neg hlarge,
    if_neg hsmall]
  by_cases he : 0 ≤ e
  · have hbits : 2 ^ 52 ≤ m <<< Format.binary64.mantissaBits := by
      rw [Nat.shiftLeft_eq]
      change 2 ^ 52 ≤ m * 2 ^ 53
      omega
    have hpos : 0 < m <<< Format.binary64.mantissaBits := by omega
    have h := rounds_mul hpos (Nat.pow_pos (n := e.toNat) (by decide : 0 < 10))
      (-Format.binary64.mantissaBits) 0 hbits
    have hvalue : ((m <<< Format.binary64.mantissaBits : ℕ) : ℚ) *
        2 ^ (-(Format.binary64.mantissaBits : ℤ)) * ((10 ^ e.toNat : ℕ) * 2 ^ (0 : ℤ)) =
          m * 10 ^ e := by
      have hpower : (10 : ℚ) ^ e = 10 ^ e.toNat := by
        rw [← zpow_natCast, Int.toNat_of_nonneg he]
      rw [Nat.shiftLeft_eq, hpower]
      push_cast
      rw [zpow_neg, zpow_natCast, mul_one, mul_assoc (m : ℚ), mul_inv_cancel₀ (by positivity),
        mul_one]
    rw [if_pos he]
    exact hvalue ▸ h
  · have h := rounds_div hm (Nat.pow_pos (n := (-e).toNat) (by decide : 0 < 10)) 0 0
    have hvalue : (m : ℚ) * 2 ^ (0 : ℤ) / ((10 ^ (-e).toNat : ℕ) * 2 ^ (0 : ℤ)) = m * 10 ^ e := by
      have hexponent : e = -((-e).toNat : ℤ) := by omega
      conv_rhs => rw [hexponent]
      rw [zpow_neg, zpow_natCast, zpow_zero, mul_one, mul_one]
      push_cast
      rfl
    rw [if_neg he]
    exact hvalue ▸ h

/-- A decimal is read as its value rounded. -/
theorem rounds_ofScientific {m k : ℕ} (negative : Bool) (hm : 0 < m) (hk : k ≤ 2048) :
    Rounds (Float.ofScientific m negative k) (decimal m negative k) := by
  by_cases hfast : m < 2 ^ 53 ∧ k ≤ 22
  · exact rounds_ofScientific_fast negative hm hfast.1 hfast.2
  rw [Float.ofScientific, dif_neg hfast]
  cases negative with
  | true =>
    have hneg : Int.negOfNat k = -(k : ℤ) := Int.negOfNat_eq
    have h := rounds_ofScientific_slow (e := -(k : ℤ)) hm (by omega) (by omega)
    have hvalue : (m : ℚ) * 10 ^ (-(k : ℤ)) = decimal m true k := by
      rw [zpow_neg, zpow_natCast]
      rfl
    rw [hvalue, ← hneg] at h
    exact h
  | false => exact rounds_ofScientific_slow (e := k) hm (by omega) (by omega)

/-- Decimals of one value are read as one float. -/
theorem ofScientific_congr {m m' k k' : ℕ} {negative negative' : Bool} (hm : 0 < m) (hm' : 0 < m')
    (hk : k ≤ 2048) (hk' : k' ≤ 2048)
    (h : decimal m negative k = decimal m' negative' k') :
    Float.ofScientific m negative k = Float.ofScientific m' negative' k' := by
  have hrounds := rounds_ofScientific negative hm hk
  rw [h] at hrounds
  exact hrounds.unique (rounds_ofScientific negative' hm' hk')

end Python
