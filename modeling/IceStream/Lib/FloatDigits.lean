import IceStream.Lib.FloatDecimal

/-!
# The shortest digits are read back

Seventeen digits always suffice: the decimal nearest to a float is closer to it
than half of the gap to the next float.
-/

namespace Python
open Float.Model Float.Model.UnpackedFloat

/-! ## Positive floats -/

/-- The positive float with this mantissa and exponent. -/
structure IsPositive (x : Float) (m : ℕ) (e : ℤ) : Prop where
  pos : 0 < m
  unpack : x.toModel.unpack = .finite .positive m e pos

section

variable {x y : Float} {m : ℕ} {e : ℤ}

theorem IsPositive.canonical (h : IsPositive x m e) : Canonical m e ∧ e ≤ 971 :=
  canonical_of_unpack h.unpack

theorem eq_of_unpack_eq (h : x.toModel.unpack = y.toModel.unpack) : x = y := by
  obtain ⟨a⟩ := x
  obtain ⟨b⟩ := y
  have hmodel : a = b := by
    rw [← pack_unpack a, ← pack_unpack b]
    exact congrArg Float.Model.pack h
  rw [hmodel]

theorem IsPositive.eq_ofModel (h : IsPositive x m e) :
    x = .ofModel (.pack (.finite .positive m e h.pos)) := by
  rw [← h.unpack, pack_unpack]

/-- Comparing with a positive float as equal is being it. -/
theorem IsPositive.beq_iff (h : IsPositive x m e) : (y == x) = true ↔ y = x := by
  have hmodel : (y == x) = (y.toModel.unpack.compare x.toModel.unpack == some .eq) := rfl
  rw [hmodel]
  constructor
  · intro hcompare
    apply eq_of_unpack_eq
    have hcompare := eq_of_beq hcompare
    rw [h.unpack] at hcompare ⊢
    cases hy : y.toModel.unpack with
    | notANumber => rw [hy] at hcompare; cases hcompare
    | infinity s => rw [hy] at hcompare; cases s <;> cases hcompare
    | zero s => rw [hy] at hcompare; cases hcompare
    | finite s m' e' hm' =>
      rw [hy] at hcompare
      cases s with
      | negative => cases hcompare
      | positive =>
        have horder : (compare e' e).then (compare m' m) = .eq := Option.some.inj hcompare
        obtain ⟨he, hm⟩ := Ordering.then_eq_eq.mp horder
        have he := Int.compare_eq_eq.mp he
        have hm := Nat.compare_eq_eq.mp hm
        subst he hm
        rfl
  · rintro rfl
    rw [h.unpack]
    have horder : (compare e e).then (compare m m) = .eq := by
      rw [Int.compare_eq_eq.mpr rfl, Nat.compare_eq_eq.mpr rfl]
      rfl
    exact beq_iff_eq.mpr (congrArg some horder)

/-- A decimal as close to a float as one of 17 digits is read as it. -/
theorem IsPositive.eq_of_rounds {r : ℚ} (h : IsPositive x m e) (hy : Rounds y r)
    (hclose : |r - m * 2 ^ e| ≤ m * 2 ^ e / (2 * 10 ^ 16)) : y = x := by
  obtain ⟨q, e', accuracy, happrox, rfl⟩ := hy
  rw [happrox.round_near h.canonical.1 hclose]
  exact h.eq_ofModel.symm

end

/-! ## Decimal digits -/

theorem lt_pow_length (n : ℕ) : n < 10 ^ (toString n).length :=
  (Nat.length_repr_le_iff Nat.length_repr_pos).mp le_rfl

theorem pow_length_le {n : ℕ} (hn : 0 < n) : 10 ^ ((toString n).length - 1) ≤ n := by
  by_contra hlt
  have hpos : 0 < (toString n).length := Nat.length_repr_pos
  by_cases hone : (toString n).length = 1
  · rw [hone] at hlt
    omega
  · have hle := (Nat.length_repr_le_iff (n := n) (k := (toString n).length - 1) (by omega)).mpr
      (by omega)
    have hsame : n.repr.length = (toString n).length := rfl
    omega

theorem decimalPoint_spec {num den : ℕ} (hnum : 0 < num) (hden : 0 < den) :
    (10 : ℚ) ^ (decimalPoint num den - 1) ≤ num / den ∧
      (num : ℚ) / den < 10 ^ decimalPoint num den := by
  have hnum' : (0 : ℚ) < num := by exact_mod_cast hnum
  have hden' : (0 : ℚ) < den := by exact_mod_cast hden
  rw [decimalPoint]
  split
  · rename_i hle
    set q := num / den with hq
    have hqpos : 0 < q := Nat.div_pos hle hden
    have hlength : 0 < (toString q).length := Nat.length_repr_pos
    have hlow : 10 ^ ((toString q).length - 1) * den ≤ num := by
      calc 10 ^ ((toString q).length - 1) * den ≤ q * den :=
            Nat.mul_le_mul_right _ (pow_length_le hqpos)
        _ ≤ num := Nat.div_mul_le_self num den
    have hhigh : num < 10 ^ (toString q).length * den := by
      calc num < (q + 1) * den := by
            rw [Nat.mul_comm]
            exact Nat.lt_mul_div_succ num hden
        _ ≤ 10 ^ (toString q).length * den := Nat.mul_le_mul_right _ (lt_pow_length q)
    have hexponent : ((toString q).length : ℤ) - 1 = (((toString q).length - 1 : ℕ) : ℤ) := by omega
    rw [hexponent, zpow_natCast, zpow_natCast, le_div_iff₀ hden', div_lt_iff₀ hden']
    exact ⟨by exact_mod_cast hlow, by exact_mod_cast hhigh⟩
  · rename_i hlt
    set q := den / num with hq
    have hqpos : 0 < q := Nat.div_pos (by omega) hnum
    have hlength : 0 < (toString q).length := Nat.length_repr_pos
    have hlow : 10 ^ ((toString q).length - 1) * num ≤ den := by
      calc 10 ^ ((toString q).length - 1) * num ≤ q * num :=
            Nat.mul_le_mul_right _ (pow_length_le hqpos)
        _ ≤ den := Nat.div_mul_le_self den num
    have hhigh : den < 10 ^ (toString q).length * num := by
      calc den < (q + 1) * num := by
            rw [Nat.mul_comm]
            exact Nat.lt_mul_div_succ den hnum
        _ ≤ 10 ^ (toString q).length * num := Nat.mul_le_mul_right _ (lt_pow_length q)
    set l := (toString q).length with hl
    have hlow' : (10 : ℚ) ^ (l - 1) * num ≤ den := by exact_mod_cast hlow
    have hhigh' : (den : ℚ) < 10 ^ l * num := by exact_mod_cast hhigh
    have hsplit : (10 : ℚ) ^ l = 10 ^ (l - 1) * 10 := by
      rw [← pow_succ]
      congr 1
      omega
    have hexponent : (1 : ℤ) - l = -((l - 1 : ℕ) : ℤ) := by omega
    dsimp only
    split
    · rename_i hpower
      have hpower' : (den : ℚ) ≤ num * 10 ^ (l - 1) := by exact_mod_cast hpower
      have hpoint : (2 : ℤ) - l = 1 - l + 1 := by omega
      rw [hpoint, add_sub_cancel_right, zpow_add_one₀ (by norm_num), hexponent, zpow_neg,
        zpow_natCast, le_div_iff₀ hden', div_lt_iff₀ hden', inv_mul_le_iff₀ (by positivity),
        mul_assoc, lt_inv_mul_iff₀ (by positivity)]
      constructor <;> linarith
    · rename_i hpower
      have hpower' : (num : ℚ) * 10 ^ (l - 1) < den := by
        exact_mod_cast Nat.lt_of_not_le hpower
      rw [sub_sub_cancel_left, hexponent, zpow_neg, zpow_neg, zpow_natCast, zpow_natCast,
        le_div_iff₀ hden', div_lt_iff₀ hden', inv_mul_le_iff₀ (by positivity),
        lt_inv_mul_iff₀ (by positivity)]
      constructor <;> linarith

theorem roundHalfEven_close (num : ℕ) {den : ℕ} (hden : 0 < den) :
    |(roundHalfEven num den : ℚ) - num / den| ≤ 1 / 2 := by
  have hden' : (0 : ℚ) < den := by exact_mod_cast hden
  have hsplit : (num : ℚ) / den = (num / den : ℕ) + (num % den : ℕ) / den := by
    have hnat : (num : ℚ) = den * (num / den : ℕ) + (num % den : ℕ) := by
      exact_mod_cast (Nat.div_add_mod num den).symm
    rw [hnat, add_div, mul_div_cancel_left₀ _ hden'.ne']
  have hrest : (0 : ℚ) ≤ (num % den : ℕ) / den := by positivity
  have hbelow : ((num % den : ℕ) : ℚ) / den < 1 := by
    rw [div_lt_one hden']
    exact_mod_cast Nat.mod_lt num hden
  rw [roundHalfEven, hsplit, abs_le]
  split
  · rename_i hlow
    have hhalf : ((num % den : ℕ) : ℚ) / den < 1 / 2 := by
      have hcast : 2 * ((num % den : ℕ) : ℚ) < den := by exact_mod_cast hlow
      rw [div_lt_iff₀ hden']
      linarith
    constructor <;> linarith
  split
  · rename_i hhigh
    have hhalf : (1 : ℚ) / 2 < (num % den : ℕ) / den := by
      have hcast : (den : ℚ) < 2 * (num % den : ℕ) := by exact_mod_cast hhigh
      rw [lt_div_iff₀ hden']
      linarith
    push_cast
    constructor <;> linarith
  · have hhalf : ((num % den : ℕ) : ℚ) / den = 1 / 2 := by
      have hnat : 2 * (num % den) = den := by omega
      have hcast : 2 * ((num % den : ℕ) : ℚ) = den := by exact_mod_cast hnat
      rw [div_eq_iff hden'.ne']
      linarith
    have hparity : ((num / den % 2 : ℕ) : ℚ) ≤ 1 := by
      exact_mod_cast Nat.lt_succ_iff.mp (Nat.mod_lt _ (by decide))
    have hnonneg : (0 : ℚ) ≤ (num / den % 2 : ℕ) := Nat.cast_nonneg _
    push_cast at hparity hnonneg ⊢
    constructor <;> linarith

/-! ## The search -/

/-- The two decimals of `n` digits around `num / den`. -/
def decimalsAround (num den n : ℕ) : List (ℕ × ℤ) :=
  let s : ℤ := n - decimalPoint num den
  let a := num * 10 ^ s.toNat
  let b := den * 10 ^ (-s).toNat
  let low := a / b
  let nearest := roundHalfEven a b
  [(nearest, -s), (if nearest = low then low + 1 else low, -s)]

def readDecimal (c : ℕ × ℤ) : Float := Float.ofScientific c.1 (c.2 < 0) c.2.natAbs

def found (x : Float) : ℕ × ℤ :=
  (((List.range 17).flatMap fun n =>
    decimalsAround (magnitude x).1 (magnitude x).2 (n + 1)).find?
      fun c => readDecimal c == x).getD (0, 0)

theorem shortestDigits_eq (x : Float) : shortestDigits x =
    if (found x).1 % 10 = 0 then ((found x).1 / 10, (found x).2 + 1) else found x := rfl

theorem decimal_eq (m : ℕ) (e : ℤ) : decimal m (e < 0) e.natAbs = m * (10 : ℚ) ^ e := by
  rw [decimal]
  split
  · rename_i hneg
    have he : e = -(e.natAbs : ℤ) := by
      have := of_decide_eq_true hneg
      omega
    conv_rhs => rw [he]
    rw [zpow_neg, zpow_natCast, div_eq_mul_inv]
  · rename_i hneg
    have he : e = (e.natAbs : ℤ) := by
      have := of_decide_eq_false (Bool.eq_false_iff.mpr hneg)
      omega
    conv_rhs => rw [he]
    rw [zpow_natCast]

theorem ofScientific_zero (negative : Bool) (k : ℕ) : Float.ofScientific 0 negative k = 0 := by
  by_cases hfast : k ≤ 22
  · have hall : ∀ negative, ∀ k : Fin 23, Float.ofScientific 0 negative k = 0 := by
      decide +kernel
    exact hall negative ⟨k, Nat.lt_succ_of_le hfast⟩
  · rw [Float.ofScientific, dif_neg fun h => hfast h.2]
    rfl

section

variable {x : Float} {m : ℕ} {e : ℤ}

theorem IsPositive.magnitude_spec (h : IsPositive x m e) :
    0 < (magnitude x).1 ∧ 0 < (magnitude x).2 ∧
      ((magnitude x).1 : ℚ) / (magnitude x).2 = m * 2 ^ e := by
  have hpos := h.pos
  rw [magnitude, h.unpack]
  cases e with
  | ofNat e =>
    refine ⟨by positivity, by norm_num, ?_⟩
    simp
  | negSucc e =>
    refine ⟨hpos, by positivity, ?_⟩
    rw [zpow_negSucc, ← div_eq_mul_inv]
    simp

theorem IsPositive.decimalPoint_bounds (h : IsPositive x m e) :
    -324 < decimalPoint (magnitude x).1 (magnitude x).2 ∧
      decimalPoint (magnitude x).1 (magnitude x).2 ≤ 309 := by
  obtain ⟨hnum, hden, hvalue⟩ := h.magnitude_spec
  obtain ⟨hlow, hhigh⟩ := decimalPoint_spec hnum hden
  obtain ⟨hcanonical, he⟩ := h.canonical
  rw [hvalue] at hlow hhigh
  set p := decimalPoint (magnitude x).1 (magnitude x).2
  constructor
  · by_contra hp
    have hsmall : (2 : ℚ) ^ (-1074 : ℤ) ≤ m * 2 ^ e := by
      have hone : (1 : ℚ) ≤ m := by exact_mod_cast hcanonical.pos
      calc (2 : ℚ) ^ (-1074 : ℤ) ≤ 2 ^ e := zpow_le_zpow_right₀ (by norm_num) hcanonical.low
        _ ≤ m * 2 ^ e := le_mul_of_one_le_left (by positivity) hone
    have hpower : (10 : ℚ) ^ p ≤ 10 ^ (-324 : ℤ) := zpow_le_zpow_right₀ (by norm_num) (by omega)
    have hgap : (10 : ℚ) ^ (-324 : ℤ) < 2 ^ (-1074 : ℤ) := by
      have hnat : 2 ^ 1074 < 10 ^ 324 := by decide +kernel
      have hcast : (2 : ℚ) ^ 1074 < 10 ^ 324 := by exact_mod_cast hnat
      exact inv_strictAnti₀ (by positivity) hcast
    exact absurd (hhigh.trans_le hpower) (hgap.trans_le hsmall).not_gt
  · by_contra hp
    have hlarge : m * (2 : ℚ) ^ e < 2 ^ 53 * 2 ^ (971 : ℤ) := by
      have hm : (m : ℚ) < 2 ^ 53 := by exact_mod_cast hcanonical.lt
      have hpow : (2 : ℚ) ^ e ≤ 2 ^ (971 : ℤ) := zpow_le_zpow_right₀ (by norm_num) he
      exact mul_lt_mul hm hpow (by positivity) (by positivity)
    have hpower : (10 : ℚ) ^ (309 : ℤ) ≤ 10 ^ (p - 1) :=
      zpow_le_zpow_right₀ (by norm_num) (by omega)
    have hgap : (2 : ℚ) ^ 53 * 2 ^ (971 : ℤ) < 10 ^ (309 : ℤ) := by
      have hnat : 2 ^ 53 * 2 ^ 971 < 10 ^ 309 := by decide +kernel
      exact_mod_cast hnat
    exact absurd (hlow.trans_lt hlarge) (hgap.trans_le hpower).not_gt

theorem scaled_eq {num den : ℕ} (s : ℤ) :
    ((num * 10 ^ s.toNat : ℕ) : ℚ) / (den * 10 ^ (-s).toNat : ℕ) = num / den * 10 ^ s := by
  have hs : s = (s.toNat : ℤ) - ((-s).toNat : ℤ) := by omega
  conv_rhs => rw [hs]
  rw [zpow_sub₀ (by norm_num), zpow_natCast, zpow_natCast]
  push_cast
  rw [mul_div_mul_comm]

/-- Of 17 digits, the nearest decimal is read back. -/
theorem IsPositive.nearest_reads (h : IsPositive x m e) :
    ∃ c ∈ decimalsAround (magnitude x).1 (magnitude x).2 17, readDecimal c = x := by
  obtain ⟨hnum, hden, hvalue⟩ := h.magnitude_spec
  obtain ⟨hlow, -⟩ := decimalPoint_spec hnum hden
  obtain ⟨hpleft, hpright⟩ := h.decimalPoint_bounds
  set p := decimalPoint (magnitude x).1 (magnitude x).2 with hp
  set s : ℤ := (17 : ℕ) - p with hs
  set a := (magnitude x).1 * 10 ^ s.toNat with ha
  set b := (magnitude x).2 * 10 ^ (-s).toNat with hb
  refine ⟨(roundHalfEven a b, -s), List.mem_cons_self, ?_⟩
  have hbpos : 0 < b := by positivity
  have hclose := roundHalfEven_close a hbpos
  rw [ha, hb, scaled_eq, ← ha, ← hb, hvalue] at hclose
  rw [hvalue] at hlow
  have hscale : (0 : ℚ) < 10 ^ s := by positivity
  have hbig : (10 : ℚ) ^ 16 ≤ m * 2 ^ e * 10 ^ s := by
    have hsixteen : (10 : ℚ) ^ 16 = 10 ^ (p - 1) * 10 ^ s := by
      rw [← zpow_add₀ (by norm_num), ← zpow_natCast]
      congr 1
      omega
    rw [hsixteen]
    gcongr
  have hpos : 0 < roundHalfEven a b := by
    obtain ⟨hleft, -⟩ := abs_le.mp hclose
    have hcast : (0 : ℚ) < roundHalfEven a b := by linarith
    exact_mod_cast hcast
  have hrounds : Rounds (readDecimal (roundHalfEven a b, -s))
      (decimal (roundHalfEven a b) (-s < 0) (-s).natAbs) :=
    rounds_ofScientific _ hpos (by omega)
  rw [decimal_eq] at hrounds
  apply h.eq_of_rounds hrounds
  have hunscaled : (roundHalfEven a b : ℚ) * 10 ^ (-s) - m * 2 ^ e =
      (roundHalfEven a b - m * 2 ^ e * 10 ^ s) / 10 ^ s := by
    rw [zpow_neg, sub_div, mul_div_cancel_right₀ _ hscale.ne', div_eq_mul_inv]
  rw [hunscaled, abs_div, abs_of_pos hscale, div_le_iff₀ hscale]
  calc |(roundHalfEven a b : ℚ) - m * 2 ^ e * 10 ^ s| ≤ 1 / 2 := hclose
    _ = 10 ^ 16 / (2 * 10 ^ 16) := by norm_num
    _ ≤ m * 2 ^ e * 10 ^ s / (2 * 10 ^ 16) := by gcongr
    _ = m * 2 ^ e / (2 * 10 ^ 16) * 10 ^ s := by ring

/-- The search ends with a decimal that is read back. -/
theorem IsPositive.found_spec (h : IsPositive x m e) :
    readDecimal (found x) = x ∧ -400 ≤ (found x).2 ∧ (found x).2 ≤ 400 := by
  obtain ⟨c, hc, hreads⟩ := h.nearest_reads
  obtain ⟨hpleft, hpright⟩ := h.decimalPoint_bounds
  set candidates := (List.range 17).flatMap fun n =>
    decimalsAround (magnitude x).1 (magnitude x).2 (n + 1) with hcandidates
  have hmem : c ∈ candidates :=
    List.mem_flatMap.mpr ⟨16, List.mem_range.mpr (by norm_num), hc⟩
  obtain ⟨d, hd⟩ : ∃ d, candidates.find? (fun c => readDecimal c == x) = some d :=
    Option.isSome_iff_exists.mp (List.find?_isSome.mpr ⟨c, hmem, h.beq_iff.mpr hreads⟩)
  have hfound : found x = d := by
    rw [found, ← hcandidates, hd]
    rfl
  rw [hfound]
  have hreads' : (readDecimal d == x) = true := List.find?_some (p := fun c => readDecimal c == x) hd
  refine ⟨h.beq_iff.mp hreads', ?_⟩
  obtain ⟨n, hn, hmem⟩ := List.mem_flatMap.mp (List.mem_of_find?_eq_some hd)
  have hn := List.mem_range.mp hn
  have hexponent : d.2 = -(((n + 1 : ℕ) : ℤ) - decimalPoint (magnitude x).1 (magnitude x).2) := by
    obtain rfl | hmem := List.mem_cons.mp hmem
    · rfl
    · rw [List.mem_singleton.mp hmem]
  rw [hexponent]
  omega

/-- The shortest digits make a decimal that is read back. -/
theorem IsPositive.shortestDigits_spec (h : IsPositive x m e) :
    0 < (shortestDigits x).1 ∧ readDecimal (shortestDigits x) = x ∧
      -400 ≤ (shortestDigits x).2 ∧ (shortestDigits x).2 ≤ 401 := by
  obtain ⟨hreads, hlow, hhigh⟩ := h.found_spec
  have hpos : 0 < (found x).1 := by
    by_contra hzero
    have hzero : (found x).1 = 0 := by omega
    rw [readDecimal, hzero, ofScientific_zero] at hreads
    have hunpack : (0 : Float).toModel.unpack = .finite .positive m e h.pos := hreads ▸ h.unpack
    cases hunpack
  rw [shortestDigits_eq]
  split
  · rename_i hten
    have hsame : (found x).1 = (found x).1 / 10 * 10 := by omega
    refine ⟨by omega, ?_, by simp only; omega, by simp only; omega⟩
    refine Eq.trans ?_ hreads
    apply ofScientific_congr (by omega) hpos (by omega) (by omega)
    rw [decimal_eq, decimal_eq, zpow_add_one₀ (by norm_num)]
    have hcast : ((found x).1 : ℚ) = ((found x).1 / 10 : ℕ) * 10 := by exact_mod_cast hsame
    rw [hcast]
    ring
  · exact ⟨hpos, hreads, hlow, by omega⟩

end

end Python
