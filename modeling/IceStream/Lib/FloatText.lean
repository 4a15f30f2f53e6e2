import IceStream.Lib.FloatBounds
import IceStream.Lib.JsonNumbers

/-!
# The text of a float

`float(str(x))` is `x` again.
-/

namespace Python

/-! ## Digits -/

theorem takeDigits_cons {c : CodePoint} {rest : Text} (hc : isDigit c = true)
    (hrest : ∀ us ∈ rest.head?, us.val ≠ 0x5F) :
    takeDigits (c :: rest) = (c :: (takeDigits rest).1, (takeDigits rest).2) := by
  rw [takeDigits.eq_def]
  dsimp only
  rw [if_pos hc]
  cases rest with
  | nil => rfl
  | cons us rest =>
    cases rest with
    | nil => rfl
    | cons d rest =>
      have hus : ¬(us.val = 0x5F ∧ isDigit d) := fun h => hrest us rfl h.1
      dsimp only
      rw [if_neg hus]

/-- The digits are taken up to the first character that is none. -/
theorem takeDigits_append {ds rest : Text} (hds : IsDigits ds)
    (hrest : ∀ c ∈ rest.head?, isDigit c = false ∧ c.val ≠ 0x5F) :
    takeDigits (ds ++ rest) = (ds, rest) := by
  induction ds with
  | nil =>
    cases rest with
    | nil => rfl
    | cons c rest =>
      rw [List.nil_append, takeDigits.eq_def]
      dsimp only
      rw [if_neg (by rw [(hrest c rfl).1]; decide)]
  | cons c ds ih =>
    have htail : IsDigits ds := fun d hd => hds d (List.mem_cons_of_mem c hd)
    have hnext : ∀ us ∈ (ds ++ rest).head?, us.val ≠ 0x5F := by
      intro us hus
      cases ds with
      | nil => exact (hrest us hus).2
      | cons d ds =>
        obtain rfl : d = us := Option.some.inj hus
        have hdigit := htail d List.mem_cons_self
        simp only [isDigit, Bool.and_eq_true, decide_eq_true_eq] at hdigit
        omega
    rw [List.cons_append, takeDigits_cons (hds c List.mem_cons_self) hnext, ih htail]

/-- What stands in the text of a number: ASCII, and no space. -/
def IsMark (c : CodePoint) : Prop := c.val < 0x80 ∧ isNumberSpace c = false

theorem numberText_of_isMark (u : Unicode) {t : Text} (h : ∀ c ∈ t, IsMark c) :
    numberText u t = t := by
  have hfront {s : Text} (hs : ∀ c ∈ s, IsMark c) : s.dropWhile isNumberSpace = s := by
    cases s with
    | nil => rfl
    | cons c s =>
      rw [List.dropWhile_cons_of_neg]
      rw [(hs c List.mem_cons_self).2]
      decide
  have hback : ∀ c ∈ t.reverse, IsMark c := fun c hc => h c (List.mem_reverse.mp hc)
  rw [numberText, hfront h, hfront hback, List.reverse_reverse]
  rw [List.map_congr_left fun c hc => if_pos (h c hc).1, List.map_id']

theorem isMark_of_isDigit {c : CodePoint} (h : isDigit c = true) : IsMark c := by
  simp only [isDigit, Bool.and_eq_true, decide_eq_true_eq] at h
  have hval : c.val < 0x80 := by omega
  refine ⟨hval, ?_⟩
  rw [isNumberSpace, if_pos hval]
  simp only [Bool.or_eq_false_iff, Bool.and_eq_false_iff, decide_eq_false_iff_not, beq_eq_false_iff_ne]
  omega

/-! ## The parts of a number -/

section

variable {t whole frac sign expo : Text} {d : ℕ} {e : ℤ}

theorem isMark_number (hwhole : IsDigits whole) (hfrac : IsDigits frac)
    (hexpo : IsExponent sign expo) {c : CodePoint}
    (hc : c ∈ whole ++ (fracText frac ++ expoText sign expo)) : IsMark c := by
  obtain hc | hc := List.mem_append.mp hc
  · exact isMark_of_isDigit (hwhole c hc)
  obtain hc | hc := List.mem_append.mp hc
  · cases frac with
    | nil => exact absurd hc List.not_mem_nil
    | cons d ds =>
      obtain rfl | hc := List.mem_cons.mp hc
      · exact ⟨by decide, by decide⟩
      · exact isMark_of_isDigit (hfrac c hc)
  · cases expo with
    | nil => exact absurd hc List.not_mem_nil
    | cons d ds =>
      obtain ⟨hdigits, hsign⟩ := hexpo
      obtain rfl | hc := List.mem_cons.mp hc
      · exact ⟨by decide, by decide⟩
      obtain hc | hc := List.mem_append.mp hc
      · have hsigned : sign = text "+" ∨ sign = text "-" := hsign
        obtain rfl | rfl := hsigned
        · obtain rfl : c = ⟨0x2B, by decide⟩ := List.mem_singleton.mp hc
          exact ⟨by decide, by decide⟩
        · obtain rfl : c = ⟨0x2D, by decide⟩ := List.mem_singleton.mp hc
          exact ⟨by decide, by decide⟩
      · exact isMark_of_isDigit (hdigits c hc)

theorem takeSign_digits {ds : Text} (hds : IsDigits ds) : takeSign ds = (false, ds) := by
  cases ds with
  | nil => rfl
  | cons c ds =>
    have hc := hds c List.mem_cons_self
    simp only [isDigit, Bool.and_eq_true, decide_eq_true_eq] at hc
    rw [takeSign, if_neg (by omega), if_neg (by omega)]

theorem head_behind {c : CodePoint} (hc : c ∈ (fracText frac ++ expoText sign expo).head?) :
    c.val = 0x2E ∨ c.val = 0x65 := by
  cases frac with
  | nil =>
    cases expo with
    | nil => cases hc
    | cons d ds =>
      obtain rfl : _ = c := Option.some.inj hc
      exact .inr rfl
  | cons d ds =>
    obtain rfl : _ = c := Option.some.inj hc
    exact .inl rfl

/-- The magnitude is read from the parts. -/
theorem unsignedFloat_number (hwhole : IsDigits whole) (hne : whole ≠ []) (hfrac : IsDigits frac)
    (hexpo : IsExponent sign expo) :
    unsignedFloat (whole ++ (fracText frac ++ expoText sign expo)) =
      some (readDecimal (digitsVal (whole ++ frac), exponentOfParts frac sign expo)) := by
  -- the first character is a digit, so the text is none of the words
  have hword {c : CodePoint} {word : Text} (hc : 97 ≤ c.val) :
      lower (whole ++ (fracText frac ++ expoText sign expo)) ≠ c :: word := by
    obtain ⟨d, ds, rfl⟩ := List.exists_cons_of_ne_nil hne
    have hd := hwhole d List.mem_cons_self
    simp only [isDigit, Bool.and_eq_true, decide_eq_true_eq] at hd
    intro heq
    have hfirst : (if h : 65 ≤ d.val ∧ d.val ≤ 90 then ⟨d.val + 32, small_lt h⟩ else d) = c :=
      (List.cons.inj heq).1
    rw [dif_neg (by omega)] at hfirst
    rw [hfirst] at hd
    omega
  have hinf : lower (whole ++ (fracText frac ++ expoText sign expo)) ≠ text "inf" :=
    hword (c := ⟨0x69, by decide⟩) (by decide)
  have hinfinity : lower (whole ++ (fracText frac ++ expoText sign expo)) ≠ text "infinity" :=
    hword (c := ⟨0x69, by decide⟩) (by decide)
  have hnan : lower (whole ++ (fracText frac ++ expoText sign expo)) ≠ text "nan" :=
    hword (c := ⟨0x6E, by decide⟩) (by decide)
  have hmark {c : CodePoint} (h : c.val = 0x2E ∨ c.val = 0x65) :
      isDigit c = false ∧ c.val ≠ 0x5F := ⟨isDigit_eq_false (by omega), by omega⟩
  have htaken : takeDigits (whole ++ (fracText frac ++ expoText sign expo)) =
      (whole, fracText frac ++ expoText sign expo) :=
    takeDigits_append hwhole fun c hc => hmark (head_behind hc)
  have hfraction : (if (fracText frac ++ expoText sign expo).head?.any (·.val == 0x2E)
      then takeDigits ((fracText frac ++ expoText sign expo).drop 1)
      else ([], fracText frac ++ expoText sign expo)) = (frac, expoText sign expo) := by
    cases frac with
    | nil =>
      cases expo with
      | nil => rfl
      | cons d ds => rfl
    | cons d ds =>
      have hcut : takeDigits ((d :: ds) ++ expoText sign expo) = (d :: ds, expoText sign expo) :=
        takeDigits_append hfrac fun c hc => hmark (@head_behind [] sign expo c hc)
      exact hcut
  have hsome : (whole.isEmpty && frac.isEmpty) = false := by
    rw [List.isEmpty_eq_false_iff.mpr hne]
    rfl
  unfold unsignedFloat
  rw [if_neg (not_or.mpr ⟨hinf, hinfinity⟩), if_neg hnan, htaken]
  dsimp only
  rw [hfraction]
  dsimp only
  rw [hsome, if_neg Bool.false_ne_true]
  cases expo with
  | nil =>
    obtain ⟨-, hsign⟩ := hexpo
    have hnosign : sign = [] := hsign
    subst hnosign
    rfl
  | cons d ds =>
    obtain ⟨hdigits, hsign⟩ := hexpo
    have hsigned : sign = text "+" ∨ sign = text "-" := hsign
    have hall : takeDigits (d :: ds) = (d :: ds, []) := by
      have happend := @takeDigits_append (d :: ds) [] hdigits fun c hc => by cases hc
      rwa [List.append_nil] at happend
    obtain rfl | rfl := hsigned
    · have hstep : takeSign (text "+" ++ d :: ds) = (false, d :: ds) := rfl
      rw [expoText_cons]
      dsimp only
      rw [if_pos (Or.inl rfl), hstep]
      dsimp only
      rw [hall]
      rfl
    · have hstep : takeSign (text "-" ++ d :: ds) = (true, d :: ds) := rfl
      rw [expoText_cons]
      dsimp only
      rw [if_pos (Or.inl rfl), hstep]
      dsimp only
      rw [hall]
      rfl

end

/-! ## Floats -/

section

variable {x : Float} {m : ℕ} {e : ℤ}

/-- The shortest digits of a float, written in whatever way, are worth the float. -/
theorem IsPositive.read_written (h : IsPositive x m e) {whole frac sign expo : Text}
    (hwrites : Writes (text (reprBody (shortestDigits x).1 (shortestDigits x).2)) whole frac sign expo
      (shortestDigits x).1 (shortestDigits x).2) :
    readDecimal (digitsVal (whole ++ frac), exponentOfParts frac sign expo) = x := by
  obtain ⟨hpos, hreads, hlow, hhigh⟩ := h.shortestDigits_spec
  have hexponent : (exponentOfParts frac sign expo).natAbs ≤ 2048 := by
    obtain he | he := hwrites.exponent <;> omega
  have hdigits : 0 < digitsVal (whole ++ frac) := by
    by_contra hzero
    have hnought : digitsVal (whole ++ frac) = 0 := by omega
    have hvalue := hwrites.value
    rw [hnought, Nat.cast_zero, zero_mul] at hvalue
    have hcast : (0 : ℚ) < (shortestDigits x).1 := by exact_mod_cast hpos
    have hright : (0 : ℚ) < (shortestDigits x).1 * 10 ^ (shortestDigits x).2 := by positivity
    exact hright.ne hvalue
  refine Eq.trans ?_ hreads
  apply ofScientific_congr hdigits hpos hexponent (by omega)
  rw [decimal_eq, decimal_eq]
  exact hwrites.value

open Float.Model in
theorem IsPositive.floatRepr_eq (h : IsPositive x m e) :
    floatRepr x = reprBody (shortestDigits x).1 (shortestDigits x).2 := by
  obtain ⟨hnan, hinf⟩ := h.finite
  have hzero : (x == 0) = (x.toModel.unpack.compare (0 : Float).toModel.unpack == some .eq) := rfl
  have hnonzero : (x == 0) = false := by
    rw [hzero, h.unpack]
    rfl
  have habs : x.abs = x := by
    have hmodel : x.abs.toModel = x.toModel := by
      change pack x.toModel.unpack.abs = _
      rw [h.unpack]
      exact (congrArg pack h.unpack).symm.trans (pack_unpack _)
    exact congrArg Float.ofModel hmodel
  have hpositive : isNegative x = false := by
    rw [isNegative, h.unpack]
  rw [floatRepr_of_finite hnan hinf hnonzero, habs, hpositive]
  exact String.empty_append

/-- A positive float is read back from its text. -/
theorem IsPositive.floatOfText_floatRepr (h : IsPositive x m e) (u : Unicode) :
    floatOfText u (text (floatRepr x)) = .ok x := by
  obtain ⟨whole, frac, sign, expo, hwrites⟩ :=
    writes_reprBody h.shortestDigits_spec.1 (shortestDigits x).2
  have hwhole : IsDigits whole := hwrites.isWhole.1
  have htext : text (floatRepr x) = whole ++ (fracText frac ++ expoText sign expo) := by
    rw [h.floatRepr_eq, hwrites.text, jsonNumber_false]
  have hsign : takeSign (whole ++ (fracText frac ++ expoText sign expo)) =
      (false, whole ++ (fracText frac ++ expoText sign expo)) := by
    obtain ⟨c, cs, rfl⟩ := List.exists_cons_of_ne_nil hwrites.isWhole.2.1
    have hc := hwhole c List.mem_cons_self
    simp only [isDigit, Bool.and_eq_true, decide_eq_true_eq] at hc
    rw [List.cons_append, takeSign, if_neg (by omega), if_neg (by omega)]
  rw [htext, floatOfText,
    numberText_of_isMark u fun c hc => isMark_number hwhole hwrites.isDigits hwrites.isExponent hc,
    hsign]
  dsimp only
  rw [unsignedFloat_number hwhole hwrites.isWhole.2.1 hwrites.isDigits hwrites.isExponent,
    h.read_written hwrites]
  rfl

end

end Python
