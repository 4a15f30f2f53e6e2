import IceStream.Lib.FloatDigits
import IceStream.Lib.JsonLoads

/-!
# Numbers in JSON text

The scanner takes a number apart into its whole part, its fraction and its
exponent. What `dumps` writes for an integer or a float is read back as it.
-/

namespace Python

/-! ## Texts of literals -/

theorem text_append (s t : String) : text (s ++ t) = text s ++ text t := by
  rw [text, String.toList_append, List.map_append]
  rfl

theorem text_ofList (cs : List Char) :
    text (String.ofList cs) = cs.map fun c => ⟨c.toNat, char_lt c⟩ := by
  rw [text, String.toList_ofList]

/-! ## Digits -/

def IsDigits (ds : Text) : Prop := ∀ d ∈ ds, isDigit d = true

/-- The digits of a natural number. -/
def digits (n : ℕ) : Text := text (toString n)

theorem isDigits_append {ds es : Text} : IsDigits (ds ++ es) ↔ IsDigits ds ∧ IsDigits es := by
  simp only [IsDigits, List.mem_append, or_imp, forall_and]

theorem digits_eq (n : ℕ) :
    digits n = (Nat.toDigits 10 n).map fun c => ⟨c.toNat, char_lt c⟩ :=
  text_ofList _

theorem isDigits_digits (n : ℕ) : IsDigits (digits n) := by
  rw [digits_eq]
  intro d hd
  obtain ⟨c, hc, rfl⟩ := List.mem_map.mp hd
  have hdigit := Nat.isDigit_of_mem_toDigits (by decide) (by decide) hc
  simp only [Char.isDigit, Bool.and_eq_true, decide_eq_true_eq] at hdigit
  simp only [isDigit, Bool.and_eq_true, decide_eq_true_eq]
  exact hdigit

theorem length_digits (n : ℕ) : (digits n).length = (toString n).length := by
  rw [digits, text, List.length_map, String.length_toList]

theorem digits_ne_nil (n : ℕ) : digits n ≠ [] := by
  rw [digits_eq]
  simp

theorem digitsVal_append (ds es : Text) :
    digitsVal (ds ++ es) = digitsVal ds * 10 ^ es.length + digitsVal es := by
  induction es using List.reverseRecOn with
  | nil => simp [digitsVal]
  | append_singleton es d ih =>
    have hlast (fs : Text) : digitsVal (fs ++ [d]) = digitsVal fs * 10 + (d.val - 48) := by
      rw [digitsVal, List.foldl_append]
      rfl
    rw [← List.append_assoc, hlast, ih, hlast, List.length_append, List.length_singleton, pow_succ]
    ring

theorem digitsVal_digits (n : ℕ) : digitsVal (digits n) = n := by
  rw [digits_eq, digitsVal, List.foldl_map]
  have hfold := Nat.ofDigitChars_ten_toDigits (n := n)
  rw [Nat.ofDigitChars_eq_foldl] at hfold
  conv_rhs => rw [← hfold]
  congr 1
  funext n c
  rw [Nat.mul_comm]
  rfl

def zeros (k : ℕ) : Text := List.replicate k ⟨48, by decide⟩

theorem isDigits_zeros (k : ℕ) : IsDigits (zeros k) := by
  intro d hd
  rw [List.eq_of_mem_replicate hd]
  rfl

theorem digitsVal_zeros (k : ℕ) : digitsVal (zeros k) = 0 := by
  induction k with
  | zero => rfl
  | succ k ih =>
    have hsplit : zeros (k + 1) = zeros 1 ++ zeros k := rfl
    rw [hsplit, digitsVal_append, ih]
    simp [digitsVal, zeros]

theorem digitsVal_lt {ds : Text} (h : IsDigits ds) : digitsVal ds < 10 ^ ds.length := by
  induction ds using List.reverseRecOn with
  | nil => simp [digitsVal]
  | append_singleton ds d ih =>
    obtain ⟨hds, hd⟩ := isDigits_append.mp h
    have hlast := hd d (List.mem_singleton_self d)
    simp only [isDigit, Bool.and_eq_true, decide_eq_true_eq] at hlast
    have hval : digitsVal [d] = d.val - 48 := by simp [digitsVal]
    rw [digitsVal_append, hval, List.length_append, List.length_singleton, pow_succ]
    have := ih hds
    omega

/-- A positive number does not begin with a zero. -/
theorem head_digits {n : ℕ} (hn : 0 < n) {d : CodePoint} {ds : Text} (h : digits n = d :: ds) :
    d.val ≠ 48 := by
  intro hzero
  have hlength : (toString n).length = ds.length + 1 := by
    rw [← length_digits, h, List.length_cons]
  have hdigits : IsDigits ds := by
    have hall := isDigits_digits n
    rw [h] at hall
    exact fun c hc => hall c (List.mem_cons_of_mem d hc)
  have hvalue : digitsVal ds = n := by
    have hwhole := digitsVal_digits n
    have hsplit : digitsVal (d :: ds) = digitsVal [d] * 10 ^ ds.length + digitsVal ds :=
      digitsVal_append [d] ds
    have hfirst : digitsVal [d] = 0 := by simp [digitsVal, hzero]
    rw [h, hsplit, hfirst] at hwhole
    omega
  have hlow := pow_length_le hn
  have hhigh := digitsVal_lt hdigits
  rw [hlength, Nat.add_sub_cancel] at hlow
  omega

/-! ## The parts of a number -/

/-- Nothing that a number could go on with: a line feed, a comma or a closing bracket. -/
def Ends (rest : Text) : Prop :=
  ∀ c ∈ rest.head?, c.val = 0x0A ∨ c.val = 0x2C ∨ c.val = 0x5D ∨ c.val = 0x7D

theorem takeWhile_digits {ds rest : Text} (hds : IsDigits ds)
    (hrest : ∀ c ∈ rest.head?, isDigit c = false) : (ds ++ rest).takeWhile isDigit = ds := by
  rw [List.takeWhile_append_of_pos hds]
  cases rest with
  | nil => simp
  | cons c rest => rw [List.takeWhile_cons_of_neg (by simp [hrest c rfl]), List.append_nil]

/-- The whole part: a single zero, or digits that do not begin with one. -/
def IsWhole (whole : Text) : Prop :=
  IsDigits whole ∧ whole ≠ [] ∧ ((∃ d, d.val = 48 ∧ whole = [d]) ∨ ∀ d ∈ whole.head?, d.val ≠ 48)

def wholeOf (cs : Text) : Text :=
  if cs.head?.any (·.val == 48) then cs.take 1 else cs.takeWhile isDigit

def fracOf (cs : Text) : Text :=
  if cs.head?.any (·.val == 0x2E) then (cs.drop 1).takeWhile isDigit else []

def behindFrac (cs : Text) : Text :=
  if (fracOf cs).isEmpty then cs else cs.drop ((fracOf cs).length + 1)

def hasExponent (cs : Text) : Bool := cs.head?.any fun c => c.val == 0x65 || c.val == 0x45

def signOf (cs : Text) : Text :=
  if hasExponent cs then (cs.drop 1).take 1 |>.filter fun c => c.val == 0x2B || c.val == 0x2D
  else []

def expoOf (cs : Text) : Text :=
  if hasExponent cs then (cs.drop (1 + (signOf cs).length)).takeWhile isDigit else []

/-- What the parts are worth. -/
def numberValue (neg : Bool) (whole frac sign expo : Text) : Except Exc Json :=
  if frac.isEmpty && expo.isEmpty then
    if maxStrDigits < whole.length then
      .error (valueError (text s!"Exceeds the limit (4300 digits) for integer string conversion: value has {whole.length} digits; use sys.set_int_max_str_digits() to increase the limit"))
    else
      let n : ℤ := digitsVal whole
      .ok (.int (if neg then -n else n))
  else
    let e : ℤ := if sign.head?.any (·.val == 0x2D) then -(digitsVal expo : ℤ) else digitsVal expo
    let e := e - frac.length
    let x := Float.ofScientific (digitsVal (whole ++ frac)) (e < 0) e.natAbs
    .ok (.float (if neg then -x else x))

def numberLength (neg : Bool) (whole frac sign expo : Text) : ℕ :=
  (if neg then 1 else 0) + whole.length + (if frac.isEmpty then 0 else frac.length + 1) +
    (if expo.isEmpty then 0 else 1 + sign.length + expo.length)

theorem scanNumber_of_parts {cs body whole rest frac behind : Text} {neg : Bool}
    (hneg : (cs.head?.any fun c => c.val == 0x2D) = neg)
    (hbody : (if neg then cs.drop 1 else cs) = body) (hwhole : wholeOf body = whole)
    (hne : whole ≠ []) (hrest : body.drop whole.length = rest) (hfrac : fracOf rest = frac)
    (hbehind : behindFrac rest = behind) :
    scanNumber cs = some (numberValue neg whole frac (signOf behind) (expoOf behind),
      numberLength neg whole frac (signOf behind) (expoOf behind)) := by
  subst hneg hbody hwhole hrest hfrac hbehind
  unfold scanNumber
  extract_lets neg body whole rest frac behind signed sign expo length n e₀ e x
  have hempty : ¬whole.isEmpty = true := by
    rw [List.isEmpty_iff]
    exact hne
  rw [if_neg hempty]
  by_cases hint : (frac.isEmpty && expo.isEmpty) = true
  · by_cases hlong : maxStrDigits < whole.length
    · rw [if_pos hint, if_pos hlong]
      have hvalue : numberValue neg whole frac sign expo = _ := (if_pos hint).trans (if_pos hlong)
      exact congrArg (fun v => some (v, length)) hvalue.symm
    · rw [if_pos hint, if_neg hlong]
      have hvalue : numberValue neg whole frac sign expo = _ := (if_pos hint).trans (if_neg hlong)
      exact congrArg (fun v => some (v, length)) hvalue.symm
  · rw [if_neg hint]
    have hvalue : numberValue neg whole frac sign expo = _ := if_neg hint
    exact congrArg (fun v => some (v, length)) hvalue.symm

/-! ## The text of a number -/

def fracText (frac : Text) : Text := if frac.isEmpty then [] else text "." ++ frac

def expoText (sign expo : Text) : Text := if expo.isEmpty then [] else text "e" ++ sign ++ expo

@[simp] theorem fracText_nil : fracText [] = [] := rfl

@[simp] theorem fracText_cons (d : CodePoint) (ds : Text) :
    fracText (d :: ds) = ⟨0x2E, by decide⟩ :: d :: ds := rfl

@[simp] theorem expoText_nil (sign : Text) : expoText sign [] = [] := rfl

@[simp] theorem expoText_cons (sign : Text) (d : CodePoint) (ds : Text) :
    expoText sign (d :: ds) = ⟨0x65, by decide⟩ :: (sign ++ d :: ds) := rfl

def jsonNumber (neg : Bool) (whole frac sign expo : Text) : Text :=
  (if neg then text "-" else []) ++ (whole ++ (fracText frac ++ expoText sign expo))

/-- An exponent comes with a sign. -/
def IsExponent (sign expo : Text) : Prop :=
  IsDigits expo ∧ if expo.isEmpty then sign = [] else sign = text "+" ∨ sign = text "-"

theorem isDigits_nil : IsDigits [] := fun _ hd => absurd hd List.not_mem_nil

theorem isExponent_nil : IsExponent [] [] := ⟨isDigits_nil, rfl⟩

theorem length_jsonNumber (neg : Bool) (whole frac sign expo : Text) :
    (jsonNumber neg whole frac sign expo).length = numberLength neg whole frac sign expo := by
  rw [jsonNumber, numberLength, fracText, expoText]
  have hone : (text "-").length = 1 ∧ (text ".").length = 1 ∧ (text "e").length = 1 := by decide
  cases neg <;> cases frac <;> cases expo <;>
    simp only [List.length_append, List.length_nil, List.isEmpty_nil, List.isEmpty_cons,
      Bool.false_eq_true, ↓reduceIte, hone] <;> omega

section

variable {whole frac sign expo rest : Text}

theorem head_expoText {c : CodePoint} (hrest : Ends rest)
    (hc : c ∈ (expoText sign expo ++ rest).head?) :
    c.val = 0x65 ∨ c.val = 0x0A ∨ c.val = 0x2C ∨ c.val = 0x5D ∨ c.val = 0x7D := by
  cases expo with
  | nil => exact .inr (hrest c hc)
  | cons d ds =>
    obtain rfl : _ = c := Option.some.inj hc
    exact .inl rfl

theorem head_fracText {c : CodePoint} (hrest : Ends rest)
    (hc : c ∈ (fracText frac ++ (expoText sign expo ++ rest)).head?) :
    c.val = 0x2E ∨ c.val = 0x65 ∨ c.val = 0x0A ∨ c.val = 0x2C ∨ c.val = 0x5D ∨ c.val = 0x7D := by
  cases frac with
  | nil => exact .inr (head_expoText hrest hc)
  | cons d ds =>
    obtain rfl : _ = c := Option.some.inj hc
    exact .inl rfl

theorem isDigit_eq_false {c : CodePoint} (h : c.val < 48 ∨ 57 < c.val) : isDigit c = false := by
  rw [Bool.eq_false_iff]
  intro hc
  simp only [isDigit, Bool.and_eq_true, decide_eq_true_eq] at hc
  omega

theorem wholeOf_append (hwhole : IsWhole whole) (hrest : ∀ c ∈ rest.head?, isDigit c = false) :
    wholeOf (whole ++ rest) = whole := by
  obtain ⟨hdigits, hne, ⟨d, hzero, rfl⟩ | hhead⟩ := hwhole
  · rw [wholeOf]
    simp [hzero]
  · obtain ⟨d, ds, rfl⟩ := List.exists_cons_of_ne_nil hne
    have hd : d.val ≠ 48 := hhead d rfl
    rw [wholeOf, if_neg (by simp [hd]), takeWhile_digits hdigits hrest]

theorem fracOf_append (hfrac : IsDigits frac) (hrest : Ends rest) :
    fracOf (fracText frac ++ (expoText sign expo ++ rest)) = frac := by
  cases frac with
  | nil =>
    have hhead : ((expoText sign expo ++ rest).head?.any fun c => c.val == 0x2E) = false := by
      rw [Option.any_eq_false_iff_get]
      intro h
      have hc := head_expoText hrest (Option.get_mem h)
      simp only [beq_eq_false_iff_ne]
      omega
    rw [fracText_nil, List.nil_append, fracOf, hhead]
    rfl
  | cons d ds =>
    have hcut : fracOf (fracText (d :: ds) ++ (expoText sign expo ++ rest)) =
        ((d :: ds) ++ (expoText sign expo ++ rest)).takeWhile isDigit := rfl
    rw [hcut, takeWhile_digits hfrac]
    intro c hc
    have := head_expoText hrest hc
    exact isDigit_eq_false (by omega)

theorem behindFrac_append (hfrac : IsDigits frac) (hrest : Ends rest) :
    behindFrac (fracText frac ++ (expoText sign expo ++ rest)) = expoText sign expo ++ rest := by
  rw [behindFrac, fracOf_append hfrac hrest]
  cases frac with
  | nil => rfl
  | cons d ds =>
    have hlength : (d :: ds).length + 1 = (fracText (d :: ds)).length := rfl
    rw [List.isEmpty_cons, if_neg Bool.false_ne_true, hlength, List.drop_left]

theorem expo_append (hexpo : IsExponent sign expo) (hrest : Ends rest) :
    signOf (expoText sign expo ++ rest) = sign ∧ expoOf (expoText sign expo ++ rest) = expo := by
  obtain ⟨hdigits, hsign⟩ := hexpo
  cases expo with
  | nil =>
    obtain rfl : sign = [] := hsign
    have hhead : hasExponent rest = false := by
      rw [hasExponent, Option.any_eq_false_iff_get]
      intro h
      have hc := hrest _ (Option.get_mem h)
      simp only [Bool.or_eq_false_iff, beq_eq_false_iff_ne]
      omega
    rw [expoText_nil, List.nil_append, signOf, expoOf, hhead]
    exact ⟨rfl, rfl⟩
  | cons d ds =>
    have hends : ∀ c ∈ rest.head?, isDigit c = false := by
      intro c hc
      have := hrest c hc
      exact isDigit_eq_false (by omega)
    obtain ⟨c, rfl, hc⟩ : ∃ c, sign = [c] ∧ (c.val = 0x2B ∨ c.val = 0x2D) := by
      obtain rfl | rfl := hsign
      · exact ⟨_, rfl, .inl rfl⟩
      · exact ⟨_, rfl, .inr rfl⟩
    have hsigned : signOf (expoText [c] (d :: ds) ++ rest) = [c] := by
      have hfilter : signOf (expoText [c] (d :: ds) ++ rest) =
          [c].filter fun c => c.val == 0x2B || c.val == 0x2D := rfl
      rw [hfilter]
      obtain hc | hc := hc <;> simp [hc]
    refine ⟨hsigned, ?_⟩
    have hcut : expoOf (expoText [c] (d :: ds) ++ rest) =
        ((expoText [c] (d :: ds) ++ rest).drop
          (1 + (signOf (expoText [c] (d :: ds) ++ rest)).length)).takeWhile isDigit := rfl
    have hdrop : (expoText [c] (d :: ds) ++ rest).drop (1 + [c].length) = (d :: ds) ++ rest := rfl
    rw [hcut, hsigned, hdrop, takeWhile_digits hdigits hends]

/-- A number is scanned to its end. -/
theorem scanNumber_jsonNumber (neg : Bool) (hwhole : IsWhole whole) (hfrac : IsDigits frac)
    (hexpo : IsExponent sign expo) (hrest : Ends rest) :
    scanNumber (jsonNumber neg whole frac sign expo ++ rest) =
      some (numberValue neg whole frac sign expo, (jsonNumber neg whole frac sign expo).length) := by
  obtain ⟨hsign, hexponent⟩ := expo_append hexpo hrest
  have hends : ∀ c ∈ (fracText frac ++ (expoText sign expo ++ rest)).head?, isDigit c = false := by
    intro c hc
    have := head_fracText hrest hc
    exact isDigit_eq_false (by omega)
  obtain ⟨d, ds, hcons⟩ := List.exists_cons_of_ne_nil hwhole.2.1
  have hdigit : isDigit d = true := hwhole.1 d (hcons ▸ List.mem_cons_self)
  simp only [isDigit, Bool.and_eq_true, decide_eq_true_eq] at hdigit
  have hneg : ((jsonNumber neg whole frac sign expo ++ rest).head?.any fun c => c.val == 0x2D) = neg := by
    cases neg with
    | true => rfl
    | false =>
      simp only [jsonNumber, hcons, Bool.false_eq_true, ↓reduceIte, List.nil_append, List.cons_append,
        List.head?_cons, Option.any_some, beq_eq_false_iff_ne]
      omega
  have hbody : (if neg then (jsonNumber neg whole frac sign expo ++ rest).drop 1
      else jsonNumber neg whole frac sign expo ++ rest) =
      whole ++ (fracText frac ++ (expoText sign expo ++ rest)) := by
    cases neg with
    | true => simp [jsonNumber, text]
    | false => simp [jsonNumber]
  rw [scanNumber_of_parts hneg hbody (wholeOf_append hwhole hends) hwhole.2.1 List.drop_left
    (fracOf_append hfrac hrest) (behindFrac_append hfrac hrest), hsign, hexponent, length_jsonNumber]

end

/-! ## Tokens -/

/-- What begins like a number is none of the words. -/
theorem not_word {c : CodePoint} {cs : Text}
    (h : isDigit c = true ∨ c.val = 45 ∧ ∃ d ∈ cs.head?, isDigit d = true) :
    words.find? (fun w => w.1.isPrefixOf (c :: cs)) = none := by
  have hother (w : CodePoint) (ws : Text) (hw : isDigit w = false) (hminus : w.val ≠ 45) :
      (w :: ws).isPrefixOf (c :: cs) = false := by
    have hne : (w == c) = false := by
      rw [beq_eq_false_iff_ne]
      rintro rfl
      obtain h | h := h
      · rw [h] at hw
        cases hw
      · exact hminus h.1
    rw [List.isPrefixOf_cons_cons, hne, Bool.false_and]
  have hinfinity : (text "-Infinity").isPrefixOf (c :: cs) = false := by
    have hhead : text "-Infinity" = ⟨45, by decide⟩ :: ⟨73, by decide⟩ :: text "nfinity" := rfl
    rw [hhead, List.isPrefixOf_cons_cons]
    obtain h | ⟨-, d, hd, hdigit⟩ := h
    · have hne : ((⟨45, by decide⟩ : CodePoint) == c) = false := by
        rw [beq_eq_false_iff_ne]
        rintro rfl
        cases h
      rw [hne, Bool.false_and]
    · cases cs with
      | nil => cases hd
      | cons d' ds =>
        obtain rfl : d' = d := Option.some.inj hd
        have hne : ((⟨73, by decide⟩ : CodePoint) == d') = false := by
          rw [beq_eq_false_iff_ne]
          rintro rfl
          cases hdigit
        rw [List.isPrefixOf_cons_cons, hne, Bool.false_and, Bool.and_false]
  apply List.find?_eq_none.mpr
  intro w hw
  rw [Bool.not_eq_true]
  simp only [words, List.mem_cons, List.not_mem_nil, or_false] at hw
  obtain rfl | rfl | rfl | rfl | rfl | rfl := hw
  · exact hother _ _ rfl (by decide)
  · exact hother _ _ rfl (by decide)
  · exact hother _ _ rfl (by decide)
  · exact hother _ _ rfl (by decide)
  · exact hother _ _ rfl (by decide)
  · exact hinfinity

/-- A text that is scanned as one token, whatever stands behind it that a value may end with. -/
def ScansAs (t : Text) (token : Token) : Prop :=
  ∃ c cs, t = c :: cs ∧ isJsonSpace c = false ∧ c.val < 0x80 ∧ ∀ rest, Ends rest → ∀ pos,
    scanToken pos c (cs ++ rest) = (token, t.length)

theorem scansAs_number {neg : Bool} {whole frac sign expo : Text} {v : Json}
    (hwhole : IsWhole whole) (hfrac : IsDigits frac) (hexpo : IsExponent sign expo)
    (hvalue : numberValue neg whole frac sign expo = .ok v) :
    ScansAs (jsonNumber neg whole frac sign expo) (.atom v) := by
  obtain ⟨d, ds, hcons⟩ := List.exists_cons_of_ne_nil hwhole.2.1
  have hdigit : isDigit d = true := hwhole.1 d (hcons ▸ List.mem_cons_self)
  obtain ⟨c, cs, htext, hc⟩ : ∃ c cs, jsonNumber neg whole frac sign expo = c :: cs ∧
      (isDigit c = true ∨ c.val = 45 ∧ ∃ d ∈ cs.head?, isDigit d = true) := by
    rw [jsonNumber, hcons]
    cases neg with
    | true => exact ⟨_, _, rfl, .inr ⟨rfl, d, rfl, hdigit⟩⟩
    | false => exact ⟨_, _, rfl, .inl hdigit⟩
  have hrange : c.val = 45 ∨ 48 ≤ c.val ∧ c.val ≤ 57 := by
    obtain hc | hc := hc
    · simp only [isDigit, Bool.and_eq_true, decide_eq_true_eq] at hc
      exact .inr hc
    · exact .inl hc.1
  refine ⟨c, cs, htext, ?_, by omega, ?_⟩
  · rw [Bool.eq_false_iff]
    intro hspace
    simp only [isJsonSpace, Bool.or_eq_true, beq_iff_eq] at hspace
    omega
  · intro rest hrest pos
    have hscan := scanNumber_jsonNumber neg hwhole hfrac hexpo hrest
    rw [hvalue, htext, List.cons_append] at hscan
    have hword : words.find? (fun w => w.1.isPrefixOf (c :: (cs ++ rest))) = none := by
      apply not_word
      refine hc.imp_right ?_
      rintro ⟨hminus, d, hd, hdigit⟩
      refine ⟨hminus, d, ?_, hdigit⟩
      rw [List.head?_append, hd]
      rfl
    rw [scanToken, htext]
    split
    all_goals try omega
    rw [hword, hscan]

/-! ## Integers -/

theorem isWhole_digits (n : ℕ) : IsWhole (digits n) := by
  refine ⟨isDigits_digits n, digits_ne_nil n, ?_⟩
  by_cases hn : n = 0
  · exact .inl ⟨⟨48, by decide⟩, rfl, by rw [hn]; rfl⟩
  · right
    intro d hd
    obtain ⟨c, cs, hcons⟩ := List.exists_cons_of_ne_nil (digits_ne_nil n)
    rw [hcons] at hd
    obtain rfl : c = d := Option.some.inj hd
    exact head_digits (Nat.pos_of_ne_zero hn) hcons

theorem text_toString_int (i : ℤ) :
    text (toString i) = jsonNumber (i < 0) (digits i.natAbs) [] [] [] := by
  have htext : jsonNumber (i < 0) (digits i.natAbs) [] [] [] =
      (if i < 0 then text "-" else []) ++ digits i.natAbs := by
    by_cases hneg : i < 0 <;> simp [jsonNumber, hneg]
  rw [htext, Int.toString_eq_repr, Int.repr_eq_if]
  by_cases hneg : i < 0
  · have hnat : (-i).toNat = i.natAbs := by omega
    rw [if_neg (Int.not_le.mpr hneg), if_pos hneg, text_append, hnat]
    rfl
  · have hnat : i.toNat = i.natAbs := by omega
    rw [if_pos (Int.not_lt.mp hneg), if_neg hneg, hnat]
    rfl

/-- An integer that may be converted is scanned as itself. -/
theorem scansAs_int {i : ℤ} (h : (digits i.natAbs).length ≤ maxStrDigits) :
    ScansAs (text (toString i)) (.atom (.int i)) := by
  rw [text_toString_int]
  apply scansAs_number (isWhole_digits _) isDigits_nil isExponent_nil
  have hvalue : numberValue (i < 0) (digits i.natAbs) [] [] [] = _ :=
    (if_pos rfl).trans (if_neg (Nat.not_lt.mpr h))
  rw [hvalue, digitsVal_digits]
  by_cases hneg : i < 0
  · have hi : -(i.natAbs : ℤ) = i := by omega
    rw [decide_eq_true hneg]
    exact congrArg (fun n => Except.ok (Json.int n)) hi
  · have hi : (i.natAbs : ℤ) = i := by omega
    rw [decide_eq_false hneg]
    exact congrArg (fun n => Except.ok (Json.int n)) hi

/-! ## Floats -/

/-- The positional or scientific form of `d * 10 ^ e`. -/
def reprBody (d : ℕ) (e : ℤ) : String :=
  let ds := (toString d).toList
  let p : ℤ := ds.length + e
  let zeros (k : ℤ) := List.replicate k.toNat '0'
  if -4 < p ∧ p ≤ 16 then
    if p ≤ 0 then "0." ++ String.ofList (zeros (-p) ++ ds)
    else if (ds.length : ℤ) ≤ p then String.ofList (ds ++ zeros (p - ds.length)) ++ ".0"
    else String.ofList (ds.take p.toNat) ++ "." ++ String.ofList (ds.drop p.toNat)
  else
    let e := p - 1
    String.ofList (ds.take 1) ++ (if ds.length = 1 then "" else ".") ++
      String.ofList (ds.drop 1) ++ "e" ++ (if e < 0 then "-" else "+") ++
      padLeft 2 (toString e.natAbs)

theorem floatRepr_of_finite {f : Float} (hnan : f.isNaN = false) (hinf : f.isInf = false)
    (hzero : (f == 0) = false) :
    floatRepr f = (if isNegative f then "-" else "") ++
      reprBody (shortestDigits f.abs).1 (shortestDigits f.abs).2 := by
  rw [floatRepr, hnan, if_neg Bool.false_ne_true, hinf]
  dsimp only
  rw [if_neg Bool.false_ne_true, hzero, if_neg Bool.false_ne_true]
  rfl

/-- The exponent of a number from its parts. -/
def exponentOfParts (frac sign expo : Text) : ℤ :=
  (if sign.head?.any (fun c => c.val == 0x2D) then -(digitsVal expo : ℤ) else digitsVal expo) -
    frac.length

/-- Parts of a number that is no integer and is worth `d * 10 ^ e`. -/
structure Writes (t whole frac sign expo : Text) (d : ℕ) (e : ℤ) : Prop where
  text : t = jsonNumber false whole frac sign expo
  isWhole : IsWhole whole
  isDigits : IsDigits frac
  isExponent : IsExponent sign expo
  isFloat : (frac.isEmpty && expo.isEmpty) = false
  exponent : exponentOfParts frac sign expo = e ∨ exponentOfParts frac sign expo = -1
  value : (digitsVal (whole ++ frac) : ℚ) * 10 ^ exponentOfParts frac sign expo = d * 10 ^ e

theorem text_digits (d : ℕ) :
    (toString d).toList.map (fun c => (⟨c.toNat, char_lt c⟩ : CodePoint)) = digits d := rfl

theorem text_zeros (k : ℕ) : text (String.ofList (List.replicate k '0')) = zeros k := by
  rw [text_ofList, List.map_replicate]
  rfl

theorem text_take (d k : ℕ) :
    text (String.ofList ((toString d).toList.take k)) = (digits d).take k := by
  rw [text_ofList, List.map_take, text_digits]

theorem text_drop (d k : ℕ) :
    text (String.ofList ((toString d).toList.drop k)) = (digits d).drop k := by
  rw [text_ofList, List.map_drop, text_digits]

theorem fracText_of_ne_nil {frac : Text} (h : frac ≠ []) : fracText frac = text "." ++ frac := by
  obtain ⟨d, ds, rfl⟩ := List.exists_cons_of_ne_nil h
  rfl

theorem expoText_of_ne_nil {sign expo : Text} (h : expo ≠ []) :
    expoText sign expo = text "e" ++ sign ++ expo := by
  obtain ⟨d, ds, rfl⟩ := List.exists_cons_of_ne_nil h
  rfl

theorem jsonNumber_false (whole frac sign expo : Text) :
    jsonNumber false whole frac sign expo = whole ++ (fracText frac ++ expoText sign expo) := rfl

section

variable {d : ℕ} {e : ℤ}

/-- Where the decimal point of the digits stands. -/
def pointOf (d : ℕ) (e : ℤ) : ℤ := (digits d).length + e

theorem pointOf_eq (d : ℕ) (e : ℤ) : pointOf d e = (toString d).toList.length + e := by
  rw [pointOf, ← text_digits, List.length_map]

theorem exponentOfParts_frac (frac : Text) : exponentOfParts frac [] [] = -frac.length := by
  simp [exponentOfParts, digitsVal]

/-- Below one: zeros before the digits. -/
theorem writes_below_one (h : -4 < pointOf d e) (h' : pointOf d e ≤ 0) :
    Writes (text (reprBody d e)) (zeros 1) (zeros (-pointOf d e).toNat ++ digits d) [] [] d e := by
  have hbody : reprBody d e = "0." ++ String.ofList
      (List.replicate (-pointOf d e).toNat '0' ++ (toString d).toList) := by
    rw [pointOf_eq] at h h' ⊢
    exact (if_pos ⟨h, by omega⟩).trans (if_pos h')
  have hne : zeros (-pointOf d e).toNat ++ digits d ≠ [] := by
    simp [digits_ne_nil]
  have hexponent : exponentOfParts (zeros (-pointOf d e).toNat ++ digits d) [] [] = e := by
    rw [exponentOfParts_frac, List.length_append, zeros, List.length_replicate]
    rw [pointOf] at h' ⊢
    omega
  refine ⟨?_, ?_, ?_, isExponent_nil, ?_, .inl hexponent, ?_⟩
  · rw [hbody, text_append, String.ofList_append, text_append, text_zeros, jsonNumber_false,
      fracText_of_ne_nil hne, expoText_nil, List.append_nil, String.ofList_toList]
    rfl
  · exact ⟨isDigits_zeros 1, List.cons_ne_nil _ _, .inl ⟨_, rfl, rfl⟩⟩
  · exact isDigits_append.mpr ⟨isDigits_zeros _, isDigits_digits d⟩
  · rw [List.isEmpty_eq_false_iff.mpr hne, Bool.false_and]
  · rw [hexponent, digitsVal_append, digitsVal_append, digitsVal_zeros, digitsVal_zeros,
      digitsVal_digits, Nat.zero_mul, Nat.zero_mul, Nat.zero_add, Nat.zero_add]

/-- A whole number: zeros behind the digits, and a fraction that is zero. -/
theorem writes_whole (hd : 0 < d) (h : 0 < pointOf d e) (h' : pointOf d e ≤ 16) (he : 0 ≤ e) :
    Writes (text (reprBody d e)) (digits d ++ zeros e.toNat) (zeros 1) [] [] d e := by
  have hbody : reprBody d e = String.ofList ((toString d).toList ++
      List.replicate (pointOf d e - (toString d).toList.length).toNat '0') ++ ".0" := by
    rw [pointOf_eq] at h h' ⊢
    exact (if_pos ⟨by omega, h'⟩).trans ((if_neg (by omega)).trans (if_pos (by omega)))
  have hzeros : pointOf d e - (toString d).toList.length = e := by
    rw [pointOf_eq]
    omega
  rw [hzeros] at hbody
  have hexponent : exponentOfParts (zeros 1) [] [] = -1 := rfl
  refine ⟨?_, ?_, isDigits_zeros 1, isExponent_nil, rfl, .inr hexponent, ?_⟩
  · rw [hbody, text_append, String.ofList_append, text_append, text_zeros, jsonNumber_false,
      expoText_nil, List.append_nil, String.ofList_toList]
    rfl
  · refine ⟨isDigits_append.mpr ⟨isDigits_digits d, isDigits_zeros _⟩, ?_, .inr ?_⟩
    · simp [digits_ne_nil]
    · intro c hc
      obtain ⟨c', cs, hcons⟩ := List.exists_cons_of_ne_nil (digits_ne_nil d)
      rw [hcons] at hc
      obtain rfl : c' = c := Option.some.inj hc
      exact head_digits hd hcons
  · rw [hexponent, digitsVal_append, digitsVal_append, digitsVal_zeros, digitsVal_zeros,
      digitsVal_digits, zeros, zeros, List.length_replicate, List.length_replicate]
    have hpower : (10 : ℚ) ^ e = 10 ^ e.toNat := by
      rw [← zpow_natCast, Int.toNat_of_nonneg he]
    rw [hpower]
    push_cast
    ring

theorem isWhole_take (hd : 0 < d) {k : ℕ} (hk : 0 < k) : IsWhole ((digits d).take k) := by
  obtain ⟨c, cs, hcons⟩ := List.exists_cons_of_ne_nil (digits_ne_nil d)
  obtain ⟨k, rfl⟩ := Nat.exists_eq_succ_of_ne_zero hk.ne'
  refine ⟨?_, ?_, .inr ?_⟩
  · intro c' hc'
    exact isDigits_digits d c' (List.mem_of_mem_take hc')
  · rw [hcons, List.take_succ_cons]
    exact List.cons_ne_nil _ _
  · intro c' hc'
    rw [hcons, List.take_succ_cons] at hc'
    obtain rfl : c = c' := Option.some.inj hc'
    exact head_digits hd hcons

theorem isDigits_drop (d k : ℕ) : IsDigits ((digits d).drop k) := fun c hc =>
  isDigits_digits d c (List.mem_of_mem_drop hc)

/-- The point among the digits. -/
theorem writes_between (hd : 0 < d) (h : 0 < pointOf d e) (h' : pointOf d e ≤ 16) (he : e < 0) :
    Writes (text (reprBody d e)) ((digits d).take (pointOf d e).toNat)
      ((digits d).drop (pointOf d e).toNat) [] [] d e := by
  have hbody : reprBody d e = String.ofList ((toString d).toList.take (pointOf d e).toNat) ++ "." ++
      String.ofList ((toString d).toList.drop (pointOf d e).toNat) := by
    rw [pointOf_eq] at h h' ⊢
    exact (if_pos ⟨by omega, h'⟩).trans ((if_neg (by omega)).trans (if_neg (by omega)))
  have hlength : ((digits d).drop (pointOf d e).toNat).length = (-e).toNat := by
    rw [List.length_drop, pointOf]
    rw [pointOf] at h
    omega
  have hne : (digits d).drop (pointOf d e).toNat ≠ [] := by
    rw [← List.length_pos_iff, hlength]
    omega
  have hexponent : exponentOfParts ((digits d).drop (pointOf d e).toNat) [] [] = e := by
    rw [exponentOfParts_frac, hlength]
    omega
  refine ⟨?_, isWhole_take hd (by omega), isDigits_drop d _, isExponent_nil, ?_, .inl hexponent, ?_⟩
  · rw [hbody, text_append, text_append, text_take, text_drop, jsonNumber_false,
      fracText_of_ne_nil hne, expoText_nil, List.append_nil, List.append_assoc]
  · rw [List.isEmpty_eq_false_iff.mpr hne, Bool.false_and]
  · rw [hexponent, List.take_append_drop, digitsVal_digits]

theorem text_padLeft (width n : ℕ) :
    text (padLeft width (toString n)) = zeros (width - (digits n).length) ++ digits n := by
  rw [padLeft, text_append, text_zeros, length_digits]
  rfl

/-- The digits with an exponent. -/
theorem writes_scientific (hd : 0 < d) (h : ¬(-4 < pointOf d e ∧ pointOf d e ≤ 16)) :
    ∃ sign expo, Writes (text (reprBody d e)) ((digits d).take 1) ((digits d).drop 1) sign expo
      d e := by
  set x := pointOf d e - 1 with hx
  set sign : String := if x < 0 then "-" else "+" with hsign
  have hbody : reprBody d e = String.ofList ((toString d).toList.take 1) ++
      (if (toString d).toList.length = 1 then "" else ".") ++
      String.ofList ((toString d).toList.drop 1) ++ "e" ++ sign ++ padLeft 2 (toString x.natAbs) := by
    rw [hsign, hx]
    rw [pointOf_eq] at h ⊢
    exact if_neg h
  set expo := zeros (2 - (digits x.natAbs).length) ++ digits x.natAbs with hexpo
  have hne : expo ≠ [] := by simp [hexpo, digits_ne_nil]
  have hval : digitsVal expo = x.natAbs := by
    rw [hexpo, digitsVal_append, digitsVal_zeros, digitsVal_digits, Nat.zero_mul, Nat.zero_add]
  have hfrac : text (if (toString d).toList.length = 1 then "" else ".") ++ (digits d).drop 1 =
      fracText ((digits d).drop 1) := by
    have hlength : (toString d).toList.length = (digits d).length := by
      rw [← text_digits, List.length_map]
    rw [hlength]
    by_cases hone : (digits d).length = 1
    · have hnil : (digits d).drop 1 = [] := List.drop_eq_nil_of_le hone.le
      rw [if_pos hone, hnil]
      rfl
    · have hdrop : (digits d).drop 1 ≠ [] := by
        rw [← List.length_pos_iff, List.length_drop]
        have := List.length_pos_iff.mpr (digits_ne_nil d)
        omega
      rw [if_neg hone, fracText_of_ne_nil hdrop]
  have hsigned : IsExponent (text sign) expo := by
    refine ⟨isDigits_append.mpr ⟨isDigits_zeros _, isDigits_digits _⟩, ?_⟩
    rw [if_neg (by simpa using hne), hsign]
    split
    · exact .inr rfl
    · exact .inl rfl
  have hexponent : exponentOfParts ((digits d).drop 1) (text sign) expo = e := by
    have hpos := List.length_pos_iff.mpr (digits_ne_nil d)
    have hx' : x = (digits d).length + e - 1 := hx
    rw [exponentOfParts, hval, List.length_drop, hsign]
    by_cases hneg : x < 0
    · have hminus : ((text "-").head?.any fun c => c.val == 0x2D) = true := rfl
      rw [if_pos hneg, hminus, if_pos rfl]
      omega
    · have hplus : ((text "+").head?.any fun c => c.val == 0x2D) = false := rfl
      rw [if_neg hneg, hplus, if_neg Bool.false_ne_true]
      omega
  refine ⟨text sign, expo, ?_, isWhole_take hd Nat.one_pos, isDigits_drop d 1, hsigned, ?_,
    .inl hexponent, ?_⟩
  · rw [hbody, text_append, text_append, text_append, text_append, text_append, text_take, text_drop,
      text_padLeft, ← hexpo, jsonNumber_false, ← hfrac, expoText_of_ne_nil hne]
    simp only [List.append_assoc]
  · rw [List.isEmpty_eq_false_iff.mpr hne, Bool.and_false]
  · rw [hexponent, List.take_append_drop, digitsVal_digits]

theorem writes_reprBody (hd : 0 < d) (e : ℤ) :
    ∃ whole frac sign expo, Writes (text (reprBody d e)) whole frac sign expo d e := by
  by_cases hpositional : -4 < pointOf d e ∧ pointOf d e ≤ 16
  · by_cases hpoint : pointOf d e ≤ 0
    · exact ⟨_, _, _, _, writes_below_one hpositional.1 hpoint⟩
    · by_cases he : 0 ≤ e
      · exact ⟨_, _, _, _, writes_whole hd (by omega) hpositional.2 he⟩
      · exact ⟨_, _, _, _, writes_between hd (by omega) hpositional.2 (by omega)⟩
  · obtain ⟨sign, expo, h⟩ := writes_scientific hd hpositional
    exact ⟨_, _, sign, expo, h⟩

end

/-! ## The text of a float -/

/-- A positive float and its negation, by their shortest digits. -/
theorem scansAs_reprBody {x : Float} {m : ℕ} {e : ℤ} (h : IsPositive x m e) (neg : Bool) :
    ScansAs (text ((if neg then "-" else "") ++
        reprBody (shortestDigits x).1 (shortestDigits x).2))
      (.atom (.float (if neg then -x else x))) := by
  obtain ⟨hpos, hreads, hlow, hhigh⟩ := h.shortestDigits_spec
  obtain ⟨whole, frac, sign, expo, hwrites⟩ := writes_reprBody hpos (shortestDigits x).2
  have htext : text ((if neg then "-" else "") ++
      reprBody (shortestDigits x).1 (shortestDigits x).2) = jsonNumber neg whole frac sign expo := by
    rw [text_append, hwrites.text]
    cases neg <;> rfl
  have hvalue : numberValue neg whole frac sign expo = .ok (.float
      (if neg then -readDecimal (digitsVal (whole ++ frac), exponentOfParts frac sign expo)
      else readDecimal (digitsVal (whole ++ frac), exponentOfParts frac sign expo))) :=
    if_neg (by simp [hwrites.isFloat])
  have hexponent : (exponentOfParts frac sign expo).natAbs ≤ 2048 := by
    obtain he | he := hwrites.exponent <;> omega
  have hdigits : 0 < digitsVal (whole ++ frac) := by
    have hright : (0 : ℚ) < (shortestDigits x).1 * 10 ^ (shortestDigits x).2 := by
      have hcast : (0 : ℚ) < (shortestDigits x).1 := by exact_mod_cast hpos
      positivity
    rw [← hwrites.value] at hright
    by_contra hzero
    have hzero : digitsVal (whole ++ frac) = 0 := by omega
    rw [hzero, Nat.cast_zero, zero_mul] at hright
    exact lt_irrefl _ hright
  have hsame : readDecimal (digitsVal (whole ++ frac), exponentOfParts frac sign expo) = x := by
    refine Eq.trans ?_ hreads
    apply ofScientific_congr hdigits hpos hexponent (by omega)
    rw [decimal_eq, decimal_eq]
    exact hwrites.value
  rw [htext]
  apply scansAs_number hwrites.isWhole hwrites.isDigits hwrites.isExponent
  rw [hvalue, hsame]

/-! ### Words -/

theorem scansAs_null : ScansAs (text "null") (.atom .null) :=
  ⟨_, _, rfl, rfl, by decide, fun _ _ _ => rfl⟩

theorem scansAs_bool (b : Bool) :
    ScansAs (text (if b then "true" else "false")) (.atom (.bool b)) := by
  cases b with
  | true => exact ⟨_, _, rfl, rfl, by decide, fun _ _ _ => rfl⟩
  | false => exact ⟨_, _, rfl, rfl, by decide, fun _ _ _ => rfl⟩

theorem scansAs_nan : ScansAs (text "NaN") (.atom (.float (0 / 0))) :=
  ⟨_, _, rfl, rfl, by decide, fun _ _ _ => rfl⟩

theorem scansAs_infinity : ScansAs (text "Infinity") (.atom (.float (1 / 0))) :=
  ⟨_, _, rfl, rfl, by decide, fun _ _ _ => rfl⟩

theorem scansAs_negInfinity : ScansAs (text "-Infinity") (.atom (.float (-1 / 0))) :=
  ⟨_, _, rfl, rfl, by decide, fun _ _ _ => rfl⟩

theorem scansAs_zero (neg : Bool) :
    ScansAs (text ((if neg then "-" else "") ++ "0.0")) (.atom (.float (if neg then -0 else 0))) := by
  have htext : text ((if neg then "-" else "") ++ "0.0") =
      jsonNumber neg (zeros 1) (zeros 1) [] [] := by
    cases neg <;> rfl
  have hwhole : IsWhole (zeros 1) := ⟨isDigits_zeros 1, List.cons_ne_nil _ _, .inl ⟨_, rfl, rfl⟩⟩
  rw [htext]
  apply scansAs_number hwhole (isDigits_zeros 1) isExponent_nil
  have hvalue : numberValue neg (zeros 1) (zeros 1) [] [] = .ok (.float
      (if neg then -Float.ofScientific 0 true 1 else Float.ofScientific 0 true 1)) := rfl
  rw [hvalue, ofScientific_zero]

open Float.Model in
/-- What `dumps` writes for a float is scanned as that float. -/
theorem scansAs_dumpFloat (f : Float) : ScansAs (text (dumpFloat f)) (.atom (.float f)) := by
  have hnan : f.isNaN = f.toModel.unpack.isNaN := rfl
  have hinf : f.isInf = f.toModel.unpack.isInf := rfl
  have hzero : (f == 0) = (f.toModel.unpack.compare (0 : Float).toModel.unpack == some .eq) := rfl
  rw [dumpFloat]
  cases hf : f.toModel.unpack with
  | notANumber =>
    have hsame : f = 0 / 0 := eq_of_unpack_eq hf
    rw [hnan, hf, hsame]
    exact scansAs_nan
  | infinity s =>
    rw [hnan, hinf, hf, isNegative, hf]
    cases s with
    | positive =>
      have hsame : f = 1 / 0 := eq_of_unpack_eq hf
      rw [hsame]
      exact scansAs_infinity
    | negative =>
      have hsame : f = -1 / 0 := eq_of_unpack_eq hf
      rw [hsame]
      exact scansAs_negInfinity
  | zero s =>
    have hrepr : floatRepr f = (if isNegative f then "-" else "") ++ "0.0" := by
      rw [floatRepr, hnan, hinf, hzero, hf]
      rfl
    rw [hnan, hinf, hf, hrepr, isNegative, hf]
    cases s with
    | positive =>
      have hsame : f = 0 := eq_of_unpack_eq hf
      rw [hsame]
      exact scansAs_zero false
    | negative =>
      have hsame : f = -0 := eq_of_unpack_eq hf
      rw [hsame]
      exact scansAs_zero true
  | finite s m e hm =>
    have hcanonical : Canonical m e ∧ e ≤ 971 := canonical_of_unpack hf
    have habs : f.abs.toModel = pack (.finite .positive m e hm) := by
      change pack f.toModel.unpack.abs = _
      rw [hf]
      rfl
    have hpositive : IsPositive f.abs m e := by
      refine ⟨hm, ?_⟩
      rw [habs]
      exact hcanonical.1.unpack_pack hcanonical.2
    have hrepr := floatRepr_of_finite (f := f) (by rw [hnan, hf]; rfl) (by rw [hinf, hf]; rfl)
      (by rw [hzero, hf]; cases s <;> rfl)
    have hscans := scansAs_reprBody hpositive (isNegative f)
    have hmodel : f.toModel = pack (.finite s m e hm) := by rw [← hf, pack_unpack]
    have hsame : (if isNegative f then -f.abs else f.abs) = f := by
      rw [isNegative, hf]
      cases s with
      | positive => exact congrArg Float.ofModel (habs.trans hmodel.symm)
      | negative =>
        have hneg : (-f.abs).toModel = pack (.finite .negative m e hm) := by
          change pack f.abs.toModel.unpack.neg = _
          rw [hpositive.unpack]
          rfl
        exact congrArg Float.ofModel (hneg.trans hmodel.symm)
    rw [hnan, hinf, hf, hrepr]
    rw [hsame] at hscans
    exact hscans

end Python
