import IceStream.Lib.Convert
import IceStream.Lib.JsonNumbers

/-!
# How the text of a value begins

`str` of a number begins with a digit, a sign or a small letter, `str` of a list or a `dict`
with a bracket.
-/

namespace Python

/-! ## Stripped texts -/

theorem isSpace_of_isNumberSpace {c : CodePoint} (h : isNumberSpace c = true) : isSpace c = true := by
  rw [isNumberSpace] at h
  split_ifs at h
  · simp only [Bool.or_eq_true, Bool.and_eq_true, decide_eq_true_eq, beq_iff_eq] at h
    simp only [isSpace, Bool.or_eq_true, Bool.and_eq_true, decide_eq_true_eq, beq_iff_eq]
    omega
  · exact h

theorem not_isSpace_of_isDigit {c : CodePoint} (h : isDigit c = true) : ¬isSpace c = true := by
  simp only [isDigit, Bool.and_eq_true, decide_eq_true_eq] at h
  simp only [isSpace, Bool.or_eq_true, Bool.and_eq_true, decide_eq_true_eq, beq_iff_eq]
  omega

theorem dropWhile_append_singleton {p : CodePoint → Bool} {c : CodePoint} (hc : p c = false)
    (t : Text) : ∃ rest, (t ++ [c]).dropWhile p = rest ++ [c] := by
  induction t with
  | nil =>
    refine ⟨[], ?_⟩
    rw [List.nil_append, List.dropWhile_cons_of_neg (by simp [hc])]
  | cons d t ih =>
    by_cases hd : p d = true
    · rw [List.cons_append, List.dropWhile_cons_of_pos hd]
      exact ih
    · rw [List.cons_append, List.dropWhile_cons_of_neg hd]
      exact ⟨d :: t, rfl⟩

/-- A text that does not begin with a space keeps its beginning. -/
theorem strip_cons {c : CodePoint} (hc : isSpace c = false) (t : Text) :
    ∃ rest, strip (c :: t) = c :: rest := by
  obtain ⟨rest, hrest⟩ := dropWhile_append_singleton hc t.reverse
  refine ⟨rest.reverse, ?_⟩
  rw [strip, List.dropWhile_cons_of_neg (by simp [hc]), List.reverse_cons, hrest,
    List.reverse_append]
  rfl

/-! ## Numbers -/

theorem head_digits_isDigit (n : ℕ) : ∃ c rest, digits n = c :: rest ∧ isDigit c = true := by
  obtain ⟨c, rest, h⟩ := List.exists_cons_of_ne_nil (digits_ne_nil n)
  refine ⟨c, rest, h, isDigits_digits n c ?_⟩
  rw [h]
  exact List.mem_cons_self

theorem head_reprBody (d : ℕ) (e : ℤ) :
    ∃ c rest, text (reprBody d e) = c :: rest ∧ isDigit c = true := by
  obtain ⟨c, rest, hdigits, hc⟩ := head_digits_isDigit d
  have htake (k : ℕ) (hk : 0 < k) :
      text (String.ofList ((toString d).toList.take k)) = c :: rest.take (k - 1) := by
    rw [text_take, hdigits]
    obtain ⟨k, rfl⟩ := Nat.exists_eq_succ_of_ne_zero hk.ne'
    rfl
  unfold reprBody
  dsimp only
  split_ifs with hpositional hpoint hwhole
  · rw [text_append]
    exact ⟨_, _, rfl, by decide⟩
  · rw [text_append, text_ofList, List.map_append, text_digits, hdigits]
    exact ⟨c, _, rfl, hc⟩
  · rw [text_append, text_append, htake _ (by omega)]
    exact ⟨c, _, rfl, hc⟩
  all_goals
    simp only [text_append]
    rw [htake 1 Nat.one_pos]
    exact ⟨c, _, rfl, hc⟩

/-- What `repr` of a float begins with. -/
theorem head_floatRepr (x : Float) : ∃ c rest, text (floatRepr x) = c :: rest ∧
    (isDigit c = true ∨ c.val = 0x2D ∨ c.val = 0x69 ∨ c.val = 0x6E ∧ x.isNaN = true) := by
  by_cases hnan : x.isNaN = true
  · rw [floatRepr, if_pos hnan]
    exact ⟨_, _, rfl, .inr (.inr (.inr ⟨rfl, hnan⟩))⟩
  rw [floatRepr, if_neg hnan]
  dsimp only
  by_cases hneg : isNegative x = true
  · rw [if_pos hneg]
    split_ifs <;> simp only [text_append] <;> exact ⟨_, _, rfl, .inr (.inl rfl)⟩
  · rw [if_neg hneg]
    by_cases hinf : x.isInf = true
    · rw [if_pos hinf]
      exact ⟨_, _, rfl, .inr (.inr (.inl rfl))⟩
    rw [if_neg hinf]
    by_cases hzero : (x == 0) = true
    · rw [if_pos hzero]
      exact ⟨_, _, rfl, .inl (by decide)⟩
    rw [if_neg hzero]
    obtain ⟨c, rest, hbody, hc⟩ := head_reprBody (shortestDigits x.abs).1 (shortestDigits x.abs).2
    refine ⟨c, rest, ?_, .inl hc⟩
    rw [← hbody]
    rfl

/-! ## Values -/

/-- Only a text, `None`, `True` and `False` are shown with a capital in front. -/
theorem kind_of_capital {u : Unicode} {v : Json} {c : CodePoint} {rest : Text}
    (h : v.toText u = c :: rest) (hc : 65 ≤ c.val ∧ c.val ≤ 90) :
    (∃ s, v = .str s) ∨ v = .null ∨ ∃ b, v = .bool b := by
  cases v with
  | null => exact .inr (.inl rfl)
  | bool b => exact .inr (.inr ⟨b, rfl⟩)
  | str s => exact .inl ⟨s, rfl⟩
  | int i =>
    have hshown : text (toString i) = c :: rest := h
    rw [text_toString_int] at hshown
    obtain ⟨d, ds, hdigits, hd⟩ := head_digits_isDigit i.natAbs
    rw [hdigits] at hshown
    have hval : c.val = 0x2D ∨ isDigit c = true := by
      by_cases hneg : i < 0
      · rw [decide_eq_true hneg] at hshown
        exact .inl (congrArg Fin.val (List.cons.inj hshown).1).symm
      · rw [decide_eq_false hneg] at hshown
        exact .inr ((List.cons.inj hshown).1 ▸ hd)
    simp only [isDigit, Bool.and_eq_true, decide_eq_true_eq] at hval
    omega
  | float x =>
    obtain ⟨d, ds, hrepr, hd⟩ := head_floatRepr x
    have hsame : c = d := (List.cons.inj (h.symm.trans hrepr)).1
    rw [← hsame] at hd
    simp only [isDigit, Bool.and_eq_true, decide_eq_true_eq] at hd
    omega
  | arr xs =>
    have hval : 0x5B = c.val := congrArg Fin.val (List.cons.inj h).1
    omega
  | obj kvs =>
    have hval : 0x7B = c.val := congrArg Fin.val (List.cons.inj h).1
    omega

/-! ## Texts that are no number -/

/-- What is cut off at the end of a list. -/
theorem rdropWhile_append {p : CodePoint → Bool} (t : Text) : ∃ dropped,
    t = (t.reverse.dropWhile p).reverse ++ dropped ∧ ∀ c ∈ dropped, p c = true := by
  refine ⟨(t.reverse.takeWhile p).reverse, ?_, ?_⟩
  · rw [← List.reverse_append, List.takeWhile_append_dropWhile, List.reverse_reverse]
  · intro c hc
    exact List.mem_takeWhile_imp (List.mem_reverse.mp hc)

/-- A text that begins with no digit, no point and none of the words for a float is none. -/
theorem unsignedFloat_eq_none {c : CodePoint} {rest : Text} (hc : isDigit c = false ∧ c.val ≠ 0x2E)
    (hwords : ∀ word ∈ [text "inf", text "infinity", text "nan"], lower (c :: rest) ≠ word) :
    unsignedFloat (c :: rest) = none := by
  have hinf : ¬(lower (c :: rest) = text "inf" ∨ lower (c :: rest) = text "infinity") := by
    rintro (h | h)
    · exact hwords _ (by simp) h
    · exact hwords _ (by simp) h
  have hnan : ¬lower (c :: rest) = text "nan" := hwords _ (by simp)
  have hdigits : takeDigits (c :: rest) = ([], c :: rest) := by
    unfold takeDigits
    rw [if_neg (by simp [hc.1])]
  have hpoint : ((c :: rest).head?.any fun d => d.val == 0x2E) = false := by simpa using hc.2
  rw [unsignedFloat, if_neg hinf, if_neg hnan]
  simp only [hdigits, hpoint]
  rfl

/-- The text of a number begins as the text does behind what is skipped. -/
theorem numberText_of_dropWhile (u : Unicode) {t front rest : Text} {c : CodePoint}
    (h : t.dropWhile isNumberSpace = front ++ c :: rest) (hc : isNumberSpace c = false)
    (hascii : ∀ d ∈ front ++ [c], d.val < 0x80) : ∃ rest', numberText u t = front ++ c :: rest' := by
  obtain ⟨dropped, hsplit, hdropped⟩ := rdropWhile_append (p := isNumberSpace) (front ++ c :: rest)
  obtain ⟨kept, hkept⟩ : ∃ kept,
      ((front ++ c :: rest).reverse.dropWhile isNumberSpace).reverse = front ++ c :: kept := by
    have hmem : c ∉ dropped := by
      intro hmem
      rw [hdropped c hmem] at hc
      cases hc
    obtain ⟨middle, hmiddle, hrest⟩ | ⟨middle, hmiddle, hrest⟩ := List.append_eq_append_iff.mp hsplit
    · cases middle with
      | nil =>
        rw [List.nil_append] at hrest
        exact absurd (hrest ▸ List.mem_cons_self) hmem
      | cons d middle =>
        cases hrest
        exact ⟨middle, hmiddle⟩
    · rw [hrest] at hmem
      exact absurd (by simp) hmem
  have hmap (f : CodePoint → CodePoint) (hf : ∀ d ∈ front ++ [c], f d = d) :
      ∃ rest', (front ++ c :: kept).map f = front ++ c :: rest' := by
    have hfront : front.map f = front :=
      (List.map_congr_left fun d hd => hf d (by simp [hd])).trans (List.map_id _)
    refine ⟨kept.map f, ?_⟩
    rw [List.map_append, List.map_cons, hfront, hf c (by simp)]
  rw [numberText, h, hkept]
  exact hmap _ fun d hd => if_pos (hascii d hd)

/-- A character before it was made small. -/
theorem val_of_lower {c d : CodePoint}
    (h : (if h : 65 ≤ c.val ∧ c.val ≤ 90 then (⟨c.val + 32, small_lt h⟩ : CodePoint) else c) = d) :
    c.val + 32 = d.val ∨ c.val = d.val := by
  split_ifs at h
  · exact .inl (congrArg Fin.val h)
  · exact .inr (congrArg Fin.val h)

/-- Neither a blank text nor `none` is a number. -/
theorem floatOfText_of_blank (u : Unicode) {t : Text}
    (h : strip t = [] ∨ lower (strip t) = text "none") : ∃ e, floatOfText u t = .error e := by
  suffices hnone : unsignedFloat (takeSign (numberText u t)).2 = none by
    simp only [floatOfText, hnone]
    exact ⟨_, rfl⟩
  -- what `float` skips are spaces, and not all of them
  cases hskip : t.dropWhile isNumberSpace with
  | nil =>
    have hempty : numberText u t = [] := by
      rw [numberText, hskip]
      rfl
    rw [hempty]
    decide
  | cons c rest =>
    have hnumber : ¬isNumberSpace c = true := by
      have hhead := List.head?_dropWhile_not isNumberSpace t
      rw [hskip] at hhead
      simpa using hhead
    by_cases hspace : isSpace c = true
    · -- a separator of ASCII, which `float` does not skip
      have hseparator : 28 ≤ c.val ∧ c.val ≤ 31 := by
        rw [isNumberSpace] at hnumber
        split_ifs at hnumber with hascii
        · simp only [Bool.or_eq_true, Bool.and_eq_true, decide_eq_true_eq, beq_iff_eq] at hnumber
          simp only [isSpace, Bool.or_eq_true, Bool.and_eq_true, decide_eq_true_eq,
            beq_iff_eq] at hspace
          omega
        · exact absurd hspace hnumber
      obtain ⟨rest', hrest'⟩ := @numberText_of_dropWhile u _ [] _ _ hskip
        (Bool.eq_false_iff.mpr hnumber) (by simp; omega)
      have hsign : takeSign (c :: rest') = (false, c :: rest') := by
        rw [takeSign, if_neg (by omega), if_neg (by omega)]
      have hlower : (lower (c :: rest')).head? = some c := by
        exact congrArg some (dif_neg (by omega))
      rw [hrest', List.nil_append, hsign]
      apply unsignedFloat_eq_none
      · simp only [isDigit, Bool.and_eq_false_iff, decide_eq_false_iff_not]
        omega
      · intro word hword heq
        rw [heq] at hlower
        simp only [List.mem_cons, List.not_mem_nil, or_false] at hword
        obtain rfl | rfl | rfl := hword <;>
        · obtain rfl := Option.some.inj hlower
          exact absurd hseparator.2 (by decide)
    · have hstripped : t.dropWhile isSpace = c :: rest := by
        have hskipped : (t.takeWhile isNumberSpace).dropWhile isSpace = [] := by
          rw [List.dropWhile_eq_nil_iff]
          intro d hd
          exact isSpace_of_isNumberSpace (List.mem_takeWhile_imp hd)
        rw [← List.takeWhile_append_dropWhile (p := isNumberSpace) (l := t), hskip,
          List.dropWhile_append, hskipped, List.isEmpty_nil, if_pos rfl,
          List.dropWhile_cons_of_neg hspace]
      obtain hempty | hnone := h
      · obtain ⟨rest', hrest'⟩ := strip_cons (Bool.eq_false_iff.mpr hspace) rest
        have hsame : strip t = strip (c :: rest) := by
          rw [strip, strip, hstripped, List.dropWhile_cons_of_neg hspace]
        rw [hempty, hrest'] at hsame
        cases hsame
      · obtain ⟨tail, htail⟩ : ∃ tail, c :: rest = strip t ++ tail := by
          obtain ⟨dropped, hsplit, -⟩ := rdropWhile_append (p := isSpace) (t.dropWhile isSpace)
          rw [← strip, hstripped] at hsplit
          exact ⟨dropped, hsplit⟩
        obtain ⟨n, word, hword, hn, hword'⟩ := List.map_eq_cons_iff.mp hnone
        obtain ⟨o, word', rfl, ho, -⟩ := List.map_eq_cons_iff.mp hword'
        rw [hword] at htail
        cases htail
        have hnval : c.val + 32 = 0x6E ∨ c.val = 0x6E := val_of_lower hn
        have hoval : o.val + 32 = 0x6F ∨ o.val = 0x6F := val_of_lower ho
        have hosolid : isNumberSpace o = false := by
          rw [isNumberSpace, if_pos (by omega)]
          simp only [Bool.or_eq_false_iff, Bool.and_eq_false_iff, decide_eq_false_iff_not,
            beq_eq_false_iff_ne]
          omega
        have hascii : ∀ d ∈ [c] ++ [o], d.val < 0x80 := by
          intro d hd
          simp only [List.singleton_append, List.mem_cons, List.not_mem_nil, or_false] at hd
          obtain rfl | rfl := hd <;> omega
        obtain ⟨rest', hrest'⟩ := numberText_of_dropWhile u hskip hosolid hascii
        have hsign : takeSign (c :: o :: rest') = (false, c :: o :: rest') := by
          rw [takeSign, if_neg (by omega), if_neg (by omega)]
        rw [hrest', List.singleton_append, hsign]
        apply unsignedFloat_eq_none
        · simp only [isDigit, Bool.and_eq_false_iff, decide_eq_false_iff_not]
          omega
        · intro word hword heq
          have hfirst : some (codePoint 0x6E) = word.head? :=
            (congrArg some hn).symm.trans (congrArg List.head? heq)
          have hsecond : some (codePoint 0x6F) = word.tail.head? :=
            (congrArg some ho).symm.trans (congrArg (fun l => l.tail.head?) heq)
          simp only [List.mem_cons, List.not_mem_nil, or_false] at hword
          obtain rfl | rfl | rfl := hword
          · exact absurd hfirst (by decide)
          · exact absurd hfirst (by decide)
          · exact absurd hsecond (by decide)

end Python
