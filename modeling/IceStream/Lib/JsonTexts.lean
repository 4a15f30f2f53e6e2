import IceStream.Lib.JsonNumbers

/-!
# Texts in JSON text

What `dumps` writes for a text is read back as it, unless a high surrogate stands
directly before a low one: the reader joins the two.
-/

namespace Python

def IsHigh (c : CodePoint) : Prop := 0xD800 ≤ c.val ∧ c.val ≤ 0xDBFF

def IsLow (c : CodePoint) : Prop := 0xDC00 ≤ c.val ∧ c.val ≤ 0xDFFF

/-- No surrogate pair is spelled out as its two halves. -/
def Joined (t : Text) : Prop := t.IsChain fun c d => ¬(IsHigh c ∧ IsLow d)

instance : DecidablePred Joined := fun t =>
  inferInstanceAs (Decidable (t.IsChain fun c d =>
    ¬((0xD800 ≤ c.val ∧ c.val ≤ 0xDBFF) ∧ (0xDC00 ≤ d.val ∧ d.val ≤ 0xDFFF))))

theorem joined_of_encodable {t : Text} (h : Encodable t) : Joined t := by
  induction t with
  | nil => exact .nil
  | cons c t ih =>
    have ht : Joined t := ih fun d hd => h d (List.mem_cons_of_mem c hd)
    cases t with
    | nil => exact .singleton c
    | cons d t =>
      refine .cons_cons ?_ ht
      rintro ⟨hhigh, -⟩
      exact h c List.mem_cons_self ⟨hhigh.1, hhigh.2.trans (by norm_num)⟩

/-! ## Escapes -/

def escapeText (c : CodePoint) : Text := text (escapeCodePoint c)

theorem text_quoteText (t : Text) :
    text (quoteText t) = ⟨0x22, by decide⟩ :: (t.flatMap escapeText ++ [⟨0x22, by decide⟩]) := by
  have hjoin : text (String.join (t.map escapeCodePoint)) = t.flatMap escapeText := by
    induction t with
    | nil => rfl
    | cons c t ih =>
      have hcons : String.join ((c :: t).map escapeCodePoint) =
          escapeCodePoint c ++ String.join (t.map escapeCodePoint) := by
        apply String.toList_inj.mp
        simp [String.toList_join]
      rw [hcons, text_append, ih]
      rfl
  rw [quoteText, text_append, text_append, hjoin]
  rfl

theorem codePoint_val (c : CodePoint) : codePoint c.val = c := Fin.ofNat_val_eq_self c

theorem hexVal_hexDigit (n : Fin 16) :
    hexVal ⟨(hexDigit n).toNat, char_lt _⟩ = some n.val := by
  revert n
  decide

/-- The four digits of a number are read back as it. -/
theorem text_hex4 {n : ℕ} (hn : n < 0x10000) :
    ∃ a b c d, text (hex4 n) = [a, b, c, d] ∧ hex4Val a b c d = some n := by
  refine ⟨_, _, _, _, text_ofList _, ?_⟩
  have hdigit (k : ℕ) : hexVal ⟨(hexDigit (k % 16)).toNat, char_lt _⟩ = some (k % 16) :=
    hexVal_hexDigit ⟨k % 16, Nat.mod_lt k (by norm_num)⟩
  rw [hex4Val, hdigit, hdigit, hdigit, hdigit]
  simp only [Option.bind_eq_bind, Option.bind_some, Option.pure_def, Option.some.injEq]
  omega

/-! ## Scanning -/

section

variable {start pos : ℕ} {acc rest : Text}

/-- The text ends at the quote. -/
theorem scanString_quote (q : CodePoint) (hq : q.val = 0x22) :
    scanString start pos acc (q :: rest) = .ok (acc.reverse, pos + 1) := by
  rw [scanString.eq_def]
  simp only
  rw [if_pos hq]

theorem scanString_plain {c : CodePoint} (hquote : c.val ≠ 0x22) (hslash : c.val ≠ 0x5C)
    (hcontrol : 0x1F < c.val) :
    scanString start pos acc (c :: rest) = scanString start (pos + 1) (c :: acc) rest := by
  rw [scanString.eq_def]
  simp only
  rw [if_neg hquote, if_neg (Nat.not_le.mpr hcontrol), if_pos hslash]

theorem scanString_escape {b e : CodePoint} {n : ℕ} (hb : b.val = 0x5C) (he : e.val ≠ 0x75)
    (hn : escaped e = some n) :
    scanString start pos acc (b :: e :: rest) =
      scanString start (pos + 2) (codePoint n :: acc) rest := by
  rw [scanString.eq_def]
  simp only
  rw [if_neg (by omega), if_neg (by omega), if_neg (by omega)]
  simp only [if_pos he, hn]

/-- A surrogate pair written as two escapes is one code point. -/
theorem scanString_pair {b u b' u' h₁ h₂ h₃ h₄ k₁ k₂ k₃ k₄ next : CodePoint} {x y : ℕ}
    (hb : b.val = 0x5C) (hu : u.val = 0x75) (hx : hex4Val h₁ h₂ h₃ h₄ = some x)
    (hhigh : 0xD800 ≤ x ∧ x ≤ 0xDBFF) (hb' : b'.val = 0x5C) (hu' : u'.val = 0x75)
    (hy : hex4Val k₁ k₂ k₃ k₄ = some y) (hlow : 0xDC00 ≤ y ∧ y ≤ 0xDFFF) :
    scanString start pos acc
        (b :: u :: h₁ :: h₂ :: h₃ :: h₄ :: b' :: u' :: k₁ :: k₂ :: k₃ :: k₄ :: next :: rest) =
      scanString start (pos + 12)
        (codePoint (0x10000 + (x - 0xD800) * 0x400 + (y - 0xDC00)) :: acc) (next :: rest) := by
  rw [scanString.eq_def]
  simp only
  rw [if_neg (by omega), if_neg (by omega), if_neg (by omega), if_neg (by omega)]
  simp only [hx]
  rw [if_neg (by omega), if_neg (by omega)]
  simp only [hy]
  rw [if_neg (by omega)]

/-- What does not make a pair with the escape before it. -/
def Unpaired (rest : Text) : Prop :=
  ∀ b u k₁ k₂ k₃ k₄ tail, rest = b :: u :: k₁ :: k₂ :: k₃ :: k₄ :: tail → b.val = 0x5C →
    u.val = 0x75 → ∃ y, hex4Val k₁ k₂ k₃ k₄ = some y ∧ (y < 0xDC00 ∨ 0xDFFF < y)

theorem scanString_single {b u h₁ h₂ h₃ h₄ next : CodePoint} {x : ℕ}
    (hb : b.val = 0x5C) (hu : u.val = 0x75) (hx : hex4Val h₁ h₂ h₃ h₄ = some x)
    (halone : x < 0xD800 ∨ 0xDBFF < x ∨ Unpaired (next :: rest)) :
    scanString start pos acc (b :: u :: h₁ :: h₂ :: h₃ :: h₄ :: next :: rest) =
      scanString start (pos + 6) (codePoint x :: acc) (next :: rest) := by
  rw [scanString.eq_def]
  simp only
  rw [if_neg (by omega), if_neg (by omega), if_neg (by omega), if_neg (by omega)]
  simp only [hx]
  by_cases hsingle : x < 0xD800 ∨ 0xDBFF < x ∨ next.val ≠ 0x5C
  · rw [if_pos hsingle]
  · rw [if_neg hsingle]
    have hnext : next.val = 0x5C := by omega
    have hrest : Unpaired (next :: rest) := by
      obtain h | h | h := halone
      · omega
      · omega
      · exact h
    split
    · rename_i v k₁ k₂ k₃ k₄ next' tail
      by_cases hv : v.val ≠ 0x75
      · rw [if_pos hv]
      · obtain ⟨y, hy, hother⟩ := hrest _ _ _ _ _ _ _ rfl hnext (not_not.mp hv)
        rw [if_neg hv]
        simp only [hy]
        rw [if_pos hother]
    · rfl

end

/-! ## Round trip -/

/-- The forms an escaped code point takes. -/
inductive Escapes (c : CodePoint) : Text → Prop
  | plain (hquote : c.val ≠ 0x22) (hslash : c.val ≠ 0x5C) (hcontrol : 0x1F < c.val) : Escapes c [c]
  | letter {b e : CodePoint} (hb : b.val = 0x5C) (he : e.val ≠ 0x75)
      (hn : escaped e = some c.val) : Escapes c [b, e]
  | single {b u h₁ h₂ h₃ h₄ : CodePoint} (hb : b.val = 0x5C) (hu : u.val = 0x75)
      (hx : hex4Val h₁ h₂ h₃ h₄ = some c.val) : Escapes c [b, u, h₁, h₂, h₃, h₄]
  | pair {b u h₁ h₂ h₃ h₄ b' u' k₁ k₂ k₃ k₄ : CodePoint} {x y : ℕ} (hb : b.val = 0x5C)
      (hu : u.val = 0x75) (hx : hex4Val h₁ h₂ h₃ h₄ = some x) (hhigh : 0xD800 ≤ x ∧ x ≤ 0xDBFF)
      (hb' : b'.val = 0x5C) (hu' : u'.val = 0x75) (hy : hex4Val k₁ k₂ k₃ k₄ = some y)
      (hlow : 0xDC00 ≤ y ∧ y ≤ 0xDFFF)
      (hc : 0x10000 + (x - 0xD800) * 0x400 + (y - 0xDC00) = c.val) :
      Escapes c [b, u, h₁, h₂, h₃, h₄, b', u', k₁, k₂, k₃, k₄]

theorem escapes_escapeText (c : CodePoint) : Escapes c (escapeText c) := by
  have hlt := c.isLt
  have hletter (e : CodePoint) (he : e.val ≠ 0x75) (hn : escaped e = some c.val) :
      Escapes c [⟨0x5C, by decide⟩, e] := .letter rfl he hn
  rw [escapeText, escapeCodePoint]
  split
  · rename_i h
    exact hletter ⟨0x22, by decide⟩ (by decide) (by rw [h]; rfl)
  split
  · rename_i h
    exact hletter ⟨0x5C, by decide⟩ (by decide) (by rw [h]; rfl)
  split
  · rename_i h
    exact hletter ⟨0x6E, by decide⟩ (by decide) (by rw [h]; rfl)
  split
  · rename_i h
    exact hletter ⟨0x72, by decide⟩ (by decide) (by rw [h]; rfl)
  split
  · rename_i h
    exact hletter ⟨0x74, by decide⟩ (by decide) (by rw [h]; rfl)
  split
  · rename_i h
    exact hletter ⟨0x62, by decide⟩ (by decide) (by rw [h]; rfl)
  split
  · rename_i h
    exact hletter ⟨0x66, by decide⟩ (by decide) (by rw [h]; rfl)
  rename_i hquote hslash _ _ _ _ _
  split
  · rename_i h
    have hplain : text (String.singleton (Char.ofNat c.val)) = [c] := by
      have hvalid : c.val.isValidChar := .inl (by omega)
      have hval : (Char.ofNat c.val).toNat = c.val := by
        rw [Char.ofNat, dif_pos hvalid]
        rfl
      rw [text, String.toList_singleton, List.map_singleton]
      congr 1
      exact Fin.ext hval
    rw [hplain]
    exact .plain hquote hslash (by omega)
  split
  · rename_i hsmall
    obtain ⟨h₁, h₂, h₃, h₄, htext, hx⟩ := text_hex4 hsmall
    rw [text_append, htext]
    exact .single rfl rfl hx
  · rename_i hlarge
    dsimp only
    obtain ⟨h₁, h₂, h₃, h₄, htext, hx⟩ :=
      text_hex4 (n := 0xD800 + (c.val - 0x10000) / 1024) (by omega)
    obtain ⟨k₁, k₂, k₃, k₄, htext', hy⟩ :=
      text_hex4 (n := 0xDC00 + (c.val - 0x10000) % 1024) (by omega)
    rw [text_append, text_append, text_append, htext, htext']
    exact .pair rfl rfl hx (by omega) rfl rfl hy (by omega) (by omega)

/-- Only a low surrogate makes a pair with what stands before it. -/
theorem unpaired_escapes {c : CodePoint} {t rest : Text} (h : Escapes c t) (hc : ¬IsLow c) :
    Unpaired (t ++ rest) := by
  intro b u k₁ k₂ k₃ k₄ tail hrest hb hu
  rw [IsLow] at hc
  cases h with
  | plain hquote hslash hcontrol =>
    obtain ⟨rfl, -⟩ := List.cons.inj hrest
    exact absurd hb hslash
  | letter hb' he hn =>
    obtain ⟨-, hrest⟩ := List.cons.inj hrest
    obtain ⟨rfl, -⟩ := List.cons.inj hrest
    exact absurd hu he
  | single hb' hu' hx =>
    cases hrest
    exact ⟨c.val, hx, by omega⟩
  | pair hb' hu' hx hhigh hb'' hu'' hy hlow hvalue =>
    cases hrest
    exact ⟨_, hx, by omega⟩

/-- What a joined text is written as is scanned back to it. -/
theorem scanString_escaped {t : Text} (ht : Joined t) (start pos : ℕ) (acc rest : Text)
    {q : CodePoint} (hq : q.val = 0x22) :
    scanString start pos acc (t.flatMap escapeText ++ q :: rest) =
      .ok (acc.reverse ++ t, pos + (t.flatMap escapeText).length + 1) := by
  induction t generalizing pos acc with
  | nil =>
    rw [List.flatMap_nil, List.nil_append, scanString_quote q hq, List.append_nil]
    rfl
  | cons c t ih =>
    have htail : Joined t := List.IsChain.tail ht
    -- a high surrogate is not followed by a low one
    have hunpaired : IsHigh c → Unpaired (t.flatMap escapeText ++ q :: rest) := by
      intro hhigh
      cases t with
      | nil =>
        intro b u k₁ k₂ k₃ k₄ tail hrest hb _
        obtain ⟨rfl, -⟩ := List.cons.inj hrest
        omega
      | cons d t =>
        have hlow : ¬IsLow d := fun hlow => (List.isChain_cons_cons.mp ht).1 ⟨hhigh, hlow⟩
        rw [List.flatMap_cons, List.append_assoc]
        exact unpaired_escapes (escapes_escapeText d) hlow
    obtain ⟨next, tail, hnext⟩ := List.exists_cons_of_ne_nil
      (List.append_ne_nil_of_right_ne_nil (t.flatMap escapeText) (List.cons_ne_nil q rest))
    have hassoc : (c :: t).flatMap escapeText ++ q :: rest =
        escapeText c ++ (t.flatMap escapeText ++ q :: rest) := by
      rw [List.flatMap_cons, List.append_assoc]
    have hlength : ((c :: t).flatMap escapeText).length =
        (escapeText c).length + (t.flatMap escapeText).length := by
      rw [List.flatMap_cons, List.length_append]
    have hacc : (c :: acc).reverse ++ t = acc.reverse ++ c :: t := by simp
    rw [hassoc, hlength, ← hacc]
    have hescapes := escapes_escapeText c
    generalize escapeText c = e at hescapes
    cases hescapes with
    | plain hquote hslash hcontrol =>
      rw [List.singleton_append, scanString_plain hquote hslash hcontrol, ih htail]
      simp only [List.length_singleton]
      congr 2
      omega
    | letter hb he hn =>
      rw [List.cons_append, List.singleton_append, scanString_escape hb he hn, ih htail,
        codePoint_val]
      simp only [List.length_cons, List.length_nil]
      congr 2
      omega
    | single hb hu hx =>
      have halone : c.val < 0xD800 ∨ 0xDBFF < c.val ∨ Unpaired (next :: tail) := by
        by_cases hhigh : IsHigh c
        · exact .inr (.inr (hnext ▸ hunpaired hhigh))
        · rw [IsHigh] at hhigh
          omega
      rw [hnext]
      simp only [List.cons_append, List.nil_append]
      rw [scanString_single hb hu hx halone, ← hnext, ih htail, codePoint_val]
      simp only [List.length_cons, List.length_nil]
      congr 2
      omega
    | pair hb hu hx hhigh hb' hu' hy hlow hvalue =>
      rw [hnext]
      simp only [List.cons_append, List.nil_append]
      rw [scanString_pair hb hu hx hhigh hb' hu' hy hlow, ← hnext, hvalue, ih htail, codePoint_val]
      simp only [List.length_cons, List.length_nil, Nat.zero_add, Nat.reduceAdd, Nat.add_assoc]

/-- A quoted text is scanned as that text. -/
theorem scanToken_quoteText {t : Text} (ht : Joined t) :
    ∃ cs, text (quoteText t) = ⟨0x22, by decide⟩ :: cs ∧ ∀ rest pos,
      scanToken pos ⟨0x22, by decide⟩ (cs ++ rest) = (.str t, (text (quoteText t)).length) := by
  refine ⟨_, text_quoteText t, ?_⟩
  intro rest pos
  have hscan := scanString_escaped ht pos (pos + 1) [] rest (q := ⟨0x22, by decide⟩) rfl
  rw [List.append_assoc, List.singleton_append]
  have htoken {tail t' : Text} {stop : ℕ}
      (h : scanString pos (pos + 1) [] tail = .ok (t', stop)) :
      scanToken pos ⟨0x22, by decide⟩ tail = (.str t', stop - pos) := by
    simp only [scanToken, h]
  have hlength : pos + 1 + (t.flatMap escapeText).length + 1 - pos =
      (t.flatMap escapeText).length + 1 + 1 := by omega
  have htotal : (text (quoteText t)).length = pos + 1 + (t.flatMap escapeText).length + 1 - pos := by
    rw [hlength, text_quoteText, List.length_cons, List.length_append, List.length_singleton]
  rw [htoken hscan, htotal]
  rfl

end Python
