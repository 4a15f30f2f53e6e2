import IceStream.Lib.JsonRoundTrip

/-!
# What `loads` yields

A text without surrogates holds a value that can be written and read again: its
texts are joined, and the scanner, the table of keys and the depth of the stack
answer for the rest.
-/

namespace Python

/-! ## Texts -/

/-- A low surrogate is not escaped at the start of the text. -/
def NoLowEscape (rest : Text) : Prop :=
  ∀ b u k₁ k₂ k₃ k₄ next tail y, rest = b :: u :: k₁ :: k₂ :: k₃ :: k₄ :: next :: tail →
    b.val = 0x5C → u.val = 0x75 → hex4Val k₁ k₂ k₃ k₄ = some y → ¬(0xDC00 ≤ y ∧ y ≤ 0xDFFF)

theorem noLowEscape_cons {c : CodePoint} {rest : Text} (hc : c.val ≠ 0x5C) :
    NoLowEscape (c :: rest) := by
  intro b u k₁ k₂ k₃ k₄ next tail y h hb
  cases h
  exact absurd hb hc

/-- What the scanner has read, the last code point first, and what it has yet to read. -/
structure Split (acc rest : Text) : Prop where
  joined : Joined acc.reverse
  open_ : ∀ c ∈ acc.head?, IsHigh c → NoLowEscape rest
  encodable : Encodable rest

theorem joined_reverse_cons {acc : Text} (hacc : Joined acc.reverse) {c : CodePoint}
    (hc : ∀ d ∈ acc.head?, IsHigh d → ¬IsLow c) : Joined (c :: acc).reverse := by
  rw [List.reverse_cons, Joined, List.isChain_append]
  refine ⟨hacc, .singleton c, ?_⟩
  intro d hd e he hboth
  rw [List.getLast?_reverse] at hd
  obtain rfl : c = e := Option.some.inj he
  exact hc d hd hboth.1 hboth.2

theorem Split.push {acc rest rest' : Text} {c : CodePoint} (h : Split acc rest)
    (hlow : ∀ d ∈ acc.head?, IsHigh d → ¬IsLow c) (hhigh : IsHigh c → NoLowEscape rest')
    (hrest : ∀ d ∈ rest', d ∈ rest) : Split (c :: acc) rest' where
  joined := joined_reverse_cons h.joined hlow
  open_ := by
    intro d hd
    obtain rfl : c = d := Option.some.inj hd
    exact hhigh
  encodable := fun d hd => h.encodable d (hrest d hd)

/-- A code point that is no surrogate can stand anywhere. -/
theorem Split.push_scalar {acc rest rest' : Text} {c : CodePoint} (h : Split acc rest)
    (hc : ¬IsSurrogate c) (hrest : ∀ d ∈ rest', d ∈ rest) : Split (c :: acc) rest' := by
  apply h.push _ _ hrest
  · intro _ _ _ hlow
    exact hc ⟨by have := hlow.1; omega, hlow.2⟩
  · intro hhigh
    exact absurd ⟨hhigh.1, by have := hhigh.2; omega⟩ hc

theorem escaped_lt {e : CodePoint} {n : ℕ} (h : escaped e = some n) : n < 0x80 := by
  unfold escaped at h
  split at h <;> cases h <;> norm_num

theorem codePoint_of_lt {n : ℕ} (h : n < 0x110000) : (codePoint n).val = n := Nat.mod_eq_of_lt h

theorem not_isSurrogate_codePoint {n : ℕ} (h : n < 0x110000) (hn : n < 0xD800 ∨ 0xDFFF < n) :
    ¬IsSurrogate (codePoint n) := by
  rw [IsSurrogate, codePoint_of_lt h]
  omega

theorem hexVal_lt {c : CodePoint} {n : ℕ} (h : hexVal c = some n) : n < 16 := by
  unfold hexVal at h
  split_ifs at h <;> cases h <;> omega

theorem hex4Val_lt {a b c d : CodePoint} {n : ℕ} (h : hex4Val a b c d = some n) : n < 0x10000 := by
  simp only [hex4Val, Option.bind_eq_bind, Option.bind_eq_some_iff, Option.pure_def,
    Option.some.injEq] at h
  obtain ⟨w, hw, x, hx, y, hy, z, hz, rfl⟩ := h
  have := hexVal_lt hw
  have := hexVal_lt hx
  have := hexVal_lt hy
  have := hexVal_lt hz
  omega

/-- An escape of four digits, read by itself. -/
theorem Split.push_escape {acc tail : Text} {b u h₁ h₂ h₃ h₄ next : CodePoint} {w : ℕ}
    (h : Split acc (b :: u :: h₁ :: h₂ :: h₃ :: h₄ :: next :: tail)) (hb : ¬b.val ≠ 0x5C)
    (hu : ¬u.val ≠ 0x75) (hw : hex4Val h₁ h₂ h₃ h₄ = some w)
    (hhigh : 0xD800 ≤ w → w ≤ 0xDBFF → NoLowEscape (next :: tail)) :
    Split (codePoint w :: acc) (next :: tail) := by
  have hlt := hex4Val_lt hw
  have hval := codePoint_of_lt (n := w) (by omega)
  apply h.push
  · intro d hd hdhigh hlow
    rw [IsLow, hval] at hlow
    exact h.open_ d hd hdhigh b u h₁ h₂ h₃ h₄ next tail w rfl (not_not.mp hb) (not_not.mp hu) hw hlow
  · intro hwhigh
    rw [IsHigh, hval] at hwhigh
    exact hhigh hwhigh.1 hwhigh.2
  · exact fun d hd => List.mem_append_right [b, u, h₁, h₂, h₃, h₄] hd

theorem joined_scanString {start pos stop : ℕ} {acc rest t : Text} (h : Split acc rest)
    (hscan : scanString start pos acc rest = .ok (t, stop)) : Joined t := by
  fun_induction scanString start pos acc rest with
  | case1 | case3 | case5 | case7 | case8 | case11 | case15 => cases hscan
  | case2 pos acc c rest =>
    cases hscan
    exact h.joined
  | case4 pos acc c rest _ _ _ ih =>
    exact ih (h.push_scalar (h.encodable c List.mem_cons_self) fun d hd =>
      List.mem_cons_of_mem c hd) hscan
  | case6 pos acc c _ _ _ e rest _ n hn ih =>
    have hlt := escaped_lt hn
    refine ih (h.push_scalar (not_isSurrogate_codePoint (by omega) (by omega)) ?_) hscan
    intro d hd
    exact List.mem_cons_of_mem c (List.mem_cons_of_mem e hd)
  | case9 pos acc c _ _ hc e he h₁ h₂ h₃ h₄ next rest w hw single hsingle ih =>
    refine ih (h.push_escape hc he hw fun hlow hhigh => ?_) hscan
    exact noLowEscape_cons (by omega)
  -- a high surrogate before a backslash stays alone: what follows escapes no low one
  | case10 pos acc c _ _ hc e he h₁ h₂ h₃ h₄ next w hw _ v k₁ k₂ k₃ k₄ next' rest hv single ih =>
    refine ih (h.push_escape hc he hw fun _ _ => ?_) hscan
    intro b u _ _ _ _ _ _ y heq _ hu
    cases heq
    exact absurd hu hv
  | case12 pos acc c _ _ hc e he h₁ h₂ h₃ h₄ next w hw _ v k₁ k₂ k₃ k₄ next' rest _ x hx hrange
      single ih =>
    refine ih (h.push_escape hc he hw fun _ _ => ?_) hscan
    intro b u _ _ _ _ _ _ y heq _ _ hy
    cases heq
    obtain rfl : x = y := Option.some.inj (hx.symm.trans hy)
    omega
  | case13 pos acc c _ _ hc e he h₁ h₂ h₃ h₄ next w hw hpair v k₁ k₂ k₃ k₄ next' rest _ x hx hrange
      _ ih =>
    refine ih (h.push_scalar (not_isSurrogate_codePoint (by omega) (by omega)) ?_) hscan
    intro d hd
    exact List.mem_append_right [c, e, h₁, h₂, h₃, h₄, next, v, k₁, k₂, k₃, k₄] hd
  | case14 pos acc c _ _ hc e he h₁ h₂ h₃ h₄ next rest w hw single _ hshort ih =>
    refine ih (h.push_escape hc he hw fun _ _ => ?_) hscan
    intro b u k₁ k₂ k₃ k₄ next' tail y heq
    cases heq
    exact absurd rfl (hshort u k₁ k₂ k₃ k₄ next' tail)

/-! ## Numbers -/

theorem length_digits_le {n k : ℕ} (hk : 0 < k) (hn : n < 10 ^ k) : (digits n).length ≤ k := by
  rw [length_digits]
  exact (Nat.length_repr_le_iff hk).mpr hn

theorem isDigits_whole (cs : Text) : IsDigits (wholeOf cs) := by
  unfold wholeOf
  split_ifs with hzero
  · cases cs with
    | nil => exact isDigits_nil
    | cons c cs =>
      intro d hd
      obtain rfl : d = c := List.mem_singleton.mp hd
      simp only [List.head?_cons, Option.any_some, beq_iff_eq] at hzero
      rw [isDigit, hzero]
      rfl
  · intro d hd
    exact List.mem_takeWhile_imp hd

/-- An integer that is not refused is short enough to be written. -/
theorem readable_scanNumber {cs : Text} {v : Json} {n : ℕ} (h : scanNumber cs = some (.ok v, n))
    (depth : ℕ) : Readable depth v := by
  unfold scanNumber at h
  extract_lets neg body whole rest frac behind signed sign expo length i e₀ e x at h
  have hwhole : IsDigits whole := isDigits_whole body
  by_cases hempty : whole.isEmpty = true
  · rw [if_pos hempty] at h
    cases h
  rw [if_neg hempty] at h
  by_cases hint : (frac.isEmpty && expo.isEmpty) = true
  · rw [if_pos hint] at h
    by_cases hlong : maxStrDigits < whole.length
    · rw [if_pos hlong] at h
      obtain ⟨hrefused, -⟩ := Prod.mk.inj (Option.some.inj h)
      cases hrefused
    · rw [if_neg hlong] at h
      obtain ⟨hvalue, -⟩ := Prod.mk.inj (Option.some.inj h)
      obtain rfl : Json.int _ = v := Except.ok.inj hvalue
      have hne : whole ≠ [] := fun hnil => hempty (List.isEmpty_iff.mpr hnil)
      have hi : (if neg then -i else i).natAbs = digitsVal whole := by
        split_ifs
        · exact Int.natAbs_neg _
        · rfl
      refine .int depth ?_
      rw [hi]
      exact (length_digits_le (List.length_pos_iff.mpr hne) (digitsVal_lt hwhole)).trans
        (Nat.not_lt.mp hlong)
  · rw [if_neg hint] at h
    obtain ⟨hvalue, -⟩ := Prod.mk.inj (Option.some.inj h)
    obtain rfl : Json.float _ = v := Except.ok.inj hvalue
    exact .float depth _

/-! ## Tokens -/

/-- What the token holds can be written. -/
def Token.Readable : Token → Prop
  | .str t => Joined t
  | .atom v => ∀ depth, Python.Readable depth v
  | _ => True

theorem readable_words {w : Text × Json} (h : w ∈ words) (depth : ℕ) : Readable depth w.2 := by
  simp only [words, List.mem_cons, List.not_mem_nil, or_false] at h
  obtain rfl | rfl | rfl | rfl | rfl | rfl := h
  · exact .null depth
  · exact .bool depth true
  · exact .bool depth false
  all_goals exact .float depth _

theorem readable_scanToken {pos : ℕ} {c : CodePoint} {rest : Text} (hrest : Encodable rest) :
    (scanToken pos c rest).1.Readable := by
  unfold scanToken
  split
  case h_7 =>
    split
    · rename_i t stop hscan
      have hstart : Split [] rest := ⟨.nil, fun _ hc => absurd hc (Option.not_mem_none _), hrest⟩
      exact joined_scanString hstart hscan
    · trivial
  case h_8 =>
    split
    · rename_i word v hfind
      exact readable_words (List.mem_of_find?_eq_some hfind)
    · split
      · rename_i v length hscan
        exact readable_scanNumber hscan
      · trivial
      · trivial
  all_goals trivial

theorem readable_scan {skip pos : ℕ} {doc : Text} (hdoc : Encodable doc) :
    ∀ p ∈ scan skip pos doc, p.2.Readable := by
  induction doc generalizing skip pos with
  | nil =>
    intro p hp
    obtain rfl : p = _ := List.mem_singleton.mp hp
    trivial
  | cons c rest ih =>
    have hrest : Encodable rest := fun d hd => hdoc d (List.mem_cons_of_mem c hd)
    rw [scan.eq_def]
    cases skip with
    | succ skip => exact ih hrest
    | zero =>
      simp only
      split_ifs with hspace
      · exact ih hrest
      · intro p hp
        obtain rfl | hp := List.mem_cons.mp hp
        · exact readable_scanToken hrest
        · exact ih hrest p hp

/-! ## Values -/

/-- Members of an object that can be written. -/
structure Members (depth : ℕ) (members : Dict) : Prop where
  keys : (members.map Prod.fst).Nodup
  joined : ∀ p ∈ members, Joined p.1
  values : ∀ p ∈ members, Readable depth p.2

def Frame.Readable (depth : ℕ) : Frame → Prop
  | .arr items => ∀ x ∈ items, Python.Readable depth x
  | .obj members k => Members depth members ∧ Joined k

/-- Every frame of the stack leaves room for what it holds. -/
def Stacked (limit : ℕ) : List Frame → Prop
  | [] => True
  | frame :: stack =>
    stack.length < limit ∧ frame.Readable (limit - stack.length - 1) ∧ Stacked limit stack

/-- What is known about the next token, with `height` frames on the stack. -/
def Expect.Readable (limit height : ℕ) : Expect → Prop
  | .value => True
  | .item => True
  | .key members _ => height < limit ∧ Members (limit - height - 1) members
  | .colon members k => height < limit ∧ Members (limit - height - 1) members ∧ Joined k
  | .next v => Python.Readable (limit - height) v

theorem Dict.keys_set (d : Dict) (k : Text) (v : Json) :
    (d.set k v).map Prod.fst = if k ∈ d.map Prod.fst then d.map Prod.fst
      else d.map Prod.fst ++ [k] := by
  induction d with
  | nil => rfl
  | cons p d ih =>
    by_cases hk : p.1 = k
    · rw [Dict.set, if_pos hk]
      simp [hk]
    · rw [Dict.set, if_neg hk, List.map_cons, ih]
      simp only [List.map_cons, List.mem_cons, Ne.symm hk, false_or]
      split_ifs <;> rfl

theorem Dict.mem_set {d : Dict} {k : Text} {v : Json} {p : Text × Json} (h : p ∈ d.set k v) :
    p ∈ d ∨ p = (k, v) := by
  induction d with
  | nil => exact .inr (List.mem_singleton.mp h)
  | cons q d ih =>
    by_cases hk : q.1 = k
    · rw [Dict.set, if_pos hk, List.mem_cons, hk] at h
      exact h.elim .inr fun h => .inl (List.mem_cons_of_mem q h)
    · rw [Dict.set, if_neg hk, List.mem_cons] at h
      obtain rfl | h := h
      · exact .inl List.mem_cons_self
      · exact (ih h).imp_left (List.mem_cons_of_mem q)

theorem Members.set {depth : ℕ} {members : Dict} (h : Members depth members) {k : Text} {v : Json}
    (hk : Joined k) (hv : Readable depth v) : Members depth (members.set k v) where
  keys := by
    rw [Dict.keys_set]
    split_ifs with hmem
    · exact h.keys
    · rw [List.nodup_append]
      refine ⟨h.keys, List.nodup_singleton k, ?_⟩
      intro k' hk' k'' hk'' heq
      exact hmem (heq.trans (List.mem_singleton.mp hk'') ▸ hk')
  joined := by
    intro p hp
    obtain hp | rfl := Dict.mem_set hp
    · exact h.joined p hp
    · exact hk
  values := by
    intro p hp
    obtain hp | rfl := Dict.mem_set hp
    · exact h.values p hp
    · exact hv

theorem members_nil (depth : ℕ) : Members depth [] where
  keys := List.nodup_nil
  joined := fun _ hp => absurd hp List.not_mem_nil
  values := fun _ hp => absurd hp List.not_mem_nil

theorem Members.readable {depth : ℕ} {members : Dict} (h : Members depth members) :
    Readable (depth + 1) (.obj members) := .obj h.keys h.joined h.values

/-! ## Parsing -/

section

variable {limit pos : ℕ} {token : Token} {stack stack' : List Frame} {expect expect' : Expect}

theorem readable_of_lt {height : ℕ} (h : height < limit) {v : Json}
    (hv : Readable (limit - height - 1 + 1) v) : Readable (limit - height) v := by
  have heq : limit - height = limit - height - 1 + 1 := by omega
  rw [heq]
  exact hv

theorem readable_startValue {frames : List Frame} (htoken : token.Readable)
    (hstack : Stacked limit stack)
    (h : startValue limit stack.length pos token = .ok (expect', frames)) :
    Stacked limit (frames ++ stack) ∧ expect'.Readable limit (frames ++ stack).length := by
  cases token with
  | str t =>
    cases h
    exact ⟨hstack, .str _ htoken⟩
  | atom v =>
    cases h
    exact ⟨hstack, htoken _⟩
  | lbrace =>
    rw [startValue] at h
    split_ifs at h with hlimit
    cases h
    exact ⟨hstack, hlimit, members_nil _⟩
  | lbracket =>
    rw [startValue] at h
    split_ifs at h with hlimit
    cases h
    exact ⟨⟨hlimit, fun _ hx => absurd hx List.not_mem_nil, hstack⟩, trivial⟩
  | _ => cases h

theorem readable_next {v : Json} (htoken : token.Readable) (hstack : Stacked limit stack)
    (hv : Readable (limit - stack.length) v)
    (h : consume limit pos token stack (.next v) = .ok (.inr (expect', stack'))) :
    Stacked limit stack' ∧ expect'.Readable limit stack'.length := by
  cases stack with
  | nil => cases token <;> cases h
  | cons frame stack =>
    obtain ⟨hlimit, hframe, hstack⟩ := hstack
    have hv : Readable (limit - stack.length - 1) v := by
      rw [Nat.sub_sub]
      exact hv
    cases frame with
    | arr items =>
      have hitems : ∀ x ∈ v :: items, Readable (limit - stack.length - 1) x :=
        List.forall_mem_cons.mpr ⟨hv, hframe⟩
      cases token with
      | rbracket =>
        cases h
        refine ⟨hstack, readable_of_lt hlimit (.arr fun x hx => hitems x ?_)⟩
        exact List.mem_reverse.mp hx
      | comma =>
        cases h
        exact ⟨⟨hlimit, hitems, hstack⟩, trivial⟩
      | _ => cases h
    | obj members k =>
      have hmembers := hframe.1.set hframe.2 hv
      cases token with
      | rbrace =>
        cases h
        exact ⟨hstack, readable_of_lt hlimit hmembers.readable⟩
      | comma =>
        cases h
        exact ⟨hstack, hlimit, hmembers⟩
      | _ => cases h

/-- One token keeps what is held within its bounds. -/
theorem readable_consume (htoken : token.Readable) (hstack : Stacked limit stack)
    (hexpect : expect.Readable limit stack.length)
    (h : consume limit pos token stack expect = .ok (.inr (expect', stack'))) :
    Stacked limit stack' ∧ expect'.Readable limit stack'.length := by
  have hstart {r : Except JsonError (Expect × List Frame)}
      (hr : r = startValue limit stack.length pos token)
      (h : (r.map fun r => (Sum.inr (r.1, r.2 ++ stack) : Json ⊕ Expect × List Frame)) =
        .ok (.inr (expect', stack'))) :
      Stacked limit stack' ∧ expect'.Readable limit stack'.length := by
    cases r with
    | error e => cases h
    | ok r =>
      cases h
      exact readable_startValue htoken hstack hr.symm
  cases expect with
  | value => exact hstart rfl h
  | item =>
    by_cases hclose : token = .rbracket
    · subst hclose
      cases stack with
      | nil => exact hstart rfl h
      | cons frame stack =>
        cases h
        refine ⟨hstack.2.2, readable_of_lt hstack.1 (.arr ?_)⟩
        exact fun _ hx => absurd hx List.not_mem_nil
    · have hvalue : consume limit pos token stack .item = consume limit pos token stack .value := by
        cases token with
        | rbracket => exact absurd rfl hclose
        | _ => rfl
      rw [hvalue] at h
      exact hstart rfl h
  | key members first =>
    obtain ⟨hlimit, hmembers⟩ := hexpect
    cases token with
    | str k =>
      cases h
      exact ⟨hstack, hlimit, hmembers, htoken⟩
    | rbrace =>
      rw [consume] at h
      split_ifs at h
      cases h
      exact ⟨hstack, readable_of_lt hlimit hmembers.readable⟩
    | _ => cases h
  | colon members k =>
    cases token with
    | colon =>
      cases h
      exact ⟨⟨hexpect.1, hexpect.2, hstack⟩, trivial⟩
    | _ => cases h
  | next v => exact readable_next htoken hstack hexpect h

/-- The text ends with the value that is complete, and nothing is open. -/
theorem consume_inl {v : Json} (h : consume limit pos token stack expect = .ok (.inl v)) :
    expect = .next v ∧ stack = [] := by
  have hstart {r : Except JsonError (Expect × List Frame)}
      (h : (r.map fun r => (Sum.inr (r.1, r.2 ++ stack) : Json ⊕ Expect × List Frame)) =
        .ok (.inl v)) : False := by
    cases r <;> cases h
  unfold consume at h
  split at h
  · exact absurd h hstart
  · split at h
    · cases h
    · exact absurd h hstart
  · split at h
    · cases h
    · cases h
    · split_ifs at h
      cases h
    · cases h
  · split at h <;> cases h
  · split at h
    · split at h
      · cases h
        exact ⟨rfl, rfl⟩
      · cases h
    · split at h <;> cases h
    · split at h <;> cases h

theorem readable_parse {tokens : List (ℕ × Token)} (htokens : ∀ p ∈ tokens, p.2.Readable)
    (hstack : Stacked limit stack) (hexpect : expect.Readable limit stack.length) {v : Json}
    (h : parse limit tokens expect stack = .ok v) : Readable limit v := by
  induction tokens generalizing expect stack with
  | nil => cases h
  | cons p tokens ih =>
    obtain ⟨pos, token⟩ := p
    obtain ⟨htoken, hrest⟩ := List.forall_mem_cons.mp htokens
    rw [parse] at h
    cases hconsume : consume limit pos token stack expect with
    | error e =>
      rw [hconsume] at h
      cases h
    | ok result =>
      rw [hconsume] at h
      cases result with
      | inl w =>
        obtain rfl : w = v := Except.ok.inj h
        obtain ⟨rfl, rfl⟩ := consume_inl hconsume
        exact hexpect
      | inr next =>
        obtain ⟨hstack, hexpect⟩ := readable_consume htoken hstack hexpect hconsume
        exact ih hrest hstack hexpect h

/-- A document without surrogates holds what can be written. -/
theorem readable_loads {doc : Text} (hdoc : Encodable doc) {v : Json} (h : loads limit doc = .ok v) :
    Readable limit v := by
  rw [loads] at h
  split_ifs at h
  cases hparse : parse limit (scan 0 0 doc) .value [] with
  | error e =>
    rw [hparse] at h
    cases h
  | ok w =>
    rw [hparse] at h
    obtain rfl : w = v := Except.ok.inj h
    have hstack : Stacked limit [] := trivial
    have hexpect : Expect.value.Readable limit ([] : List Frame).length := trivial
    exact readable_parse (readable_scan hdoc) hstack hexpect hparse

end

/-! ## Documents in bytes -/

theorem encodable_cons_scalar {tail : Except Exc Text} {n : ℕ} {t : Text} (hn : n < 0x110000)
    (hscalar : n < 0xD800 ∨ 0xDFFF < n) (htail : ∀ {t}, tail = .ok t → Encodable t)
    (h : tail.map (codePoint n :: ·) = .ok t) : Encodable t := by
  cases tail with
  | error e => cases h
  | ok t' =>
    obtain rfl : codePoint n :: t' = t := Except.ok.inj h
    intro c hc
    obtain rfl | hc := List.mem_cons.mp hc
    · exact not_isSurrogate_codePoint hn hscalar
    · exact htail rfl c hc

/-- What a second byte may be, in numbers. -/
theorem isSecond_bounds {lead second : UInt8} (h : isSecond lead second = true) :
    (0x80 ≤ second.toNat ∧ second.toNat < 0xC0) ∧
      (lead.toNat = 0xED → second.toNat < 0xA0) ∧ (lead.toNat = 0xF0 → 0x90 ≤ second.toNat) ∧
        (lead.toNat = 0xF4 → second.toNat < 0x90) := by
  have hlead {n : UInt8} (hn : lead.toNat = n.toNat) : lead = n := UInt8.toNat_inj.mp hn
  simp only [isSecond, isContinuation, Bool.and_eq_true, Bool.or_eq_true, decide_eq_true_eq,
    bne_iff_ne] at h
  obtain ⟨⟨⟨⟨hcontinuation, -⟩, hed⟩, hf0⟩, hf4⟩ := h
  refine ⟨hcontinuation, fun hn => ?_, fun hn => ?_, fun hn => ?_⟩
  · exact hed.resolve_left (not_not.mpr (hlead hn))
  · exact hf0.resolve_left (not_not.mpr (hlead hn))
  · exact hf4.resolve_left (not_not.mpr (hlead hn))

theorem low6_lt (b : UInt8) : low6 b < 64 := Nat.mod_lt _ (by norm_num)

theorem encodable_decodeUtf8At {pos : ℕ} {bs : Bytes} {t : Text} (h : decodeUtf8At pos bs = .ok t) :
    Encodable t := by
  fun_induction decodeUtf8At pos bs generalizing t with
  | case1 =>
    cases h
    exact fun _ hc => absurd hc List.not_mem_nil
  | case2 pos b rest emit hb =>
    rename_i ih
    exact encodable_cons_scalar (by omega) (by omega) ih h
  | case6 pos b emit _ _ hb b₁ rest _ =>
    rename_i ih
    have := low6_lt b₁
    exact encodable_cons_scalar (by omega) (by omega) ih h
  | case11 pos b emit _ _ hlow hb b₁ hsecond b₂ rest _ =>
    rename_i ih
    have := low6_lt b₂
    have hbounds := isSecond_bounds (by simpa using hsecond)
    have hlow6 : low6 b₁ = b₁.toNat % 64 := rfl
    exact encodable_cons_scalar (by omega) (by omega) ih h
  | case18 pos b emit _ _ hlow _ hb b₁ hsecond b₂ _ b₃ rest _ =>
    rename_i ih
    have := low6_lt b₂
    have := low6_lt b₃
    have hbounds := isSecond_bounds (by simpa using hsecond)
    have hlow6 : low6 b₁ = b₁.toNat % 64 := rfl
    exact encodable_cons_scalar (by omega) (by omega) ih h
  | _ => cases h

theorem encodable_decodeUtf8 {bs : Bytes} {t : Text} (h : decodeUtf8 bs = .ok t) : Encodable t :=
  encodable_decodeUtf8At h

end Python
