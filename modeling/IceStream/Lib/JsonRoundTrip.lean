import IceStream.Lib.JsonTexts

/-!
# `loads` after `dumps`

A value whose objects have distinct keys, whose texts are joined, whose integers
may be converted and whose containers are not nested too deeply comes back as it
was, with its keys in order where they were sorted.
-/

namespace Python

/-! ## Values -/

/-- A value, nested at most `depth` deep, that JSON text can hold. -/
inductive Readable : ℕ → Json → Prop
  | null (depth : ℕ) : Readable depth .null
  | bool (depth : ℕ) (b : Bool) : Readable depth (.bool b)
  | int (depth : ℕ) {i : ℤ} (h : (digits i.natAbs).length ≤ maxStrDigits) : Readable depth (.int i)
  | float (depth : ℕ) (f : Float) : Readable depth (.float f)
  | str (depth : ℕ) {t : Text} (h : Joined t) : Readable depth (.str t)
  | arr {depth : ℕ} {xs : List Json} (h : ∀ x ∈ xs, Readable depth x) :
      Readable (depth + 1) (.arr xs)
  | obj {depth : ℕ} {kvs : List (Text × Json)} (hkeys : (kvs.map Prod.fst).Nodup)
      (hjoined : ∀ p ∈ kvs, Joined p.1) (h : ∀ p ∈ kvs, Readable depth p.2) :
      Readable (depth + 1) (.obj kvs)

def sortedIf {α : Type} (sortKeys : Bool) (items : List (Text × α)) : List (Text × α) :=
  if sortKeys then sortItems items else items

mutual

/-- The value with the keys of its objects in the order in which they are written. -/
def Json.arranged (sortKeys : Bool) : Json → Json
  | .arr xs => .arr (arrangedList sortKeys xs)
  | .obj kvs => .obj (sortedIf sortKeys (arrangedItems sortKeys kvs))
  | v => v

def arrangedList (sortKeys : Bool) : List Json → List Json
  | [] => []
  | x :: xs => x.arranged sortKeys :: arrangedList sortKeys xs

def arrangedItems (sortKeys : Bool) : List (Text × Json) → List (Text × Json)
  | [] => []
  | p :: ps => (p.1, p.2.arranged sortKeys) :: arrangedItems sortKeys ps

end

/-- The same value: the keys of an object stand in no order. -/
def Json.Same (v w : Json) : Prop := v.arranged true = w.arranged true

section

variable (sortKeys : Bool)

theorem arrangedList_eq (xs : List Json) : arrangedList sortKeys xs = xs.map (Json.arranged sortKeys) := by
  induction xs with
  | nil => rfl
  | cons x xs ih => rw [arrangedList, ih, List.map_cons]

theorem arrangedItems_eq (ps : List (Text × Json)) :
    arrangedItems sortKeys ps = ps.map fun p => (p.1, p.2.arranged sortKeys) := by
  induction ps with
  | nil => rfl
  | cons p ps ih => rw [arrangedItems, ih, List.map_cons]

theorem dumpsList_eq (xs : List Json) : dumpsList sortKeys xs = xs.map (Json.dumps sortKeys) := by
  induction xs with
  | nil => rfl
  | cons x xs ih => rw [dumpsList, ih, List.map_cons]

theorem dumpsItems_eq (ps : List (Text × Json)) :
    dumpsItems sortKeys ps = ps.map fun p => (p.1, p.2.dumps sortKeys) := by
  induction ps with
  | nil => rfl
  | cons p ps ih => rw [dumpsItems, ih, List.map_cons]

theorem sortedIf_map {α β : Type} (f : α → β) (ps : List (Text × α)) :
    sortedIf sortKeys (ps.map fun p => (p.1, f p.2)) =
      (sortedIf sortKeys ps).map fun p => (p.1, f p.2) := by
  cases sortKeys with
  | false => rfl
  | true =>
    apply Eq.symm
    exact List.map_insertionSort _ _ _ _ fun _ _ _ _ => Iff.rfl

theorem sortedIf_perm {α : Type} (ps : List (Text × α)) : (sortedIf sortKeys ps).Perm ps := by
  cases sortKeys with
  | false => exact List.Perm.refl ps
  | true => exact List.perm_insertionSort _ ps

theorem arranged_obj (kvs : List (Text × Json)) : (Json.obj kvs).arranged sortKeys =
    .obj ((sortedIf sortKeys kvs).map fun p => (p.1, p.2.arranged sortKeys)) := by
  rw [Json.arranged, arrangedItems_eq, sortedIf_map]

theorem arranged_arr (xs : List Json) :
    (Json.arr xs).arranged sortKeys = .arr (xs.map (Json.arranged sortKeys)) := by
  rw [Json.arranged, arrangedList_eq]

/-- One member of an object, as it is written. -/
def dumpMember (p : Text × Json) : String := quoteText p.1 ++ ": " ++ p.2.dumps sortKeys

theorem dumps_obj (kvs : List (Text × Json)) : (Json.obj kvs).dumps sortKeys =
    "\x7b" ++ ", ".intercalate ((sortedIf sortKeys kvs).map (dumpMember sortKeys)) ++ "\x7d" := by
  have hitems : sortedIf sortKeys (dumpsItems sortKeys kvs) =
      (sortedIf sortKeys kvs).map fun p => (p.1, p.2.dumps sortKeys) := by
    rw [dumpsItems_eq, sortedIf_map]
  rw [Json.dumps]
  change "\x7b" ++ ", ".intercalate ((sortedIf sortKeys (dumpsItems sortKeys kvs)).map
    fun p => quoteText p.1 ++ ": " ++ p.2) ++ "\x7d" = _
  rw [hitems, List.map_map]
  rfl

theorem dumps_arr (xs : List Json) : (Json.arr xs).dumps sortKeys =
    "[" ++ ", ".intercalate (xs.map (Json.dumps sortKeys)) ++ "]" := by
  rw [Json.dumps, dumpsList_eq]

end

theorem sortedIf_sortedIf {α : Type} (sortKeys : Bool) (ps : List (Text × α)) :
    sortedIf true (sortedIf sortKeys ps) = sortedIf true ps := by
  cases sortKeys with
  | false => rfl
  | true =>
    have : Std.Total fun a b : Text × α => a.1 ≤ b.1 := ⟨fun a b => le_total a.1 b.1⟩
    have : IsTrans (Text × α) fun a b => a.1 ≤ b.1 := ⟨fun _ _ _ => le_trans⟩
    exact (List.pairwise_insertionSort _ ps).insertionSort_eq

/-- The order in which the keys are written does not matter. -/
theorem Readable.same_arranged {depth : ℕ} {v : Json} (h : Readable depth v) (sortKeys : Bool) :
    (v.arranged sortKeys).Same v := by
  induction h with
  | arr h ih =>
    rw [Json.Same, arranged_arr, arranged_arr, arranged_arr, List.map_map]
    congr 1
    exact List.map_congr_left ih
  | obj hkeys hjoined h ih =>
    rw [Json.Same, arranged_obj, arranged_obj, arranged_obj, sortedIf_map, sortedIf_sortedIf,
      List.map_map]
    congr 1
    apply List.map_congr_left
    intro p hp
    exact congrArg (Prod.mk p.1) (ih p ((sortedIf_perm true _).mem_iff.mp hp))
  | _ => rfl

/-! ## Scanning and parsing step by step -/

section

variable {limit pos : ℕ} {stack : List Frame} {rest : Text}

theorem scan_skip (cs rest : Text) (pos : ℕ) :
    scan cs.length pos (cs ++ rest) = scan 0 (pos + cs.length) rest := by
  induction cs generalizing pos with
  | nil => rfl
  | cons c cs ih =>
    rw [List.length_cons, List.cons_append, scan, ih]
    congr 1
    omega

theorem scan_token {t : Text} {token : Token} {c : CodePoint} {cs : Text} (ht : t = c :: cs)
    (hspace : isJsonSpace c = false) (htoken : scanToken pos c (cs ++ rest) = (token, t.length)) :
    scan 0 pos (t ++ rest) = (pos, token) :: scan 0 (pos + t.length) rest := by
  subst ht
  rw [List.cons_append, scan, hspace]
  simp only [htoken, Bool.false_eq_true, ↓reduceIte, List.length_cons, Nat.add_sub_cancel]
  rw [scan_skip, Nat.add_assoc, Nat.add_comm 1]

theorem parse_step {token : Token} {tokens : List (ℕ × Token)} {expect expect' : Expect}
    {stack' : List Frame} (h : consume limit pos token stack expect = .ok (.inr (expect', stack'))) :
    parse limit ((pos, token) :: tokens) expect stack = parse limit tokens expect' stack' := by
  rw [parse, h]

/-- A value may begin here. -/
def Opens (expect : Expect) : Prop := expect = .value ∨ expect = .item

theorem consume_start {token : Token} {expect expect' : Expect} {frames : List Frame}
    (hopens : Opens expect) (htoken : token ≠ .rbracket)
    (h : startValue limit stack.length pos token = .ok (expect', frames)) :
    consume limit pos token stack expect = .ok (.inr (expect', frames ++ stack)) := by
  obtain rfl | rfl := hopens
  · rw [consume, h]
    rfl
  · cases token with
    | rbracket => exact absurd rfl htoken
    | _ =>
      rw [consume, h]
      · rfl
      · rintro _ _ hsame _
        cases hsame

end

/-- Where a value may begin, `t` is read as `v`. -/
structure Reads (limit depth : ℕ) (t : Text) (v : Json) : Prop where
  head : ∃ c cs, t = c :: cs ∧ c.val < 0x80
  parse : ∀ {rest pos stack expect}, Ends rest → Opens expect → stack.length + depth ≤ limit →
    parse limit (scan 0 pos (t ++ rest)) expect stack =
      parse limit (scan 0 (pos + t.length) rest) (.next v) stack

/-! ## Atoms and texts -/

section

variable {limit depth : ℕ}

theorem ScansAs.reads {t : Text} {v : Json} (h : ScansAs t (.atom v)) : Reads limit depth t v := by
  obtain ⟨c, cs, ht, hspace, hascii, htoken⟩ := h
  refine ⟨⟨c, cs, ht, hascii⟩, ?_⟩
  intro rest pos stack expect hrest hopens _
  have hne : Token.atom v ≠ .rbracket := Token.noConfusion
  rw [scan_token ht hspace (htoken rest hrest pos)]
  exact parse_step (consume_start hopens hne rfl)

theorem reads_text {t : Text} (ht : Joined t) : Reads limit depth (text (quoteText t)) (.str t) := by
  obtain ⟨cs, htext, htoken⟩ := scanToken_quoteText ht
  refine ⟨⟨_, cs, htext, by decide⟩, ?_⟩
  intro rest pos stack expect _ hopens _
  have hne : Token.str t ≠ .rbracket := Token.noConfusion
  rw [scan_token htext rfl (htoken rest pos)]
  exact parse_step (consume_start hopens hne rfl)

/-! ## Between the brackets -/

/-- The spaces of a bracketed list: behind the opening bracket, behind a comma and before
the closing bracket, where a line may end. -/
structure Layout where
  lead : Text
  gap : Text
  tail : Text
  lead_space : ∀ c ∈ lead, isJsonSpace c = true
  gap_space : ∀ c ∈ gap, isJsonSpace c = true
  tail_space : ∀ c ∈ tail, isJsonSpace c = true
  tail_line : ∀ c ∈ tail.head?, c.val = 0x0A

def comma : CodePoint := ⟨0x2C, by decide⟩

namespace Layout

variable (l : Layout)

/-- What stands behind the opening bracket. -/
def body (ts : List Text) (close : CodePoint) : Text :=
  (comma :: l.gap).intercalate ts ++ (l.tail ++ [close])

theorem body_singleton (t : Text) (close : CodePoint) :
    l.body [t] close = t ++ (l.tail ++ [close]) := by
  rw [body, List.intercalate_singleton]

theorem body_cons (t t' : Text) (ts : List Text) (close : CodePoint) :
    l.body (t :: t' :: ts) close = t ++ (comma :: (l.gap ++ l.body (t' :: ts) close)) := by
  rw [body, body, List.intercalate_cons_cons, List.append_assoc, List.append_assoc]
  rfl

variable {l} {rest : Text} {pos : ℕ}

theorem scan_spaces {cs : Text} (h : ∀ c ∈ cs, isJsonSpace c = true) :
    scan 0 pos (cs ++ rest) = scan 0 (pos + cs.length) rest := by
  induction cs generalizing pos with
  | nil => rfl
  | cons c cs ih =>
    obtain ⟨hc, hcs⟩ := List.forall_mem_cons.mp h
    rw [List.cons_append, scan, if_pos hc, ih hcs, List.length_cons]
    congr 1
    omega

/-- An item ends before the closing bracket. -/
theorem ends_tail {close : CodePoint} (hclose : close.val = 0x5D ∨ close.val = 0x7D) :
    Ends (l.tail ++ [close] ++ rest) := by
  intro c hc
  have hline := l.tail_line
  cases htail : l.tail with
  | nil =>
    rw [htail] at hc
    obtain rfl : close = c := Option.some.inj hc
    exact .inr (.inr hclose)
  | cons d ds =>
    rw [htail] at hc hline
    obtain rfl : d = c := Option.some.inj hc
    exact .inl (hline d rfl)

end Layout

/-! ## Arrays -/

/-- Item after item, each read as its value. -/
theorem parse_items (l : Layout) {items : List (Text × Json)} (hne : items ≠ [])
    (hreads : ∀ p ∈ items, Reads limit depth p.1 p.2) {rest : Text} {pos : ℕ} {stack : List Frame}
    {expect : Expect} (done : List Json) (hopens : Opens expect)
    (hdepth : stack.length + 1 + depth ≤ limit) :
    parse limit (scan 0 pos (l.body (items.map Prod.fst) ⟨0x5D, by decide⟩ ++ rest)) expect
        (.arr done :: stack) =
      parse limit
        (scan 0 (pos + (l.body (items.map Prod.fst) ⟨0x5D, by decide⟩).length) rest)
        (.next (.arr (done.reverse ++ items.map Prod.snd))) stack := by
  induction items generalizing pos done expect with
  | nil => exact absurd rfl hne
  | cons p items ih =>
    have hp := hreads p List.mem_cons_self
    have hframe : (Frame.arr done :: stack).length + depth ≤ limit := hdepth
    cases items with
    | nil =>
      have hends : Ends (l.tail ++ [⟨0x5D, by decide⟩] ++ rest) := Layout.ends_tail (.inl rfl)
      set behind := pos + p.1.length with hbehind
      have hclose : scan 0 behind (l.tail ++ [⟨0x5D, by decide⟩] ++ rest) =
          (behind + l.tail.length, .rbracket) :: scan 0 (behind + l.tail.length + 1) rest := by
        rw [List.append_assoc, Layout.scan_spaces l.tail_space]
        rfl
      rw [List.map_singleton, l.body_singleton, List.append_assoc, hp.parse hends hopens hframe, hclose]
      apply (parse_step rfl).trans
      rw [List.length_append, List.length_append, ← Nat.add_assoc, List.reverse_cons,
        List.map_singleton]
      rfl
    | cons q items =>
      set tail := l.body ((q :: items).map Prod.fst) ⟨0x5D, by decide⟩ with htail
      set behind := pos + p.1.length with hbehind
      have hends : Ends (comma :: (l.gap ++ tail) ++ rest) := by
        intro c hc
        obtain rfl : comma = c := Option.some.inj hc
        exact .inr (.inl rfl)
      have hscan : scan 0 behind (comma :: (l.gap ++ tail) ++ rest) =
          (behind, .comma) :: scan 0 (behind + 1 + l.gap.length) (tail ++ rest) := by
        rw [List.cons_append, List.append_assoc, ← Layout.scan_spaces l.gap_space]
        rfl
      rw [List.map_cons, List.map_cons, l.body_cons, ← List.map_cons, List.append_assoc,
        hp.parse hends hopens hframe, hscan]
      apply (parse_step rfl).trans
      rw [ih (List.cons_ne_nil q items) (fun r hr => hreads r (List.mem_cons_of_mem p hr))
        (p.2 :: done) (.inl rfl)]
      rw [List.length_append, List.length_cons, List.length_append, List.reverse_cons,
        List.append_assoc, ← htail]
      congr 2
      omega

theorem reads_items (l : Layout) {items : List (Text × Json)} (hne : items ≠ [])
    (hreads : ∀ p ∈ items, Reads limit depth p.1 p.2) :
    Reads limit (depth + 1)
      (⟨0x5B, by decide⟩ :: (l.lead ++ l.body (items.map Prod.fst) ⟨0x5D, by decide⟩))
      (.arr (items.map Prod.snd)) := by
  refine ⟨⟨_, _, rfl, by decide⟩, ?_⟩
  intro rest pos stack expect _ hopens hdepth
  have hlimit : stack.length < limit := by omega
  set tail := l.body (items.map Prod.fst) ⟨0x5D, by decide⟩ with htail
  have hscan : scan 0 pos ((⟨0x5B, by decide⟩ :: (l.lead ++ tail)) ++ rest) =
      (pos, .lbracket) :: scan 0 (pos + 1 + l.lead.length) (tail ++ rest) := by
    rw [List.cons_append, List.append_assoc, ← Layout.scan_spaces l.lead_space]
    rfl
  have hstart : startValue limit stack.length pos .lbracket = .ok (.item, [.arr []]) := if_pos hlimit
  have hne' : Token.lbracket ≠ .rbracket := Token.noConfusion
  have hroom : stack.length + 1 + depth ≤ limit := by omega
  rw [hscan, parse_step (consume_start hopens hne' hstart), List.singleton_append,
    parse_items l hne hreads [] (.inr rfl) hroom, ← htail, List.length_cons, List.length_append]
  congr 2
  omega

theorem reads_empty_arr : Reads limit (depth + 1) (text "[]") (.arr []) := by
  refine ⟨⟨_, _, rfl, by decide⟩, ?_⟩
  intro rest pos stack expect _ hopens hdepth
  have hlimit : stack.length < limit := by omega
  have hscan : scan 0 pos (text "[]" ++ rest) =
      (pos, .lbracket) :: (pos + 1, .rbracket) :: scan 0 (pos + 1 + 1) rest := rfl
  have hstart : startValue limit stack.length pos .lbracket = .ok (.item, [.arr []]) := if_pos hlimit
  have hne : Token.lbracket ≠ .rbracket := Token.noConfusion
  rw [hscan, parse_step (consume_start hopens hne hstart), List.singleton_append]
  exact parse_step rfl

/-! ## Objects -/

theorem Dict.set_of_fresh (d : Dict) {k : Text} (v : Json) (h : k ∉ d.map Prod.fst) :
    d.set k v = d ++ [(k, v)] := by
  induction d with
  | nil => rfl
  | cons p d ih =>
    rw [List.map_cons, List.mem_cons, not_or] at h
    rw [Dict.set, if_neg (Ne.symm h.1), ih h.2]
    rfl

/-- A member of an object: its key, the text of its value and the value itself. -/
structure MemberText where
  key : Text
  written : Text
  value : Json

/-- A key, its colon and its value. -/
def MemberText.text (m : MemberText) : Text :=
  Python.text (quoteText m.key) ++ (⟨0x3A, by decide⟩ :: ⟨0x20, by decide⟩ :: m.written)

def MemberText.item (m : MemberText) : Text × Json := (m.key, m.value)

theorem parse_member {m : MemberText} (hjoined : Joined m.key)
    (hreads : Reads limit depth m.written m.value)
    {rest : Text} {pos : ℕ} {stack : List Frame} {members : Dict} {first : Bool}
    (hrest : Ends rest) (hdepth : stack.length + 1 + depth ≤ limit) :
    parse limit (scan 0 pos (m.text ++ rest)) (.key members first) stack =
      parse limit (scan 0 (pos + m.text.length) rest) (.next m.value)
        (.obj members m.key :: stack) := by
  obtain ⟨cs, hquote, htoken⟩ := scanToken_quoteText hjoined
  have hframe : (Frame.obj members m.key :: stack).length + depth ≤ limit := hdepth
  rw [MemberText.text, List.append_assoc, scan_token hquote rfl (htoken _ pos)]
  set behind := pos + (Python.text (quoteText m.key)).length with hbehind
  have hscan : scan 0 behind
      ((⟨0x3A, by decide⟩ :: ⟨0x20, by decide⟩ :: m.written) ++ rest) =
      (behind, .colon) :: scan 0 (behind + 1 + 1) (m.written ++ rest) := rfl
  apply (parse_step rfl).trans
  rw [hscan]
  apply (parse_step rfl).trans
  rw [hreads.parse hrest (.inl rfl) hframe, List.length_append, List.length_cons, List.length_cons]
  congr 2
  omega

/-- Member after member, under keys that are all different. -/
theorem parse_members (l : Layout) {ms : List MemberText} (hne : ms ≠ [])
    (hjoined : ∀ m ∈ ms, Joined m.key) (hreads : ∀ m ∈ ms, Reads limit depth m.written m.value)
    {rest : Text} {pos : ℕ} {stack : List Frame} {first : Bool} (members : Dict)
    (hkeys : (members.map Prod.fst ++ ms.map MemberText.key).Nodup)
    (hdepth : stack.length + 1 + depth ≤ limit) :
    parse limit (scan 0 pos (l.body (ms.map MemberText.text) ⟨0x7D, by decide⟩ ++ rest))
        (.key members first) stack =
      parse limit
        (scan 0 (pos + (l.body (ms.map MemberText.text) ⟨0x7D, by decide⟩).length) rest)
        (.next (.obj (members ++ ms.map MemberText.item))) stack := by
  induction ms generalizing pos members first with
  | nil => exact absurd rfl hne
  | cons m ms ih =>
    have hm := hreads m List.mem_cons_self
    have hmjoined := hjoined m List.mem_cons_self
    have hfresh : m.key ∉ members.map Prod.fst := by
      intro hmem
      exact (List.nodup_append.mp hkeys).2.2 _ hmem _ List.mem_cons_self rfl
    have hset := Dict.set_of_fresh members m.value hfresh
    set behind := pos + m.text.length with hbehind
    cases ms with
    | nil =>
      have hends : Ends (l.tail ++ [⟨0x7D, by decide⟩] ++ rest) := Layout.ends_tail (.inr rfl)
      have hclose : scan 0 behind (l.tail ++ [⟨0x7D, by decide⟩] ++ rest) =
          (behind + l.tail.length, .rbrace) :: scan 0 (behind + l.tail.length + 1) rest := by
        rw [List.append_assoc, Layout.scan_spaces l.tail_space]
        rfl
      rw [List.map_singleton, l.body_singleton, List.append_assoc,
        parse_member hmjoined hm hends hdepth, hclose]
      apply (parse_step rfl).trans
      rw [List.length_append, List.length_append, ← Nat.add_assoc, hset, List.map_singleton]
      rfl
    | cons m' ms =>
      set tail := l.body ((m' :: ms).map MemberText.text) ⟨0x7D, by decide⟩ with htail
      have hends : Ends (comma :: (l.gap ++ tail) ++ rest) := by
        intro c hc
        obtain rfl : comma = c := Option.some.inj hc
        exact .inr (.inl rfl)
      have hscan : scan 0 behind (comma :: (l.gap ++ tail) ++ rest) =
          (behind, .comma) :: scan 0 (behind + 1 + l.gap.length) (tail ++ rest) := by
        rw [List.cons_append, List.append_assoc, ← Layout.scan_spaces l.gap_space]
        rfl
      have hkeys' : ((members ++ [(m.key, m.value)]).map Prod.fst ++
          (m' :: ms).map MemberText.key).Nodup := by
        rw [List.map_append, List.append_assoc]
        exact hkeys
      rw [List.map_cons, List.map_cons, l.body_cons, ← List.map_cons, List.append_assoc,
        parse_member hmjoined hm hends hdepth, hscan]
      apply (parse_step rfl).trans
      rw [hset, ih (List.cons_ne_nil m' ms) (fun r hr => hjoined r (List.mem_cons_of_mem m hr))
        (fun r hr => hreads r (List.mem_cons_of_mem m hr)) _ hkeys']
      rw [List.length_append, List.length_cons, List.length_append, List.append_assoc, ← htail]
      congr 2
      omega

theorem reads_members (l : Layout) {ms : List MemberText} (hne : ms ≠ [])
    (hkeys : (ms.map MemberText.key).Nodup) (hjoined : ∀ m ∈ ms, Joined m.key)
    (hreads : ∀ m ∈ ms, Reads limit depth m.written m.value) :
    Reads limit (depth + 1)
      (⟨0x7B, by decide⟩ :: (l.lead ++ l.body (ms.map MemberText.text) ⟨0x7D, by decide⟩))
      (.obj (ms.map MemberText.item)) := by
  refine ⟨⟨_, _, rfl, by decide⟩, ?_⟩
  intro rest pos stack expect _ hopens hdepth
  have hlimit : stack.length < limit := by omega
  set tail := l.body (ms.map MemberText.text) ⟨0x7D, by decide⟩ with htail
  have hscan : scan 0 pos ((⟨0x7B, by decide⟩ :: (l.lead ++ tail)) ++ rest) =
      (pos, .lbrace) :: scan 0 (pos + 1 + l.lead.length) (tail ++ rest) := by
    rw [List.cons_append, List.append_assoc, ← Layout.scan_spaces l.lead_space]
    rfl
  have hstart : startValue limit stack.length pos .lbrace = .ok (.key [] true, []) := if_pos hlimit
  have hne' : Token.lbrace ≠ .rbracket := Token.noConfusion
  have hroom : stack.length + 1 + depth ≤ limit := by omega
  rw [hscan, parse_step (consume_start hopens hne' hstart), List.nil_append,
    parse_members l hne hjoined hreads [] hkeys hroom, ← htail, List.length_cons,
    List.length_append]
  congr 2
  omega

theorem reads_empty_obj : Reads limit (depth + 1) (text "\x7b\x7d") (.obj []) := by
  have htext : text "\x7b\x7d" = [⟨0x7B, by decide⟩, ⟨0x7D, by decide⟩] := by decide
  rw [htext]
  refine ⟨⟨_, _, rfl, by decide⟩, ?_⟩
  intro rest pos stack expect _ hopens hdepth
  have hlimit : stack.length < limit := by omega
  have hscan : scan 0 pos ([⟨0x7B, by decide⟩, ⟨0x7D, by decide⟩] ++ rest) =
      (pos, .lbrace) :: (pos + 1, .rbrace) :: scan 0 (pos + 1 + 1) rest := rfl
  have hstart : startValue limit stack.length pos .lbrace = .ok (.key [] true, []) := if_pos hlimit
  have hne : Token.lbrace ≠ .rbracket := Token.noConfusion
  rw [hscan, parse_step (consume_start hopens hne hstart), List.nil_append]
  exact parse_step rfl

/-! ## On one line -/

/-- Nothing but a space behind each comma. -/
def onOneLine : Layout where
  lead := []
  gap := [⟨0x20, by decide⟩]
  tail := []
  lead_space := fun _ hc => absurd hc List.not_mem_nil
  gap_space := fun c hc => by
    rw [List.mem_singleton.mp hc]
    rfl
  tail_space := fun _ hc => absurd hc List.not_mem_nil
  tail_line := fun _ hc => absurd hc (Option.not_mem_none _)

theorem text_intercalate (s : String) (ts : List String) :
    text (s.intercalate ts) = (text s).intercalate (ts.map text) := by
  induction ts with
  | nil => rw [String.intercalate_nil]; rfl
  | cons t ts ih =>
    cases ts with
    | nil => rw [String.intercalate_singleton, List.map_singleton, List.intercalate_singleton]
    | cons t' ts =>
      rw [String.intercalate_cons_cons, text_append, text_append, ih, List.map_cons, List.map_cons,
        List.map_cons, List.intercalate_cons_cons]

theorem reads_arr {sortKeys : Bool} {xs : List Json}
    (hreads : ∀ x ∈ xs, Reads limit depth (text (x.dumps sortKeys)) (x.arranged sortKeys)) :
    Reads limit (depth + 1) (text ((Json.arr xs).dumps sortKeys)) ((Json.arr xs).arranged sortKeys) := by
  rw [dumps_arr, arranged_arr]
  cases xs with
  | nil => exact reads_empty_arr
  | cons x xs =>
    let items := (x :: xs).map fun x => (text (x.dumps sortKeys), x.arranged sortKeys)
    have hitems : ∀ p ∈ items, Reads limit depth p.1 p.2 := by
      intro p hp
      obtain ⟨y, hy, rfl⟩ := List.mem_map.mp hp
      exact hreads y hy
    have hne : items ≠ [] := List.cons_ne_nil _ _
    have hread := reads_items onOneLine hne hitems
    have hvalues : items.map Prod.snd = (x :: xs).map (Json.arranged sortKeys) := by
      simp only [items, List.map_map]
      rfl
    have htext : text ("[" ++ ", ".intercalate ((x :: xs).map (Json.dumps sortKeys)) ++ "]") =
        ⟨0x5B, by decide⟩ :: (onOneLine.lead ++ onOneLine.body (items.map Prod.fst) ⟨0x5D, by decide⟩) := by
      rw [String.append_assoc, text_append, text_append, text_intercalate, List.map_map]
      simp only [items, List.map_map]
      rfl
    rw [hvalues] at hread
    rw [htext]
    exact hread

theorem reads_obj {sortKeys : Bool} {kvs : List (Text × Json)} (hkeys : (kvs.map Prod.fst).Nodup)
    (hjoined : ∀ p ∈ kvs, Joined p.1)
    (hreads : ∀ p ∈ kvs, Reads limit depth (text (p.2.dumps sortKeys)) (p.2.arranged sortKeys)) :
    Reads limit (depth + 1) (text ((Json.obj kvs).dumps sortKeys))
      ((Json.obj kvs).arranged sortKeys) := by
  have hperm := sortedIf_perm sortKeys kvs
  have hkeys' : ((sortedIf sortKeys kvs).map Prod.fst).Nodup :=
    (hperm.map Prod.fst).nodup_iff.mpr hkeys
  have hjoined' : ∀ p ∈ sortedIf sortKeys kvs, Joined p.1 := fun p hp =>
    hjoined p (hperm.mem_iff.mp hp)
  have hreads' : ∀ p ∈ sortedIf sortKeys kvs,
      Reads limit depth (text (p.2.dumps sortKeys)) (p.2.arranged sortKeys) := fun p hp =>
    hreads p (hperm.mem_iff.mp hp)
  rw [dumps_obj, arranged_obj]
  generalize sortedIf sortKeys kvs = ps at hkeys' hjoined' hreads'
  cases ps with
  | nil => exact reads_empty_obj
  | cons p ps =>
    let ms := (p :: ps).map fun p =>
      (⟨p.1, text (p.2.dumps sortKeys), p.2.arranged sortKeys⟩ : MemberText)
    have hmkeys : (ms.map MemberText.key).Nodup := by
      simp only [ms, List.map_map]
      exact hkeys'
    have hmjoined : ∀ m ∈ ms, Joined m.key := by
      intro m hm
      obtain ⟨q, hq, rfl⟩ := List.mem_map.mp hm
      exact hjoined' q hq
    have hmreads : ∀ m ∈ ms, Reads limit depth m.written m.value := by
      intro m hm
      obtain ⟨q, hq, rfl⟩ := List.mem_map.mp hm
      exact hreads' q hq
    have hne : ms ≠ [] := List.cons_ne_nil _ _
    have hread := reads_members onOneLine hne hmkeys hmjoined hmreads
    have hitems : ms.map MemberText.item = (p :: ps).map fun p => (p.1, p.2.arranged sortKeys) := by
      simp only [ms, List.map_map]
      rfl
    have hmember (q : Text × Json) : text (dumpMember sortKeys q) =
        MemberText.text ⟨q.1, text (q.2.dumps sortKeys), q.2.arranged sortKeys⟩ := by
      rw [dumpMember, text_append, text_append, List.append_assoc]
      rfl
    have htext : text ("\x7b" ++ ", ".intercalate ((p :: ps).map (dumpMember sortKeys)) ++ "\x7d") =
        ⟨0x7B, by decide⟩ ::
          (onOneLine.lead ++ onOneLine.body (ms.map MemberText.text) ⟨0x7D, by decide⟩) := by
      rw [String.append_assoc, text_append, text_append, text_intercalate, List.map_map]
      have hmap : (p :: ps).map (text ∘ dumpMember sortKeys) = ms.map MemberText.text := by
        simp only [ms, List.map_map]
        exact List.map_congr_left fun q _ => hmember q
      rw [hmap]
      rfl
    rw [hitems] at hread
    rw [htext]
    exact hread

end

/-! ## Whole documents -/

/-- A text that is read as `v` wherever a value may begin loads as `v`. -/
theorem loads_of_reads {limit depth : ℕ} {t : Text} {v : Json} (h : Reads limit depth t v)
    (hdepth : depth ≤ limit) : loads limit t = .ok v := by
  obtain ⟨c, cs, htext, hascii⟩ := h.head
  have hbom : (t.head?.any fun c => c.val == 0xFEFF) = false := by
    rw [htext]
    simp only [List.head?_cons, Option.any_some, beq_eq_false_iff_ne]
    omega
  have hends : Ends [] := fun c hc => by cases hc
  have hroom : ([] : List Frame).length + depth ≤ limit := by simpa using hdepth
  have hparse : parse limit (scan 0 0 (t ++ [])) .value [] = _ := h.parse hends (.inl rfl) hroom
  rw [List.append_nil] at hparse
  rw [loads, hbom, if_neg Bool.false_ne_true, hparse]
  rfl

theorem reads_dumps {limit depth : ℕ} {v : Json} (h : Readable depth v) (sortKeys : Bool) :
    Reads limit depth (text (v.dumps sortKeys)) (v.arranged sortKeys) := by
  induction h with
  | null => exact scansAs_null.reads
  | bool depth b => exact (scansAs_bool b).reads
  | int depth h => exact (scansAs_int h).reads
  | float depth f => exact (scansAs_dumpFloat f).reads
  | str depth h => exact reads_text h
  | arr h ih => exact reads_arr ih
  | obj hkeys hjoined h ih => exact reads_obj hkeys hjoined ih

/-- `loads` undoes `dumps`. -/
theorem loads_dumps {limit depth : ℕ} {v : Json} (h : Readable depth v) (hdepth : depth ≤ limit)
    (sortKeys : Bool) : loads limit (text (v.dumps sortKeys)) = .ok (v.arranged sortKeys) :=
  loads_of_reads (reads_dumps h sortKeys) hdepth

end Python
