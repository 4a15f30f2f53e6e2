import IceStream.Lib.Dates
import IceStream.Lib.JsonNumbers

/-!
# What an ISO text looks like

A text that is read as a date begins with a digit, and ends with one or with `Z`. Before its end a
`Z` can only stand between the date and the time.
-/

namespace Python

/-! ## Numbers and marks -/

theorem takeNumber_spec {n k : ℕ} {t rest : Text} (h : takeNumber n t = some (k, rest)) :
    ∃ ds, t = ds ++ rest ∧ ds.length = n ∧ IsDigits ds := by
  rw [takeNumber] at h
  split_ifs at h with hds
  obtain ⟨-, rfl⟩ := Prod.mk.inj (Option.some.inj h)
  exact ⟨t.take n, (List.take_append_drop n t).symm, hds.1, List.all_eq_true.mp hds.2⟩

theorem dropIf_spec (c : ℕ) (t : Text) :
    (dropIf c t).2 = t ∧ (dropIf c t).1 = false ∨
      ∃ d, d.val = c ∧ t = d :: (dropIf c t).2 ∧ (dropIf c t).1 = true := by
  cases t with
  | nil => exact .inl ⟨rfl, rfl⟩
  | cons d rest =>
    rw [dropIf]
    split_ifs with hd
    · exact .inr ⟨d, hd, rfl, rfl⟩
    · exact .inl ⟨rfl, rfl⟩

/-- The text begins with a digit. -/
def StartsDigit (t : Text) : Prop := ∃ d rest, t = d :: rest ∧ isDigit d = true

/-- The text ends with a digit. -/
def EndsDigit (t : Text) : Prop := ∃ front d, t = front ++ [d] ∧ isDigit d = true

theorem StartsDigit.append {t : Text} (h : StartsDigit t) (rest : Text) :
    StartsDigit (t ++ rest) := by
  obtain ⟨d, tail, rfl, hd⟩ := h
  exact ⟨d, tail ++ rest, rfl, hd⟩

theorem EndsDigit.append {t : Text} (h : EndsDigit t) (front : Text) : EndsDigit (front ++ t) := by
  obtain ⟨middle, d, rfl, hd⟩ := h
  exact ⟨front ++ middle, d, (List.append_assoc ..).symm, hd⟩

theorem startsDigit_of_isDigits {ds : Text} (h : IsDigits ds) (hne : ds ≠ []) : StartsDigit ds := by
  cases ds with
  | nil => exact absurd rfl hne
  | cons d ds => exact ⟨d, ds, rfl, h d List.mem_cons_self⟩

theorem endsDigit_of_isDigits {ds : Text} (h : IsDigits ds) (hne : ds ≠ []) : EndsDigit ds :=
  ⟨ds.dropLast, ds.getLast hne, (List.dropLast_append_getLast hne).symm,
    h _ (List.getLast_mem hne)⟩

theorem endsDigit_of_empty {n k : ℕ} {t rest : Text} (h : takeNumber (n + 1) t = some (k, rest))
    (hrest : rest.isEmpty = true) : EndsDigit t := by
  obtain ⟨ds, rfl, hlength, hds⟩ := takeNumber_spec h
  rw [List.isEmpty_iff] at hrest
  rw [hrest, List.append_nil]
  exact endsDigit_of_isDigits hds (by rintro rfl; cases hlength)

/-- What is left ends with a digit, so the whole does. -/
theorem EndsDigit.of_takeNumber {n k : ℕ} {t rest : Text} (h : takeNumber n t = some (k, rest))
    (hrest : EndsDigit rest) : EndsDigit t := by
  obtain ⟨ds, rfl, -, -⟩ := takeNumber_spec h
  exact hrest.append ds

theorem EndsDigit.of_dropIf {c : ℕ} {t : Text} (h : EndsDigit (dropIf c t).2) : EndsDigit t := by
  obtain ⟨hsame, -⟩ | ⟨d, -, hcons, -⟩ := dropIf_spec c t
  · rwa [hsame] at h
  · rw [hcons]
    exact h.append [d]

/-- The text consists of digits and of these marks. -/
def OfParts (marks : List ℕ) (t : Text) : Prop := ∀ c ∈ t, isDigit c = true ∨ c.val ∈ marks

namespace OfParts

variable {marks : List ℕ} {t : Text}

theorem of_takeNumber {n k : ℕ} {rest : Text} (h : takeNumber n t = some (k, rest))
    (hrest : OfParts marks rest) : OfParts marks t := by
  obtain ⟨ds, rfl, -, hds⟩ := takeNumber_spec h
  intro c hc
  obtain hc | hc := List.mem_append.mp hc
  · exact .inl (hds c hc)
  · exact hrest c hc

theorem of_empty {n k : ℕ} {rest : Text} (h : takeNumber n t = some (k, rest))
    (hrest : rest.isEmpty = true) : OfParts marks t := by
  apply of_takeNumber h
  rw [List.isEmpty_iff.mp hrest]
  intro c hc
  exact absurd hc List.not_mem_nil

theorem of_dropIf {c : ℕ} (hc : c ∈ marks) (h : OfParts marks (dropIf c t).2) :
    OfParts marks t := by
  obtain ⟨hsame, -⟩ | ⟨d, hd, hcons, -⟩ := dropIf_spec c t
  · rwa [hsame] at h
  · rw [hcons]
    intro e he
    obtain rfl | he := List.mem_cons.mp he
    · exact .inr (hd ▸ hc)
    · exact h e he

/-- There is no `Z` among the parts. -/
theorem not_mem (h : OfParts marks t) {z : CodePoint} (hz : z.val = 0x5A) (hmarks : 0x5A ∉ marks) :
    z ∉ t := by
  intro hmem
  obtain hdigit | hmark := h z hmem
  · simp [isDigit, hz] at hdigit
  · rw [hz] at hmark
    exact hmarks hmark

end OfParts

/-! ## The date -/

/-- The shape of a date that is read; its marks are the dash and the `W` of a week. -/
structure DateShape (t : Text) : Prop where
  parts : OfParts [0x2D, 0x57] t
  starts : StartsDigit t
  ends : EndsDigit t

theorem isoDate_shape {t : Text} {date : ℕ × ℕ × ℕ} (h : isoDate t = some date) : DateShape t := by
  rw [isoDate] at h
  simp only [Option.bind_eq_bind, Option.bind_eq_some_iff, Prod.exists] at h
  obtain ⟨year, t₁, hyear, h⟩ := h
  have hstarts : StartsDigit t := by
    obtain ⟨ds, rfl, hlength, hds⟩ := takeNumber_spec hyear
    exact (startsDigit_of_isDigits hds (by rintro rfl; cases hlength)).append t₁
  have hdash : 0x2D ∈ [0x2D, 0x57] := by decide
  have hw : 0x57 ∈ [0x2D, 0x57] := by decide
  -- what is left behind the year and the marks after it
  suffices hrest : OfParts [0x2D, 0x57] (dropIf 0x57 (dropIf 0x2D t₁).2).2 ∧
      EndsDigit (dropIf 0x57 (dropIf 0x2D t₁).2).2 by
    exact ⟨((hrest.1.of_dropIf hw).of_dropIf hdash).of_takeNumber hyear, hstarts,
      hrest.2.of_dropIf.of_dropIf.of_takeNumber hyear⟩
  split_ifs at h with hweek
  · simp only [Option.bind_eq_some_iff, Prod.exists] at h
    obtain ⟨week, t₂, htake, h⟩ := h
    split_ifs at h with hend
    · exact ⟨.of_empty htake hend, endsDigit_of_empty htake hend⟩
    · simp only [Option.bind_eq_some_iff, Prod.exists] at h
      obtain ⟨day, t₃, hday, h⟩ := h
      split_ifs at h with hlast
      exact ⟨((OfParts.of_empty hday hlast.2).of_dropIf hdash).of_takeNumber htake,
        (endsDigit_of_empty hday hlast.2).of_dropIf.of_takeNumber htake⟩
  · simp only [Option.bind_eq_some_iff, Prod.exists] at h
    obtain ⟨month, t₂, htake, day, t₃, hday, h⟩ := h
    split_ifs at h with hlast
    exact ⟨((OfParts.of_empty hday hlast.2).of_dropIf hdash).of_takeNumber htake,
      (endsDigit_of_empty hday hlast.2).of_dropIf.of_takeNumber htake⟩

/-! ## The time -/

/-- The shape of a time that is read: two digits, and more of them with colons and a point or a
comma. -/
structure TimeShape (t : Text) : Prop where
  parts : OfParts [0x3A, 0x2E, 0x2C] t
  starts : ∃ a b rest, t = a :: b :: rest ∧ isDigit a = true ∧ isDigit b = true
  ends : EndsDigit t

theorem isoFraction_shape {t : Text} {n : ℕ} (h : isoFraction t = some n) :
    OfParts [0x3A, 0x2E, 0x2C] t ∧ (t = [] ∨ EndsDigit t) := by
  cases t with
  | nil => exact ⟨fun c hc => absurd hc List.not_mem_nil, .inl rfl⟩
  | cons c ds =>
    rw [isoFraction] at h
    split_ifs at h with hfraction
    obtain ⟨hmark, hne, hds⟩ := hfraction
    have hds : IsDigits ds := List.all_eq_true.mp hds
    have hne : ds ≠ [] := by
      rintro rfl
      cases hne
    refine ⟨?_, .inr ((endsDigit_of_isDigits hds hne).append [c])⟩
    intro d hd
    obtain rfl | hd := List.mem_cons.mp hd
    · right
      obtain hmark | hmark := hmark <;> rw [hmark] <;> decide
    · exact .inl (hds d hd)

theorem isoTime_shape {t : Text} {time : ℕ × ℕ × ℕ × ℕ} (h : isoTime t = some time) :
    TimeShape t := by
  rw [isoTime] at h
  simp only [Option.bind_eq_bind, Option.bind_eq_some_iff, Prod.exists] at h
  obtain ⟨hour, t₁, hhour, h⟩ := h
  have hstarts : ∃ a b rest, t = a :: b :: rest ∧ isDigit a = true ∧ isDigit b = true := by
    obtain ⟨ds, rfl, hlength, hds⟩ := takeNumber_spec hhour
    obtain ⟨a, b, rfl⟩ := List.length_eq_two.mp hlength
    exact ⟨a, b, t₁, rfl, hds a List.mem_cons_self, hds b (by simp)⟩
  have hcolon : 0x3A ∈ [0x3A, 0x2E, 0x2C] := by decide
  suffices hrest : OfParts [0x3A, 0x2E, 0x2C] t ∧ EndsDigit t from ⟨hrest.1, hstarts, hrest.2⟩
  split_ifs at h with hend
  · exact ⟨.of_empty hhour hend, endsDigit_of_empty hhour hend⟩
  · simp only [Option.bind_eq_some_iff, Prod.exists] at h
    obtain ⟨minute, t₂, hminute, h⟩ := h
    suffices hrest : OfParts [0x3A, 0x2E, 0x2C] (dropIf 0x3A t₁).2 ∧
        EndsDigit (dropIf 0x3A t₁).2 by
      exact ⟨(hrest.1.of_dropIf hcolon).of_takeNumber hhour,
        hrest.2.of_dropIf.of_takeNumber hhour⟩
    split_ifs at h with hend hseparator
    · exact ⟨.of_empty hminute hend, endsDigit_of_empty hminute hend⟩
    · simp only [Option.bind_eq_some_iff, Prod.exists] at h
      obtain ⟨second, t₃, hsecond, microsecond, hfraction, -⟩ := h
      obtain ⟨hparts, hends⟩ := isoFraction_shape hfraction
      refine ⟨((hparts.of_takeNumber hsecond).of_dropIf hcolon).of_takeNumber hminute, ?_⟩
      apply EndsDigit.of_takeNumber hminute
      apply EndsDigit.of_dropIf (c := 0x3A)
      obtain rfl | hends := hends
      · exact endsDigit_of_empty hsecond rfl
      · exact hends.of_takeNumber hsecond

theorem isoZone_shape {t : Text} {offset : Option ℤ} (h : isoZone t = some offset) :
    t = [] ∨ (∃ z : CodePoint, z.val = 0x5A ∧ t = [z]) ∨
      ∃ (sign : CodePoint) (rest : Text), sign.val ≠ 0x5A ∧ t = sign :: rest ∧ TimeShape rest := by
  cases t with
  | nil => exact .inl rfl
  | cons c rest =>
    rw [isoZone] at h
    by_cases hz : c.val = 0x5A
    · rw [if_pos hz] at h
      split_ifs at h with hend
      rw [List.isEmpty_iff.mp hend]
      exact .inr (.inl ⟨c, hz, rfl⟩)
    · rw [if_neg hz] at h
      cases htime : isoTime rest with
      | none =>
        rw [htime] at h
        cases h
      | some time => exact .inr (.inr ⟨c, rest, hz, rfl, isoTime_shape htime⟩)

/-! ## The whole -/

/-- A text that is read is a date, or a date, any one character, and a time with its zone. -/
theorem fromisoformat_split {t : Text} {dt : DateTime} (h : fromisoformat t = some dt) :
    DateShape t ∨ ∃ date separator rest time offset, t = date ++ separator :: rest ∧
      date.length = separatorIndex t ∧ DateShape date ∧
      isoTime (rest.takeWhile fun c => !isZoneMark c) = some time ∧
      isoZone (rest.dropWhile fun c => !isZoneMark c) = some offset := by
  rw [fromisoformat] at h
  split_ifs at h with hshort
  simp only [Option.bind_eq_bind, Option.bind_eq_some_iff] at h
  obtain ⟨date, hdate, h⟩ := h
  split_ifs at h with hend
  · rw [List.take_of_length_le hend] at hdate
    exact .inl (isoDate_shape hdate)
  · simp only [List.span_eq_takeWhile_dropWhile, Option.bind_eq_some_iff] at h
    obtain ⟨time, htime, offset, hzone, -⟩ := h
    have hlt : separatorIndex t < t.length := by omega
    refine .inr ⟨t.take (separatorIndex t), t[separatorIndex t], t.drop (separatorIndex t + 1),
      time, offset, ?_, ?_, isoDate_shape hdate, htime, hzone⟩
    · rw [← List.drop_eq_getElem_cons hlt, List.take_append_drop]
    · rw [List.length_take]
      omega

/-- The last character of a text that is read. -/
theorem fromisoformat_ends {t : Text} {dt : DateTime} (h : fromisoformat t = some dt) :
    ∃ front last, t = front ++ [last] ∧ (isDigit last = true ∨ last.val = 0x5A) := by
  obtain hdate | ⟨date, separator, rest, time, offset, hsplit, -, -, htime, hzone⟩ :=
    fromisoformat_split h
  · obtain ⟨front, last, hlast, hdigit⟩ := hdate.ends
    exact ⟨front, last, hlast, .inl hdigit⟩
  · have hrest : (rest.takeWhile fun c => !isZoneMark c) ++
        (rest.dropWhile fun c => !isZoneMark c) = rest := List.takeWhile_append_dropWhile
    obtain hnone | ⟨z, hz, hutc⟩ | ⟨sign, zone, -, hsign, hshape⟩ := isoZone_shape hzone
    · obtain ⟨front, last, hlast, hdigit⟩ := (isoTime_shape htime).ends
      rw [hnone, List.append_nil, hlast] at hrest
      refine ⟨date ++ separator :: front, last, ?_, .inl hdigit⟩
      rw [hsplit, ← hrest, List.append_assoc, List.cons_append]
    · rw [hutc] at hrest
      refine ⟨date ++ separator :: (rest.takeWhile fun c => !isZoneMark c), z, ?_, .inr hz⟩
      rw [hsplit, List.append_assoc, List.cons_append, hrest]
    · obtain ⟨front, last, hlast, hdigit⟩ := hshape.ends
      rw [hsign, hlast] at hrest
      refine ⟨date ++ separator :: ((rest.takeWhile fun c => !isZoneMark c) ++ sign :: front), last,
        ?_, .inl hdigit⟩
      rw [hsplit, List.append_assoc, List.cons_append, List.append_assoc, List.cons_append, hrest]

theorem fromisoformat_starts {t : Text} {dt : DateTime} (h : fromisoformat t = some dt) :
    StartsDigit t := by
  obtain hdate | ⟨date, separator, rest, time, offset, rfl, -, hdate, -, -⟩ := fromisoformat_split h
  · exact hdate.starts
  · exact hdate.starts.append (separator :: rest)

/-! ## A `Z` that is not the last -/

/-- A `Z` before the end of a zone or a time is not read. -/
theorem not_read_before_end {rest front behind : Text} {z : CodePoint}
    {time : ℕ × ℕ × ℕ × ℕ} {offset : Option ℤ} (hz : z.val = 0x5A) (hbehind : behind ≠ [])
    (htime : isoTime (rest.takeWhile fun c => !isZoneMark c) = some time)
    (hzone : isoZone (rest.dropWhile fun c => !isZoneMark c) = some offset) :
    rest ≠ front ++ z :: behind := by
  intro hrest
  have htime := (isoTime_shape htime).parts.not_mem hz (by decide)
  have hsplit : (rest.takeWhile fun c => !isZoneMark c) ++ (rest.dropWhile fun c => !isZoneMark c) =
      front ++ z :: behind := List.takeWhile_append_dropWhile.trans hrest
  -- the mark is in the zone, since the time has none
  obtain ⟨middle, hmiddle⟩ : ∃ middle, (rest.dropWhile fun c => !isZoneMark c) =
      middle ++ z :: behind := by
    obtain ⟨middle, -, hmiddle⟩ | ⟨middle, hmiddle, hzone⟩ := List.append_eq_append_iff.mp hsplit
    · exact ⟨middle, hmiddle⟩
    · cases middle with
      | nil => exact ⟨[], hzone.symm⟩
      | cons c middle =>
        cases hzone
        rw [hmiddle] at htime
        exact absurd (by simp) htime
  obtain hnone | ⟨z', -, hutc⟩ | ⟨sign, zone, hsign, hsigned, hshape⟩ := isoZone_shape hzone
  · rw [hnone] at hmiddle
    cases middle <;> cases hmiddle
  · rw [hutc] at hmiddle
    cases middle with
    | nil =>
      cases hmiddle
      exact hbehind rfl
    | cons c middle => cases middle <;> cases hmiddle
  · rw [hsigned] at hmiddle
    cases middle with
    | nil =>
      cases hmiddle
      exact hsign hz
    | cons c middle =>
      cases hmiddle
      exact hshape.parts.not_mem hz (by decide) (by simp)

/-- A `Z` before the end is the character between the date and the time. -/
theorem separator_of_read {date rest : Text} {z : CodePoint} {dt : DateTime} (hz : z.val = 0x5A)
    (hrest : rest ≠ []) (h : fromisoformat (date ++ z :: rest) = some dt) :
    date.length = separatorIndex (date ++ z :: rest) ∧ DateShape date ∧
      ∃ time, isoTime (rest.takeWhile fun c => !isZoneMark c) = some time := by
  obtain hdate | ⟨date', separator, rest', time, offset, hsplit, hlength, hdate, htime, hzone⟩ :=
    fromisoformat_split h
  · exact absurd (by simp) (hdate.parts.not_mem hz (by decide))
  · obtain ⟨middle, rfl, hmiddle⟩ | ⟨middle, hmiddle, hbehind⟩ :=
      List.append_eq_append_iff.mp hsplit
    · cases middle with
      | nil =>
        cases hmiddle
        rw [List.append_nil] at hlength hdate
        exact ⟨hlength, hdate, time, htime⟩
      | cons c middle =>
        cases hmiddle
        exact absurd (by simp) (hdate.parts.not_mem hz (by decide))
    · cases middle with
      | nil =>
        cases hbehind
        rw [List.append_nil] at hmiddle
        subst hmiddle
        exact ⟨hlength, hdate, time, htime⟩
      | cons c middle =>
        cases hbehind
        exact absurd rfl (not_read_before_end hz hrest htime hzone)

theorem separatorIndex_ge (t : Text) : 7 ≤ separatorIndex t := by
  unfold separatorIndex
  dsimp only
  split_ifs <;> omega

/-- Where a date ends does not depend on what follows it, as long as that goes on with no digit and
no dash. -/
theorem separatorIndex_behind {date rest rest' : Text} {c c' : CodePoint}
    (hc : isDigit c = false ∧ c.val ≠ 0x2D) (hc' : isDigit c' = false ∧ c'.val ≠ 0x2D)
    (h : date.length = separatorIndex (date ++ c :: rest)) :
    separatorIndex (date ++ c' :: rest') = date.length := by
  have hseven : 7 ≤ date.length := h ▸ separatorIndex_ge _
  have hdigits (d : CodePoint) (hd : isDigit d = false) (t : Text) :
      ((date ++ d :: t).drop 7).takeWhile isDigit = (date.drop 7).takeWhile isDigit := by
    rw [List.drop_append_of_le_length hseven, List.takeWhile_append,
      List.takeWhile_cons_of_neg (by simp [hd]), List.append_nil]
    split_ifs with hall
    · exact ((List.takeWhile_prefix _).eq_of_length hall).symm
    · rfl
  have hinside (d : CodePoint) (t : Text) {i : ℕ} (hi : i < 7) : (date ++ d :: t)[i]? = date[i]? :=
    List.getElem?_append_left (by omega)
  have hbehind (d : CodePoint) (t : Text) : (date ++ d :: t)[date.length]? = some d := by
    rw [List.getElem?_append_right le_rfl, Nat.sub_self]
    rfl
  have hlong (d : CodePoint) (t : Text) : (date ++ d :: t).length ≠ 7 := by
    rw [List.length_append, List.length_cons]
    omega
  unfold separatorIndex at h ⊢
  simp only [hdigits _ hc.1, hdigits _ hc'.1, hinside _ _ (show 4 < 7 by decide),
    hinside _ _ (show 5 < 7 by decide), if_neg (hlong _ _)] at h ⊢
  by_cases hdash : date[4]?.any (·.val == 0x2D) = true
  · by_cases hweek : date[5]?.any (·.val == 0x57) = true
    · rw [if_pos hdash, if_pos hweek] at h ⊢
      -- the dash of a weekday stands inside of the date, and what is behind the date is no digit
      by_cases height : date.length = 8
      · have hno : ¬(date ++ c' :: rest')[8]?.any (·.val == 0x2D) = true := by
          rw [← height, hbehind]
          simpa using hc'.2
        rw [if_neg hno, height]
      · split_ifs at h with hday hten
        · exact absurd h height
        · have hday' (d : CodePoint) (t : Text) : (date ++ d :: t)[8]? = date[8]? :=
            List.getElem?_append_left (by omega)
          have hno : ¬(date ++ c' :: rest')[10]?.any isDigit = true := by
            rw [← h, hbehind]
            simp [hc'.1]
          rw [hday'] at hday ⊢
          rw [if_pos hday, if_neg hno, h]
        · exact absurd h height
    · rw [if_pos hdash, if_neg hweek] at h ⊢
      exact h.symm
  · rw [if_neg hdash] at h ⊢
    exact h.symm

/-- Midnight with a digit right after it is no time. -/
theorem isoTime_midnight {c : CodePoint} (hc : isDigit c = true) (t : Text) :
    isoTime (text "00:00" ++ c :: t) = none := by
  have hcolon : c.val ≠ 0x3A := by
    intro hcolon
    simp [isDigit, hcolon] at hc
  have hhour : takeNumber 2 (text "00:00" ++ c :: t) = some (0, text ":00" ++ c :: t) := rfl
  have hminute : takeNumber 2 (text "00" ++ c :: t) = some (0, c :: t) := rfl
  have hmark : dropIf 0x3A (text ":00" ++ c :: t) = (true, text "00" ++ c :: t) := rfl
  have hnone : dropIf 0x3A (c :: t) = (false, c :: t) := by rw [dropIf, if_neg hcolon]
  rw [isoTime, hhour, Option.bind_eq_bind, Option.bind_some]
  simp only [hmark, Option.bind_eq_bind, hminute, Option.bind_some, hnone]
  rfl

/-- A date and a time on both sides of a `Z` are read; with an offset put between them they are
not. -/
theorem fromisoformat_offset_inside {date rest behind : Text} {z c : CodePoint} {dt : DateTime}
    (hz : z.val = 0x5A) (hrest : rest ≠ []) (h : fromisoformat (date ++ z :: rest) = some dt)
    (hc : isDigit c = true) : fromisoformat (date ++ (text "+00:00" ++ c :: behind)) = none := by
  obtain ⟨hlength, -, -⟩ := separator_of_read hz hrest h
  have hplus : text "+00:00" ++ c :: behind = ⟨0x2B, by decide⟩ :: (text "00:00" ++ c :: behind) :=
    rfl
  rw [hplus]
  by_contra hread
  obtain ⟨dt', hread⟩ := Option.ne_none_iff_exists'.mp hread
  obtain hdate | ⟨date', separator, rest', time, offset, hsplit, hlength', -, htime, -⟩ :=
    fromisoformat_split hread
  · obtain hdigit | hmark := hdate.parts ⟨0x2B, by decide⟩ (by simp)
    · revert hdigit
      decide
    · revert hmark
      decide
  · have hsame := @separatorIndex_behind _ _ (text "00:00" ++ c :: behind) _
      ⟨0x2B, by decide⟩ ⟨by simp [isDigit, hz], by simp [hz]⟩ (by decide)
      hlength
    obtain ⟨-, hbehind⟩ := List.append_inj hsplit (hlength'.trans hsame).symm
    cases hbehind
    have hzone : (!isZoneMark c) = true := by
      simp only [isDigit, Bool.and_eq_true, decide_eq_true_eq] at hc
      simp only [isZoneMark, Bool.not_eq_true', Bool.or_eq_false_iff, beq_eq_false_iff_ne]
      omega
    have hmidnight : ∀ d ∈ text "00:00", (!isZoneMark d) = true := List.all_eq_true.mp (by decide)
    rw [List.takeWhile_append_of_pos hmidnight, List.takeWhile_cons, hzone, if_pos rfl,
      isoTime_midnight hc] at htime
    cases htime

end Python
