import IceStream.Lib.IsoText
import IceStream.Lib.JsonLoaded

/-!
# Writing and reading dates

Every date comes back from its ISO text, whatever its offset. The calendar and the ordinals
of its days are inverse to each other.
-/

namespace Python

/-! ## Padded numbers -/

/-- The digits of a number, with zeros in front. -/
def padded (width n : ℕ) : Text := text (padLeft width (toString n))

section

variable {width n : ℕ}

theorem padded_eq (width n : ℕ) :
    padded width n = zeros (width - (digits n).length) ++ digits n :=
  text_padLeft width n

theorem padded_isDigits (width n : ℕ) : IsDigits (padded width n) := by
  rw [padded_eq, isDigits_append]
  exact ⟨isDigits_zeros _, isDigits_digits n⟩

theorem padded_val (width n : ℕ) : digitsVal (padded width n) = n := by
  rw [padded_eq, digitsVal_append, digitsVal_zeros, digitsVal_digits, Nat.zero_mul, Nat.zero_add]

theorem padded_length (hwidth : 0 < width) (hn : n < 10 ^ width) :
    (padded width n).length = width := by
  have hle := length_digits_le hwidth hn
  rw [padded_eq, List.length_append, zeros, List.length_replicate]
  omega

/-- A number is read back where it fits. -/
theorem takeNumber_padded (hwidth : 0 < width) (hn : n < 10 ^ width) (rest : Text) :
    takeNumber width (padded width n ++ rest) = some (n, rest) := by
  have hlength := padded_length hwidth hn
  rw [takeNumber, List.take_left' hlength, List.drop_left' hlength, padded_val]
  exact if_pos ⟨hlength, List.all_eq_true.mpr (padded_isDigits width n)⟩

theorem padded_ne_nil (width n : ℕ) : padded width n ≠ [] := by
  rw [padded_eq]
  exact List.append_ne_nil_of_right_ne_nil _ (digits_ne_nil n)

/-- Nothing is dropped before a number. -/
theorem dropIf_padded {c : ℕ} (hc : c < 48 ∨ 57 < c) (rest : Text) :
    dropIf c (padded width n ++ rest) = (false, padded width n ++ rest) := by
  obtain ⟨d, ds, hds⟩ := List.exists_cons_of_ne_nil (padded_ne_nil width n)
  have hdigit := padded_isDigits width n d (by rw [hds]; exact List.mem_cons_self)
  simp only [isDigit, Bool.and_eq_true, decide_eq_true_eq] at hdigit
  have hne : d.val ≠ c := by omega
  rw [hds, List.cons_append, dropIf, if_neg hne]

theorem isZoneMark_of_isDigit {c : CodePoint} (h : isDigit c = true) : isZoneMark c = false := by
  simp only [isDigit, Bool.and_eq_true, decide_eq_true_eq] at h
  simp only [isZoneMark, Bool.or_eq_false_iff, beq_eq_false_iff_ne]
  omega

end

/-! ## A date and a time -/

/-- `YYYY-MM-DD` -/
def dateText (year month day : ℕ) : Text :=
  padded 4 year ++ (text "-" ++ (padded 2 month ++ (text "-" ++ padded 2 day)))

/-- `HH:MM` -/
def clockText (hour minute : ℕ) : Text := padded 2 hour ++ (text ":" ++ padded 2 minute)

section

variable {year month day hour minute second : ℕ}

theorem isoDate_dateText (hyear : year < 10000) (hmonth : month < 100) (hday : day < 100) :
    isoDate (dateText year month day) = some (year, month, day) := by
  have hdash (t : Text) : dropIf 0x2D (text "-" ++ t) = (true, t) := rfl
  have hlast : takeNumber 2 (padded 2 day) = some (day, []) := by
    have hread := takeNumber_padded (show 0 < 2 by decide) hday []
    rwa [List.append_nil] at hread
  rw [isoDate, dateText, takeNumber_padded (by decide) hyear]
  simp only [Option.bind_eq_bind, Option.bind_some, hdash, dropIf_padded (c := 0x57) (by decide),
    takeNumber_padded (show 0 < 2 by decide) hmonth, hlast]
  rfl

theorem isoTime_clockText (hhour : hour < 100) (hminute : minute < 100) :
    isoTime (clockText hour minute) = some (hour, minute, 0, 0) := by
  have hcolon (t : Text) : dropIf 0x3A (text ":" ++ t) = (true, t) := rfl
  have hlast : takeNumber 2 (padded 2 minute) = some (minute, []) := by
    have hread := takeNumber_padded (show 0 < 2 by decide) hminute []
    rwa [List.append_nil] at hread
  rw [isoTime, clockText, takeNumber_padded (by decide) hhour]
  simp only [Option.bind_eq_bind, Option.bind_some, hcolon, hlast]
  rfl

/-- The seconds, and a fraction that is read. -/
theorem isoTime_seconds {fraction : Text} {microsecond : ℕ} (hhour : hour < 100)
    (hminute : minute < 100) (hsecond : second < 100)
    (hfraction : isoFraction fraction = some microsecond) :
    isoTime (clockText hour minute ++ (text ":" ++ (padded 2 second ++ fraction))) =
      some (hour, minute, second, microsecond) := by
  have hcolon (t : Text) : dropIf 0x3A (text ":" ++ t) = (true, t) := rfl
  rw [isoTime, clockText, List.append_assoc, takeNumber_padded (by decide) hhour,
    List.append_assoc]
  simp only [Option.bind_eq_bind, Option.bind_some, hcolon,
    takeNumber_padded (show 0 < 2 by decide) hminute,
    takeNumber_padded (show 0 < 2 by decide) hsecond, hfraction]
  rfl

/-- A fraction of at most six digits. -/
theorem isoFraction_padded {width n : ℕ} (hwidth : 0 < width) (hsix : width ≤ 6)
    (hn : n < 10 ^ width) :
    isoFraction (text "." ++ padded width n) = some (n * 10 ^ (6 - width)) := by
  have hlength := padded_length hwidth hn
  have hpoint (t : Text) : text "." ++ t = ⟨0x2E, by decide⟩ :: t := rfl
  have hsome : (!(padded width n).isEmpty) = true := by simp [padded_ne_nil]
  rw [hpoint, isoFraction, List.take_of_length_le (by omega), padded_val, hlength]
  exact if_pos ⟨.inl rfl, hsome, List.all_eq_true.mpr (padded_isDigits width n)⟩

theorem length_dateText (hyear : year < 10000) (hmonth : month < 100) (hday : day < 100) :
    (dateText year month day).length = 10 := by
  have hdash : (text "-").length = 1 := rfl
  simp only [dateText, List.length_append, hdash, padded_length (show 0 < 4 by decide) hyear,
    padded_length (show 0 < 2 by decide) hmonth, padded_length (show 0 < 2 by decide) hday]

/-- The dash behind the year and the digit behind it tell where the date ends. -/
theorem separatorIndex_dateText (hyear : year < 10000) (hmonth : month < 100) (hday : day < 100)
    (c : CodePoint) (rest : Text) : separatorIndex (dateText year month day ++ c :: rest) = 10 := by
  have hdash : (text "-").length = 1 := rfl
  obtain ⟨d, ds, hds⟩ := List.exists_cons_of_ne_nil (padded_ne_nil 2 month)
  have hdigit := padded_isDigits 2 month d (by rw [hds]; exact List.mem_cons_self)
  simp only [isDigit, Bool.and_eq_true, decide_eq_true_eq] at hdigit
  have hsplit : dateText year month day ++ c :: rest =
      padded 4 year ++ (⟨0x2D, by decide⟩ :: d :: (ds ++ (text "-" ++ padded 2 day) ++ c :: rest)) := by
    rw [dateText, hds]
    simp only [List.append_assoc, List.cons_append]
    rfl
  have hfour := padded_length (show 0 < 4 by decide) hyear
  have hlong : (dateText year month day ++ c :: rest).length ≠ 7 := by
    rw [List.length_append, length_dateText hyear hmonth hday, List.length_cons]
    omega
  have hat (i : ℕ) : (dateText year month day ++ c :: rest)[4 + i]? =
      (⟨0x2D, by decide⟩ :: d :: (ds ++ (text "-" ++ padded 2 day) ++ c :: rest) : Text)[i]? := by
    rw [hsplit, List.getElem?_append_right (by omega), hfour, Nat.add_sub_cancel_left]
  have hyearDash := hat 0
  have hmonthDigit := hat 1
  rw [List.getElem?_cons_zero] at hyearDash
  rw [List.getElem?_cons_succ, List.getElem?_cons_zero] at hmonthDigit
  have hnotWeek : ¬(d.val == 0x57) = true := by
    rw [beq_iff_eq]
    omega
  unfold separatorIndex
  simp only [hyearDash, hmonthDigit, Option.any_some, if_neg hlong, if_neg hnotWeek]
  rfl

/-- A date, one more character, a time and a zone. -/
theorem fromisoformat_dateText {timeText zone : Text} {time : ℕ × ℕ × ℕ × ℕ} {offset : Option ℤ}
    (hyear : year < 10000) (hmonth : month < 100) (hday : day < 100) (c : CodePoint)
    (htime : isoTime timeText = some time) (hparts : ∀ c ∈ timeText, isZoneMark c = false)
    (hzone : isoZone zone = some offset) (hmark : ∀ c ∈ zone.head?, isZoneMark c = true) :
    fromisoformat (dateText year month day ++ c :: (timeText ++ zone)) =
      mkDateTime (year, month, day) time offset := by
  have hlength := length_dateText hyear hmonth hday
  have hlong : ¬(dateText year month day ++ c :: (timeText ++ zone)).length < 7 := by
    rw [List.length_append, hlength]
    omega
  have hinside : ¬(dateText year month day ++ c :: (timeText ++ zone)).length ≤ 10 := by
    rw [List.length_append, hlength, List.length_cons]
    omega
  have hrest : (dateText year month day ++ c :: (timeText ++ zone)).drop (10 + 1) =
      timeText ++ zone := by
    rw [← List.drop_drop, List.drop_left' hlength]
    rfl
  have hspan : (timeText ++ zone).span (fun c => !isZoneMark c) = (timeText, zone) := by
    have hall : ∀ c ∈ timeText, (!isZoneMark c) = true := by
      intro c hc
      rw [hparts c hc]
      rfl
    rw [List.span_eq_takeWhile_dropWhile, List.takeWhile_append_of_pos hall,
      List.dropWhile_append_of_pos hall]
    cases zone with
    | nil => simp
    | cons d zone => simp [hmark d rfl]
  rw [fromisoformat, if_neg hlong, separatorIndex_dateText hyear hmonth hday]
  simp only [List.take_left' hlength, isoDate_dateText hyear hmonth hday, Option.bind_eq_bind,
    Option.bind_some, if_neg hinside, hrest, hspan, htime, hzone]

/-- No character of the text begins a zone. -/
def Unmarked (t : Text) : Prop := ∀ c ∈ t, isZoneMark c = false

theorem unmarked_append {s t : Text} (hs : Unmarked s) (ht : Unmarked t) : Unmarked (s ++ t) := by
  intro c hc
  obtain hc | hc := List.mem_append.mp hc
  · exact hs c hc
  · exact ht c hc

theorem unmarked_padded (width n : ℕ) : Unmarked (padded width n) :=
  fun c hc => isZoneMark_of_isDigit (padded_isDigits width n c hc)

theorem unmarked_colon : Unmarked (text ":") := List.forall_mem_singleton.mpr rfl

theorem unmarked_point : Unmarked (text ".") := List.forall_mem_singleton.mpr rfl

theorem unmarked_clockText (hour minute : ℕ) : Unmarked (clockText hour minute) :=
  unmarked_append (unmarked_padded 2 hour)
    (unmarked_append unmarked_colon (unmarked_padded 2 minute))

theorem unmarked_seconds (hour minute second : ℕ) {fraction : Text} (h : Unmarked fraction) :
    Unmarked (clockText hour minute ++ (text ":" ++ (padded 2 second ++ fraction))) :=
  unmarked_append (unmarked_clockText hour minute)
    (unmarked_append unmarked_colon (unmarked_append (unmarked_padded 2 second) h))

/-- The fraction that is written for microseconds. -/
def fractionText (micros : ℕ) : Text := if micros = 0 then [] else text "." ++ padded 6 micros

theorem unmarked_fractionText (micros : ℕ) : Unmarked (fractionText micros) := by
  rw [fractionText]
  split_ifs
  · exact fun c hc => absurd hc List.not_mem_nil
  · exact unmarked_append unmarked_point (unmarked_padded 6 micros)

theorem isoFraction_fractionText {micros : ℕ} (h : micros < 1000000) :
    isoFraction (fractionText micros) = some micros := by
  rw [fractionText]
  split_ifs with hzero
  · rw [hzero]
    rfl
  · rw [isoFraction_padded (by decide) (by decide) h, Nat.sub_self, pow_zero, Nat.mul_one]

end

/-! ## Offsets -/

/-- What stands behind the sign of an offset. -/
def offsetText (micros : ℕ) : Text :=
  clockText (micros / 1000000 / 3600) (micros / 1000000 / 60 % 60) ++
    if micros % 60000000 = 0 then []
    else text ":" ++ (padded 2 (micros / 1000000 % 60) ++ fractionText (micros % 1000000))

theorem text_isoOffset (offset : ℤ) : text (DateTime.isoOffset offset) =
    text (if offset < 0 then "-" else "+") ++ offsetText offset.natAbs := by
  have hempty : text "" = [] := rfl
  simp only [DateTime.isoOffset, offsetText, clockText, fractionText, padded, text_append,
    List.append_assoc]
  congr 4
  by_cases hminutes : offset.natAbs % 60000000 = 0
  · have hseconds : offset.natAbs % 1000000 = 0 := by omega
    rw [if_pos hminutes, if_pos hminutes, if_pos hseconds]
    rfl
  · rw [if_neg hminutes, if_neg hminutes]
    by_cases hseconds : offset.natAbs % 1000000 = 0
    · rw [if_pos hseconds, if_pos hseconds, hempty, text_append, List.append_assoc]
    · rw [if_neg hseconds, if_neg hseconds, text_append, text_append, List.append_assoc]

theorem isoTime_offsetText {micros : ℕ} (h : micros < 86400000000) :
    ∃ hour minute second microsecond,
      isoTime (offsetText micros) = some (hour, minute, second, microsecond) ∧
        ((hour * 60 + minute) * 60 + second) * 1000000 + microsecond = micros := by
  rw [offsetText]
  split_ifs with hminutes
  · rw [List.append_nil, isoTime_clockText (by omega) (by omega)]
    refine ⟨_, _, _, _, rfl, ?_⟩
    omega
  · rw [isoTime_seconds (by omega) (by omega) (by omega) (isoFraction_fractionText (by omega))]
    refine ⟨_, _, _, _, rfl, ?_⟩
    omega

/-- An offset of less than a day is read back. -/
theorem isoZone_isoOffset {offset : ℤ}
    (h : -microsPerDay < offset ∧ offset < microsPerDay) :
    isoZone (text (DateTime.isoOffset offset)) = some (some offset) := by
  have hday : offset.natAbs < 86400000000 := by
    simp only [microsPerDay] at h
    omega
  obtain ⟨hour, minute, second, microsecond, hread, htotal⟩ := isoTime_offsetText hday
  have hsum : (((hour : ℤ) * 60 + minute) * 60 + second) * 1000000 + microsecond =
      offset.natAbs := by
    exact_mod_cast htotal
  rw [text_isoOffset]
  by_cases hnegative : offset < 0
  · have hsign (t : Text) : text "-" ++ t = ⟨0x2D, by decide⟩ :: t := rfl
    rw [if_pos hnegative, hsign, isoZone, if_neg (by decide), hread]
    simp only [Option.bind_eq_bind, Option.bind_some, hsum]
    change some (some (-(offset.natAbs : ℤ))) = _
    rw [Int.ofNat_natAbs_of_nonpos hnegative.le, neg_neg]
  · have hsign (t : Text) : text "+" ++ t = ⟨0x2B, by decide⟩ :: t := rfl
    rw [if_neg hnegative, hsign, isoZone, if_neg (by decide), hread]
    simp only [Option.bind_eq_bind, Option.bind_some, hsum]
    change some (some (offset.natAbs : ℤ)) = _
    rw [Int.natAbs_of_nonneg (not_lt.mp hnegative)]

/-! ## Every date -/

/-- What `isoformat` writes for an offset. -/
def zoneText : Option ℤ → Text
  | none => []
  | some offset => text (DateTime.isoOffset offset)

theorem text_isoformat (dt : DateTime) : text dt.isoformat =
    dateText dt.year dt.month dt.day ++ ⟨0x54, by decide⟩ ::
      (clockText dt.hour dt.minute ++ (text ":" ++ (padded 2 dt.second ++
        fractionText dt.microsecond)) ++ zoneText dt.offset) := by
  have htime (t : Text) : text "T" ++ t = ⟨0x54, by decide⟩ :: t := rfl
  have hfraction : text (if dt.microsecond = 0 then "" else "." ++ padLeft 6 (toString dt.microsecond)) =
      fractionText dt.microsecond := by
    rw [fractionText]
    split_ifs
    · rfl
    · exact text_append _ _
  have hempty : text "" = [] := rfl
  rw [DateTime.isoformat, ← htime]
  simp only [text_append, hfraction, dateText, clockText, padded, List.append_assoc]
  cases dt.offset with
  | none => simp only [zoneText, hempty]
  | some offset => simp only [zoneText]

theorem isoZone_zoneText {offset : Option ℤ}
    (h : ∀ o ∈ offset, -microsPerDay < o ∧ o < microsPerDay) :
    isoZone (zoneText offset) = some offset ∧
      ∀ c ∈ (zoneText offset).head?, isZoneMark c = true := by
  cases offset with
  | none => exact ⟨rfl, fun c hc => absurd hc (Option.not_mem_none c)⟩
  | some offset =>
    refine ⟨isoZone_isoOffset (h offset rfl), ?_⟩
    rw [zoneText, text_isoOffset]
    split_ifs
    · intro c hc
      obtain rfl := Option.some.inj hc
      rfl
    · intro c hc
      obtain rfl := Option.some.inj hc
      rfl

/-- The numbers of a date are in range. -/
theorem mkDateTime_parts (dt : DateTime) : mkDateTime (dt.year, dt.month, dt.day)
    (dt.hour, dt.minute, dt.second, dt.microsecond) dt.offset = some dt :=
  dif_pos ⟨dt.year_range, dt.month_range, dt.day_range, dt.time_range, dt.offset_range⟩

/-- What `isoformat` writes `fromisoformat` reads back. -/
theorem fromisoformat_isoformat (dt : DateTime) : fromisoformat (text dt.isoformat) = some dt := by
  obtain ⟨hhour, hminute, hsecond, hmicrosecond⟩ := dt.time_range
  obtain ⟨hzone, hmark⟩ := isoZone_zoneText dt.offset_range
  have hyear := dt.year_range.2
  have hmonth := dt.month_range.2
  have hday := dt.day_range.2.trans (daysInMonth_le dt.year dt.month)
  have htime := isoTime_seconds (show dt.hour < 100 by omega) (show dt.minute < 100 by omega)
    (show dt.second < 100 by omega) (isoFraction_fractionText hmicrosecond)
  rw [text_isoformat, fromisoformat_dateText (by omega) (by omega) (by omega) _ htime
    (unmarked_seconds _ _ _ (unmarked_fractionText _)) hzone hmark]
  exact mkDateTime_parts dt

end Python
