import IceStream.Lib.IsoRoundTrip
import IceStream.Lib.Timestamp

/-!
# The calendar

The day of an ordinal has this ordinal, and every instant of the years 1 to 9999 is the
reading of a date in UTC.
-/

namespace Python

/-! ## Years -/

theorem isLeap_toNat (year : ℕ) : (isLeap year).toNat =
    if year % 4 = 0 ∧ (year % 100 ≠ 0 ∨ year % 400 = 0) then 1 else 0 := by
  have hleap : isLeap year = decide (year % 4 = 0 ∧ (year % 100 ≠ 0 ∨ year % 400 = 0)) := by
    rw [Bool.eq_iff_iff]
    simp [isLeap]
  rw [hleap]
  split_ifs with hyear
  · rw [decide_eq_true hyear]
    rfl
  · rw [decide_eq_false hyear]
    rfl

theorem daysBeforeYear_eq (years : ℕ) :
    daysBeforeYear (years + 1) = years * 365 + years / 4 - years / 100 + years / 400 := rfl

theorem daysBeforeYear_succ (years : ℕ) :
    daysBeforeYear (years + 2) = daysBeforeYear (years + 1) + 365 + (isLeap (years + 1)).toNat := by
  have hfour : (years + 1) / 4 = years / 4 + if (years + 1) % 4 = 0 then 1 else 0 := by
    split_ifs <;> omega
  have hhundred : (years + 1) / 100 = years / 100 + if (years + 1) % 100 = 0 then 1 else 0 := by
    split_ifs <;> omega
  have hgregorian : (years + 1) / 400 = years / 400 + if (years + 1) % 400 = 0 then 1 else 0 := by
    split_ifs <;> omega
  have hle : years / 100 ≤ years / 4 := Nat.div_le_div_left (by decide) (by decide)
  rw [isLeap_toNat, daysBeforeYear_eq (years + 1), daysBeforeYear_eq, hfour, hhundred, hgregorian]
  generalize years / 4 = four at hle ⊢
  generalize years / 100 = hundred at hle ⊢
  split_ifs <;> omega

/-- A year is 146097 / 400 days long on average. -/
theorem daysBeforeYear_mean (years : ℕ) :
    400 * daysBeforeYear (years + 1) ≤ 146097 * years + 396 ∧
      146097 * years ≤ 400 * daysBeforeYear (years + 1) + 699 := by
  have hle : years / 100 ≤ years / 4 := Nat.div_le_div_left (by decide) (by decide)
  have hfour := Nat.div_add_mod years 4
  have hhundred := Nat.div_add_mod years 100
  have hgregorian := Nat.div_add_mod years 400
  have hmod4 := Nat.mod_lt years (show 0 < 4 by decide)
  have hmod100 := Nat.mod_lt years (show 0 < 100 by decide)
  have hmod400 := Nat.mod_lt years (show 0 < 400 by decide)
  rw [daysBeforeYear_eq]
  generalize years / 4 = four at *
  generalize years / 100 = hundred at *
  generalize years / 400 = gregorian at *
  omega

/-- The year of an ordinal is the one it lies in. -/
theorem fromOrdinal_year {n : ℕ} (h : 1 ≤ n) :
    1 ≤ (fromOrdinal n).1 ∧ daysBeforeYear (fromOrdinal n).1 < n ∧
      n ≤ daysBeforeYear ((fromOrdinal n).1 + 1) := by
  -- the guess, by the mean length of a year
  obtain ⟨years, hyears⟩ : ∃ years, years = (n - 1) * 400 / 146097 := ⟨_, rfl⟩
  have hyear : (fromOrdinal n).1 = if n ≤ daysBeforeYear (years + 1) then years
      else if daysBeforeYear (years + 2) < n then years + 2 else years + 1 := by
    rw [hyears]
    rfl
  have hguess : 146097 * years ≤ 400 * (n - 1) ∧ 400 * (n - 1) < 146097 * years + 146097 := by
    omega
  have hnext := daysBeforeYear_mean (years + 2)
  by_cases hbefore : n ≤ daysBeforeYear (years + 1)
  · rw [hyear, if_pos hbefore]
    obtain _ | years := years
    · have hfirst : daysBeforeYear (0 + 1) = 0 := rfl
      omega
    · have hprevious := daysBeforeYear_mean years
      exact ⟨by omega, by omega, hbefore⟩
  · rw [hyear, if_neg hbefore]
    by_cases hbehind : daysBeforeYear (years + 2) < n
    · rw [if_pos hbehind]
      exact ⟨by omega, hbehind, by omega⟩
    · rw [if_neg hbehind]
      exact ⟨by omega, not_le.mp hbefore, not_lt.mp hbehind⟩

/-! ## Months -/

theorem daysBeforeMonth_succ (year month : ℕ) :
    daysBeforeMonth year (month + 2) =
      daysBeforeMonth year (month + 1) + daysInMonth year (month + 1) := by
  change ((List.range (month + 1)).map fun m => daysInMonth year (m + 1)).sum = _
  rw [List.range_succ, List.map_append, List.sum_append, List.map_singleton, List.sum_singleton]
  rfl

theorem daysBeforeMonth_last (year : ℕ) :
    daysBeforeMonth year 13 = 365 + (isLeap year).toNat := by
  cases hleap : isLeap year <;>
    simp [daysBeforeMonth, daysInMonth, List.range_succ, hleap]

/-- The first numbers below `n` that meet `p`: as many as there are before one that does not. -/
theorem takeWhile_range (p : ℕ → Bool) (n : ℕ) :
    ((List.range n).takeWhile p).length ≤ n ∧
      (∀ i < ((List.range n).takeWhile p).length, p i = true) ∧
      (((List.range n).takeWhile p).length < n →
        p ((List.range n).takeWhile p).length = false) := by
  have hle : (List.range n).findIdx (fun i => !p i) ≤ n := by
    have hle : (List.range n).findIdx (fun i => !p i) ≤ (List.range n).length :=
      List.findIdx_le_length
    rwa [List.length_range] at hle
  have hlength : ((List.range n).takeWhile p).length = (List.range n).findIdx fun i => !p i := by
    rw [List.takeWhile_eq_take_findIdx_not, List.length_take, List.length_range]
    exact min_eq_left hle
  rw [hlength]
  refine ⟨hle, fun i hi => ?_, fun hlt => ?_⟩
  · have hnot := List.not_of_lt_findIdx hi
    simpa using hnot
  · have hat : (List.range n).findIdx (fun i => !p i) < (List.range n).length := by
      rwa [List.length_range]
    have hfound := List.findIdx_getElem (w := hat)
    simpa using hfound

/-- A day of the year is a day of a month. -/
theorem monthAndDay_spec {year n : ℕ} (h : n < 365 + (isLeap year).toNat) :
    (1 ≤ (monthAndDay year n).1 ∧ (monthAndDay year n).1 ≤ 12) ∧
      (1 ≤ (monthAndDay year n).2 ∧
        (monthAndDay year n).2 ≤ daysInMonth year (monthAndDay year n).1) ∧
      daysBeforeMonth year (monthAndDay year n).1 + (monthAndDay year n).2 = n + 1 := by
  obtain ⟨hle, hbefore, hbehind⟩ :=
    takeWhile_range (fun m => decide (daysBeforeMonth year (m + 1) ≤ n)) 12
  rw [monthAndDay]
  dsimp only
  generalize ((List.range 12).takeWhile fun m => decide (daysBeforeMonth year (m + 1) ≤ n)).length =
    month at hle hbefore hbehind ⊢
  have hpositive : month ≠ 0 := by
    rintro rfl
    have hfirst := hbehind (by decide)
    simp [daysBeforeMonth] at hfirst
  obtain ⟨month, rfl⟩ : ∃ before, month = before + 1 := ⟨month - 1, by omega⟩
  have hstarted : daysBeforeMonth year (month + 1) ≤ n :=
    of_decide_eq_true (hbefore month (Nat.lt_succ_self month))
  have hended : n < daysBeforeMonth year (month + 2) := by
    obtain hlast | hinside := hle.eq_or_lt
    · obtain rfl : month = 11 := by omega
      rwa [daysBeforeMonth_last]
    · exact not_le.mp (of_decide_eq_false (hbehind hinside))
  rw [daysBeforeMonth_succ] at hended
  exact ⟨⟨by omega, hle⟩, ⟨by omega, by omega⟩, by omega⟩

/-! ## Days -/

/-- The date of an ordinal is a date, and has this ordinal. -/
theorem fromOrdinal_spec {n : ℕ} (h : 1 ≤ n) :
    (1 ≤ (fromOrdinal n).2.1 ∧ (fromOrdinal n).2.1 ≤ 12) ∧
      (1 ≤ (fromOrdinal n).2.2 ∧
        (fromOrdinal n).2.2 ≤ daysInMonth (fromOrdinal n).1 (fromOrdinal n).2.1) ∧
      toOrdinal (fromOrdinal n).1 (fromOrdinal n).2.1 (fromOrdinal n).2.2 = n := by
  obtain ⟨hyear, hbefore, hbehind⟩ := fromOrdinal_year h
  have hmonth : (fromOrdinal n).2 =
      monthAndDay (fromOrdinal n).1 (n - 1 - daysBeforeYear (fromOrdinal n).1) := rfl
  obtain ⟨years, hyears⟩ := Nat.exists_eq_add_of_le' hyear
  have hlength := daysBeforeYear_succ years
  rw [← hyears] at hlength
  have hnext : years + 2 = (fromOrdinal n).1 + 1 := by omega
  rw [hnext] at hlength
  obtain ⟨hmonths, hdays, hsum⟩ :=
    @monthAndDay_spec (fromOrdinal n).1 (n - 1 - daysBeforeYear (fromOrdinal n).1) (by omega)
  rw [hmonth]
  refine ⟨hmonths, hdays, ?_⟩
  rw [toOrdinal]
  omega

/-- The last day of the year 9999 is the last one. -/
theorem fromOrdinal_year_le {n : ℕ} (h : 1 ≤ n) (hn : n ≤ 3652059) : (fromOrdinal n).1 ≤ 9999 := by
  obtain ⟨-, hbefore, -⟩ := fromOrdinal_year h
  by_contra hyear
  obtain ⟨years, hyears⟩ := Nat.exists_eq_add_of_le' (show 1 ≤ (fromOrdinal n).1 by omega)
  have hlast : daysBeforeYear (9999 + 1) = 3652059 := by decide
  have hmono : daysBeforeYear (9999 + 1) ≤ daysBeforeYear (years + 1) := by
    rw [daysBeforeYear_eq, daysBeforeYear_eq]
    omega
  rw [hyears] at hbefore
  omega

/-! ## Instants -/

/-- The microseconds since the first instant. -/
def sinceFirst (t : Instant) : ℕ := (t - minInstant).toNat

/-- The date of an instant, counted in seconds since the first one. -/
def dateOfSeconds (seconds : ℕ) : ℕ × ℕ × ℕ := fromOrdinal (seconds / 86400 + 1)

theorem dateOfSeconds_spec {seconds : ℕ} (h : seconds < 3652059 * 86400) :
    (1 ≤ (dateOfSeconds seconds).1 ∧ (dateOfSeconds seconds).1 ≤ 9999) ∧
      (1 ≤ (dateOfSeconds seconds).2.1 ∧ (dateOfSeconds seconds).2.1 ≤ 12) ∧
      (1 ≤ (dateOfSeconds seconds).2.2 ∧ (dateOfSeconds seconds).2.2 ≤
        daysInMonth (dateOfSeconds seconds).1 (dateOfSeconds seconds).2.1) ∧
      toOrdinal (dateOfSeconds seconds).1 (dateOfSeconds seconds).2.1 (dateOfSeconds seconds).2.2 =
        seconds / 86400 + 1 := by
  have hfirst : 1 ≤ seconds / 86400 + 1 := Nat.le_add_left _ _
  have hlast : seconds / 86400 + 1 ≤ 3652059 := by omega
  obtain ⟨hmonth, hday, hordinal⟩ := fromOrdinal_spec hfirst
  exact ⟨⟨(fromOrdinal_year hfirst).1, fromOrdinal_year_le hfirst hlast⟩, hmonth, hday, hordinal⟩

/-- The date and the time of day in UTC. -/
theorem mkDateTime_instant {t : Instant} (h : IsInstant t) :
    ∃ dt, mkDateTime (dateOfSeconds (sinceFirst t / 1000000))
      (sinceFirst t / 1000000 / 3600 % 24, sinceFirst t / 1000000 / 60 % 60,
        sinceFirst t / 1000000 % 60, sinceFirst t % 1000000) (some 0) = some dt ∧
      dt.wall = t ∧ dt.offset = some 0 := by
  obtain ⟨hlow, hhigh⟩ := h
  have hsince : (sinceFirst t : ℤ) = t + 62135596800000000 :=
    (Int.toNat_of_nonneg (sub_nonneg.mpr hlow)).trans (sub_neg_eq_add t 62135596800000000)
  have hlast : sinceFirst t ≤ 315537897599999999 :=
    Int.toNat_le.mpr (sub_le_sub_right hhigh minInstant)
  have hseconds : sinceFirst t / 1000000 < 3652059 * 86400 := by omega
  have hdate := dateOfSeconds_spec hseconds
  generalize dateOfSeconds (sinceFirst t / 1000000) = date at hdate ⊢
  obtain ⟨year, month, day⟩ := date
  obtain ⟨hyear, hmonth, hday, hordinal⟩ := hdate
  have htime : sinceFirst t / 1000000 / 3600 % 24 < 24 ∧ sinceFirst t / 1000000 / 60 % 60 < 60 ∧
      sinceFirst t / 1000000 % 60 < 60 ∧ sinceFirst t % 1000000 < 1000000 := by
    omega
  have hoffset : ∀ o ∈ some (0 : ℤ), -microsPerDay < o ∧ o < microsPerDay := by
    intro o ho
    obtain rfl := Option.some.inj ho
    decide
  refine ⟨_, dif_pos ⟨hyear, hmonth, hday, htime, hoffset⟩, ?_, rfl⟩
  have hordinal' : toOrdinal year month day = sinceFirst t / 1000000 / 86400 + 1 := hordinal
  rw [DateTime.wall]
  dsimp only
  rw [hordinal']
  push_cast
  change @Eq ℤ _ t
  omega

end Python
