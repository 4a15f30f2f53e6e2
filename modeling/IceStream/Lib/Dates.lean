import IceStream.Lib.JsonLoads
import Mathlib.Tactic.IntervalCases

/-!
# Dates and their ISO text

A `datetime` has a date, a time of day and maybe an offset from UTC. Without an offset it
names no instant until someone says what it is relative to. Instants are microseconds
from 1970 in UTC, of the years 1 to 9999.
-/

namespace Python

/-! ## The calendar -/

def isLeap (year : ℕ) : Bool := year % 4 == 0 && (year % 100 != 0 || year % 400 == 0)

def daysInMonth (year month : ℕ) : ℕ :=
  if month = 2 then if isLeap year then 29 else 28
  else if month = 4 ∨ month = 6 ∨ month = 9 ∨ month = 11 then 30
  else 31

/-- The days in the years before `year`, from the year 1 on. -/
def daysBeforeYear (year : ℕ) : ℕ :=
  let y := year - 1
  y * 365 + y / 4 - y / 100 + y / 400

def daysBeforeMonth (year month : ℕ) : ℕ :=
  ((List.range (month - 1)).map fun m => daysInMonth year (m + 1)).sum

/-- The ordinal of a date; that of the first day of the year 1 is 1. -/
def toOrdinal (year month day : ℕ) : ℕ := daysBeforeYear year + daysBeforeMonth year month + day

/-- The month and the day of the `n`th day of a year, counted from 0. -/
def monthAndDay (year n : ℕ) : ℕ × ℕ :=
  let month := ((List.range 12).takeWhile fun m => decide (daysBeforeMonth year (m + 1) ≤ n)).length
  (month, n - daysBeforeMonth year month + 1)

/-- The year, the month and the day of an ordinal. -/
def fromOrdinal (ordinal : ℕ) : ℕ × ℕ × ℕ :=
  -- a year is at most 366 days long, and the guess is at most one too small
  let guess := (ordinal - 1) * 400 / 146097 + 1
  let year := if ordinal ≤ daysBeforeYear guess then guess - 1
    else if daysBeforeYear (guess + 1) < ordinal then guess + 1 else guess
  (year, monthAndDay year (ordinal - 1 - daysBeforeYear year))

/-! ## `datetime` -/

def microsPerDay : ℤ := 86400000000

structure DateTime where
  year : ℕ
  month : ℕ
  day : ℕ
  hour : ℕ := 0
  minute : ℕ := 0
  second : ℕ := 0
  microsecond : ℕ := 0
  /-- In microseconds. -/
  offset : Option ℤ := none
  year_range : 1 ≤ year ∧ year ≤ 9999
  month_range : 1 ≤ month ∧ month ≤ 12
  day_range : 1 ≤ day ∧ day ≤ daysInMonth year month
  time_range : hour < 24 ∧ minute < 60 ∧ second < 60 ∧ microsecond < 1000000
  offset_range : ∀ o ∈ offset, -microsPerDay < o ∧ o < microsPerDay

abbrev Instant := ℤ

def minInstant : Instant := -62135596800000000
def maxInstant : Instant := 253402300799999999

/-- `t + timedelta(microseconds=delta)` -/
def addMicros (t : Instant) (delta : ℤ) : Except Exc Instant :=
  if minInstant ≤ t + delta ∧ t + delta ≤ maxInstant then .ok (t + delta)
  else .error (overflowError "date value out of range")

namespace DateTime

/-- The reading of the clock on the wall, as if it were UTC. -/
def wall (dt : DateTime) : Instant :=
  (((toOrdinal dt.year dt.month dt.day : ℤ) - 719163) * 86400 + dt.hour * 3600 + dt.minute * 60 +
    dt.second) * 1000000 + dt.microsecond

/-- `astimezone(timezone.utc)`, or for want of an offset `replace(tzinfo=timezone.utc)`. -/
def utc (dt : DateTime) : Except Exc Instant :=
  match dt.offset with
  | none => .ok dt.wall
  | some offset => if offset = 0 then .ok dt.wall else addMicros dt.wall (-offset)

/-- `+HH:MM`, with the seconds where there are some. -/
def isoOffset (offset : ℤ) : String :=
  let micros := offset.natAbs
  let seconds := micros / 1000000
  (if offset < 0 then "-" else "+") ++ padLeft 2 (toString (seconds / 3600)) ++ ":" ++
    padLeft 2 (toString (seconds / 60 % 60)) ++
    (if micros % 60000000 = 0 then "" else ":" ++ padLeft 2 (toString (seconds % 60))) ++
    (if micros % 1000000 = 0 then "" else "." ++ padLeft 6 (toString (micros % 1000000)))

/-- `isoformat()` -/
def isoformat (dt : DateTime) : String :=
  padLeft 4 (toString dt.year) ++ "-" ++ padLeft 2 (toString dt.month) ++ "-" ++
    padLeft 2 (toString dt.day) ++ "T" ++ padLeft 2 (toString dt.hour) ++ ":" ++
    padLeft 2 (toString dt.minute) ++ ":" ++ padLeft 2 (toString dt.second) ++
    (if dt.microsecond = 0 then "" else "." ++ padLeft 6 (toString dt.microsecond)) ++
    (match dt.offset with
      | none => ""
      | some offset => isoOffset offset)

end DateTime

/-! ## The last instant -/

theorem daysInMonth_le (year month : ℕ) : daysInMonth year month ≤ 31 := by
  unfold daysInMonth
  split_ifs <;> omega

/-- A day of the year, from 1 to 366 at most. -/
theorem dayOfYear_le {year month day : ℕ} (hmonth : 1 ≤ month ∧ month ≤ 12)
    (hday : day ≤ daysInMonth year month) :
    daysBeforeMonth year month + day ≤ 365 + (isLeap year).toNat := by
  obtain ⟨hlow, hhigh⟩ := hmonth
  interval_cases month <;> cases hleap : isLeap year <;>
    simp [daysBeforeMonth, daysInMonth, List.range_succ, hleap] at hday ⊢ <;> omega

theorem toOrdinal_le {year month day : ℕ} (hyear : year ≤ 9999) (hmonth : 1 ≤ month ∧ month ≤ 12)
    (hday : day ≤ daysInMonth year month) : toOrdinal year month day ≤ 3652059 := by
  have hle := dayOfYear_le hmonth hday
  have hyears : daysBeforeYear year + 365 + (isLeap year).toNat ≤ 3652059 := by
    obtain rfl | hlt := eq_or_lt_of_le hyear
    · decide
    · have hleap : (isLeap year).toNat ≤ 1 := Bool.toNat_le _
      simp only [daysBeforeYear]
      omega
  simp only [toOrdinal]
  omega

theorem DateTime.wall_le (dt : DateTime) : dt.wall ≤ maxInstant := by
  have hordinal := toOrdinal_le dt.year_range.2 dt.month_range dt.day_range.2
  obtain ⟨hhour, hminute, hsecond, hmicrosecond⟩ := dt.time_range
  change ((((toOrdinal dt.year dt.month dt.day : ℤ) - 719163) * 86400 + dt.hour * 3600 +
    dt.minute * 60 + dt.second) * 1000000 + dt.microsecond : ℤ) ≤ 253402300799999999
  omega

theorem addMicros_le {t t' : Instant} {delta : ℤ} (h : addMicros t delta = .ok t') :
    t' ≤ maxInstant := by
  rw [addMicros] at h
  split_ifs at h with hrange
  cases h
  exact hrange.2

theorem DateTime.utc_le {dt : DateTime} {t : Instant} (h : dt.utc = .ok t) : t ≤ maxInstant := by
  rw [DateTime.utc] at h
  split at h
  · cases h
    exact dt.wall_le
  · split_ifs at h
    · cases h
      exact dt.wall_le
    · exact addMicros_le h

/-! ## Reading -/

/-- A number of `n` digits, and what follows. -/
def takeNumber (n : ℕ) (t : Text) : Option (ℕ × Text) :=
  let ds := t.take n
  if ds.length = n ∧ ds.all isDigit then some (digitsVal ds, t.drop n) else none

/-- What follows a `c` at the front, where there is one. -/
def dropIf (c : ℕ) (t : Text) : Bool × Text :=
  match t with
  | [] => (false, [])
  | d :: rest => if d.val = c then (true, rest) else (false, t)

/-- The date of a week and a weekday by ISO 8601. -/
def isoWeekDate (year week day : ℕ) : Option (ℕ × ℕ × ℕ) :=
  let first := toOrdinal year 1 1
  -- weekdays from Monday, counted from 0
  let weekday := (first + 6) % 7
  let long := weekday = 3 ∨ weekday = 2 ∧ isLeap year
  if 1 ≤ year ∧ year ≤ 9999 ∧ 1 ≤ week ∧ (week ≤ 52 ∨ week = 53 ∧ long) ∧ 1 ≤ day ∧ day ≤ 7 then
    let monday := if weekday ≤ 3 then first - weekday else first + 7 - weekday
    some (fromOrdinal (monday + (week - 1) * 7 + (day - 1)))
  else none

/-- The date part: `YYYY-MM-DD`, `YYYY-Www` or `YYYY-Www-D`, each also without dashes. -/
def isoDate (t : Text) : Option (ℕ × ℕ × ℕ) := do
  let (year, t) ← takeNumber 4 t
  let (dashed, t) := dropIf 0x2D t
  let (isWeek, t) := dropIf 0x57 t
  if isWeek then
    let (week, t) ← takeNumber 2 t
    if t.isEmpty then isoWeekDate year week 1
    else
      let (dash, t) := dropIf 0x2D t
      let (day, t) ← takeNumber 1 t
      if dash = dashed ∧ t.isEmpty then isoWeekDate year week day else none
  else
    let (month, t) ← takeNumber 2 t
    let (dash, t) := dropIf 0x2D t
    let (day, t) ← takeNumber 2 t
    if dash = dashed ∧ t.isEmpty then some (year, month, day) else none

/-- The microseconds of `.fff`; digits past the sixth are cut off. -/
def isoFraction : Text → Option ℕ
  | [] => some 0
  | c :: ds =>
    if (c.val = 0x2E ∨ c.val = 0x2C) ∧ !ds.isEmpty ∧ ds.all isDigit then
      some (digitsVal (ds.take 6) * 10 ^ (6 - ds.length))
    else none

/-- `HH`, `HH:MM` or `HH:MM:SS` with a fraction, each also without colons. -/
def isoTime (t : Text) : Option (ℕ × ℕ × ℕ × ℕ) := do
  let (hour, t) ← takeNumber 2 t
  if t.isEmpty then pure (hour, 0, 0, 0)
  else
    let (separated, t) := dropIf 0x3A t
    let (minute, t) ← takeNumber 2 t
    if t.isEmpty then pure (hour, minute, 0, 0)
    else
      let (separator, t) := dropIf 0x3A t
      if separator = separated then
        let (second, t) ← takeNumber 2 t
        let microsecond ← isoFraction t
        pure (hour, minute, second, microsecond)
      else none

/-- `Z`, or a sign and a time. -/
def isoZone : Text → Option (Option ℤ)
  | [] => some none
  | c :: t => do
    if c.val = 0x5A then if t.isEmpty then pure (some 0) else none
    else
      let (hour, minute, second, microsecond) ← isoTime t
      let micros : ℤ := ((hour * 60 + minute) * 60 + second) * 1000000 + microsecond
      pure (some (if c.val = 0x2D then -micros else micros))

/-- Where the date ends. -/
def separatorIndex (t : Text) : ℕ :=
  let digitAt (i : ℕ) : Bool := t[i]?.any isDigit
  let charAt (i c : ℕ) : Bool := t[i]?.any (·.val == c)
  if t.length = 7 then 7
  else if charAt 4 0x2D then
    if charAt 5 0x57 then
      -- `YYYY-Www-D`, or a week and a time behind a dash
      if charAt 8 0x2D then if digitAt 10 then 8 else 10
      else 8
    else 10
  else if charAt 4 0x57 then
    let stop := 7 + ((t.drop 7).takeWhile isDigit).length
    if stop < 9 then stop else if stop % 2 = 0 then 7 else 8
  else 8

def isZoneMark (c : CodePoint) : Bool := c.val == 0x2B || c.val == 0x2D || c.val == 0x5A

/-- The numbers as a `datetime`, where they are in range. -/
def mkDateTime (date : ℕ × ℕ × ℕ) (time : ℕ × ℕ × ℕ × ℕ) (offset : Option ℤ) : Option DateTime :=
  let (year, month, day) := date
  let (hour, minute, second, microsecond) := time
  if h : (1 ≤ year ∧ year ≤ 9999) ∧ (1 ≤ month ∧ month ≤ 12) ∧
      (1 ≤ day ∧ day ≤ daysInMonth year month) ∧
      (hour < 24 ∧ minute < 60 ∧ second < 60 ∧ microsecond < 1000000) ∧
      ∀ o ∈ offset, -microsPerDay < o ∧ o < microsPerDay then
    some ⟨year, month, day, hour, minute, second, microsecond, offset, h.1, h.2.1, h.2.2.1,
      h.2.2.2.1, h.2.2.2.2⟩
  else none

/-- `datetime.fromisoformat(t)`; where there is none it raises a `ValueError`. What stands
between the date and the time may be any character. -/
def fromisoformat (t : Text) : Option DateTime :=
  if t.length < 7 then none
  else do
    let i := separatorIndex t
    let date ← isoDate (t.take i)
    if t.length ≤ i then mkDateTime date (0, 0, 0, 0) none
    else
      let (time, zone) := (t.drop (i + 1)).span fun c => !isZoneMark c
      let time ← isoTime time
      let offset ← isoZone zone
      mkDateTime date time offset

end Python
