import IceStream.Lib.Dates

/-!
# Instants from seconds

`datetime.fromtimestamp` takes seconds as a float and keeps microseconds of them.
-/

namespace Python

/-- The microseconds of a number of seconds: the whole ones, and the rest rounded. -/
def microsOfSeconds (seconds : Float) : ℤ :=
  let whole := trunc seconds
  let rest := (seconds - Float.ofInt whole) * 1000000
  let micros : ℤ := roundHalfEven (magnitude rest).1 (magnitude rest).2
  whole * 1000000 + if isNegative rest then -micros else micros

/-- The instants that a `datetime` has. -/
def IsInstant (t : Instant) : Prop := minInstant ≤ t ∧ t ≤ maxInstant

instance (t : Instant) : Decidable (IsInstant t) :=
  inferInstanceAs (Decidable (_ ∧ _))

/-- What `datetime.fromtimestamp` raises behind its years. -/
def yearError : Exc := valueError "year is out of range"

example : microsOfSeconds (trueDiv 1789905600123 1000 (by decide)) = 1789905600123000 := by
  decide +kernel

end Python
