import IceStream.Lib.Convert

/-!
# `Decimal` of a text

What `float` reads, `Decimal` reads as well, as far as its exponents go. It also takes
underscores wherever they stand, and every kind of space at both ends.
-/

namespace Python

inductive DecimalNumber
  | finite (negative : Bool) (coefficient : ℕ) (exponent : ℤ)
  | infinity (negative : Bool)
  | notANumber

namespace DecimalNumber

/-- `x > 0`, which `NaN` has no answer for. -/
def isPositive : DecimalNumber → Bool
  | finite negative coefficient _ => !negative && coefficient != 0
  | infinity negative => !negative
  | notANumber => false

end DecimalNumber

/-- The ASCII text a decimal is read from. -/
def decimalText (u : Unicode) (t : Text) : Option Text :=
  ((strip t).filter (·.val != 0x5F)).mapM fun c =>
    if 0 < c.val ∧ c.val < 0x80 then some c
    else if isSpace c then some (codePoint 0x20)
    else (u.digit c).map fun d => codePoint (48 + d.val)

/-- Other numbers do not fit. -/
def fitsDecimal (coefficient : ℕ) (exponent : ℤ) : Bool :=
  -1999999999999999997 ≤ exponent &&
    exponent + (toString coefficient).length - 1 ≤ 999999999999999999

/-- A number without its sign: digits, with a point and an exponent maybe. -/
def unsignedDecimal (negative : Bool) (t : Text) : Option DecimalNumber :=
  let whole := t.takeWhile isDigit
  let rest := t.drop whole.length
  let point := rest.head?.any (·.val == 0x2E)
  let rest := if point then rest.drop 1 else rest
  let frac := if point then rest.takeWhile isDigit else []
  let rest := rest.drop frac.length
  let number (exponent : ℤ) : Option DecimalNumber :=
    let coefficient := digitsVal (whole ++ frac)
    if fitsDecimal coefficient (exponent - frac.length) then
      some (.finite negative coefficient (exponent - frac.length))
    else none
  if whole.isEmpty && frac.isEmpty then none
  else match rest with
  | [] => number 0
  | e :: rest =>
    if e.val = 0x65 ∨ e.val = 0x45 then
      let (neg, digits) := takeSign rest
      if digits.isEmpty || !digits.all isDigit then none
      else number (if neg then -(digitsVal digits : ℤ) else digitsVal digits)
    else none

/-- `Decimal(t)`; where there is none it raises `InvalidOperation`. -/
def decimalOfText (u : Unicode) (t : Text) : Option DecimalNumber := do
  let (negative, rest) := takeSign (← decimalText u t)
  let word := lower rest
  if word = text "inf" ∨ word = text "infinity" then pure (.infinity negative)
  else if (text "nan" <+: word ∧ (word.drop 3).all isDigit) ∨
      (text "snan" <+: word ∧ (word.drop 4).all isDigit) then pure .notANumber
  else unsignedDecimal negative rest

end Python
