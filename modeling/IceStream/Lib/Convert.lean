import IceStream.Lib.JsonLoads

/-!
# `str`, `int` and `float`

The conversions of a value that came out of JSON. What they need of the Unicode
database is a parameter.
-/

namespace Python

/-- The decimal value of a code point, and whether `repr` shows it as it is. -/
structure Unicode where
  digit : CodePoint → Option (Fin 10)
  printable : CodePoint → Bool

/-- The database cut down to ASCII. -/
def Unicode.ascii : Unicode where
  digit c := if isDigit c then some (Fin.ofNat 10 (c.val - 48)) else none
  printable c := 0x20 ≤ c.val && c.val ≤ 0x7E

/-! ## `str` -/

def hex8 (n : ℕ) : String := hex4 (n / 0x10000) ++ hex4 (n % 0x10000)

/-- The quotation mark `repr` puts around `t`. -/
def quoteOf (t : Text) : CodePoint :=
  if t.any (·.val == 0x27) && !t.any (·.val == 0x22) then codePoint 0x22
  else codePoint 0x27

/-- A character of `repr(t)`, within the marks `quote`. -/
def reprChar (u : Unicode) (quote c : CodePoint) : Text :=
  if c = quote ∨ c.val = 0x5C then [codePoint 0x5C, c]
  else if c.val = 0x09 then "\\t"
  else if c.val = 0x0A then "\\n"
  else if c.val = 0x0D then "\\r"
  else if c.val < 0x20 ∨ c.val = 0x7F then text ("\\x" ++ hex2 (UInt8.ofNat c.val))
  else if c.val < 0x7F ∨ u.printable c then [c]
  else if c.val ≤ 0xFF then text ("\\x" ++ hex2 (UInt8.ofNat c.val))
  else if c.val ≤ 0xFFFF then text ("\\u" ++ hex4 c.val)
  else text ("\\U" ++ hex8 c.val)

/-- `repr(t)` -/
def reprText (u : Unicode) (t : Text) : Text :=
  [quoteOf t] ++ t.flatMap (reprChar u (quoteOf t)) ++ [quoteOf t]

mutual

/-- `repr(v)` -/
def Json.repr (u : Unicode) : Json → Text
  | .null => "None"
  | .bool b => if b then "True" else "False"
  | .int i => text (toString i)
  | .float f => text (floatRepr f)
  | .str s => reprText u s
  | .arr xs => text "[" ++ (text ", ").intercalate (reprList u xs) ++ text "]"
  | .obj kvs => text "\x7b" ++ (text ", ").intercalate (reprItems u kvs) ++ text "\x7d"

def reprList (u : Unicode) : List Json → List Text
  | [] => []
  | x :: xs => x.repr u :: reprList u xs

def reprItems (u : Unicode) : List (Text × Json) → List Text
  | [] => []
  | p :: ps => (reprText u p.1 ++ text ": " ++ p.2.repr u) :: reprItems u ps

end

/-- `str(v)` -/
def Json.toText (u : Unicode) : Json → Text
  | .str s => s
  | v => v.repr u

/-! ## `int` and `float` -/

/-- What the conversions skip at both ends: the spaces of C, and beyond ASCII
those of Unicode. -/
def isNumberSpace (c : CodePoint) : Bool :=
  if c.val < 0x80 then (9 ≤ c.val && c.val ≤ 13) || c.val == 32 else isSpace c

/-- The ASCII text a number is read from: digits of any script, spaces cut off. -/
def numberText (u : Unicode) (t : Text) : Text :=
  let ascii (c : CodePoint) : CodePoint :=
    if c.val < 0x80 then c
    else match u.digit c with
      | some d => codePoint (48 + d.val)
      | none => c
  ((t.dropWhile isNumberSpace).reverse.dropWhile isNumberSpace).reverse.map ascii

/-- The digits a text starts with, an underscore allowed between two of them,
and what follows. -/
def takeDigits : Text → Text × Text
  | [] => ([], [])
  | c :: rest =>
    if isDigit c then
      match rest with
      | us :: d :: rest' =>
        if us.val = 0x5F ∧ isDigit d then
          let (ds, tail) := takeDigits (d :: rest')
          (c :: ds, tail)
        else
          let (ds, tail) := takeDigits (us :: d :: rest')
          (c :: ds, tail)
      | rest =>
        let (ds, tail) := takeDigits rest
        (c :: ds, tail)
    else ([], c :: rest)

/-- An optional sign, and what follows. -/
def takeSign : Text → Bool × Text
  | [] => (false, [])
  | c :: rest => if c.val = 0x2D then (true, rest) else if c.val = 0x2B then (false, rest)
    else (false, c :: rest)

/-- `int(t)` -/
def intOfText (u : Unicode) (t : Text) : Except Exc ℤ :=
  let (neg, rest) := takeSign (numberText u t)
  let (ds, tail) := takeDigits rest
  if ds.isEmpty || !tail.isEmpty then
    .error (valueError (text "invalid literal for int() with base 10: " ++ reprText u t))
  else if maxStrDigits < ds.length then
    .error (valueError (text s!"Exceeds the limit (4300 digits) for integer string conversion: value has {ds.length} digits; use sys.set_int_max_str_digits() to increase the limit"))
  else .ok (if neg then -(digitsVal ds : ℤ) else digitsVal ds)

/-- The magnitude a float's text stands for, behind its sign. -/
def unsignedFloat (t : Text) : Option Float :=
  if lower t = "inf" ∨ lower t = "infinity" then some (1 / 0)
  else if lower t = "nan" then some (0 / 0)
  else
    let (whole, rest) := takeDigits t
    let (frac, rest) := if rest.head?.any (·.val == 0x2E) then takeDigits (rest.drop 1)
      else ([], rest)
    if whole.isEmpty && frac.isEmpty then none
    else
      let x (exponent : ℤ) : Float :=
        let e := exponent - frac.length
        Float.ofScientific (digitsVal (whole ++ frac)) (e < 0) e.natAbs
      match rest with
      | [] => some (x 0)
      | e :: rest =>
        if e.val = 0x65 ∨ e.val = 0x45 then
          let (neg, rest) := takeSign rest
          let (expo, tail) := takeDigits rest
          if expo.isEmpty || !tail.isEmpty then none
          else some (x (if neg then -(digitsVal expo : ℤ) else digitsVal expo))
        else none

/-- `float(t)` -/
def floatOfText (u : Unicode) (t : Text) : Except Exc Float :=
  let (neg, rest) := takeSign (numberText u t)
  match unsignedFloat rest with
  | some x => .ok (if neg then -x else x)
  | none => .error (valueError (text "could not convert string to float: " ++ reprText u t))

/-- `float(i)` -/
def floatOfInt (i : ℤ) : Except Exc Float :=
  let x := trueDiv i 1 (by decide)
  if x.isInf then .error (overflowError "int too large to convert to float") else .ok x

/-- `int(v)` -/
def Json.toInt (u : Unicode) : Json → Except Exc ℤ
  | .bool b => .ok (if b then 1 else 0)
  | .int i => .ok i
  | .float f =>
    if f.isNaN then .error (valueError "cannot convert float NaN to integer")
    else if f.isInf then .error (overflowError "cannot convert float infinity to integer")
    else .ok (trunc f)
  | .str s => intOfText u s
  | v => .error (typeError (text s!"int() argument must be a string, a bytes-like object or a real number, not '{v.typeName}'"))

/-- `float(v)` -/
def Json.toFloat (u : Unicode) : Json → Except Exc Float
  | .bool b => .ok (if b then 1 else 0)
  | .int i => floatOfInt i
  | .float f => .ok f
  | .str s => floatOfText u s
  | v => .error (typeError (text s!"float() argument must be a string or a real number, not '{v.typeName}'"))

end Python
