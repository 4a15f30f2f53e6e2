import Mathlib.Tactic.Ring

/-!
# Floats and their text

A Python float is a binary64 number, which is Lean's `Float`. The functions
here are the conversions to integers and to text.
-/

namespace Python
open Float.Model

/-- `|x|` as a fraction, of a finite `x`. -/
def magnitude (x : Float) : ℕ × ℕ :=
  match x.toModel.unpack with
  | .finite _ mantissa (.ofNat e) _ => (mantissa * 2 ^ e, 1)
  | .finite _ mantissa (.negSucc e) _ => (mantissa, 2 ^ (e + 1))
  | _ => (0, 1)

def isNegative (x : Float) : Bool :=
  match x.toModel.unpack with
  | .finite sign .. => (sign matches .negative)
  | .zero sign => (sign matches .negative)
  | .infinity sign => (sign matches .negative)
  | .notANumber => false

/-- `math.trunc(x)`, of a finite `x`. -/
def trunc (x : Float) : ℤ :=
  let n : ℤ := ((magnitude x).1 / (magnitude x).2 : ℕ)
  if isNegative x then -n else n

/-- `a / b` of two integers: the quotient rounded once. -/
def trueDiv (a b : ℤ) (hb : b ≠ 0) : Float :=
  if ha : a = 0 then Float.ofInt 0
  else
    let unpacked (n : ℤ) (hn : n ≠ 0) : UnpackedFloat :=
      .finite (if n < 0 then .negative else .positive) n.natAbs 0 (Int.natAbs_pos.mpr hn)
    .ofModel (pack (.div .binary64 (unpacked a ha) (unpacked b hb)))

def roundHalfEven (num den : ℕ) : ℕ :=
  let q := num / den
  let r := num % den
  if 2 * r < den then q else if den < 2 * r then q + 1 else q + q % 2

def padLeft (width : ℕ) (s : String) : String :=
  String.ofList (List.replicate (width - s.length) '0') ++ s

/-- `f"{x:.kf}"` -/
def fixed (k : ℕ) (x : Float) : String :=
  if x.isNaN then "nan"
  else
    let sign := if isNegative x then "-" else ""
    if x.isInf then sign ++ "inf"
    else
      let (num, den) := magnitude x
      let digits := padLeft (k + 1) (toString (roundHalfEven (num * 10 ^ k) den))
      let point := digits.length - k
      sign ++ String.ofList (digits.toList.take point) ++ "." ++
        String.ofList (digits.toList.drop point)

/-- The `p` with `10 ^ (p - 1) ≤ num / den < 10 ^ p`. -/
def decimalPoint (num den : ℕ) : ℤ :=
  if den ≤ num then (toString (num / den)).length
  else
    let l := (toString (den / num)).length
    if den ≤ num * 10 ^ (l - 1) then 2 - l else 1 - l

/-- The shortest `(digits, exponent)` whose decimal `digits * 10 ^ exponent` is
read back as the positive finite `x`. -/
def shortestDigits (x : Float) : ℕ × ℤ :=
  let (num, den) := magnitude x
  let p := decimalPoint num den
  let candidates (n : ℕ) : List (ℕ × ℤ) :=
    let s : ℤ := n - p
    let a := num * 10 ^ s.toNat
    let b := den * 10 ^ (-s).toNat
    let low := a / b
    let nearest := roundHalfEven a b
    [(nearest, -s), (if nearest = low then low + 1 else low, -s)]
  let readsBack (c : ℕ × ℤ) : Bool := Float.ofScientific c.1 (c.2 < 0) c.2.natAbs == x
  let (digits, exponent) :=
    (((List.range 17).flatMap fun n => candidates (n + 1)).find? readsBack).getD (0, 0)
  -- rounding up to a power of ten leaves one zero behind
  if digits % 10 = 0 then (digits / 10, exponent + 1) else (digits, exponent)

/-- `repr(x)`: positional for decimal exponents -4 to 15, else scientific. -/
def floatRepr (x : Float) : String :=
  if x.isNaN then "nan"
  else
    let sign := if isNegative x then "-" else ""
    if x.isInf then sign ++ "inf"
    else if x == 0 then sign ++ "0.0"
    else
      let (digits, exponent) := shortestDigits x.abs
      let ds := (toString digits).toList
      let p : ℤ := ds.length + exponent
      let zeros (k : ℤ) := List.replicate k.toNat '0'
      let body :=
        if -4 < p ∧ p ≤ 16 then
          if p ≤ 0 then "0." ++ String.ofList (zeros (-p) ++ ds)
          else if (ds.length : ℤ) ≤ p then String.ofList (ds ++ zeros (p - ds.length)) ++ ".0"
          else String.ofList (ds.take p.toNat) ++ "." ++ String.ofList (ds.drop p.toNat)
        else
          let e := p - 1
          String.ofList (ds.take 1) ++ (if ds.length = 1 then "" else ".") ++
            String.ofList (ds.drop 1) ++ "e" ++ (if e < 0 then "-" else "+") ++
            padLeft 2 (toString e.natAbs)
      sign ++ body

/-- `round(x, k)` -/
def roundTo (k : ℕ) (x : Float) : Float :=
  if x.isNaN || x.isInf then x
  else
    let (num, den) := magnitude x
    let r := Float.ofScientific (roundHalfEven (num * 10 ^ k) den) true k
    if isNegative x then -r else r

/-! ## Order -/

theorem compare_finite_swap (e e' : ℤ) (m m' : ℕ) :
    ((compare e e').then (compare m m')).swap = (compare e' e).then (compare m' m) := by
  rw [Ordering.swap_then, Int.compare_swap, Nat.compare_swap]

/-- The comparison the other way round. -/
theorem compare_of_lt {x y : UnpackedFloat} (h : x.compare y = some .lt) :
    y.compare x = some .gt := by
  cases x with
  | notANumber => cases h
  | infinity s => cases s <;> cases y with
    | infinity s' => cases s' <;> first | rfl | cases h
    | _ => first | rfl | cases h
  | zero s => cases y with
    | infinity s' => cases s' <;> first | rfl | cases h
    | finite s' => cases s' <;> first | rfl | cases h
    | _ => cases h
  | finite s m e hm => cases y with
    | infinity s' => cases s' <;> cases s <;> first | rfl | cases h
    | zero => cases s <;> first | rfl | cases h
    | notANumber => cases s <;> cases h
    | finite s' m' e' hm' =>
      cases s <;> cases s'
      · have horder : ((compare e e').then (compare m m')).swap = .lt := Option.some.inj h
        have hother : ((compare e' e).then (compare m' m)).swap = .gt := by
          rw [← compare_finite_swap, horder]
          rfl
        exact congrArg some hother
      · rfl
      · cases h
      · have horder : (compare e e').then (compare m m') = .lt := Option.some.inj h
        have hother : (compare e' e).then (compare m' m) = .gt := by
          rw [← compare_finite_swap, horder]
          rfl
        exact congrArg some hother

/-- The two comparisons exclude each other, whatever is not a number. -/
theorem not_le_of_lt {x y : Float} (h : x < y) : ¬y ≤ x := by
  have hlt : x.toModel.unpack.compare y.toModel.unpack = some .lt := by
    have hmodel : x.toModel.unpack.lt y.toModel.unpack = true := of_decide_eq_true h
    exact eq_of_beq hmodel
  intro hle
  have hle : (y.toModel.unpack.compare x.toModel.unpack).any (·.isLE) = true := of_decide_eq_true hle
  rw [compare_of_lt hlt] at hle
  cases hle

end Python
