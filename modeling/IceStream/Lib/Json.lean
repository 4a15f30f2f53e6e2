import IceStream.Lib.Bytes
import IceStream.Lib.Float

/-!
# JSON values and their text

`dumps` follows `json.dumps` with `ensure_ascii`: its result is ASCII whatever
the text in the value.
-/

namespace Python

inductive Json
  | null
  | bool (b : Bool)
  | int (i : ℤ)
  | float (f : Float)
  | str (s : Text)
  | arr (xs : List Json)
  | obj (kvs : List (Text × Json))

instance : Inhabited Json := ⟨.null⟩

/-- A `dict` with text keys, in insertion order. -/
abbrev Dict := List (Text × Json)

namespace Dict

/-- `d.get(k)` -/
def get? (d : Dict) (k : Text) : Option Json := d.lookup k

/-- `d.get(k, default)` -/
def getD (d : Dict) (k : Text) (default : Json) : Json := (d.lookup k).getD default

/-- `k in d` -/
def has (d : Dict) (k : Text) : Bool := (d.lookup k).isSome

/-- `d[k] = v`: a present key keeps its place. -/
def set (d : Dict) (k : Text) (v : Json) : Dict :=
  match d with
  | [] => [(k, v)]
  | (k', v') :: rest => if k' = k then (k', v) :: rest else (k', v') :: set rest k v

theorem get?_set (d : Dict) (k : Text) (v : Json) : (d.set k v).get? k = some v := by
  induction d with
  | nil => simp [set, get?]
  | cons p rest ih =>
    obtain ⟨k', v'⟩ := p
    by_cases h : k' = k
    · simp [set, get?, h]
    · have h' : (k == k') = false := by simpa using Ne.symm h
      simpa [set, get?, List.lookup_cons, h, h'] using ih

theorem get?_set_of_ne (d : Dict) {k k' : Text} (v : Json) (h : k' ≠ k) :
    (d.set k v).get? k' = d.get? k' := by
  induction d with
  | nil =>
    have h' : (k' == k) = false := by simpa using h
    simp [set, get?, List.lookup_cons, h']
  | cons p rest ih =>
    obtain ⟨k₀, v₀⟩ := p
    by_cases h₀ : k₀ = k
    · have h' : (k' == k₀) = false := by simpa [h₀] using h
      simp [set, get?, List.lookup_cons, h₀, h₀ ▸ h']
    · simp only [set, h₀, ↓reduceIte, get?, List.lookup_cons]
      cases k' == k₀ with
      | true => rfl
      | false => exact ih

end Dict

/-- `bool(v)` -/
def Json.truthy : Json → Bool
  | .null => false
  | .bool b => b
  | .int i => i != 0
  | .float f => !(f == 0)
  | .str s => !s.isEmpty
  | .arr xs => !xs.isEmpty
  | .obj kvs => !kvs.isEmpty

/-- `v or default` -/
def Json.orElse (v default : Json) : Json := if v.truthy then v else default

/-- `type(v).__name__` -/
def Json.typeName : Json → String
  | .null => "NoneType"
  | .bool _ => "bool"
  | .int _ => "int"
  | .float _ => "float"
  | .str _ => "str"
  | .arr _ => "list"
  | .obj _ => "dict"

/-- The values `for x in v` runs over. -/
def Json.iter : Json → Except Exc (List Json)
  | .arr xs => .ok xs
  | .str s => .ok (s.map fun c => .str [c])
  | .obj kvs => .ok (kvs.map fun p => .str p.1)
  | v => .error (typeError (text s!"'{v.typeName}' object is not iterable"))

/-- A truthy value that is iterable has something to iterate over. -/
theorem Json.iter_ne_nil {v : Json} {xs : List Json} (htruthy : v.truthy = true)
    (h : v.iter = .ok xs) : xs ≠ [] := by
  rintro rfl
  cases v with
  | arr items =>
    obtain rfl : items = [] := by simpa [Json.iter] using h
    cases htruthy
  | str s =>
    obtain rfl : s = [] := by simpa [Json.iter] using h
    cases htruthy
  | obj kvs =>
    obtain rfl : kvs = [] := by simpa [Json.iter] using h
    cases htruthy
  | _ => cases h

/-! ## `json.dumps` -/

def hex4 (n : ℕ) : String :=
  String.ofList [hexDigit (n / 4096 % 16), hexDigit (n / 256 % 16), hexDigit (n / 16 % 16),
    hexDigit (n % 16)]

/-- One code point inside a quoted text; past the basic plane, a surrogate pair. -/
def escapeCodePoint (c : CodePoint) : String :=
  if c.val = 0x22 then "\\\""
  else if c.val = 0x5C then "\\\\"
  else if c.val = 0x0A then "\\n"
  else if c.val = 0x0D then "\\r"
  else if c.val = 0x09 then "\\t"
  else if c.val = 0x08 then "\\b"
  else if c.val = 0x0C then "\\f"
  else if 0x20 ≤ c.val ∧ c.val ≤ 0x7E then String.singleton (Char.ofNat c.val)
  else if c.val < 0x10000 then "\\u" ++ hex4 c.val
  else
    let v := c.val - 0x10000
    "\\u" ++ hex4 (0xD800 + v / 1024) ++ "\\u" ++ hex4 (0xDC00 + v % 1024)

def quoteText (t : Text) : String := "\"" ++ String.join (t.map escapeCodePoint) ++ "\""

/-- The text of a float in JSON. -/
def dumpFloat (f : Float) : String :=
  if f.isNaN then "NaN"
  else if f.isInf then if isNegative f then "-Infinity" else "Infinity"
  else floatRepr f

/-- Keys in code-point order, as `sort_keys` leaves them. -/
def sortItems {α : Type} (items : List (Text × α)) : List (Text × α) :=
  items.insertionSort fun a b => a.1 ≤ b.1

mutual

/-- `json.dumps(v, sort_keys=sortKeys)` -/
def Json.dumps (sortKeys : Bool) : Json → String
  | .null => "null"
  | .bool b => if b then "true" else "false"
  | .int i => toString i
  | .float f => dumpFloat f
  | .str s => quoteText s
  | .arr xs => "[" ++ ", ".intercalate (dumpsList sortKeys xs) ++ "]"
  | .obj kvs =>
    let items := dumpsItems sortKeys kvs
    "\x7b" ++ ", ".intercalate ((if sortKeys then sortItems items else items).map
      fun p => quoteText p.1 ++ ": " ++ p.2) ++ "\x7d"

def dumpsList (sortKeys : Bool) : List Json → List String
  | [] => []
  | x :: xs => x.dumps sortKeys :: dumpsList sortKeys xs

def dumpsItems (sortKeys : Bool) : List (Text × Json) → List (Text × String)
  | [] => []
  | p :: ps => (p.1, p.2.dumps sortKeys) :: dumpsItems sortKeys ps

end

end Python
