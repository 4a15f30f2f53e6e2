import IceStream.Lib.Json

/-!
# `json.loads`

A scanner cuts the text into tokens, each with its offset, and a stack of open
containers consumes them from the left; so the first thing that is wrong is the
one that is reported.
-/

namespace Python

/-- What makes `json.loads` raise: a `JSONDecodeError` at an offset, or what
converting a number or entering a container raised. -/
inductive JsonError
  | decode (message : String) (pos : ℕ)
  | raised (e : Exc)

/-- The exception, whose text counts lines and columns from one. -/
def JsonError.exc (doc : Text) : JsonError → Exc
  | .decode message pos =>
    let before := (doc.take pos).map Fin.val
    let line := before.count 10 + 1
    let column := (before.reverse.takeWhile (· != 10)).length + 1
    ⟨"JSONDecodeError", true, text s!"{message}: line {line} column {column} (char {pos})"⟩
  | .raised e => e

inductive Token
  | lbrace
  | rbrace
  | lbracket
  | rbracket
  | comma
  | colon
  | str (t : Text)
  | atom (v : Json)
  /-- A text that does not end, or holds what it may not. -/
  | badStr (e : JsonError)
  | bad (e : JsonError)
  | eof

/-! ## Texts -/

def hexVal (c : CodePoint) : Option ℕ :=
  if 48 ≤ c.val ∧ c.val ≤ 57 then some (c.val - 48)
  else if 97 ≤ c.val ∧ c.val ≤ 102 then some (c.val - 87)
  else if 65 ≤ c.val ∧ c.val ≤ 70 then some (c.val - 55)
  else none

def hex4Val (a b c d : CodePoint) : Option ℕ := do
  let a ← hexVal a
  let b ← hexVal b
  let c ← hexVal c
  let d ← hexVal d
  pure (((a * 16 + b) * 16 + c) * 16 + d)

/-- The code point of a one-letter escape. -/
def escaped (c : CodePoint) : Option ℕ :=
  match c.val with
  | 0x22 => some 0x22
  | 0x5C => some 0x5C
  | 0x2F => some 0x2F
  | 0x62 => some 0x08
  | 0x66 => some 0x0C
  | 0x6E => some 0x0A
  | 0x72 => some 0x0D
  | 0x74 => some 0x09
  | _ => none

/-- The text from `pos` on, up to its closing quote; `start` is the opening one.
The result ends with the offset behind the closing quote. -/
def scanString (start pos : ℕ) (acc : Text) : Text → Except JsonError (Text × ℕ)
  | [] => .error (.decode "Unterminated string starting at" start)
  | c :: rest =>
    if c.val = 0x22 then .ok (acc.reverse, pos + 1)
    else if c.val ≤ 0x1F then .error (.decode "Invalid control character at" pos)
    else if c.val ≠ 0x5C then scanString start (pos + 1) (c :: acc) rest
    else match rest with
    | [] => .error (.decode "Unterminated string starting at" start)
    | e :: rest =>
      if e.val ≠ 0x75 then
        match escaped e with
        | some n => scanString start (pos + 2) (codePoint n :: acc) rest
        | none => .error (.decode "Invalid \\escape" pos)
      else match rest with
      | h₁ :: h₂ :: h₃ :: h₄ :: next :: rest =>
        match hex4Val h₁ h₂ h₃ h₄ with
        | none => .error (.decode "Invalid \\uXXXX escape" (pos + 1))
        | some u =>
          let single := scanString start (pos + 6) (codePoint u :: acc) (next :: rest)
          if u < 0xD800 ∨ 0xDBFF < u ∨ next.val ≠ 0x5C then single
          else match rest with
          | v :: k₁ :: k₂ :: k₃ :: k₄ :: next' :: rest =>
            if v.val ≠ 0x75 then single
            else match hex4Val k₁ k₂ k₃ k₄ with
            | none => .error (.decode "Invalid \\uXXXX escape" (pos + 7))
            | some w =>
              if w < 0xDC00 ∨ 0xDFFF < w then single
              else scanString start (pos + 12)
                (codePoint (0x10000 + (u - 0xD800) * 0x400 + (w - 0xDC00)) :: acc) (next' :: rest)
          | _ => single
      | _ => .error (.decode "Invalid \\uXXXX escape" (pos + 1))

/-! ## Numbers -/

def isDigit (c : CodePoint) : Bool := 48 ≤ c.val && c.val ≤ 57

def digitsVal (ds : Text) : ℕ := ds.foldl (fun n d => n * 10 + (d.val - 48)) 0

/-- Longer integers are refused by `int`. -/
def maxStrDigits : ℕ := 4300

/-- The longest number a text starts with, and its length. -/
def scanNumber (cs : Text) : Option (Except Exc Json × ℕ) :=
  let neg := cs.head?.any (·.val == 0x2D)
  let cs := if neg then cs.drop 1 else cs
  let whole := if cs.head?.any (·.val == 48) then cs.take 1 else cs.takeWhile isDigit
  if whole.isEmpty then none
  else
    let rest := cs.drop whole.length
    let frac := if rest.head?.any (·.val == 0x2E) then (rest.drop 1).takeWhile isDigit else []
    let rest := if frac.isEmpty then rest else rest.drop (frac.length + 1)
    let signed := rest.head?.any fun c => c.val == 0x65 || c.val == 0x45
    let sign := if signed then (rest.drop 1).take 1 |>.filter fun c => c.val == 0x2B || c.val == 0x2D
      else []
    let expo := if signed then (rest.drop (1 + sign.length)).takeWhile isDigit else []
    let length := (if neg then 1 else 0) + whole.length +
      (if frac.isEmpty then 0 else frac.length + 1) +
      (if expo.isEmpty then 0 else 1 + sign.length + expo.length)
    if frac.isEmpty && expo.isEmpty then
      if maxStrDigits < whole.length then
        some (.error (valueError (text s!"Exceeds the limit (4300 digits) for integer string conversion: value has {whole.length} digits; use sys.set_int_max_str_digits() to increase the limit")), length)
      else
        let n : ℤ := digitsVal whole
        some (.ok (.int (if neg then -n else n)), length)
    else
      let e : ℤ := if sign.head?.any (·.val == 0x2D) then -(digitsVal expo : ℤ) else digitsVal expo
      let e := e - frac.length
      let x := Float.ofScientific (digitsVal (whole ++ frac)) (e < 0) e.natAbs
      some (.ok (.float (if neg then -x else x)), length)

/-! ## Tokens -/

def isJsonSpace (c : CodePoint) : Bool :=
  c.val == 0x20 || c.val == 0x09 || c.val == 0x0A || c.val == 0x0D

/-- The words of JSON, `NaN` and the infinities among them. -/
def words : List (Text × Json) :=
  [(text "null", .null), (text "true", .bool true), (text "false", .bool false),
    (text "NaN", .float (0 / 0)), (text "Infinity", .float (1 / 0)),
    (text "-Infinity", .float (-1 / 0))]

/-- The token at a code point that is not a space, and its length. -/
def scanToken (pos : ℕ) (c : CodePoint) (rest : Text) : Token × ℕ :=
  match c.val with
  | 0x7B => (.lbrace, 1)
  | 0x7D => (.rbrace, 1)
  | 0x5B => (.lbracket, 1)
  | 0x5D => (.rbracket, 1)
  | 0x2C => (.comma, 1)
  | 0x3A => (.colon, 1)
  | 0x22 =>
    match scanString pos (pos + 1) [] rest with
    | .ok (t, stop) => (.str t, stop - pos)
    | .error e => (.badStr e, rest.length + 1)
  | _ =>
    match words.find? fun w => w.1.isPrefixOf (c :: rest) with
    | some (word, v) => (.atom v, word.length)
    | none =>
      match scanNumber (c :: rest) with
      | some (.ok v, length) => (.atom v, length)
      | some (.error e, _) => (.bad (.raised e), rest.length + 1)
      | none => (.bad (.decode "Expecting value" pos), rest.length + 1)

/-- The tokens from `pos` on; the next `skip` code points belong to the last one. -/
def scan (skip pos : ℕ) : Text → List (ℕ × Token)
  | [] => [(pos, .eof)]
  | c :: rest =>
    match skip with
    | skip + 1 => scan skip (pos + 1) rest
    | 0 =>
      if isJsonSpace c then scan 0 (pos + 1) rest
      else
        let (token, length) := scanToken pos c rest
        (pos, token) :: scan (length - 1) (pos + 1) rest

/-! ## Values -/

inductive Frame
  /-- An array, its items so far in reverse. -/
  | arr (items : List Json)
  /-- An object, its members so far, waiting for the value of `key`. -/
  | obj (members : Dict) (key : Text)

inductive Expect
  | value
  /-- Right behind `[`. -/
  | item
  /-- A key; right behind the opening brace, also its end. -/
  | key (members : Dict) (first : Bool)
  | colon (members : Dict) (key : Text)
  /-- A value is complete. -/
  | next (v : Json)

def nestingError (what : String) : JsonError :=
  .raised (recursionError
    (text s!"maximum recursion depth exceeded while decoding a JSON {what} from a unicode string"))

/-- What follows a token where a value is expected, with `depth` containers open. -/
def startValue (limit depth pos : ℕ) : Token → Except JsonError (Expect × List Frame)
  | .str t => .ok (.next (.str t), [])
  | .atom v => .ok (.next v, [])
  | .lbrace => if depth < limit then .ok (.key [] true, []) else .error (nestingError "object")
  | .lbracket => if depth < limit then .ok (.item, [.arr []]) else .error (nestingError "array")
  | .badStr e => .error e
  | .bad e => .error e
  | _ => .error (.decode "Expecting value" pos)

/-- One token: the new expectation and stack, or the value of the whole text. -/
def consume (limit pos : ℕ) (token : Token) (stack : List Frame) :
    Expect → Except JsonError (Json ⊕ Expect × List Frame)
  | .value => (startValue limit stack.length pos token).map fun r => .inr (r.1, r.2 ++ stack)
  | .item =>
    match token, stack with
    | .rbracket, _ :: stack => .ok (.inr (.next (.arr []), stack))
    -- the array just opened is on the stack already
    | _, _ => (startValue limit stack.length pos token).map fun r => .inr (r.1, r.2 ++ stack)
  | .key members first =>
    match token with
    | .str k => .ok (.inr (.colon members k, stack))
    | .badStr e => .error e
    | .rbrace =>
      if first then .ok (.inr (.next (.obj members), stack))
      else .error (.decode "Expecting property name enclosed in double quotes" pos)
    | _ => .error (.decode "Expecting property name enclosed in double quotes" pos)
  | .colon members k =>
    match token with
    | .colon => .ok (.inr (.value, .obj members k :: stack))
    | _ => .error (.decode "Expecting ':' delimiter" pos)
  | .next v =>
    match stack with
    | [] =>
      match token with
      | .eof => .ok (.inl v)
      | _ => .error (.decode "Extra data" pos)
    | .arr items :: stack =>
      match token with
      | .rbracket => .ok (.inr (.next (.arr (v :: items).reverse), stack))
      | .comma => .ok (.inr (.value, .arr (v :: items) :: stack))
      | _ => .error (.decode "Expecting ',' delimiter" pos)
    | .obj members k :: stack =>
      match token with
      | .rbrace => .ok (.inr (.next (.obj (members.set k v)), stack))
      | .comma => .ok (.inr (.key (members.set k v) false, stack))
      | _ => .error (.decode "Expecting ',' delimiter" pos)

def parse (limit : ℕ) : List (ℕ × Token) → Expect → List Frame → Except JsonError Json
  | [], _, _ => .error (.decode "Expecting value" 0)
  | (pos, token) :: rest, expect, stack =>
    match consume limit pos token stack expect with
    | .error e => .error e
    | .ok (.inl v) => .ok v
    | .ok (.inr (expect, stack)) => parse limit rest expect stack

/-- `json.loads(doc)`; `limit` is how deep containers may nest before the
interpreter's recursion limit. -/
def loads (limit : ℕ) (doc : Text) : Except Exc Json :=
  if doc.head?.any (·.val == 0xFEFF) then
    .error ((JsonError.decode "Unexpected UTF-8 BOM (decode using utf-8-sig)" 0).exc doc)
  else
    (parse limit (scan 0 0 doc) .value []).mapError (·.exc doc)

end Python
