import IceStream.Lib.Python

/-!
# Bytes

`decodeUtf8` follows `bytes.decode("utf-8")`: which sequences are refused, at
which offsets, and with which text.
-/

namespace Python

abbrev Bytes := List UInt8

def hexDigit (n : ℕ) : Char := "0123456789abcdef".toList.getD n '0'

def hex2 (b : UInt8) : String := String.ofList [hexDigit (b.toNat / 16), hexDigit (b.toNat % 16)]

/-- The error for the bytes of `first` and the `count - 1` after it. -/
def unicodeDecodeError (first : UInt8) (pos count : ℕ) (reason : String) : Exc :=
  let place := if count = 1 then s!"byte 0x{hex2 first} in position {pos}"
    else s!"bytes in position {pos}-{pos + count - 1}"
  ⟨"UnicodeDecodeError", true, text s!"'utf-8' codec can't decode {place}: {reason}"⟩

def isContinuation (b : UInt8) : Bool := 0x80 ≤ b.toNat && b.toNat < 0xC0

/-- The second bytes that may follow a lead of three or four bytes: no overlong
form, no surrogate, nothing beyond the last code point. -/
def isSecond (lead second : UInt8) : Bool :=
  isContinuation second &&
    (lead != 0xE0 || 0xA0 ≤ second.toNat) && (lead != 0xED || second.toNat < 0xA0) &&
    (lead != 0xF0 || 0x90 ≤ second.toNat) && (lead != 0xF4 || second.toNat < 0x90)

def codePoint (n : ℕ) : CodePoint := Fin.ofNat 0x110000 n

def low6 (b : UInt8) : ℕ := b.toNat % 64

def decodeUtf8At (pos : ℕ) : Bytes → Except Exc Text
  | [] => .ok []
  | b :: rest =>
    let refuse (count : ℕ) (reason : String) : Except Exc Text :=
      .error (unicodeDecodeError b pos count reason)
    let emit (n : ℕ) (tail : Except Exc Text) : Except Exc Text := tail.map (codePoint n :: ·)
    if b.toNat < 0x80 then emit b.toNat (decodeUtf8At (pos + 1) rest)
    else if b.toNat < 0xC2 then refuse 1 "invalid start byte"
    else if b.toNat < 0xE0 then
      match rest with
      | [] => refuse 1 "unexpected end of data"
      | b₁ :: rest =>
        if !isContinuation b₁ then refuse 1 "invalid continuation byte"
        else emit (b.toNat % 32 * 64 + low6 b₁) (decodeUtf8At (pos + 2) rest)
    else if b.toNat < 0xF0 then
      match rest with
      | [] => refuse 1 "unexpected end of data"
      | b₁ :: rest =>
        if !isSecond b b₁ then refuse 1 "invalid continuation byte"
        else match rest with
        | [] => refuse 2 "unexpected end of data"
        | b₂ :: rest =>
          if !isContinuation b₂ then refuse 2 "invalid continuation byte"
          else emit ((b.toNat % 16 * 64 + low6 b₁) * 64 + low6 b₂) (decodeUtf8At (pos + 3) rest)
    else if b.toNat < 0xF5 then
      match rest with
      | [] => refuse 1 "unexpected end of data"
      | b₁ :: rest =>
        if !isSecond b b₁ then refuse 1 "invalid continuation byte"
        else match rest with
        | [] => refuse 2 "unexpected end of data"
        | b₂ :: rest =>
          if !isContinuation b₂ then refuse 2 "invalid continuation byte"
          else match rest with
          | [] => refuse 3 "unexpected end of data"
          | b₃ :: rest =>
            if !isContinuation b₃ then refuse 3 "invalid continuation byte"
            else emit (((b.toNat % 8 * 64 + low6 b₁) * 64 + low6 b₂) * 64 + low6 b₃)
              (decodeUtf8At (pos + 4) rest)
    else refuse 1 "invalid start byte"

/-- `payload.decode("utf-8")` -/
def decodeUtf8 (payload : Bytes) : Except Exc Text := decodeUtf8At 0 payload

/-- `str(payload)`, which for bytes is their literal. -/
def bytesStr (payload : Bytes) : String :=
  let quote : UInt8 := if payload.contains 0x27 && !payload.contains 0x22 then 0x22 else 0x27
  let show1 (b : UInt8) : String :=
    if b = quote ∨ b = 0x5C then String.ofList ['\\', Char.ofNat b.toNat]
    else if b = 0x09 then "\\t"
    else if b = 0x0A then "\\n"
    else if b = 0x0D then "\\r"
    else if b.toNat < 0x20 ∨ 0x7F ≤ b.toNat then "\\x" ++ hex2 b
    else String.singleton (Char.ofNat b.toNat)
  let q := String.singleton (Char.ofNat quote.toNat)
  "b" ++ q ++ String.join (payload.map show1) ++ q

end Python
