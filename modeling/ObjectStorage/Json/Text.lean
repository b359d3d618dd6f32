import ObjectStorage.Text.Utf8
import ObjectStorage.Json.Error

/-!
# JSON strings

`readText` reads a string after its opening quote: escapes are resolved, surrogates must come in
pairs and the result must be UTF-8. `skipText` only finds the closing quote. `printTextChars`
writes a string with the fewest escapes.
-/
namespace ObjectStorage.Json

def hexByte? (b : UInt8) : Option Nat := Bytes.hexValue? (Char.ofNat b.toNat)

def readUnit : Bytes → Except Error (Nat × Bytes)
  | a :: b :: c :: d :: r =>
    match hexByte? a, hexByte? b, hexByte? c, hexByte? d with
    | some a, some b, some c, some d => .ok (a * 4096 + b * 256 + c * 16 + d, r)
    | _, _, _, _ => .error .invalidEscape
  | _ => .error .endInText

def simpleEscape? (b : UInt8) : Option UInt8 :=
  if b = 0x22 then some 0x22
  else if b = 0x5C then some 0x5C
  else if b = 0x2F then some 0x2F
  else if b = 0x62 then some 0x08
  else if b = 0x66 then some 0x0C
  else if b = 0x6E then some 0x0A
  else if b = 0x72 then some 0x0D
  else if b = 0x74 then some 0x09
  else none

/-- The character of a hexadecimal escape, after its letter; a leading surrogate takes the
trailing one that must follow it along. -/
def readCodePoint (s : Bytes) : Except Error (Char × Bytes) := do
  let (n, r) ← readUnit s
  if 0xDC00 ≤ n ∧ n ≤ 0xDFFF then throw .strayTrailingSurrogate
  else if n < 0xD800 ∨ n > 0xDBFF then return (Char.ofNat n, r)
  else
    match r with
    | [] => throw .endInText
    | 0x5C :: [] => throw .endInText
    | 0x5C :: 0x75 :: r =>
      let (m, r) ← readUnit r
      if m < 0xDC00 ∨ m > 0xDFFF then throw .strayTrailingSurrogate
      else return (Char.ofNat (0x10000 + (n - 0xD800) * 1024 + (m - 0xDC00)), r)
    | _ => throw .unpairedSurrogate

/-- The bytes of a string up to its closing quote, escapes resolved. The fuel bounds the number of
bytes read. -/
def readTextBytes : Nat → Bytes → Except Error (Bytes × Bytes)
  | 0, _ => .error .endInText
  | _ + 1, [] => .error .endInText
  | fuel + 1, b :: r =>
    if b = 0x22 then .ok ([], r)
    else if b = 0x5C then
      match r with
      | [] => .error .endInText
      | e :: r =>
        if e = 0x75 then do
          let (c, r) ← readCodePoint r
          let (t, r) ← readTextBytes fuel r
          return (Utf8.encodeChar c ++ t, r)
        else
          match simpleEscape? e with
          | none => .error .invalidEscape
          | some x => do
            let (t, r) ← readTextBytes fuel r
            return (x :: t, r)
    else if b < 0x20 then .error .controlCharacter
    else do
      let (t, r) ← readTextBytes fuel r
      return (b :: t, r)

def readText (s : Bytes) : Except Error String := do
  let (t, _) ← readTextBytes (s.length + 1) s
  match Utf8.toString? t with
  | some t => return t
  | none => throw .invalidCodePoint

def skipText : Nat → Bytes → Except Error Bytes
  | 0, _ => .error .endInText
  | _ + 1, [] => .error .endInText
  | fuel + 1, b :: r =>
    if b = 0x22 then .ok r
    else if b = 0x5C then
      match r with
      | [] => .error .endInText
      | e :: r =>
        if e = 0x75 then do
          let (_, r) ← readUnit r
          skipText fuel r
        else if (simpleEscape? e).isSome then skipText fuel r
        else .error .invalidEscape
    else if b < 0x20 then .error .controlCharacter
    else skipText fuel r

/-- Quote, backslash and control characters are escaped, five of them by a letter. -/
def escapeChar (c : Char) : List Char :=
  if c = '"' then ['\\', '"']
  else if c = '\\' then ['\\', '\\']
  else if c = '\x08' then ['\\', 'b']
  else if c = '\x0c' then ['\\', 'f']
  else if c = '\n' then ['\\', 'n']
  else if c = '\r' then ['\\', 'r']
  else if c = '\t' then ['\\', 't']
  else if c.toNat < 0x20 then
    ['\\', 'u', '0', '0', Bytes.hexDigit (c.toNat / 16), Bytes.hexDigit (c.toNat % 16)]
  else [c]

def printTextChars (s : List Char) : List Char := '"' :: s.flatMap escapeChar ++ ['"']

end ObjectStorage.Json
