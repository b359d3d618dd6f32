import ObjectStorage.Text.Unprintable

/-!
# Quoted text

A text between double quotes on one line: quote, backslash, line feed, carriage return, tab and
NUL have a short escape, and characters without a glyph of their own are written by number.
`listed` writes several quoted texts between brackets.
-/
namespace ObjectStorage.Quoted

def hexNumber (n : Nat) : List Char := Nat.toDigits 16 n

def escape (c : Char) : List Char :=
  if c = '"' then ['\\', '"']
  else if c = '\\' then ['\\', '\\']
  else if c = '\n' then ['\\', 'n']
  else if c = '\r' then ['\\', 'r']
  else if c = '\t' then ['\\', 't']
  else if c = '\x00' then ['\\', '0']
  else if Unprintable.isUnprintable c then
    ['\\', 'u', '\x7b'] ++ hexNumber c.toNat ++ ['\x7d']
  else [c]

def quoteChars (s : List Char) : List Char := '"' :: s.flatMap escape ++ ['"']

def quote (s : String) : String := String.ofList (quoteChars s.toList)

def listed (s : List String) : String := "[" ++ ", ".intercalate (s.map quote) ++ "]"

end ObjectStorage.Quoted
