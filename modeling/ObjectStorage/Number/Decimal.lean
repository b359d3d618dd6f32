/-!
# Decimal numbers as text
-/
namespace ObjectStorage.Decimal

def chars (n : Nat) : List Char := Nat.toDigits 10 n

def padded (width n : Nat) : List Char :=
  List.replicate (width - (chars n).length) '0' ++ chars n

def value (c : Char) : Nat := c.toNat - 48

def ofChars (cs : List Char) : Nat := cs.foldl (fun n c => n * 10 + value c) 0

/-- An unsigned word of 64 bits: digits, with a plus sign or without. -/
def word? (cs : List Char) : Option Nat :=
  let ds := match cs with
    | '+' :: r => r
    | cs => cs
  if ds.isEmpty || !ds.all Char.isDigit then none
  else
    let n := ofChars ds
    if n < 0x10000000000000000 then some n else none

theorem isDigit_of_mem_chars {n : Nat} {d : Char} (h : d ∈ chars n) : d.isDigit = true :=
  Nat.isDigit_of_mem_toDigits (by decide) (by decide) h

end ObjectStorage.Decimal
