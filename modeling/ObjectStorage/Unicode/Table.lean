import ObjectStorage.Bytes

/-!
# Tables of code points

A table is a text of rows between blanks. A row is a list of hexadecimal numbers joined by points,
and a row of a table of ranges is the first and the last code point of a range, or a single one.
-/
namespace ObjectStorage.Unicode.Table

def number (digits : List Char) : Nat :=
  digits.foldl (fun n c => 16 * n + (Bytes.hexValue? c).getD 0) 0

def rows (text : String) : List (List Nat) :=
  ((text.toList.splitOnP Char.isWhitespace).filter (!·.isEmpty)).map
    fun row => (row.splitOn '.').map number

def range? : List Nat → Option (Nat × Nat)
  | [a] => some (a, a)
  | [a, b] => some (a, b)
  | _ => none

def ranges (text : String) : List (Nat × Nat) := (rows text).filterMap range?

/-- Whether one of the ranges holds the character; the ranges are increasing. -/
def holds (ranges : List (Nat × Nat)) (c : Char) : Bool :=
  match ranges with
  | [] => false
  | (a, b) :: r => if c.toNat < a then false else if c.toNat ≤ b then true else holds r c

end ObjectStorage.Unicode.Table
