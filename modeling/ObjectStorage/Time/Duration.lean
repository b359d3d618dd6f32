import ObjectStorage.Number.Decimal

/-!
# Durations

Whole seconds and nanoseconds. The text of a duration uses the largest unit that is not zero and
no more digits than needed.
-/
namespace ObjectStorage

structure Duration where
  seconds : Nat
  nanos : Nat
  nanos_lt : nanos < 1000000000 := by decide
deriving DecidableEq

namespace Duration

def ofSeconds (n : Nat) : Duration := ⟨n, 0, by decide⟩

def zero : Duration := ofSeconds 0

instance : Inhabited Duration := ⟨zero⟩

def greatest : Duration := ⟨18446744073709551615, 999999999, by decide⟩

def normal (seconds nanos : Nat) : Duration :=
  ⟨seconds + nanos / 1000000000, nanos % 1000000000, Nat.mod_lt _ (by decide)⟩

def totalNanos (d : Duration) : Nat := d.seconds * 1000000000 + d.nanos

def add (a b : Duration) : Duration := normal (a.seconds + b.seconds) (a.nanos + b.nanos)

/-- A fraction of `width` digits, without the zeros at its end. -/
def fraction (width n : Nat) : List Char :=
  let ds := ((Decimal.padded width n).reverse.dropWhile (· == '0')).reverse
  if ds.isEmpty then [] else '.' :: ds

def textChars (d : Duration) : List Char :=
  if d.seconds > 0 then Decimal.chars d.seconds ++ fraction 9 d.nanos ++ ['s']
  else if d.nanos ≥ 1000000 then
    Decimal.chars (d.nanos / 1000000) ++ fraction 6 (d.nanos % 1000000) ++ ['m', 's']
  else if d.nanos ≥ 1000 then
    Decimal.chars (d.nanos / 1000) ++ fraction 3 (d.nanos % 1000) ++ ['µ', 's']
  else Decimal.chars d.nanos ++ ['n', 's']

def text (d : Duration) : String := String.ofList d.textChars

theorem totalNanos_normal (s n : Nat) : (normal s n).totalNanos = s * 1000000000 + n := by
  simp only [normal, totalNanos]
  omega

theorem totalNanos_add (a b : Duration) : (a.add b).totalNanos = a.totalNanos + b.totalNanos := by
  rw [add, totalNanos_normal]
  simp only [totalNanos]
  omega

end Duration

end ObjectStorage
