/-!
# Rounding to binary64

A finite magnitude is `mantissa * 2 ^ exponent` with a mantissa below `2 ^ 53`. `round?` takes an
exact quotient to the nearest magnitude, ties to the even mantissa; products and quotients of
magnitudes are exact rationals that are then rounded. All arithmetic is on natural numbers.
-/
namespace ObjectStorage

structure Binary64 where
  mantissa : Nat
  exponent : Int
deriving DecidableEq, Repr

namespace Binary64

def zero : Binary64 := ⟨0, -1074⟩

def isZero (x : Binary64) : Bool := x.mantissa == 0

def leastExponent : Int := -1074

def greatestExponent : Int := 971

def pow2 (e : Int) : Nat := Nat.pow 2 e.toNat

/-- The quotient to the nearest natural number, a half to the even one. -/
def roundDiv (n d : Nat) : Nat :=
  let q := n / d
  let r := n % d
  if 2 * r > d ∨ (2 * r = d ∧ q % 2 = 1) then q + 1 else q

/-- An exponent that leaves the quotient `n / d` with at most 53 binary digits before the point,
and 53 unless the least exponent stops it. -/
def scale (n d : Nat) : Int :=
  let guess : Int := (Nat.log2 n : Int) - Nat.log2 d
  let below := n * pow2 (-guess) < d * pow2 guess
  max leastExponent ((if below then guess - 1 else guess) - 52)

/-- The nearest magnitude to `n / d`, unless it is too large for one. -/
def round? (n d : Nat) : Option Binary64 :=
  if n = 0 then some zero
  else
    let e := scale n d
    let m := roundDiv (n * pow2 (-e)) (d * pow2 e)
    let x : Binary64 := if m = 0x20000000000000 then ⟨0x10000000000000, e + 1⟩ else ⟨m, e⟩
    if x.exponent > greatestExponent then none else some x

def ofNat? (n : Nat) : Option Binary64 := round? n 1

def mul? (x y : Binary64) : Option Binary64 :=
  let e := x.exponent + y.exponent
  round? (x.mantissa * y.mantissa * pow2 e) (pow2 (-e))

def div? (x y : Binary64) : Option Binary64 :=
  let e := x.exponent - y.exponent
  round? (x.mantissa * pow2 e) (y.mantissa * pow2 (-e))

def pow10? (n : Nat) : Option Binary64 := ofNat? (Nat.pow 10 n)

end Binary64

end ObjectStorage
