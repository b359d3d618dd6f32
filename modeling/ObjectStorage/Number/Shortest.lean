import ObjectStorage.Number.Binary64

/-!
# The shortest decimal that reads back

A binary magnitude stands for the interval of numbers that round to it. `digits` takes the
coarsest decimal grid with a point in that interval and, of two points, the nearer one, a tie
going to the even digit. `text` writes the digits positionally when the point falls within sixteen
digits after the first or four zeros before it, and with an exponent otherwise.
-/
namespace ObjectStorage.Shortest

structure Decimal where
  significand : Nat
  exponent : Int
deriving DecidableEq, Repr

def pow10 (e : Int) : Nat := Nat.pow 10 e.toNat

/-- Four times the lower end of the interval, in units of the last place. -/
def lowerEnd (x : Binary64) : Nat :=
  if x.mantissa = 0x10000000000000 ∧ x.exponent > Binary64.leastExponent then 4 * x.mantissa - 1
  else 4 * x.mantissa - 2

def upperEnd (x : Binary64) : Nat := 4 * x.mantissa + 2

/-- The point of the grid `10 ^ k` that stands for the magnitude, if one reads back. -/
def onGrid? (x : Binary64) (k : Int) : Option Decimal :=
  let e := x.exponent - 2
  let a := Binary64.pow2 e * pow10 (-k)
  let d := Binary64.pow2 (-e) * pow10 k
  let readsBack (c : Nat) : Bool :=
    if x.mantissa % 2 = 0 then lowerEnd x * a ≤ c * d && c * d ≤ upperEnd x * a
    else lowerEnd x * a < c * d && c * d < upperEnd x * a
  let q := 4 * x.mantissa * a / d
  let r := 4 * x.mantissa * a % d
  match readsBack q, readsBack (q + 1) with
  | false, false => none
  | true, false => some ⟨q, k⟩
  | false, true => some ⟨q + 1, k⟩
  | true, true =>
    some ⟨if 2 * r < d ∨ (2 * r = d ∧ q % 2 = 0) then q else q + 1, k⟩

/-- A grid no finer than needed: one of its units exceeds the magnitude. -/
def coarsest (x : Binary64) : Int :=
  ((Nat.log2 x.mantissa : Int) + 1 + x.exponent) * 30103 / 100000 + 1

/-- Seventeen digits always read back, so a few grids more than that are tried. -/
def digits (x : Binary64) : Decimal :=
  if x.isZero then ⟨0, 0⟩
  else
    match (List.range 24).findSome? fun i : Nat => onGrid? x (coarsest x - (i : Int)) with
    | some d => d
    | none => ⟨x.mantissa * Binary64.pow2 x.exponent, 0⟩

def exponentText (e : Int) : List Char :=
  'e' :: (if e < 0 then '-' else '+') :: (toString e.natAbs).toList

def textChars (x : Binary64) : List Char :=
  if x.isZero then ['0', '.', '0']
  else
    let d := digits x
    let ds := (toString d.significand).toList
    let point : Int := ds.length + d.exponent
    if 0 ≤ d.exponent ∧ point ≤ 16 then ds ++ List.replicate d.exponent.toNat '0' ++ ['.', '0']
    else if 0 < point ∧ point ≤ 16 then ds.take point.toNat ++ '.' :: ds.drop point.toNat
    else if -5 < point ∧ point ≤ 0 then
      '0' :: '.' :: List.replicate (-point).toNat '0' ++ ds
    else
      match ds with
      | [] => []
      | [c] => c :: exponentText (point - 1)
      | c :: r => c :: '.' :: r ++ exponentText (point - 1)

def text (x : Binary64) : String := String.ofList (textChars x)

end ObjectStorage.Shortest
