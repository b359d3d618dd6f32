import ObjectStorage.Bytes
import ObjectStorage.Json.Error

/-!
# JSON numbers

`skipNumber` only looks at the form of a number, `readNumber` also finds its value. An integer
that fits 64 bits stays an integer. Any other number keeps as many leading digits as fit 64 bits
and is scaled by powers of ten up to `10 ^ 308`, each step rounded to binary64.
-/
namespace ObjectStorage.Json

def isDigit (b : UInt8) : Bool := 0x30 ≤ b && b ≤ 0x39

def digitValue (b : UInt8) : Nat := b.toNat - 0x30

def spanDigits : Bytes → List Nat × Bytes
  | [] => ([], [])
  | b :: r =>
    if isDigit b then
      let (ds, rest) := spanDigits r
      (digitValue b :: ds, rest)
    else ([], b :: r)

def wordMax : Nat := 0xFFFFFFFFFFFFFFFF

/-- Appends digits as long as the number stays within 64 bits; the digits left over come second. -/
def appendDigits (s : Nat) : List Nat → Nat × List Nat
  | [] => (s, [])
  | d :: r => if s * 10 + d ≤ wordMax then appendDigits (s * 10 + d) r else (s, d :: r)

def largestScale : Nat := 308

def multiplyByTen? (m : Binary64) (e : Nat) : Option Binary64 :=
  (Binary64.pow10? e).bind m.mul?

def divideByTen? (m : Binary64) (e : Nat) : Option Binary64 :=
  (Binary64.pow10? e).bind m.div?

/-- `m / 10 ^ e`, in steps of at most the largest scale. -/
def scaleDown? (m : Binary64) (e : Nat) : Option Binary64 :=
  if e ≤ largestScale then divideByTen? m e
  else if m.isZero then some m
  else (divideByTen? m largestScale).bind fun x => scaleDown? x (e - largestScale)
termination_by e
decreasing_by simp only [largestScale] at *; omega

def scaleByTen? (m : Binary64) (e : Int) : Option Binary64 :=
  if e < 0 then scaleDown? m e.natAbs
  else if e ≤ largestScale then multiplyByTen? m e.natAbs
  else if m.isZero then some m
  else none

def floatOf (negative : Bool) (significand : Nat) (exponent : Int) : Except Error Number :=
  match (Binary64.ofNat? significand).bind (scaleByTen? · exponent) with
  | none => .error .numberOutOfRange
  | some m => .ok (.float negative m)

/-- The least and the greatest integer kept as one are `-2 ^ 63` and `2 ^ 64 - 1`; minus zero is
not. -/
def integerOf (negative : Bool) (significand : Nat) : Except Error Number :=
  if !negative then .ok (.integer significand)
  else if significand = 0 ∨ significand > 0x8000000000000000 then floatOf true significand 0
  else .ok (.integer (-significand))

def natOfDigits (ds : List Nat) : Nat := ds.foldl (fun n d => n * 10 + d) 0

/-- Exponents of ten are words of 32 bits; a greater one leaves only zero. -/
def withExponent (negative : Bool) (significand : Nat) (start : Int) (down : Bool)
    (ds : List Nat) : Except Error Number :=
  let e := natOfDigits ds
  if e ≥ 0x80000000 then
    if significand ≠ 0 ∧ !down then .error .numberOutOfRange else .ok (.float negative .zero)
  else floatOf negative significand (if down then start - e else start + e)

def readExponent (negative : Bool) (significand : Nat) (start : Int) (s : Bytes) :
    Except Error (Except Error Number × Bytes) :=
  let (down, s) : Bool × Bytes := match s with
    | 0x2B :: r => (false, r)
    | 0x2D :: r => (true, r)
    | s => (false, s)
  match spanDigits s with
  | ([], []) => .error .endInValue
  | ([], _) => .error .invalidNumber
  | (ds, rest) => .ok (withExponent negative significand start down ds, rest)

/-- What follows the integer digits: the significand so far, the digits of it that were left over,
and the rest of the text. -/
def readFraction (negative : Bool) (significand : Nat) (left : List Nat) (s : Bytes) :
    Except Error (Except Error Number × Bytes) :=
  let start : Int := left.length
  match s with
  | 0x2E :: r =>
    match spanDigits r with
    | ([], []) => .error .endInValue
    | ([], _) => .error .invalidNumber
    | (ds, rest) =>
      let (significand, surplus) := appendDigits significand ds
      let start := start - (ds.length - surplus.length : Nat)
      match rest with
      | 0x65 :: r => readExponent negative significand start r
      | 0x45 :: r => readExponent negative significand start r
      | _ => .ok (floatOf negative significand start, rest)
  | 0x65 :: r => readExponent negative significand start r
  | 0x45 :: r => readExponent negative significand start r
  | s =>
    if left.isEmpty then .ok (integerOf negative significand, s)
    else .ok (floatOf negative significand start, s)

/-- A number after its sign. The outer error is one of form, the inner one of range. -/
def readNumber (negative : Bool) (s : Bytes) : Except Error (Except Error Number × Bytes) :=
  match spanDigits s with
  | ([], []) => .error .endInValue
  | ([], _) => .error .invalidNumber
  | (0 :: _ :: _, _) => .error .invalidNumber
  | (ds, rest) =>
    let (significand, left) := appendDigits 0 ds
    readFraction negative significand left rest

def skipExponent (s : Bytes) : Except Error Bytes :=
  let s : Bytes := match s with
    | 0x2B :: r => r
    | 0x2D :: r => r
    | s => s
  match spanDigits s with
  | ([], _) => .error .invalidNumber
  | (_, rest) => .ok rest

def skipFraction (s : Bytes) : Except Error Bytes :=
  match s with
  | 0x2E :: r =>
    match spanDigits r with
    | ([], _) => .error .invalidNumber
    | (_, 0x65 :: r) => skipExponent r
    | (_, 0x45 :: r) => skipExponent r
    | (_, rest) => .ok rest
  | 0x65 :: r => skipExponent r
  | 0x45 :: r => skipExponent r
  | s => .ok s

/-- A number after its sign, of which only the form counts. -/
def skipNumber (s : Bytes) : Except Error Bytes :=
  match spanDigits s with
  | ([], _) => .error .invalidNumber
  | (0 :: _ :: _, _) => .error .invalidNumber
  | (_, rest) => skipFraction rest

theorem spanDigits_append (ds rest : Bytes) (hd : ∀ b ∈ ds, isDigit b = true)
    (hr : ∀ b, rest.head? = some b → isDigit b = false) :
    spanDigits (ds ++ rest) = (ds.map digitValue, rest) := by
  induction ds with
  | nil =>
    cases rest with
    | nil => rfl
    | cons b r => simp [spanDigits, hr b rfl]
  | cons b r ih =>
    have hb : isDigit b = true := hd b (by simp)
    have := ih (fun x hx => hd x (List.mem_cons_of_mem b hx))
    simp [spanDigits, hb, this]

end ObjectStorage.Json
