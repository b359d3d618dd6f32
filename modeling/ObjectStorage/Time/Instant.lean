import ObjectStorage.Time.Calendar
import ObjectStorage.Time.Duration

/-!
# Instants

Seconds from 1970 on and nanoseconds; from a thousand million nanoseconds on the instant lies in a
leap second. Instants are ordered by seconds first. `sub?` goes back by a duration: out of a leap
second by whole seconds, within it by less, and not before the first instant.
-/
namespace ObjectStorage

structure Instant where
  seconds : Int
  nanos : Nat
  nanos_lt : nanos < 2000000000 := by decide
deriving DecidableEq

namespace Instant

def ofSeconds (n : Int) : Instant := ⟨n, 0, by decide⟩

instance : Inhabited Instant := ⟨ofSeconds 0⟩

def of? (seconds : Int) (nanos : Nat) : Option Instant :=
  if h : nanos < 2000000000 then some ⟨seconds, nanos, h⟩ else none

def isLeap (t : Instant) : Bool := t.nanos ≥ 1000000000

/-- The first second of the year -262143. -/
def firstSecond : Int := -8334601228800

def ble (a b : Instant) : Bool :=
  a.seconds < b.seconds || (a.seconds == b.seconds && a.nanos ≤ b.nanos)

instance : LE Instant := ⟨fun a b => a.ble b = true⟩

instance (a b : Instant) : Decidable (a ≤ b) := inferInstanceAs (Decidable (a.ble b = true))

def addSeconds (t : Instant) (n : Int) : Instant := { t with seconds := t.seconds + n }

/-- The ordinary instant some nanoseconds before the second `seconds` and `nanos`. -/
def before (seconds : Int) (nanos : Nat) (d : Duration) : Instant :=
  if d.nanos ≤ nanos then
    ⟨seconds - d.seconds, (nanos - d.nanos) % 1000000000, by omega⟩
  else ⟨seconds - d.seconds - 1, (nanos + 1000000000 - d.nanos) % 1000000000, by omega⟩

def sub (t : Instant) (d : Duration) : Instant :=
  if t.nanos < 1000000000 then before t.seconds t.nanos d
  else if d.seconds = 0 then
    ⟨t.seconds, t.nanos - d.nanos, Nat.lt_of_le_of_lt (Nat.sub_le _ _) t.nanos_lt⟩
  else before (t.seconds + 1) (t.nanos - 1000000000) d

def sub? (t : Instant) (d : Duration) : Option Instant :=
  let u := t.sub d
  if u.seconds < firstSecond then none else some u

def secondsPerDay : Int := 86400

def date (t : Instant) : Date := Date.ofDays (t.seconds / secondsPerDay)

def secondOfDay (t : Instant) : Nat := (t.seconds % secondsPerDay).toNat

def hour (t : Instant) : Nat := t.secondOfDay / 3600

def minute (t : Instant) : Nat := t.secondOfDay / 60 % 60

/-- A leap second is the sixtieth. -/
def second (t : Instant) : Nat := t.secondOfDay % 60 + t.nanos / 1000000000

/-- Four digits; a sign and more digits for years that need them. -/
def yearChars (y : Int) : List Char :=
  if 0 ≤ y ∧ y ≤ 9999 then Decimal.padded 4 y.toNat
  else (if y < 0 then '-' else '+') :: Decimal.padded 4 y.natAbs

/-- The basic format that signatures use, to the second. -/
def stampChars (t : Instant) : List Char :=
  let d := t.date
  yearChars d.year ++ Decimal.padded 2 d.month ++ Decimal.padded 2 d.day ++ 'T' ::
    Decimal.padded 2 t.hour ++ Decimal.padded 2 t.minute ++ Decimal.padded 2 t.second ++ ['Z']

def stamp (t : Instant) : String := String.ofList t.stampChars

def fractionChars (nanos : Nat) : List Char :=
  let n := nanos % 1000000000
  if n = 0 then []
  else if n % 1000000 = 0 then '.' :: Decimal.padded 3 (n / 1000000)
  else if n % 1000 = 0 then '.' :: Decimal.padded 6 (n / 1000)
  else '.' :: Decimal.padded 9 n

def textChars (t : Instant) : List Char :=
  let d := t.date
  yearChars d.year ++ '-' :: Decimal.padded 2 d.month ++ '-' :: Decimal.padded 2 d.day ++ 'T' ::
    Decimal.padded 2 t.hour ++ ':' :: Decimal.padded 2 t.minute ++
    ':' :: Decimal.padded 2 t.second ++ fractionChars t.nanos ++ ['Z']

def text (t : Instant) : String := String.ofList t.textChars

theorem le_iff {a b : Instant} :
    a ≤ b ↔ a.seconds < b.seconds ∨ (a.seconds = b.seconds ∧ a.nanos ≤ b.nanos) := by
  change a.ble b = true ↔ _
  simp [ble]

theorem le_trans {a b c : Instant} (h₁ : a ≤ b) (h₂ : b ≤ c) : a ≤ c := by
  rw [le_iff] at *
  omega

end Instant

end ObjectStorage
