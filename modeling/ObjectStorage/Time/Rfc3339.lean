import ObjectStorage.Text.Blank
import ObjectStorage.Time.Instant

/-!
# RFC 3339

Reading a date, a time and an offset, with blanks allowed between the fields, a year of any
length after a sign, and `UTC` as an offset. Leap seconds may come at the end of any minute.
-/
namespace ObjectStorage.Rfc3339

inductive Problem where
  | tooShort
  | invalid
  | outOfRange
  | impossible
  | trailing
deriving DecidableEq, Repr

def Problem.message : Problem → String
  | tooShort => "premature end of input"
  | invalid => "input contains invalid characters"
  | outOfRange => "input is out of range"
  | impossible => "no possible date and time matching input"
  | trailing => "trailing input"

abbrev Reader (α : Type) := List Char → Except Problem (α × List Char)

def skipBlanks (s : List Char) : List Char := s.dropWhile Blank.isBlank

/-- At most `width` digits, and at least one. -/
def readDigits (width : Nat) : Reader Nat := fun s =>
  let ds := (s.take width).takeWhile Char.isDigit
  if ds.isEmpty then .error (if s.isEmpty then .tooShort else .invalid)
  else if Decimal.ofChars ds ≥ 0x8000000000000000 then .error .outOfRange
  else .ok (Decimal.ofChars ds, s.drop ds.length)

def readYear : Reader Int := fun s => do
  match skipBlanks s with
  | '-' :: r =>
    let (n, r) ← readDigits r.length r
    return (-n, r)
  | '+' :: r =>
    let (n, r) ← readDigits r.length r
    return (n, r)
  | s =>
    let (n, r) ← readDigits 4 s
    return (n, r)

/-- Two digits between two bounds, after blanks. -/
def readField (low high : Nat) : Reader Nat := fun s => do
  let (n, r) ← readDigits 2 (skipBlanks s)
  if low ≤ n ∧ n ≤ high then return (n, r) else throw .outOfRange

def readMark (c : Char) : Reader Unit := fun s =>
  match skipBlanks s with
  | [] => .error .tooShort
  | d :: r => if d = c then .ok ((), r) else .error .invalid

def readSeparator : Reader Unit
  | [] => .error .tooShort
  | c :: r => if c = 't' ∨ c = 'T' ∨ c = ' ' then .ok ((), r) else .error .invalid

/-- Nine digits of a fraction count. -/
def readFraction : Reader Nat
  | '.' :: r => do
    let (n, rest) ← readDigits 9 r
    let width := ((r.take 9).takeWhile Char.isDigit).length
    return (n * Nat.pow 10 (9 - width), rest.dropWhile Char.isDigit)
  | s => .ok (0, s)

/-- Two characters that must be digits, the first of them at most `greatest`. -/
def readPair (greatest : Char) : Reader Nat
  | a :: b :: r =>
    if a.isDigit ∧ b.isDigit then
      if a ≤ greatest then .ok (Decimal.ofChars [a, b], r) else .error .outOfRange
    else .error .invalid
  | [a] => .error (if a.toNat < 0x80 then .tooShort else .invalid)
  | [] => .error .tooShort

/-- Seconds east of Greenwich. -/
def readOffset : Reader Int := fun s => do
  let magnitude (r : List Char) : Except Problem (Int × List Char) := do
    let (hours, r) ← readPair '9' r
    let (minutes, r) ← readPair '5' (r.dropWhile fun c => c == ':' || Blank.isBlank c)
    return (hours * 3600 + minutes * 60, r)
  match s with
  | [] => throw .tooShort
  | c :: r =>
    if c = 'Z' ∨ c = 'z' then return (0, r)
    else if c = '+' then magnitude r
    else if c = '-' ∨ c = '\u2212' then
      let (n, r) ← magnitude r
      return (-n, r)
    else throw .invalid

def readZone : Reader Int := fun s =>
  let s := skipBlanks s
  match s with
  | u :: t :: c :: r =>
    if u.toUpper = 'U' ∧ t.toUpper = 'T' ∧ c.toUpper = 'C' then .ok (0, r) else readOffset s
  | s => readOffset s

def lastSecond : Int := 8210266876799

def instant (date : Date) (hour minute second nanos : Nat) (offset : Int) :
    Except Problem Instant :=
  if date.year < -262143 ∨ date.year > 262142 ∨ !date.isValid then .error .outOfRange
  else if offset.natAbs ≥ 86400 then .error .outOfRange
  else
    let leap := if second = 60 then 1000000000 else 0
    let seconds : Int :=
      date.toDays * 86400 + hour * 3600 + minute * 60 + min second 59 - offset
    if seconds < Instant.firstSecond ∨ seconds > lastSecond then .error .impossible
    else
      match Instant.of? seconds (leap + nanos) with
      | some t => .ok t
      | none => .error .outOfRange

def isYear (y : Int) : Bool := -2147483648 ≤ y && y ≤ 2147483647

def read (s : List Char) : Except Problem Instant := do
  let (year, s) ← readYear s
  if !isYear year then throw .outOfRange
  let (_, s) ← readMark '-' s
  let (month, s) ← readField 1 12 s
  let (_, s) ← readMark '-' s
  let (day, s) ← readField 1 31 s
  let (_, s) ← readSeparator s
  let (hour, s) ← readField 0 23 s
  let (_, s) ← readMark ':' s
  let (minute, s) ← readField 0 59 s
  let (_, s) ← readMark ':' s
  let (second, s) ← readField 0 60 s
  let (nanos, s) ← readFraction s
  let (offset, s) ← readZone s
  if (skipBlanks s).isEmpty then instant ⟨year, month, day⟩ hour minute second nanos offset
  else throw .trailing

end ObjectStorage.Rfc3339
