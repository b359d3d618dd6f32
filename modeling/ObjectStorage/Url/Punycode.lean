import ObjectStorage.Bytes

/-!
# Punycode

A text is written with ASCII letters, digits and hyphens: first its ASCII characters, then, after
a hyphen, the others in increasing order, each as the number of places passed since the one before
it. Such a number has digits in base 36, lowest first, and a digit below the threshold of its
place ends it.
-/
namespace ObjectStorage.Punycode

def digit (d : Nat) : Char := Char.ofNat (if d < 26 then 97 + d else 22 + d)

def digitValue? (c : Char) : Option Nat :=
  if 'a' ≤ c ∧ c ≤ 'z' then some (c.toNat - 97)
  else if 'A' ≤ c ∧ c ≤ 'Z' then some (c.toNat - 65)
  else if '0' ≤ c ∧ c ≤ '9' then some (c.toNat - 22)
  else none

def threshold (bias place : Nat) : Nat := min 26 (max 1 (place - bias))

theorem threshold_bounds (bias place : Nat) :
    1 ≤ threshold bias place ∧ threshold bias place ≤ 26 := by
  unfold threshold; omega

/-- The places start at 36 and are 36 apart. -/
def number (bias place n : Nat) : List Char :=
  let t := threshold bias place
  if n < t then [digit n]
  else digit (t + (n - t) % (36 - t)) :: number bias (place + 36) ((n - t) / (36 - t))
termination_by n
decreasing_by
  have ht := threshold_bounds bias place
  exact Nat.lt_of_le_of_lt (Nat.div_le_self _ _) (by omega)

/-- Reads a number whose first digit counts `weight` and returns what follows it. -/
def readNumber (bias : Nat) : Nat → Nat → List Char → Option (Nat × List Char)
  | _, _, [] => none
  | place, weight, c :: r =>
    match digitValue? c with
    | none => none
    | some d =>
      let t := threshold bias place
      if d < t then some (d * weight, r)
      else
        (readNumber bias (place + 36) (weight * (36 - t)) r).map fun (n, r) => (d * weight + n, r)

theorem length_readNumber {bias place weight n : Nat} {s r : List Char}
    (h : readNumber bias place weight s = some (n, r)) : r.length < s.length := by
  induction s generalizing place weight n with
  | nil => simp [readNumber] at h
  | cons c s ih =>
    rw [readNumber] at h
    cases hc : digitValue? c with
    | none => simp [hc] at h
    | some d =>
      by_cases hd : d < threshold bias place
      · simp only [hc, hd, if_true, Option.some.injEq, Prod.mk.injEq] at h
        rw [← h.2, List.length_cons]; omega
      · simp only [hc, hd, if_false, Option.map_eq_some_iff, Prod.mk.injEq] at h
        obtain ⟨⟨m, u⟩, hu, _, rfl⟩ := h
        have := ih hu
        rw [List.length_cons]; omega

def scale (n k : Nat) : Nat :=
  if 455 < n then scale (n / 35) (k + 36) else k + 36 * n / (n + 38)
termination_by n
decreasing_by exact Nat.div_lt_self (by omega) (by omega)

/-- The bias after a number, where `count` characters are placed now. -/
def adapt (delta count : Nat) (first : Bool) : Nat :=
  let n := if first then delta / 700 else delta / 2
  scale (n + n / count) 0

structure Progress where
  digits : List Char
  delta : Nat
  bias : Nat
  placed : Nat

/-- Passes a character while the ones with code point `m` are written. -/
def Progress.pass (basic m : Nat) (s : Progress) (c : Char) : Progress :=
  if c.toNat < m then { s with delta := s.delta + 1 }
  else if c.toNat = m then
    ⟨s.digits ++ number s.bias 36 s.delta, 0, adapt s.delta (s.placed + 1) (s.placed == basic),
      s.placed + 1⟩
  else s

def encodeFrom (text : List Char) (basic : Nat) : List Nat → Nat → Progress → List Char
  | [], _, s => s.digits
  | m :: r, n, s =>
    let s := text.foldl (Progress.pass basic m)
      { s with delta := s.delta + (m - n) * (s.placed + 1) }
    encodeFrom text basic r (m + 1) { s with delta := s.delta + 1 }

def isAscii (c : Char) : Bool := c.toNat < 0x80

def encode (text : List Char) : List Char :=
  let basic := text.filter isAscii
  let points := (((text.filter (!isAscii ·)).map Char.toNat).mergeSort).eraseDups
  let start := if basic.isEmpty then [] else basic ++ ['-']
  encodeFrom text basic.length points 128 ⟨start, 0, 72, basic.length⟩

/-- Places further characters into a text, where the last went before place `i` with code point
`n`. -/
def decodeFrom (bias n i : Nat) (text : List Char) (s : List Char) : Option (List Char) :=
  if s.isEmpty then some text
  else
    match h : readNumber bias 36 1 s with
    | none => none
    | some (delta, r) =>
      let count := text.length + 1
      let point := n + (i + delta) / count
      let place := (i + delta) % count
      if point.isValidChar then
        decodeFrom (adapt delta count (i == 0)) point (place + 1)
          (text.insertIdx place (Char.ofNat point)) r
      else none
termination_by s.length
decreasing_by exact length_readNumber h

def decode? (s : List Char) : Option (List Char) :=
  let tail := (s.reverse.takeWhile (· != '-')).reverse
  match s.take (s.length - tail.length) with
  | [] => decodeFrom 72 128 0 [] s
  | ['-'] => none
  | start => decodeFrom 72 128 0 start.dropLast tail

end ObjectStorage.Punycode
