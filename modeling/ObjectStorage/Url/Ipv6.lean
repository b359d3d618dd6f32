import ObjectStorage.Url.Ipv4

/-!
# IPv6 addresses

Eight groups of 16 bits. Two colons stand for the groups that are left out, and the last two
groups may be written as an IPv4 address. The text leaves out the first longest run of zeros.
-/
namespace ObjectStorage

structure Ipv6 where
  groups : List Nat
  length_groups : groups.length = 8
deriving DecidableEq

namespace Ipv6

def ofGroups? (groups : List Nat) : Option Ipv6 :=
  if h : groups.length = 8 then some ⟨groups, h⟩ else none

def group? (cs : List Char) : Option Nat :=
  if cs.isEmpty || cs.length > 4 then none else Ipv4.ofDigits? 16 cs

/-- A decimal number below 256 without a zero in front. -/
def octet? (cs : List Char) : Option Nat :=
  if cs.isEmpty || (cs.head? = some '0' && cs.length > 1) then none
  else (Ipv4.ofDigits? 10 cs).filter (· < 256)

def dotted? (cs : List Char) : Option (List Nat) :=
  match (cs.splitOn '.').mapM octet? with
  | some [a, b, c, d] => some [a * 256 + b, c * 256 + d]
  | _ => none

def groupsOf? : List (List Char) → Option (List Nat)
  | [] => some []
  | [p] => if p.contains '.' then dotted? p else (group? p).map ([·])
  | p :: r => do
    let g ← group? p
    let gs ← groupsOf? r
    return g :: gs

/-- The groups between colons; no text has none. -/
def side? (cs : List Char) : Option (List Nat) :=
  if cs.isEmpty then some [] else groupsOf? (cs.splitOn ':')

/-- What stands before and after the first two colons in a row. -/
def splitGap : List Char → Option (List Char × List Char)
  | [] => none
  | ':' :: ':' :: r => some ([], r)
  | c :: r => (splitGap r).map fun (a, b) => (c :: a, b)

def groups? (cs : List Char) : Option (List Nat) :=
  match splitGap cs with
  | none => side? cs
  | some (before, after) => do
    if before.contains '.' then none
    let b ← side? before
    let a ← side? after
    if b.length + a.length > 7 then none
    return b ++ List.replicate (8 - b.length - a.length) 0 ++ a

def read (cs : List Char) : Except Url.Error Ipv6 :=
  match (groups? cs).bind ofGroups? with
  | some a => .ok a
  | none => .error .invalidIpv6

def zeroRun (gs : List Nat) : Nat := (gs.takeWhile (· == 0)).length

/-- The start and the length of the first longest run of zeros. -/
def longestRun : List Nat → Nat × Nat
  | [] => (0, 0)
  | g :: r =>
    let (start, length) := longestRun r
    if zeroRun (g :: r) ≥ length then (0, zeroRun (g :: r)) else (start + 1, length)

def joined (gs : List Nat) : List Char := [':'].intercalate (gs.map (Nat.toDigits 16))

def textChars (a : Ipv6) : List Char :=
  let (start, length) := longestRun a.groups
  if length < 2 then joined a.groups
  else joined (a.groups.take start) ++ ':' :: ':' :: joined (a.groups.drop (start + length))

/-- The text that shows an IPv4 address within the last two groups as one. -/
def mixedChars (a : Ipv6) : List Char :=
  match a.groups with
  | [0, 0, 0, 0, 0, 0xFFFF, h, l] =>
    "::ffff:".toList ++
      ['.'].intercalate ([h / 256, h % 256, l / 256, l % 256].map Decimal.chars)
  | _ => a.textChars

end Ipv6

end ObjectStorage
