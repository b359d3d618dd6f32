import ObjectStorage.Unicode.Mark

/-!
# Writing directions

Letters are written to the right or to the left, and digits of two kinds, marks and signs take
their place among them. A label that holds letters of one direction is legible in a text of
either: `isLegible` is the rule on its first, its last and its other characters.
-/
namespace ObjectStorage.Unicode

inductive Direction where
  | right
  | left
  | europeanDigit
  | arabicDigit
  | mark
  | neutral
deriving DecidableEq

def leftRanges : List (Nat × Nat) := Table.ranges
  "5be 5c0 5c3 5c6 5d0.5f4 608 60b 60d 61b.64a 66d.66f 671.6d5 6e5.6e6 6ee.6ef 6fa.710 712.72f
   74d.7a5 7b1.7ea 7f4.7f5 7fa 7fe.815 81a 824 828 830.858 85e.897 8a0.8c9 fbb2.fbd2 fd90.fdce fe73
   10800.1091b 10920.10a00 10a10.10a35 10a40.10ae4 10aeb.10b35 10b40.10d23 10d40.10d8f 10e80.10ea9
   10ead.10efc 10f00.10f45 10f51.10f81 10f86.10ff6 1e800.1e8cf 1e922.1e943 1e94b.1ed3d"

def europeanDigitRanges : List (Nat × Nat) := Table.ranges
  "30.39 6f0.6f9 102e1.102fb"

def arabicDigitRanges : List (Nat × Nat) := Table.ranges
  "660.669 66b.66c 10d30.10d39 10e60.10e7e"

def neutralRanges : List (Nat × Nat) := Table.ranges
  "0.8 e.1b 21.2f 3a.60 7b.d7 f7 2b9.2ba 2c2.2cf 2d2.2ed 2ef.2ff 375 3f6 58a.58f 606.607 609.60a
   60c 60e.60f 66a 6de 6e9 7f6.7f9 9f2.9f3 9fb af1 bf3.bfa c78.c7e e3f f3a.f3d 1390.1399 1400
   169b.169c 17db 17f0.180a 1940.1945 19de.19ff 200c.20c1 2104.214d 218a.2335 237b.2394 2396.2426
   2440.26ab 26ad.27ff 2900.2b95 2b97.2bff 2ce5.2cea 2cf9.2cff 2e00.3004 3008.3020 3030 3037
   303d.303f 30a0 30fb 31c0.31e3 4dc0.4dff a490.a4c6 a60d.a60f a673 a67e.a67f a700.a721 a788
   a828.a82b a838.a839 a874.a877 ab6a.ab6b fd3e.fd4f fdcf.fdff fe45.fe46 10101 10140.1018c
   10190.101a0 1091f 10b39.10b3f 11052.11065 11660.1166c 11fd5.11ff1 16fe2 1d1e9.1d241 1d245
   1d300.1d356 1e2ff 1eef0.1f12f 1f16d.1f16f 1f1ad 1f260.1f6d7 1f6dc.1f776 1f77b.1f8b1 1f900.1fa53
   1fa60.1fa88 1fa90.1fabd 1fabf.1fac5 1face.1fadb 1fae0.1fae8 1faf0.1fbca"

def direction (c : Char) : Direction :=
  if Table.holds leftRanges c then .left
  else if Table.holds europeanDigitRanges c then .europeanDigit
  else if Table.holds arabicDigitRanges c then .arabicDigit
  else if isNonspacing c then .mark
  else if Table.holds neutralRanges c then .neutral
  else .right

/-- ASCII characters never run to the left. -/
def runsLeft (label : List Char) : Bool :=
  label.any fun c => 0x80 ≤ c.toNat && (direction c == .left || direction c == .arabicDigit)

def isLegible (label : List Char) : Bool :=
  let directions := label.map direction
  let last := (directions.filter (· != .mark)).getLast?
  match directions with
  | [] => true
  | .right :: _ =>
    !runsLeft label && (last == some .right || last == some .europeanDigit)
  | .left :: _ =>
    !directions.contains .right &&
      !(directions.contains .europeanDigit && directions.contains .arabicDigit) &&
      (last == some .left || last == some .europeanDigit || last == some .arabicDigit)
  | _ => false

end ObjectStorage.Unicode
