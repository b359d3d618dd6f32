import ObjectStorage.Text.Utf8

/-!
# Percent encoding

A character outside a class of kept ones is written byte by byte, as a percent sign with two
upper-case digits. `decode` reads such triplets back and keeps a percent sign that starts none.
`decode_encodeByte` and `decode_of_ne` say so for one byte.
-/
namespace ObjectStorage.Percent

def isUnreserved (c : Char) : Bool :=
  c.isAlphanum || c == '-' || c == '.' || c == '_' || c == '~'

def encodeByte (b : UInt8) : List Char :=
  ['%', Bytes.hexDigitUpper (b.toNat / 16), Bytes.hexDigitUpper (b.toNat % 16)]

def encodeCharBy (keep : Char → Bool) (c : Char) : List Char :=
  if keep c then [c] else (Utf8.encodeChar c).flatMap encodeByte

def encodeBy (keep : Char → Bool) (s : List Char) : List Char := s.flatMap (encodeCharBy keep)

def encodeChars (s : List Char) : List Char := encodeBy isUnreserved s

def encodePathChars (s : List Char) : List Char :=
  encodeBy (fun c => isUnreserved c || c == '/') s

def encode (s : String) : String := String.ofList (encodeChars s.toList)

def triplet? (high low : UInt8) : Option UInt8 := do
  let h ← Bytes.hexValue? (Char.ofNat high.toNat)
  let l ← Bytes.hexValue? (Char.ofNat low.toNat)
  return UInt8.ofNat (16 * h + l)

def decode : Bytes → Bytes
  | [] => []
  | [a] => [a]
  | [a, b] => [a, b]
  | a :: b :: c :: r =>
    if a = 0x25 then
      match triplet? b c with
      | some v => v :: decode r
      | none => a :: decode (b :: c :: r)
    else a :: decode (b :: c :: r)

theorem encodeBy_append (keep : Char → Bool) (s t : List Char) :
    encodeBy keep (s ++ t) = encodeBy keep s ++ encodeBy keep t := List.flatMap_append

theorem encodeBy_cons (keep : Char → Bool) (c : Char) (s : List Char) :
    encodeBy keep (c :: s) = encodeCharBy keep c ++ encodeBy keep s := List.flatMap_cons

theorem decode_of_ne {a : UInt8} (h : a ≠ 0x25) (r : Bytes) : decode (a :: r) = a :: decode r := by
  match r with
  | [] => rfl
  | [_] => rfl
  | _ :: _ :: _ => rw [decode, if_neg h]

theorem triplet?_digits (b : UInt8) :
    triplet? (UInt8.ofNat (Bytes.hexDigitUpper (b.toNat / 16)).toNat)
      (UInt8.ofNat (Bytes.hexDigitUpper (b.toNat % 16)).toNat) = some b := by
  have small : ∀ n < 16, Bytes.hexValue?
      (Char.ofNat (UInt8.ofNat (Bytes.hexDigitUpper n).toNat).toNat) = some n := by decide
  have hb : b.toNat < 256 := b.toNat_lt
  have hs : 16 * (b.toNat / 16) + b.toNat % 16 = b.toNat := by omega
  rw [triplet?, small _ (show b.toNat / 16 < 16 by omega),
    small _ (show b.toNat % 16 < 16 by omega)]
  simp only [Option.bind_eq_bind, Option.bind_some, hs, UInt8.ofNat_toNat, Option.pure_def]

theorem decode_encodeByte (b : UInt8) (r : Bytes) :
    decode ((encodeByte b).map (fun c => UInt8.ofNat c.toNat) ++ r) = b :: decode r := by
  simp only [encodeByte, List.map_cons, List.map_nil, List.cons_append, List.nil_append]
  rw [decode, if_pos (by decide), triplet?_digits]

end ObjectStorage.Percent
