/-!
# Bytes

Bodies, header values and message texts are lists of bytes. `hex` writes a list with two
lower-case digits a byte; `hexValue?` reads a digit of either case.
-/
namespace ObjectStorage

abbrev Bytes := List UInt8

theorem forall_char_lt {bound : Nat} {p : Char → Prop} (h : ∀ n < bound, p (Char.ofNat n)) {c : Char}
    (hc : c.toNat < bound) : p c := by
  have hn := h c.toNat hc
  rwa [Char.ofNat_toNat] at hn

theorem toNat_lt_of_isAlphanum {c : Char} (h : c.isAlphanum = true) : c.toNat < 0x80 := by
  delta Char.isAlphanum Char.isAlpha Char.isUpper Char.isLower Char.isDigit at h
  simp only [Bool.or_eq_true, Bool.and_eq_true, decide_eq_true_eq, ge_iff_le,
    UInt32.le_iff_toNat_le] at h
  simp at h
  omega

namespace Bytes

def hexDigit (n : Nat) : Char :=
  Char.ofNat (if n < 10 then 48 + n else 87 + n)

def hexDigitUpper (n : Nat) : Char :=
  Char.ofNat (if n < 10 then 48 + n else 55 + n)

def hexValue? (c : Char) : Option Nat :=
  if '0' ≤ c ∧ c ≤ '9' then some (c.toNat - 48)
  else if 'a' ≤ c ∧ c ≤ 'f' then some (c.toNat - 87)
  else if 'A' ≤ c ∧ c ≤ 'F' then some (c.toNat - 55)
  else none

def hexChars : Bytes → List Char
  | [] => []
  | b :: r => hexDigit (b.toNat / 16) :: hexDigit (b.toNat % 16) :: hexChars r

def hex (b : Bytes) : String := String.ofList (hexChars b)

theorem exists_hexDigit {b : Bytes} {c : Char} (h : c ∈ (hex b).toList) :
    ∃ n < 16, c = hexDigit n := by
  rw [hex, String.toList_ofList] at h
  induction b with
  | nil => cases h
  | cons a r ih =>
    have ha : a.toNat < 256 := a.toNat_lt
    rw [hexChars, List.mem_cons, List.mem_cons] at h
    rcases h with rfl | rfl | h
    · exact ⟨a.toNat / 16, by omega, rfl⟩
    · exact ⟨a.toNat % 16, by omega, rfl⟩
    · exact ih h

theorem hex_visible {b : Bytes} {c : Char} (h : c ∈ (hex b).toList) :
    0x20 ≤ c.toNat ∧ c.toNat < 0x7F := by
  obtain ⟨n, hn, rfl⟩ := exists_hexDigit h
  clear h
  revert n
  decide

end Bytes

end ObjectStorage
