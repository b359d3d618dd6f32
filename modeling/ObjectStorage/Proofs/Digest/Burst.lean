import Mathlib.Algebra.Group.Nat.Defs
import ObjectStorage.Digest.Crc64

/-!
# Bursts of errors

A shift is linear in exclusive or and loses nothing, so what follows an error never hides it from
the remainder. An error that the bytes to come undo leaves a difference below them in size
(`difference_lt`), and a byte in the front of at most eight is above that. Contents that differ
within eight consecutive bytes therefore differ in their checksum.
-/
namespace ObjectStorage.Crc64

theorem shift_of_even {c : UInt64} (h : c.toNat % 2 = 0) : shift c = c >>> 1 := by
  rw [shift, if_neg]
  intro hc
  have low := congrArg UInt64.toNat hc
  rw [UInt64.toNat_and, UInt64.toNat_one, Nat.and_one_is_mod, h] at low
  cases low

theorem shift_of_odd {c : UInt64} (h : c.toNat % 2 = 1) : shift c = c >>> 1 ^^^ polynomial := by
  rw [shift, if_pos]
  apply UInt64.toNat_inj.1
  rw [UInt64.toNat_and, UInt64.toNat_one, Nat.and_one_is_mod, h]

theorem toNat_shiftRight_one (c : UInt64) : (c >>> 1).toNat = c.toNat / 2 := by
  rw [UInt64.toNat_shiftRight]
  exact Nat.shiftRight_eq_div_pow _ 1

theorem xor_cancel (a b p : UInt64) : a ^^^ p ^^^ (b ^^^ p) = a ^^^ b := by
  rw [UInt64.xor_assoc, UInt64.xor_comm b p, ← UInt64.xor_assoc p p b, UInt64.xor_self,
    UInt64.zero_xor]

theorem shift_xor (a b : UInt64) : shift (a ^^^ b) = shift a ^^^ shift b := by
  have parity : (a ^^^ b).toNat % 2 = (a.toNat % 2) ^^^ (b.toNat % 2) := by
    rw [UInt64.toNat_xor]
    exact Nat.xor_mod_two_pow (n := 1)
  rcases Nat.mod_two_eq_zero_or_one a.toNat with ha | ha <;>
    rcases Nat.mod_two_eq_zero_or_one b.toNat with hb | hb <;>
    rw [ha, hb] at parity
  · rw [shift_of_even parity, shift_of_even ha, shift_of_even hb, UInt64.shiftRight_xor]
  · rw [shift_of_odd parity, shift_of_even ha, shift_of_odd hb, UInt64.shiftRight_xor,
      UInt64.xor_assoc]
  · rw [shift_of_odd parity, shift_of_odd ha, shift_of_even hb, UInt64.shiftRight_xor,
      UInt64.xor_assoc, UInt64.xor_assoc, UInt64.xor_comm polynomial]
  · rw [shift_of_even parity, shift_of_odd ha, shift_of_odd hb, UInt64.shiftRight_xor, xor_cancel]

/-- The polynomial fills the place that a shift leaves, so only zero is shifted to zero. -/
theorem eq_zero_of_shift {c : UInt64} (h : shift c = 0) : c = 0 := by
  apply UInt64.toNat_inj.1
  rcases Nat.mod_two_eq_zero_or_one c.toNat with hc | hc
  · rw [shift_of_even hc] at h
    have half := congrArg UInt64.toNat h
    rw [toNat_shiftRight_one, UInt64.toNat_zero] at half
    rw [UInt64.toNat_zero]
    omega
  · rw [shift_of_odd hc, UInt64.xor_eq_zero_iff] at h
    have half := congrArg UInt64.toNat h
    rw [toNat_shiftRight_one] at half
    have top : (2 : Nat) ^ 63 ≤ polynomial.toNat := by decide
    have := c.toNat_lt
    omega

theorem shifts_xor (n : Nat) (a b : UInt64) : shifts n (a ^^^ b) = shifts n a ^^^ shifts n b := by
  induction n generalizing a b with
  | zero => rfl
  | succ n ih => rw [shifts, shift_xor, ih, shifts, shifts]

theorem shifts_injective {n : Nat} {a b : UInt64} (h : shifts n a = shifts n b) : a = b := by
  have zero {n : Nat} {c : UInt64} (h : shifts n c = 0) : c = 0 := by
    induction n generalizing c with
    | zero => exact h
    | succ n ih => exact eq_zero_of_shift (ih h)
  rw [← UInt64.xor_eq_zero_iff, ← shifts_xor] at h
  exact UInt64.xor_eq_zero_iff.1 (zero h)

/-- Shifts of a multiple of their power of two only divide. -/
theorem shifts_of_multiple {n : Nat} {c d : UInt64} (h : c.toNat = 2 ^ n * d.toNat) :
    shifts n c = d := by
  induction n generalizing c with
  | zero =>
    rw [Nat.pow_zero, Nat.one_mul] at h
    exact UInt64.toNat_inj.1 h
  | succ n ih =>
    have double : c.toNat = 2 * (2 ^ n * d.toNat) := by
      rw [h, Nat.pow_succ', Nat.mul_assoc]
    rw [shifts, shift_of_even (by omega)]
    apply ih
    rw [toNat_shiftRight_one]
    omega

theorem toNat_byte_xor_lt (b b' : UInt8) : (b.toUInt64 ^^^ b'.toUInt64).toNat < 2 ^ 8 := by
  rw [UInt64.toNat_xor, UInt8.toNat_toUInt64, UInt8.toNat_toUInt64]
  exact Nat.xor_lt_two_pow b.toNat_lt b'.toNat_lt

theorem step_xor (a a' : UInt64) (b b' : UInt8) :
    step a b ^^^ step a' b' = shifts 8 (a ^^^ a' ^^^ (b.toUInt64 ^^^ b'.toUInt64)) := by
  rw [step, step, ← shifts_xor]
  congr 1
  ac_rfl

theorem difference_of_shifts {d : UInt64} {n : Nat} (h : (shifts 8 d).toNat < 2 ^ n)
    (hn : n + 8 ≤ 64) : d.toNat = 2 ^ 8 * (shifts 8 d).toNat := by
  have fits : 2 ^ 8 * (shifts 8 d).toNat < 2 ^ 64 := by
    calc 2 ^ 8 * (shifts 8 d).toNat < 2 ^ 8 * 2 ^ n := Nat.mul_lt_mul_of_pos_left h (by decide)
      _ = 2 ^ (n + 8) := by rw [← Nat.pow_add, Nat.add_comm]
      _ ≤ 2 ^ 64 := Nat.pow_le_pow_right (by decide) hn
  have hd : (UInt64.ofNat (2 ^ 8 * (shifts 8 d).toNat)).toNat = 2 ^ 8 * (shifts 8 d).toNat :=
    UInt64.toNat_ofNat_of_lt' fits
  rw [shifts_injective (shifts_of_multiple hd).symm, hd, shifts_of_multiple hd]

variable {a a' : UInt64} {w w' : Bytes}

/-- Remainders that a few bytes make equal differ by no more bits than these bytes have. -/
theorem difference_lt (same : w.length = w'.length) (few : w.length ≤ 8)
    (h : remainder a w = remainder a' w') : (a ^^^ a').toNat < 2 ^ (8 * w.length) := by
  induction w generalizing w' a a' with
  | nil =>
    obtain rfl := List.eq_nil_of_length_eq_zero same.symm
    have ha : a = a' := h
    rw [ha, UInt64.xor_self]
    decide
  | cons b w ih =>
    obtain ⟨b', w', rfl⟩ := List.exists_cons_of_length_eq_add_one same.symm
    rw [List.length_cons] at few
    have after : (step a b ^^^ step a' b').toNat < 2 ^ (8 * w.length) :=
      ih (Nat.succ.inj same) (by omega) h
    rw [step_xor] at after
    have before := difference_of_shifts after (by omega)
    have front : a ^^^ a' = a ^^^ a' ^^^ (b.toUInt64 ^^^ b'.toUInt64) ^^^
        (b.toUInt64 ^^^ b'.toUInt64) := by
      rw [UInt64.xor_assoc (a ^^^ a'), UInt64.xor_self, UInt64.xor_zero]
    rw [front, UInt64.toNat_xor, before, List.length_cons]
    apply Nat.xor_lt_two_pow
    · rw [Nat.mul_succ, Nat.pow_add, Nat.mul_comm]
      exact Nat.mul_lt_mul_of_pos_right after (by decide)
    · exact Nat.lt_of_lt_of_le (toNat_byte_xor_lt b b')
        (Nat.pow_le_pow_right (by decide) (by omega))

/-- At most eight bytes that differ leave different remainders. -/
theorem eq_of_remainder_eq (same : w.length = w'.length) (few : w.length ≤ 8)
    (h : remainder a w = remainder a w') : w = w' := by
  induction w generalizing w' a with
  | nil => exact (List.eq_nil_of_length_eq_zero same.symm).symm
  | cons b w ih =>
    obtain ⟨b', w', rfl⟩ := List.exists_cons_of_length_eq_add_one same.symm
    rw [List.length_cons] at few
    have after : (step a b ^^^ step a b').toNat < 2 ^ (8 * w.length) :=
      difference_lt (Nat.succ.inj same) (by omega) h
    rw [step_xor, UInt64.xor_self, UInt64.zero_xor] at after
    have before := difference_of_shifts after (by omega)
    have small := toNat_byte_xor_lt b b'
    have zero : b.toUInt64 ^^^ b'.toUInt64 = 0 := by
      apply UInt64.toNat_inj.1
      rw [UInt64.toNat_zero]
      omega
    obtain rfl : b = b' := UInt8.toUInt64_inj.1 (UInt64.xor_eq_zero_iff.1 zero)
    rw [ih (Nat.succ.inj same) (by omega) h]

/-- What comes after an error does not hide it. -/
theorem remainder_injective {data : Bytes} (h : remainder a data = remainder a' data) : a = a' := by
  induction data generalizing a a' with
  | nil => exact h
  | cons b data ih =>
    have one : step a b = step a' b := ih h
    exact (UInt64.xor_left_inj _).1 (shifts_injective one)

/-- Contents of one length with one checksum do not differ within some eight consecutive bytes
alone. -/
theorem eq_of_checksum_eq {a b : Bytes} (same : a.length = b.length) {i : Nat}
    (near : ∀ j, a[j]? ≠ b[j]? → i ≤ j ∧ j < i + 8) (h : checksum a = checksum b) : a = b := by
  have before : a.take i = b.take i := by
    apply List.ext_getElem?
    intro j
    rw [List.getElem?_take, List.getElem?_take]
    split
    · exact Decidable.byContradiction fun hj => by have := near j hj; omega
    · rfl
  have after : a.drop (i + 8) = b.drop (i + 8) := by
    apply List.ext_getElem?
    intro j
    rw [List.getElem?_drop, List.getElem?_drop]
    exact Decidable.byContradiction fun hj => by have := near (i + 8 + j) hj; omega
  have parts (l : Bytes) : l = l.take i ++ ((l.drop i).take 8 ++ l.drop (i + 8)) := by
    rw [← List.drop_drop, List.take_append_drop, List.take_append_drop]
  have whole : remainder mask a = remainder mask b := (UInt64.xor_left_inj mask).1 h
  rw [parts a, parts b, remainder_append, remainder_append, remainder_append, remainder_append,
    before, after] at whole
  have window : (a.drop i).take 8 = (b.drop i).take 8 := by
    refine eq_of_remainder_eq ?_ ?_ (remainder_injective whole)
    · simp only [List.length_take, List.length_drop, same]
    · exact List.length_take_le 8 _
  rw [parts a, parts b, before, window, after]

end ObjectStorage.Crc64
