import ObjectStorage.Json.Tree

/-!
# Integers

Integers of 64 bits as JSON writes them: a minus sign perhaps, and digits of which the first is no
zero unless it is the only one. `readNumberTree_of_spelling` says that the reader gives the integer
back.
-/
namespace ObjectStorage.Json

/-- What stands after an integer: nothing that would continue a number. -/
def EndsNumber (rest : Bytes) : Prop :=
  ∀ b, rest.head? = some b → isDigit b = false ∧ b ≠ 0x2E ∧ b ≠ 0x65 ∧ b ≠ 0x45

structure DigitSpelling (ds : Bytes) (n : Nat) : Prop where
  digits : ∀ b ∈ ds, isDigit b = true
  nonempty : ds ≠ []
  plain : ds.head? = some 0x30 → ds = [0x30]
  value : natOfDigits (ds.map digitValue) = n

/-- An integer of 64 bits and what follows it. -/
inductive IntegerSpelling : Bytes → Int → Bytes → Prop
  | natural {ds rest : Bytes} {n : Nat} (h : DigitSpelling ds n) (fits : n < 0x8000000000000000)
      (last : EndsNumber rest) : IntegerSpelling (ds ++ rest) n rest
  | negative {ds rest : Bytes} {n : Nat} (h : DigitSpelling ds n) (nonzero : 0 < n)
      (fits : n ≤ 0x8000000000000000) (last : EndsNumber rest) :
      IntegerSpelling (0x2D :: (ds ++ rest)) (-n) rest

theorem le_foldl_digits (ds : List Nat) (s : Nat) : s ≤ ds.foldl (fun n d => n * 10 + d) s := by
  induction ds generalizing s with
  | nil => exact Nat.le_refl s
  | cons d ds ih =>
    rw [List.foldl_cons]
    exact Nat.le_trans (by omega) (ih (s * 10 + d))

theorem appendDigits_eq {ds : List Nat} {s : Nat}
    (h : ds.foldl (fun n d => n * 10 + d) s ≤ wordMax) :
    appendDigits s ds = (ds.foldl (fun n d => n * 10 + d) s, []) := by
  induction ds generalizing s with
  | nil => rfl
  | cons d ds ih =>
    rw [List.foldl_cons] at h ⊢
    rw [appendDigits, if_pos (Nat.le_trans (le_foldl_digits ds _) h), ih h]

theorem readFraction_of_ends {rest : Bytes} (last : EndsNumber rest) (negative : Bool) (n : Nat) :
    readFraction negative n [] rest = .ok (integerOf negative n, rest) := by
  cases rest with
  | nil => rfl
  | cons b rest =>
    obtain ⟨-, hd, he, hE⟩ := last b rfl
    unfold readFraction
    split
    · next h => exact absurd (List.cons.inj h).1 hd
    · next h => exact absurd (List.cons.inj h).1 he
    · next h => exact absurd (List.cons.inj h).1 hE
    · rfl

theorem eq_zero_of_digitValue {b : UInt8} (hd : isDigit b = true) (hb : digitValue b = 0) :
    b = 0x30 := by
  simp only [isDigit, Bool.and_eq_true, decide_eq_true_eq, UInt8.le_iff_toNat_le] at hd
  rw [digitValue] at hb
  rw [← UInt8.toNat_inj]
  have hl : (0x30 : UInt8).toNat = 0x30 := rfl
  omega

theorem readNumber_of_digits {ds rest : Bytes} {n : Nat} (h : DigitSpelling ds n)
    (fits : n ≤ wordMax) (last : EndsNumber rest) (negative : Bool) :
    readNumber negative (ds ++ rest) = .ok (integerOf negative n, rest) := by
  have spanned := spanDigits_append ds rest h.digits fun b hb => (last b hb).1
  have appended : appendDigits 0 (ds.map digitValue) = (n, []) := by
    have hv : (ds.map digitValue).foldl (fun n d => n * 10 + d) 0 = n := h.value
    rw [appendDigits_eq (hv ▸ fits), hv]
  rw [readNumber, spanned]
  obtain ⟨b, ds, rfl⟩ := List.exists_cons_of_ne_nil h.nonempty
  rw [List.map_cons] at appended ⊢
  split
  · next heq => cases heq
  · next heq => cases heq
  · next heq =>
    -- a first digit zero is the only one
    obtain ⟨hb, hd⟩ := List.cons.inj (Prod.mk.inj heq).1
    have zero := eq_zero_of_digitValue (h.digits b List.mem_cons_self) hb
    subst zero
    cases h.plain rfl
    cases hd
  · next heq =>
    cases heq
    rw [appended]
    exact readFraction_of_ends last negative n

theorem readNumberTree_of_digits {ds rest : Bytes} {n : Nat} (h : DigitSpelling ds n)
    (fits : n ≤ wordMax) (last : EndsNumber rest) (negative : Bool) :
    readNumberTree negative (ds ++ rest) = (.number (integerOf negative n), some rest) := by
  rw [readNumberTree, readNumber_of_digits h fits last]

theorem DigitSpelling.head {ds : Bytes} {n : Nat} (h : DigitSpelling ds n) :
    ∃ b r, ds = b :: r ∧ isDigit b = true := by
  obtain ⟨b, r, rfl⟩ := List.exists_cons_of_ne_nil h.nonempty
  exact ⟨b, r, rfl, h.digits b List.mem_cons_self⟩

theorem readLeaf_digit {b : UInt8} (hb : isDigit b = true) (r : Bytes) :
    readLeaf b r = readNumberTree false (b :: r) := by
  have ne {c : UInt8} (hc : isDigit c = false) : b ≠ c := by
    rintro rfl
    rw [hb] at hc
    cases hc
  rw [readLeaf, if_neg (ne rfl), if_neg (ne rfl), if_neg (ne rfl), if_neg (ne rfl), if_pos hb]

theorem IntegerSpelling.readLeaf {s rest : Bytes} {v : Int} (h : IntegerSpelling s v rest) :
    ∃ b r, s = b :: r ∧ (b = 0x2D ∨ isDigit b = true) ∧
      readLeaf b r = (.number (.ok (.integer v)), some rest) := by
  cases h with
  | @natural ds _ n h fits last =>
    obtain ⟨b, r, rfl, hb⟩ := h.head
    refine ⟨b, r ++ rest, rfl, Or.inr hb, ?_⟩
    have hn : n ≤ wordMax := Nat.le_trans (Nat.le_of_lt fits) (by decide)
    rw [readLeaf_digit hb]
    exact readNumberTree_of_digits h hn last false
  | @negative ds _ n h nonzero fits last =>
    refine ⟨0x2D, ds ++ rest, rfl, Or.inl rfl, ?_⟩
    have hn : n ≤ wordMax := Nat.le_trans fits (by decide)
    have hv : integerOf true n = .ok (.integer (-n)) := by
      rw [integerOf, if_neg (by decide), if_neg (by omega)]
    rw [← hv]
    exact readNumberTree_of_digits h hn last true

end ObjectStorage.Json
