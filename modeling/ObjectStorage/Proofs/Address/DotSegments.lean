import ObjectStorage.Proofs.Address.Encoding
import ObjectStorage.Proofs.Text.WellFormed
import ObjectStorage.Url.Path

/-!
# Segments that are dots

A URL resolves the segments of its path that are one dot or two. Percent encoding leaves dots as
they are and makes none, so resolving the encoded segments of a path is encoding the segments that
are left when the dots of the path itself are followed.
-/
namespace ObjectStorage.Path

/-- Follows the segments that are one dot or two; `done` are those before, the last first. At the
end of a path such a segment leaves an empty one. -/
def follow (done : List (List Char)) : List (List Char) → List (List Char)
  | [] => done.reverse
  | s :: r =>
    let ends := if r.isEmpty then [[]] else []
    if s = ['.', '.'] then follow (ends ++ done.tail) r
    else if s = ['.'] then follow (ends ++ done) r
    else follow (s :: done) r

def IsDotSegment (s : List Char) : Prop := s = ['.'] ∨ s = ['.', '.']

instance (s : List Char) : Decidable (IsDotSegment s) := inferInstanceAs (Decidable (_ ∨ _))

theorem follow_eq {done ss : List (List Char)} (h : ∀ s ∈ ss, ¬ IsDotSegment s) :
    follow done ss = done.reverse ++ ss := by
  induction ss generalizing done with
  | nil => simp [follow]
  | cons s r ih =>
    have hs := h s List.mem_cons_self
    rw [IsDotSegment, not_or] at hs
    rw [follow]
    simp only [if_neg hs.1, if_neg hs.2]
    rw [ih fun t ht => h t (List.mem_cons_of_mem s ht), List.reverse_cons, List.append_assoc,
      List.singleton_append]

open Percent (encodeChars encodeChars_cons)

theorem encodeChars_dot (s : List Char) : encodeChars ('.' :: s) = '.' :: encodeChars s := rfl

theorem toLower_ne_percent {c : Char} (h : Percent.isUnreserved c = true) : c.toLower ≠ '%' :=
  forall_char_lt (p := fun c => Percent.isUnreserved c = true → c.toLower ≠ '%') (by decide)
    (Percent.toNat_lt_of_isUnreserved h) h

/-- No triplet of an encoded text stands for a dot. -/
theorem take_encodeChars (s : List Char) :
    ((encodeChars s).take 3).map Char.toLower ≠ ['%', '2', 'e'] := by
  cases s with
  | nil => decide
  | cons c s =>
    rw [encodeChars_cons, Percent.encodeCharBy]
    split
    · next hc =>
      intro h
      exact toLower_ne_percent hc (List.cons.inj h).1
    · next hc =>
      cases he : Utf8.encodeChar c with
      | nil => exact absurd he (Utf8.encodeChar_ne_nil c)
      | cons b r =>
        intro h
        have hlt : b.toNat < 256 := b.toNat_lt
        simp only [List.flatMap_cons, Percent.encodeByte, List.cons_append, List.take_succ_cons,
          List.map_cons, List.cons.injEq] at h
        have high : ∀ n < 16, (Bytes.hexDigitUpper n).toLower = '2' → n = 2 := by decide
        have low : ∀ n < 16, (Bytes.hexDigitUpper n).toLower = 'e' → n = 14 := by decide
        have h₁ := high _ (by omega) h.2.1
        have h₂ := low _ (by omega) h.2.2.1
        have hdot := Utf8.toNat_of_encodeChar he (by omega)
        rw [← Char.ofNat_toNat c, hdot, show b.toNat = 46 by omega] at hc
        exact hc (by decide)

theorem isDot_iff {cs : List Char} :
    isDot cs = true ↔ cs = ['.'] ∨ cs.map Char.toLower = ['%', '2', 'e'] := by
  simp [isDot]

theorem isDot_encodeChars {s : List Char} : isDot (encodeChars s) = true ↔ s = ['.'] := by
  rw [isDot_iff]
  constructor
  · rintro (h | h)
    · exact Percent.encodeChars_injective (h.trans (encodeChars_dot []).symm)
    · have hl : (encodeChars s).length ≤ 3 := by
        rw [← List.length_map (f := Char.toLower), h]
        decide
      rw [← List.take_of_length_le hl] at h
      exact absurd h (take_encodeChars s)
  · rintro rfl
    exact Or.inl rfl

theorem isTwoDots_encodeChars {s : List Char} :
    isTwoDots (encodeChars s) = true ↔ s = ['.', '.'] := by
  constructor
  · intro h
    simp only [isTwoDots, Bool.or_eq_true, Bool.and_eq_true] at h
    rcases h with ⟨first, second⟩ | ⟨first, second⟩
    · cases s with
      | nil => exact absurd first (by decide)
      | cons c r =>
        rw [encodeChars_cons, Percent.encodeCharBy] at first second
        split at first
        · next hc =>
          rw [if_pos hc] at second
          rcases isDot_iff.1 first with h | h
          · rw [show r = ['.'] from isDot_encodeChars.1 second, (List.cons.inj h).1]
          · exact absurd (congrArg List.length h) (by simp)
        · cases he : Utf8.encodeChar c with
          | nil => exact absurd he (Utf8.encodeChar_ne_nil c)
          | cons b bs =>
            rw [he] at first
            exact absurd (show isDot ['%'] = true from first) (by decide)
    · rcases isDot_iff.1 first with h | h
      · have hl : (encodeChars s).length ≤ 3 := by
          have ht := congrArg List.length h
          rw [List.length_take] at ht
          simp at ht
          omega
        rw [List.drop_eq_nil_of_le hl] at second
        exact absurd second (by decide)
      · exact absurd h (take_encodeChars s)
  · rintro rfl
    decide

theorem isDrive_encodeChars (s : List Char) : isDrive (encodeChars s) = false := by
  rw [Bool.eq_false_iff]
  intro h
  rw [isDrive.eq_def] at h
  split at h
  · next c d he =>
    have hd : d ∈ encodeChars s := by
      rw [he]
      exact List.mem_cons_of_mem c List.mem_cons_self
    simp only [Bool.and_eq_true, Bool.or_eq_true, beq_iff_eq] at h
    rcases Percent.mem_encodeChars hd with hu | rfl
    · rcases h.2 with rfl | rfl
      · exact absurd hu (by decide)
      · exact absurd hu (by decide)
    · exact absurd h.2 (by decide)
  · cases h

theorem up_map_encodeChars (done : List (List Char)) :
    up (done.map encodeChars) = done.tail.map encodeChars := by
  cases done with
  | nil => rfl
  | cons s r =>
    rw [List.map_cons, up, isDrive_encodeChars]
    rfl

theorem resolve_map_encodeChars (done ss : List (List Char)) :
    resolve (done.map encodeChars) (ss.map encodeChars) = (follow done ss).map encodeChars := by
  -- dots take segments back, so the induction is over whatever has been done before
  induction ss generalizing done with
  | nil => simp [resolve, follow]
  | cons s r ih =>
    have ends : (if (r.map encodeChars).isEmpty then [[]] else []) =
        (if r.isEmpty then [[]] else []).map encodeChars := by
      cases r <;> rfl
    rw [List.map_cons, resolve, follow]
    simp only [ends, isTwoDots_encodeChars, isDot_encodeChars, up_map_encodeChars,
      ← List.map_append]
    split
    · exact ih _
    · split
      · exact ih _
      · exact ih (s :: done)

end ObjectStorage.Path
