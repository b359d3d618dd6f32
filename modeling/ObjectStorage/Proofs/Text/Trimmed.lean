import Mathlib.Data.List.TakeWhile
import ObjectStorage.Text.Blank

/-!
# Trimmed lists

What is left of a list without the blanks at its ends: `trimBy` is the only way to cut them off, as
`trimBy_eq_iff` says.
-/
namespace ObjectStorage.Blank

variable {α : Type} {p : α → Bool} {s t before after : List α}

/-- `t` is `s` without the blanks at both ends. -/
structure IsTrimmed (p : α → Bool) (s t : List α) : Prop where
  cut : ∃ before after, s = before ++ t ++ after ∧ (∀ a ∈ before, p a = true) ∧
    ∀ a ∈ after, p a = true
  first : ∀ a, t.head? = some a → p a = false
  last : ∀ a, t.getLast? = some a → p a = false

theorem trimBy_append_right (h : ∀ a ∈ after, p a = true) : trimBy p (s ++ after) = trimBy p s := by
  rw [trimBy, trimBy, List.dropWhile_append]
  split
  · next none =>
    rw [List.isEmpty_iff.1 none, List.dropWhile_eq_nil_iff.2 h]
  · rw [List.reverse_append, List.dropWhile_append_of_pos]
    intro a ha
    exact h a (List.mem_reverse.1 ha)

theorem trimBy_append_left (h : ∀ a ∈ before, p a = true) :
    trimBy p (before ++ s) = trimBy p s := by
  rw [trimBy, List.dropWhile_append_of_pos h, trimBy]

theorem head?_dropWhile {a : α} (h : (s.dropWhile p).head? = some a) : p a = false := by
  have stops := List.head?_dropWhile_not p s
  rw [h] at stops
  exact stops

theorem isTrimmed_trimBy (p : α → Bool) (s : List α) : IsTrimmed p s (trimBy p s) := by
  have cut (l : List α) : l = l.takeWhile p ++ l.dropWhile p := List.takeWhile_append_dropWhile.symm
  refine ⟨⟨s.takeWhile p, ((s.dropWhile p).reverse.takeWhile p).reverse, ?_, ?_, ?_⟩, ?_, ?_⟩
  · rw [trimBy, List.append_assoc, ← List.reverse_append, ← cut, List.reverse_reverse]
    exact cut s
  · exact fun a ha => List.mem_takeWhile_imp ha
  · exact fun a ha => List.mem_takeWhile_imp (List.mem_reverse.1 ha)
  · intro a ha
    -- what is cut off at the end leaves the first item where it was
    have start : trimBy p s <+: s.dropWhile p := by
      rw [trimBy, ← List.reverse_suffix, List.reverse_reverse]
      exact List.dropWhile_suffix p
    obtain ⟨rest, whole⟩ := start
    apply head?_dropWhile (s := s)
    rw [← whole, List.head?_append, ha]
    rfl
  · intro a ha
    rw [trimBy, List.getLast?_reverse] at ha
    exact head?_dropWhile ha

/-- Blanks at the ends are cut off, and nothing else. -/
theorem trimBy_eq_iff : trimBy p s = t ↔ IsTrimmed p s t := by
  constructor
  · rintro rfl
    exact isTrimmed_trimBy p s
  · rintro ⟨⟨before, after, rfl, hb, ha⟩, first, last⟩
    rw [trimBy_append_right ha, trimBy_append_left hb, trimBy_of_ends first last]

end ObjectStorage.Blank
