/-!
# Joined texts

What a text that is made of parts holds, and what its parts are: there is one cut into parts, if the
character between them is in none of them.
-/
namespace ObjectStorage

variable {c : Char} {s t x y : List Char}

theorem mem_of_mem_splitOn {a : Char} {l : List Char} (hl : l ∈ s.splitOn a) (hc : c ∈ l) :
    c ∈ s := by
  induction s generalizing l with
  | nil =>
    rw [List.splitOn_nil, List.mem_singleton] at hl
    rw [hl] at hc
    cases hc
  | cons x s ih =>
    rw [List.splitOn_cons_eq_if_modifyHead] at hl
    split at hl
    · rcases List.mem_cons.1 hl with rfl | hl
      · cases hc
      · exact List.mem_cons_of_mem x (ih hl hc)
    · cases hs : s.splitOn a with
      | nil => exact absurd hs (List.splitOn_ne_nil a s)
      | cons first r =>
        rw [hs] at hl ih
        rcases List.mem_cons.1 hl with rfl | hl
        · rcases List.mem_cons.1 hc with rfl | hc
          · exact List.mem_cons_self
          · exact List.mem_cons_of_mem x (ih List.mem_cons_self hc)
        · exact List.mem_cons_of_mem x (ih (List.mem_cons_of_mem first hl) hc)

theorem mem_intercalate {a : Char} {ls : List (List Char)} (h : c ∈ [a].intercalate ls) :
    c = a ∨ ∃ l ∈ ls, c ∈ l := by
  induction ls with
  | nil => cases h
  | cons a r ih =>
    cases r with
    | nil =>
      rw [List.intercalate_singleton] at h
      exact Or.inr ⟨a, List.mem_cons_self, h⟩
    | cons b r =>
      rw [List.intercalate_cons_cons, List.mem_append, List.mem_append] at h
      rcases h with (h | h) | h
      · exact Or.inr ⟨a, List.mem_cons_self, h⟩
      · exact Or.inl (List.mem_singleton.1 h)
      · refine (ih h).imp_right fun hmem => ?_
        obtain ⟨l, hl, hc⟩ := hmem
        exact ⟨l, List.mem_cons_of_mem a hl, hc⟩

theorem eq_of_append_first (hs : c ∉ s) (ht : c ∉ t) (h : s ++ c :: x = t ++ c :: y) :
    s = t ∧ x = y := by
  have hsplit := congrArg (List.splitOn c) h
  rw [List.splitOn_append_cons_self_of_not_mem hs,
    List.splitOn_append_cons_self_of_not_mem ht] at hsplit
  obtain ⟨rfl, -⟩ := List.cons.inj hsplit
  exact ⟨rfl, (List.cons.inj (List.append_cancel_left h)).2⟩

theorem eq_of_append_last (hs : c ∉ s) (ht : c ∉ t) (h : x ++ c :: s = y ++ c :: t) :
    x = y ∧ s = t := by
  have hr : s.reverse ++ c :: x.reverse = t.reverse ++ c :: y.reverse := by
    simpa using congrArg List.reverse h
  obtain ⟨hst, hxy⟩ := eq_of_append_first (by simpa using hs) (by simpa using ht) hr
  exact ⟨List.reverse_inj.1 hxy, List.reverse_inj.1 hst⟩

/-- The empty list and the list of one empty part are joined alike, so parts are not empty. -/
theorem filter_splitOn_intercalate {ls : List (List Char)} (hl : ∀ l ∈ ls, c ∉ l ∧ l ≠ []) :
    (([c].intercalate ls).splitOn c).filter (!·.isEmpty) = ls := by
  by_cases hn : ls = []
  · subst hn
    rfl
  · rw [List.splitOn_intercalate c (fun l hm => (hl l hm).1) hn, List.filter_eq_self]
    intro l hm
    simpa using (hl l hm).2

theorem intercalate_injective {ps qs : List (List Char)} (hp : ∀ p ∈ ps, c ∉ p ∧ p ≠ [])
    (hq : ∀ q ∈ qs, c ∉ q ∧ q ≠ []) (h : [c].intercalate ps = [c].intercalate qs) : ps = qs := by
  rw [← filter_splitOn_intercalate hp, h, filter_splitOn_intercalate hq]

end ObjectStorage
