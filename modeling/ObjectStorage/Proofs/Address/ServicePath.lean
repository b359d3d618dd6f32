import ObjectStorage.Proofs.Address.Encoding
import ObjectStorage.Proofs.Address.EndpointHost

/-!
# The paths of URLs of the services

However a URL of one of the services' schemes has come about, its path is a row of segments as the
reader of paths makes them. Such a path is not empty and has no line break in it.
-/
namespace ObjectStorage

namespace Path

theorem resolve_ne_nil {done ss : List (List Char)} (h : ss ≠ []) : resolve done ss ≠ [] := by
  induction ss generalizing done with
  | nil => exact absurd rfl h
  | cons s r ih =>
    rw [resolve]
    cases r with
    | nil =>
      -- a dot at the end leaves an empty segment
      simp only [List.isEmpty_nil, if_true]
      split
      · simp [resolve]
      · split <;> simp [resolve]
    | cons t r =>
      split
      · exact ih (List.cons_ne_nil t r)
      · split
        · exact ih (List.cons_ne_nil t r)
        · exact ih (List.cons_ne_nil t r)

theorem mem_up {done : List (List Char)} {s : List Char} (h : s ∈ up done) : s ∈ done := by
  cases done with
  | nil => cases h
  | cons d r =>
    rw [up] at h
    split at h
    · exact h
    · exact List.mem_cons_of_mem d h

theorem mem_resolve {done ss : List (List Char)} {s : List Char} (h : s ∈ resolve done ss) :
    s = [] ∨ s ∈ done ∨ s ∈ ss := by
  induction ss generalizing done with
  | nil => exact Or.inr (Or.inl (List.mem_reverse.1 h))
  | cons t r ih =>
    have ends : ∀ d : List (List Char), s ∈ (if r.isEmpty then [[]] else []) ++ d →
        s = [] ∨ s ∈ d := by
      intro d hd
      rcases List.mem_append.1 hd with hd | hd
      · split at hd
        · exact Or.inl (List.mem_singleton.1 hd)
        · cases hd
      · exact Or.inr hd
    rw [resolve] at h
    split at h
    · rcases ih h with h | h | h
      · exact Or.inl h
      · exact (ends _ h).imp_right fun hu => Or.inl (mem_up hu)
      · exact Or.inr (Or.inr (List.mem_cons_of_mem t h))
    · split at h
      · rcases ih h with h | h | h
        · exact Or.inl h
        · exact (ends _ h).imp_right Or.inl
        · exact Or.inr (Or.inr (List.mem_cons_of_mem t h))
      · rcases ih h with h | h | h
        · exact Or.inl h
        · rcases List.mem_cons.1 h with rfl | h
          · exact Or.inr (Or.inr List.mem_cons_self)
          · exact Or.inr (Or.inl h)
        · exact Or.inr (Or.inr (List.mem_cons_of_mem t h))

theorem ofChars_ne_nil (isSlash : Char → Bool) (cs : List Char) :
    (ofChars isSlash cs).segments ≠ [] :=
  resolve_ne_nil (by simp)

theorem newline_not_mem_ofChars (isSlash : Char → Bool) (cs : List Char) :
    ∀ s ∈ (ofChars isSlash cs).segments, '\n' ∉ s := by
  intro s hs hn
  rcases mem_resolve hs with rfl | h | h
  · cases hn
  · cases h
  · obtain ⟨t, -, rfl⟩ := List.mem_map.1 h
    rcases Percent.mem_encodeBy hn with h | h | h
    · exact absurd h (by decide)
    · exact absurd h (by decide)
    · exact absurd h (by decide)

end Path

namespace Url

theorem pathOf_ne_nil (cs : List Char) : (pathOf true cs).segments ≠ [] := by
  cases cs with
  | nil => exact List.cons_ne_nil _ _
  | cons c r => exact Path.ofChars_ne_nil _ _

theorem newline_not_mem_pathOf (cs : List Char) :
    ∀ s ∈ (pathOf true cs).segments, '\n' ∉ s := by
  cases cs with
  | nil =>
    intro s hs
    rw [List.mem_singleton.1 hs]
    exact List.not_mem_nil
  | cons c r => exact Path.newline_not_mem_ofChars _ _

/-- URLs of the services' schemes: those that are read, and what is made of them. -/
inductive IsWeb : Url → Prop
  | read {text : String} {u : Url} (h : Url.read text = .ok u)
      (hs : u.scheme = "http" ∨ u.scheme = "https") : IsWeb u
  | host {u v : Url} {name : String} (hu : IsWeb u) (h : u.withHost name = .ok v) : IsWeb v
  | path {u : Url} (hu : IsWeb u) (cs : List Char) : IsWeb (u.withPath cs)
  | pairs {u : Url} (hu : IsWeb u) (ps : List Query.Pair) : IsWeb (u.withPairs ps)

theorem path_of_read {text : String} {u : Url} (h : Url.read text = .ok u)
    (hs : u.scheme = "http" ∨ u.scheme = "https") : ∃ cs, u.place = .path (pathOf true cs) := by
  obtain ⟨cs, ha⟩ := readAuthority_of_read h hs
  have hp := (readAuthority_eq_ok ha).2.1
  rwa [isSpecial_of_service hs] at hp

theorem IsWeb.place {u : Url} (h : IsWeb u) :
    isSpecial u.scheme = true ∧ ∃ cs, u.place = .path (pathOf true cs) := by
  induction h with
  | read h hs => exact ⟨isSpecial_of_service hs, path_of_read h hs⟩
  | host hu h ih =>
    obtain ⟨_, _, _, _, rfl⟩ := withHost_eq_ok ih.1 h
    exact ih
  | path hu cs ih =>
    refine ⟨ih.1, cs, ?_⟩
    rw [withPath, ih.1]
  | pairs hu ps ih =>
    rw [withPairs]
    split
    · exact ih
    · exact ih

theorem IsWeb.pathChars_ne_nil {u : Url} (h : IsWeb u) : u.pathChars ≠ [] := by
  obtain ⟨-, cs, hp⟩ := h.place
  obtain ⟨s, r, hs⟩ := List.exists_cons_of_ne_nil (pathOf_ne_nil cs)
  rw [pathChars, hp]
  simp [Path.textChars, hs]

theorem IsWeb.newline_not_mem {u : Url} (h : IsWeb u) : '\n' ∉ u.pathChars := by
  obtain ⟨-, cs, hp⟩ := h.place
  intro hn
  rw [pathChars, hp] at hn
  obtain ⟨s, hs, hn⟩ := List.mem_flatMap.1 hn
  rcases List.mem_cons.1 hn with hn | hn
  · exact absurd hn (by decide)
  · exact newline_not_mem_pathOf cs s hs hn

end Url

end ObjectStorage
