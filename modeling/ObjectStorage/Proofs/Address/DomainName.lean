import ObjectStorage.Proofs.Text.Joined
import ObjectStorage.Url.Domain

/-!
# Domains that were read

Whatever a domain is written with, it reads to ASCII characters that no domain forbids. A name that
is ASCII already reads to itself in lower case.
-/
namespace ObjectStorage

namespace Punycode

theorem mem_number {bias place n : Nat} {c : Char} (h : c ∈ number bias place n) :
    ∃ d < 36, c = digit d := by
  induction n using Nat.strongRecOn generalizing place with
  | _ n ih =>
    have ht := threshold_bounds bias place
    rw [number] at h
    by_cases hn : n < threshold bias place
    · simp only [hn, if_true, List.mem_singleton] at h
      exact ⟨n, by omega, h⟩
    · simp only [hn, if_false, List.mem_cons] at h
      have hb : 0 < 36 - threshold bias place := by omega
      have hm := Nat.mod_lt (n - threshold bias place) hb
      rcases h with h | h
      · exact ⟨_, by omega, h⟩
      · exact ih _ (Nat.lt_of_le_of_lt (Nat.div_le_self _ _) (by omega)) h

section
variable {p : Char → Prop} (hd : ∀ d < 36, p (digit d))
include hd

theorem forall_pass {basic m : Nat} {s : Progress} (h : ∀ c ∈ s.digits, p c) (x : Char) :
    ∀ c ∈ (s.pass basic m x).digits, p c := by
  intro c hc
  rw [Progress.pass] at hc
  split at hc
  · exact h c hc
  · split at hc
    · rcases List.mem_append.1 hc with hc | hc
      · exact h c hc
      · obtain ⟨d, hlt, rfl⟩ := mem_number hc
        exact hd d hlt
    · exact h c hc

theorem forall_foldl_pass {basic m : Nat} (text : List Char) {s : Progress}
    (h : ∀ c ∈ s.digits, p c) : ∀ c ∈ (text.foldl (Progress.pass basic m) s).digits, p c := by
  induction text generalizing s with
  | nil => exact h
  | cons x r ih => exact ih (forall_pass hd h x)

theorem forall_encodeFrom (text : List Char) (basic : Nat) (points : List Nat) (n : Nat)
    {s : Progress} (h : ∀ c ∈ s.digits, p c) : ∀ c ∈ encodeFrom text basic points n s, p c := by
  induction points generalizing n s with
  | nil => exact h
  | cons m r ih =>
    rw [encodeFrom]
    refine ih _ ?_
    exact forall_foldl_pass hd text h

theorem forall_encode (hyphen : p '-') {text : List Char}
    (ht : ∀ c ∈ text, isAscii c = true → p c) : ∀ c ∈ encode text, p c := by
  have hbasic : ∀ c ∈ text.filter isAscii, p c := by
    intro c hc
    rw [List.mem_filter] at hc
    exact ht c hc.1 hc.2
  rw [encode]
  refine forall_encodeFrom hd text _ _ _ ?_
  intro c hc
  split at hc
  · cases hc
  · rcases List.mem_append.1 hc with hc | hc
    · exact hbasic c hc
    · rw [List.mem_singleton.1 hc]
      exact hyphen

end

end Punycode

namespace Domain

open Unicode

def IsDomainChar (c : Char) : Prop := c.toNat < 0x80 ∧ isForbidden c = false

instance (c : Char) : Decidable (IsDomainChar c) := inferInstanceAs (Decidable (_ ∧ _))

theorem labels?_eq_some {name : List Char} {labels : List (List Char)}
    (h : labels? name = some labels) :
    ∃ mapped, mapText? name = some mapped ∧ labels = (compose mapped).splitOn '.' ∧
      ∀ c ∈ compose mapped, isForbidden c = false := by
  rw [labels?] at h
  obtain ⟨mapped, hm, h⟩ := Option.bind_eq_some_iff.1 h
  obtain ⟨plain, -, h⟩ := Option.bind_eq_some_iff.1 h
  split at h
  · cases h
  · next hf =>
    cases h
    simp only [Bool.or_eq_true, not_or, Bool.not_eq_true, List.any_eq_false] at hf
    exact ⟨mapped, hm, rfl, hf.1⟩

theorem isDomainChar_writeLabel {label : List Char} (h : ∀ c ∈ label, isForbidden c = false) :
    ∀ c ∈ writeLabel label, IsDomainChar c := by
  intro c hc
  rw [writeLabel] at hc
  split at hc
  · next ha =>
    have hascii := List.all_eq_true.1 ha c hc
    exact ⟨by simpa [Punycode.isAscii] using hascii, h c hc⟩
  · rcases List.mem_append.1 hc with hc | hc
    · have hmark : mark.all (fun x => decide (IsDomainChar x)) = true := by decide
      exact of_decide_eq_true (List.all_eq_true.1 hmark c hc)
    · have digit : ∀ d < 36, IsDomainChar (Punycode.digit d) := by decide
      refine Punycode.forall_encode (p := IsDomainChar) digit ⟨by decide, by decide⟩ ?_ c hc
      intro x hx ha
      exact ⟨by simpa [Punycode.isAscii] using ha, h x hx⟩

theorem isDomainChar_read {b : Bytes} {name : List Char} (h : read b = .ok name) :
    ∀ c ∈ name, IsDomainChar c := by
  rw [read] at h
  split at h
  · next labels hl =>
    cases h
    obtain ⟨text, -, hl⟩ := Option.bind_eq_some_iff.1 hl
    obtain ⟨mapped, -, rfl, hf⟩ := labels?_eq_some hl
    intro c hc
    rcases mem_intercalate hc with rfl | ⟨w, hw, hcw⟩
    · exact ⟨by decide, by decide⟩
    · obtain ⟨label, hlabel, rfl⟩ := List.mem_map.1 hw
      exact isDomainChar_writeLabel (fun x hx => hf x (mem_of_mem_splitOn hlabel hx)) c hcw
  · cases h

theorem toNat_toLower_lt {c : Char} (h : c.toNat < 0x80) : c.toLower.toNat < 0x80 :=
  forall_char_lt (p := fun c => c.toLower.toNat < 0x80) (by decide) h

theorem read_of_ascii {cs name : List Char} (h : ∀ c ∈ cs, c.toNat < 0x80)
    (hr : read (Utf8.encode cs) = .ok name) :
    name = cs.map Char.toLower ∧ ∀ c ∈ name, isForbidden c = false := by
  have hlow : ∀ c ∈ cs.map Char.toLower, c.toNat < 0x80 := by
    intro c hc
    obtain ⟨d, hd, rfl⟩ := List.mem_map.1 hc
    exact toNat_toLower_lt (h d hd)
  rw [read, Utf8.decode?_encode, Option.bind_some] at hr
  split at hr
  · next labels hl =>
    cases hr
    obtain ⟨mapped, hm, rfl, hf⟩ := labels?_eq_some hl
    rw [mapText?_of_ascii h] at hm
    cases hm
    rw [compose_of_ascii hlow] at hf ⊢
    have hw : ((cs.map Char.toLower).splitOn '.').map writeLabel =
        (cs.map Char.toLower).splitOn '.' := by
      refine (List.map_congr_left fun l hl => ?_).trans (List.map_id _)
      have hall : l.all Punycode.isAscii = true := by
        rw [List.all_eq_true]
        intro c hc
        simpa [Punycode.isAscii] using hlow c (mem_of_mem_splitOn hl hc)
      rw [writeLabel, if_pos hall]
      rfl
    rw [hw, List.intercalate_splitOn]
    exact ⟨rfl, hf⟩
  · cases hr

end Domain

end ObjectStorage
