import ObjectStorage.Proofs.Outcome
import ObjectStorage.Proofs.Text.Joined
import ObjectStorage.Signature.V4

/-!
# What signing reads of the headers

Headers are compared by their values alone: the order of the names is not observable. The
canonical request sees the headers that take part and nothing else, so two lists of headers that
agree on those have the same one.
-/
namespace ObjectStorage

namespace Headers

/-- The same values for every name that is not in the list. -/
def AgreeOutside (ns : List String) (h k : Headers) : Prop :=
  ∀ name, name ∉ ns → h.getAll name = k.getAll name

def Same (h k : Headers) : Prop := ∀ name, h.getAll name = k.getAll name

theorem AgreeOutside.refl (ns : List String) (h : Headers) : AgreeOutside ns h h :=
  fun _ _ => rfl

theorem AgreeOutside.symm {ns : List String} {h k : Headers} (a : AgreeOutside ns h k) :
    AgreeOutside ns k h :=
  fun name hn => (a name hn).symm

theorem AgreeOutside.trans {ns : List String} {h k l : Headers} (a : AgreeOutside ns h k)
    (b : AgreeOutside ns k l) : AgreeOutside ns h l :=
  fun name hn => (a name hn).trans (b name hn)

theorem AgreeOutside.same {h k : Headers} (a : AgreeOutside [] h k) : Same h k :=
  fun name => a name List.not_mem_nil

theorem AgreeOutside.put {ns : List String} {name : String} {h k : Headers}
    (a : AgreeOutside (name :: ns) h k) (values : List Bytes)
    (hv : isEntry (name, values) = true) :
    AgreeOutside ns (h.put name values hv) (k.put name values hv) := by
  intro other hn
  rw [getAll_put, getAll_put]
  by_cases ho : name = other
  · rw [if_pos ho, if_pos ho]
  · rw [if_neg ho, if_neg ho]
    exact a other (by simp [Ne.symm ho, hn])

theorem AgreeOutside.erase {ns : List String} {name : String} {h k : Headers}
    (a : AgreeOutside (name :: ns) h k) : AgreeOutside ns (h.erase name) (k.erase name) := by
  intro other hn
  rw [getAll_erase, getAll_erase]
  by_cases ho : name = other
  · rw [if_pos ho, if_pos ho]
  · rw [if_neg ho, if_neg ho]
    exact a other (by simp [Ne.symm ho, hn])

theorem agreeOutside_put {ns : List String} {name : String} (hn : name ∈ ns) (h : Headers)
    (values : List Bytes) (hv : isEntry (name, values) = true) :
    AgreeOutside ns h (h.put name values hv) := by
  intro other ho
  have hne : name ≠ other := by
    intro heq
    rw [heq] at hn
    exact ho hn
  rw [getAll_put, if_neg hne]

theorem agreeOutside_erase {ns : List String} {name : String} (hn : name ∈ ns) (h : Headers) :
    AgreeOutside ns h (h.erase name) := by
  intro other ho
  have hne : name ≠ other := by
    intro heq
    rw [heq] at hn
    exact ho hn
  rw [getAll_erase, if_neg hne]

theorem AgreeOutside.mem_names {ns : List String} {h k : Headers} (a : AgreeOutside ns h k)
    {name : String} (hn : name ∉ ns) : name ∈ h.names ↔ name ∈ k.names := by
  rw [mem_names_iff, mem_names_iff, a name hn]

end Headers

namespace Canonical

open Headers (AgreeOutside)

theorem forall_mem_intercalate {p : Char → Prop} (hp : p ';') {names : List String}
    (h : ∀ name ∈ names, ∀ c ∈ name.toList, p c) :
    ∀ c ∈ (";".intercalate names).toList, p c := by
  intro c hc
  rw [String.toList_intercalate] at hc
  rcases mem_intercalate hc with rfl | ⟨l, hl, hc⟩
  · exact hp
  · obtain ⟨name, hn, rfl⟩ := List.mem_map.1 hl
    exact h name hn c hc

theorem mem_signedNames {h : Headers} {name : String} :
    name ∈ signedNames h ↔ name ∈ h.names ∧ isSigned name = true := by
  rw [signedNames, List.mem_mergeSort, List.mem_filter]

theorem signedNames_sorted (h : Headers) : (signedNames h).Pairwise (· ≤ ·) := by
  have hs : (signedNames h).Pairwise fun a b => decide (a ≤ b) = true :=
    List.pairwise_mergeSort
      (fun a b c hab hbc => by
        simpa using String.le_trans (by simpa using hab) (by simpa using hbc))
      (fun a b => by simpa using String.le_total a b) (h.names.filter isSigned)
  exact hs.imp fun h => by simpa using h

theorem signedNames_nodup (h : Headers) : (signedNames h).Nodup := by
  have hn : (h.names.filter isSigned).Nodup := h.distinct.filter _
  exact (List.mergeSort_perm _ _).nodup_iff.2 hn

theorem signedNames_strict (h : Headers) : (signedNames h).Pairwise (· < ·) := by
  refine (signedNames_sorted h).imp₂ ?_ (signedNames_nodup h)
  intro a b hle hne
  exact Classical.byContradiction fun hlt => hne (String.le_antisymm hle (String.not_lt.1 hlt))

variable {ns : List String} {h k : Headers}

theorem signedNames_congr (a : AgreeOutside ns h k) (hns : ∀ name ∈ ns, isSigned name = false) :
    signedNames h = signedNames k := by
  have hm : ∀ name, name ∈ signedNames h ↔ name ∈ signedNames k := by
    intro name
    rw [mem_signedNames, mem_signedNames]
    by_cases hn : name ∈ ns
    · simp [hns name hn]
    · rw [a.mem_names hn]
  have hp := (List.perm_ext_iff_of_nodup (signedNames_nodup h) (signedNames_nodup k)).2 hm
  exact hp.eq_of_pairwise (fun _ _ _ _ => String.le_antisymm) (signedNames_sorted h)
    (signedNames_sorted k)

theorem lines_congr (a : AgreeOutside ns h k) (hns : ∀ name ∈ ns, isSigned name = false) :
    lines h = lines k := by
  have hl : ∀ name ∈ signedNames k, line h name = line k name := by
    intro name hm
    have hn : name ∉ ns := fun hn => by
      rw [mem_signedNames, hns name hn] at hm
      exact absurd hm.2 Bool.false_ne_true
    rw [line, line, a name hn]
  rw [lines, lines, signedNames_congr a hns, mapM_congr hl]

theorem text_congr (a : AgreeOutside ns h k) (hns : ∀ name ∈ ns, isSigned name = false)
    (r : Request) (payload : String) : text r h payload = text r k payload := by
  rw [text, text, lines_congr a hns, names, names, signedNames_congr a hns]

end Canonical

end ObjectStorage
