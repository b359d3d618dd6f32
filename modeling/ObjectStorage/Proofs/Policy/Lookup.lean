import Mathlib.Data.List.Pairwise
import ObjectStorage.Policy.Dictionary

/-!
# Dictionaries by their keys

Two dictionaries are equal if they have the same values at all keys, and the value that a dictionary
made of a list has at a key is the last one the list gives for it.
-/
namespace ObjectStorage.Dictionary

variable {α : Type}

def last? (es : List (String × α)) (k : String) : Option α :=
  (es.reverse.find? (·.1 == k)).map (·.2)

theorem last?_cons (e : String × α) (es : List (String × α)) (k : String) :
    last? (e :: es) k = (last? es k).or (if k = e.1 then some e.2 else none) := by
  rw [last?, List.reverse_cons, List.find?_append, last?]
  cases es.reverse.find? (·.1 == k) with
  | some f => rfl
  | none =>
    by_cases h : k = e.1
    · simp [h]
    · simp [h, Ne.symm h]

theorem get?_foldl_insert (es : List (String × α)) (d : Dictionary α) (k : String) :
    (es.foldl (fun d e => d.insert e.1 e.2) d).get? k = (last? es k).or (d.get? k) := by
  induction es generalizing d with
  | nil => rfl
  | cons e es ih =>
    rw [List.foldl_cons, ih, last?_cons, get?_insert, Option.or_assoc]
    by_cases h : k = e.1
    · rw [if_pos h, if_pos h, Option.some_or]
    · rw [if_neg h, if_neg h, Option.none_or]

theorem get?_ofList (es : List (String × α)) (k : String) : (ofList es).get? k = last? es k := by
  rw [ofList, get?_foldl_insert]
  exact Option.or_none

theorem mem_iff_get? {d : Dictionary α} {k : String} {v : α} :
    (k, v) ∈ d.entries ↔ d.get? k = some v := by
  constructor
  · intro h
    cases hf : d.entries.find? (·.1 == k) with
    | none => exact absurd (List.find?_eq_none.1 hf (k, v) h) (by simp)
    | some e =>
      have he : e.1 = k := by simpa using List.find?_some hf
      have apart : d.entries.Pairwise fun a b => a.1 ≠ b.1 := d.increasing.imp String.ne_of_lt
      have same : e = (k, v) := by
        by_contra ne
        have : Std.Symm fun a b : String × α => a.1 ≠ b.1 := ⟨fun _ _ => Ne.symm⟩
        exact apart.forall (List.mem_of_find?_eq_some hf) h ne he
      rw [get?, hf, same]
      rfl
  · intro h
    obtain ⟨e, he, rfl⟩ := Option.map_eq_some_iff.1 h
    have hk : e.1 = k := by simpa using List.find?_some he
    rw [← hk]
    exact List.mem_of_find?_eq_some he

theorem eq_of_get? {d d' : Dictionary α} (h : ∀ k, d.get? k = d'.get? k) : d = d' := by
  have nodup (d : Dictionary α) : d.entries.Nodup :=
    d.increasing.imp fun {a b} lt same => String.ne_of_lt lt (congrArg Prod.fst same)
  have same : d'.entries.Perm d.entries := by
    refine (List.perm_ext_iff_of_nodup (nodup d') (nodup d)).2 fun (k, v) => ?_
    rw [mem_iff_get?, mem_iff_get?, h]
  rw [← ofList_of_perm same, ofList_entries]

/-- A list makes the dictionary that has at each key what the list gives for it last. -/
theorem ofList_eq_iff {es : List (String × α)} {d : Dictionary α} :
    ofList es = d ↔ ∀ k, d.get? k = last? es k := by
  constructor
  · rintro rfl k
    exact get?_ofList es k
  · intro h
    exact eq_of_get? fun k => (get?_ofList es k).trans (h k).symm

end ObjectStorage.Dictionary
