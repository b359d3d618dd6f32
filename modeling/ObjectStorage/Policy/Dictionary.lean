/-!
# Dictionaries

Entries in strictly increasing order of their keys, so that two dictionaries with the same
entries are equal. `get?_insert` says what `insert` changes.
-/
namespace ObjectStorage

def Increasing {α : Type} (entries : List (String × α)) : Prop :=
  entries.Pairwise fun a b => a.1 < b.1

@[ext]
structure Dictionary (α : Type) where
  entries : List (String × α)
  increasing : Increasing entries
deriving DecidableEq

namespace Dictionary

variable {α β : Type}

def empty : Dictionary α := ⟨[], .nil⟩

instance : Inhabited (Dictionary α) := ⟨empty⟩

/-- Changes the value at `k`, which `f` finds missing if there is none. -/
def alterEntries (k : String) (f : Option α → α) : List (String × α) → List (String × α)
  | [] => [(k, f none)]
  | (j, v) :: r =>
    if k < j then (k, f none) :: (j, v) :: r
    else if j < k then (j, v) :: alterEntries k f r
    else (j, f (some v)) :: r

theorem mem_alterEntries {k : String} {f : Option α → α} {es : List (String × α)}
    {e : String × α} (h : e ∈ alterEntries k f es) : e.1 = k ∨ ∃ v, (e.1, v) ∈ es := by
  induction es with
  | nil => simp only [alterEntries, List.mem_singleton] at h; exact .inl (by rw [h])
  | cons a r ih =>
    simp only [alterEntries] at h
    split at h
    · rcases List.mem_cons.1 h with h | h
      · exact .inl (by rw [h])
      · exact .inr ⟨e.2, h⟩
    · split at h
      · rcases List.mem_cons.1 h with h | h
        · exact .inr ⟨a.2, by rw [h]; exact List.mem_cons_self⟩
        · exact (ih h).imp_right fun ⟨v, hv⟩ => ⟨v, List.mem_cons_of_mem _ hv⟩
      · rcases List.mem_cons.1 h with h | h
        · exact .inr ⟨a.2, by rw [h]; exact List.mem_cons_self⟩
        · exact .inr ⟨e.2, List.mem_cons_of_mem _ h⟩

theorem increasing_alterEntries {k : String} {f : Option α → α} {es : List (String × α)}
    (h : Increasing es) : Increasing (alterEntries k f es) := by
  induction es with
  | nil => exact List.pairwise_singleton _ _
  | cons a r ih =>
    have ha := List.pairwise_cons.1 h
    simp only [alterEntries]
    split
    · rename_i hk
      refine List.pairwise_cons.2 ⟨fun e he => ?_, h⟩
      rcases List.mem_cons.1 he with rfl | he
      · exact hk
      · exact String.lt_trans hk (ha.1 e he)
    · split
      · rename_i hk
        refine List.pairwise_cons.2 ⟨fun e he => ?_, ih ha.2⟩
        rcases mem_alterEntries he with he | ⟨v, hv⟩
        · rw [he]; exact hk
        · exact ha.1 (e.1, v) hv
      · exact List.pairwise_cons.2 ⟨fun e he => ha.1 e he, ha.2⟩

def alter (d : Dictionary α) (k : String) (f : Option α → α) : Dictionary α :=
  ⟨alterEntries k f d.entries, increasing_alterEntries d.increasing⟩

def insert (d : Dictionary α) (k : String) (v : α) : Dictionary α := d.alter k fun _ => v

def ofList (entries : List (String × α)) : Dictionary α :=
  entries.foldl (fun d e => d.insert e.1 e.2) empty

theorem perm_alterEntries {k : String} (f : Option α → α) {es : List (String × α)}
    (h : ∀ e ∈ es, e.1 ≠ k) : (alterEntries k f es).Perm ((k, f none) :: es) := by
  induction es with
  | nil => exact .refl _
  | cons a r ih =>
    rw [alterEntries]
    split
    · exact .refl _
    · next hka =>
      split
      · exact ((ih fun e he => h e (List.mem_cons_of_mem a he)).cons a).trans (.swap _ _ r)
      · next hak =>
        have heq : a.1 = k := String.le_antisymm (String.not_lt.1 hka) (String.not_lt.1 hak)
        exact absurd heq (h a List.mem_cons_self)

/-- Insertions lose nothing when no two entries have the same key. -/
theorem perm_foldl_insert (es : List (String × α)) (d : Dictionary α)
    (h : (d.entries ++ es).Pairwise fun a b => a.1 ≠ b.1) :
    (es.foldl (fun d e => d.insert e.1 e.2) d).entries.Perm (d.entries ++ es) := by
  induction es generalizing d with
  | nil =>
    rw [List.foldl_nil, List.append_nil]
  | cons e es ih =>
    have fresh : ∀ a ∈ d.entries, a.1 ≠ e.1 := fun a ha =>
      (List.pairwise_append.1 h).2.2 a ha e List.mem_cons_self
    have moved : ((d.insert e.1 e.2).entries ++ es).Perm (d.entries ++ e :: es) :=
      ((perm_alterEntries _ fresh).append_right es).trans List.perm_middle.symm
    rw [List.foldl_cons]
    exact (ih _ (moved.symm.pairwise h Ne.symm)).trans moved

theorem ofList_of_perm {d : Dictionary α} {es : List (String × α)} (h : es.Perm d.entries) :
    ofList es = d := by
  have apart : d.entries.Pairwise fun a b => a.1 ≠ b.1 := d.increasing.imp String.ne_of_lt
  have hp : (ofList es).entries.Perm d.entries :=
    (perm_foldl_insert es empty (h.symm.pairwise apart Ne.symm)).trans h
  apply Dictionary.ext
  exact hp.eq_of_pairwise
    (fun _ _ _ _ hab hba => absurd (String.lt_trans hab hba) (String.lt_irrefl _))
    (ofList es).increasing d.increasing

theorem ofList_entries (d : Dictionary α) : ofList d.entries = d := ofList_of_perm (.refl _)

def get? (d : Dictionary α) (k : String) : Option α :=
  (d.entries.find? (·.1 == k)).map (·.2)

def isEmpty (d : Dictionary α) : Bool := d.entries.isEmpty

theorem increasing_map {es : List (String × α)} (f : String × α → β) (h : Increasing es) :
    Increasing (es.map fun e => (e.1, f e)) :=
  List.pairwise_map.2 h

def map (d : Dictionary α) (f : α → β) : Dictionary β :=
  ⟨d.entries.map fun e => (e.1, f e.2), increasing_map (fun e => f e.2) d.increasing⟩

def filter (d : Dictionary α) (p : α → Bool) : Dictionary α :=
  ⟨d.entries.filter fun e => p e.2, List.Pairwise.filter _ d.increasing⟩

theorem find?_alterEntries (k j : String) (f : Option α → α) {es : List (String × α)}
    (h : Increasing es) :
    ((alterEntries k f es).find? (·.1 == j)).map (·.2) =
      if j = k then some (f ((es.find? (·.1 == k)).map (·.2)))
      else (es.find? (·.1 == j)).map (·.2) := by
  induction es with
  | nil =>
    by_cases hj : j = k
    · simp [alterEntries, hj]
    · simp [alterEntries, hj, Ne.symm hj]
  | cons a r ih =>
    have ha := List.pairwise_cons.1 h
    simp only [alterEntries]
    split
    · rename_i hk
      have absent : ((a :: r).find? (·.1 == k)) = none := by
        refine List.find?_eq_none.2 fun e he hek => ?_
        have hek : e.1 = k := by simpa using hek
        rcases List.mem_cons.1 he with rfl | he
        · exact String.lt_irrefl _ (hek ▸ hk)
        · exact String.lt_irrefl _ (hek ▸ String.lt_trans hk (ha.1 e he))
      by_cases hj : j = k
      · subst hj
        rw [absent]
        simp
      · simp [Ne.symm hj, hj]
    · split
      · rename_i hk
        have hak : a.1 ≠ k := fun e => String.lt_irrefl _ (e ▸ hk)
        by_cases hj : a.1 = j
        · have hjk : j ≠ k := hj ▸ hak
          simp [hj, hjk]
        · have hj' : (a.1 == j) = false := by simp [hj]
          have hk' : (a.1 == k) = false := by simp [hak]
          rw [List.find?_cons, hj', List.find?_cons, hk', List.find?_cons, hj']
          exact ih ha.2
      · rename_i h₁ h₂
        have hak : a.1 = k :=
          String.le_antisymm (String.not_lt.1 h₁) (String.not_lt.1 h₂)
        by_cases hj : j = k
        · simp [hak, hj]
        · have : ¬ a.1 = j := fun e => hj (e ▸ hak)
          simp [this, hj]

theorem get?_alter (d : Dictionary α) (k j : String) (f : Option α → α) :
    (d.alter k f).get? j = if j = k then some (f (d.get? k)) else d.get? j :=
  find?_alterEntries k j f d.increasing

theorem get?_insert (d : Dictionary α) (k j : String) (v : α) :
    (d.insert k v).get? j = if j = k then some v else d.get? j :=
  get?_alter d k j fun _ => v

end Dictionary

end ObjectStorage
