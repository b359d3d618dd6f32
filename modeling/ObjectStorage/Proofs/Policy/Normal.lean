import ObjectStorage.Policy.Rules

/-!
# Normal documents

A document can hold two things that its text does not show: a provider without identities, and an
effect that spells `Allow` or `Deny` as an unknown word. `norm` puts the plain form in their place
and `IsNormal` says that there are none; a document and its normal form have one text.
-/
namespace ObjectStorage

namespace Effect

def norm : Effect → Effect
  | allow => allow
  | deny => deny
  | other w => if w = "Allow" then allow else if w = "Deny" then deny else other w

def IsNormal (e : Effect) : Prop := e ≠ other "Allow" ∧ e ≠ other "Deny"

theorem ofWord_word (e : Effect) : ofWord e.word = e.norm := by
  cases e with
  | allow => rfl
  | deny => rfl
  | other w => rfl

theorem word_norm (e : Effect) : e.norm.word = e.word := by
  rw [← ofWord_word, word_ofWord]

theorem norm_eq_self_iff {e : Effect} : e.norm = e ↔ e.IsNormal := by
  cases e with
  | allow => simp [norm, IsNormal]
  | deny => simp [norm, IsNormal]
  | other w =>
    simp only [norm, IsNormal, ne_eq, other.injEq]
    split
    · next h => simp [h]
    · split
      · next h => simp [h]
      · next h₁ h₂ => simp [h₁, h₂]

theorem isNormal_norm (e : Effect) : e.norm.IsNormal := by
  rw [← norm_eq_self_iff, ← ofWord_word, word_norm, ofWord_word]

end Effect

namespace Principals

/-- Providers without identities are dropped, and nobody left is unstated. -/
def norm : Principals → Principals
  | unstated => unstated
  | everyone => everyone
  | listed d => if isAbsent (listed d) then unstated else listed (d.filter fun c => !c.isEmpty)

def IsNormal : Principals → Prop
  | unstated => True
  | everyone => True
  | listed d => d.entries ≠ [] ∧ ∀ e ∈ d.entries, e.2.isEmpty = false

theorem isAbsent_listed {d : Dictionary Compact} :
    isAbsent (listed d) = true ↔ (d.filter fun c => !c.isEmpty).entries = [] := by
  simp [isAbsent, Dictionary.filter, List.filter_eq_nil_iff]

theorem filter_filter (d : Dictionary Compact) :
    (d.filter fun c => !c.isEmpty).filter (fun c => !c.isEmpty) =
      d.filter fun c => !c.isEmpty := by
  apply Dictionary.ext
  change (d.entries.filter fun e => !e.2.isEmpty).filter (fun e => !e.2.isEmpty) = _
  rw [List.filter_filter]
  simp only [Bool.and_self]
  rfl

theorem norm_of_isAbsent {p : Principals} (h : p.isAbsent = true) : p.norm = unstated := by
  cases p with
  | unstated => rfl
  | everyone => cases h
  | listed d => rw [norm, if_pos h]

theorem isAbsent_norm (p : Principals) : p.norm.isAbsent = p.isAbsent := by
  cases p with
  | unstated => rfl
  | everyone => rfl
  | listed d =>
    rw [norm]
    split
    · next h => rw [h]; rfl
    · next h =>
      rw [Bool.eq_iff_iff, isAbsent_listed, isAbsent_listed, filter_filter]

theorem toJson?_norm (p : Principals) : p.norm.toJson? = p.toJson? := by
  rw [toJson?, isAbsent_norm, toJson?]
  split
  · rfl
  · next h =>
    cases p with
    | unstated => rfl
    | everyone => rfl
    | listed d => rw [norm, if_neg h, toJson, toJson, filter_filter]

theorem filter_eq_self_iff {d : Dictionary Compact} :
    d.filter (fun c => !c.isEmpty) = d ↔ ∀ e ∈ d.entries, e.2.isEmpty = false := by
  rw [Dictionary.ext_iff]
  change d.entries.filter _ = d.entries ↔ _
  rw [List.filter_eq_self]
  simp only [Bool.not_eq_true']

theorem norm_eq_self_iff {p : Principals} : p.norm = p ↔ p.IsNormal := by
  cases p with
  | unstated => simp [norm, IsNormal]
  | everyone => simp [norm, IsNormal]
  | listed d =>
    rw [norm, IsNormal]
    split
    · next h =>
      refine ⟨fun e => (by cases e), fun both => absurd ?_ both.1⟩
      have hd := isAbsent_listed.1 h
      rwa [filter_eq_self_iff.2 both.2] at hd
    · next h =>
      rw [listed.injEq, filter_eq_self_iff]
      refine ⟨fun ids => ⟨fun hd => h ?_, ids⟩, fun hd => hd.2⟩
      rw [isAbsent_listed, filter_eq_self_iff.2 ids, hd]

theorem isNormal_norm (p : Principals) : p.norm.IsNormal := by
  cases p with
  | unstated => trivial
  | everyone => trivial
  | listed d =>
    rw [norm]
    split
    · trivial
    · next h =>
      refine ⟨fun hd => h (isAbsent_listed.2 hd), ?_⟩
      exact filter_eq_self_iff.1 (filter_filter d)

end Principals

namespace Statement

def norm (s : Statement) : Statement :=
  { s with effect := s.effect.map .norm, principals := s.principals.norm }

def IsNormal (s : Statement) : Prop := (∀ e ∈ s.effect, e.IsNormal) ∧ s.principals.IsNormal

theorem norm_eq_self_iff {s : Statement} : s.norm = s ↔ s.IsNormal := by
  cases s with
  | mk sid effect principals actions resources conditions =>
    simp only [norm, IsNormal, mk.injEq, true_and, and_true, Principals.norm_eq_self_iff]
    cases effect with
    | none => simp
    | some e => simp [Effect.norm_eq_self_iff]

theorem isNormal_norm (s : Statement) : s.norm.IsNormal := by
  refine ⟨fun e he => ?_, s.principals.isNormal_norm⟩
  obtain ⟨a, -, rfl⟩ := Option.map_eq_some_iff.1 he
  exact a.isNormal_norm

theorem toJson_norm (s : Statement) : s.norm.toJson = s.toJson := by
  have words : (s.effect.map Effect.norm).map (fun e => Json.Value.text e.word) =
      s.effect.map fun e => .text e.word := by
    cases s.effect with
    | none => rfl
    | some e => rw [Option.map_some, Option.map_some, Effect.word_norm, Option.map_some]
  simp only [toJson, norm, words, Principals.toJson?_norm]

end Statement

namespace Rules

def norm (r : Rules) : Rules := { r with statements := r.statements.map .norm }

def IsNormal (r : Rules) : Prop := ∀ s ∈ r.statements, s.IsNormal

theorem norm_eq_self_iff {r : Rules} : r.norm = r ↔ r.IsNormal := by
  cases r with
  | mk version name statements =>
    have hm : statements.map Statement.norm = statements ↔
        statements.map Statement.norm = statements.map fun s => s := by rw [List.map_id']
    simp only [norm, IsNormal, mk.injEq, true_and, hm, List.map_inj_left,
      Statement.norm_eq_self_iff]

theorem isNormal_norm (r : Rules) : r.norm.IsNormal := by
  intro s hs
  obtain ⟨a, -, rfl⟩ := List.mem_map.1 hs
  exact a.isNormal_norm

theorem norm_norm (r : Rules) : r.norm.norm = r.norm := norm_eq_self_iff.2 r.isNormal_norm

theorem toJson_norm (r : Rules) : r.norm.toJson = r.toJson := by
  have statements : (r.statements.map Statement.norm).map Statement.toJson =
      r.statements.map Statement.toJson := by
    rw [List.map_map]
    exact List.map_congr_left fun s _ => s.toJson_norm
  rw [toJson, toJson, norm, statements]

end Rules

end ObjectStorage
