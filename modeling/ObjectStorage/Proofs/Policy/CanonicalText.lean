import Mathlib.Data.List.Forall2
import ObjectStorage.Proofs.Policy.RoundTrip
import ObjectStorage.Proofs.Text.WellFormed

/-!
# The one text of a document

What every written document looks like, said of the value that is printed and apart from how it is
built: which members there are and in which order, the short and the long form of lists, and the
order of keys. A member is there exactly if the bytes written for its field alone are not empty, and
it is these bytes. The shapes of the parts come first, one for each kind of value;
`Rules.text_canonical` puts them together.
-/
namespace ObjectStorage

open Json

inductive Json.Value.NullFree : Value → Prop
  | text (t : String) : NullFree (.text t)
  | list {items : List Value} (h : ∀ v ∈ items, NullFree v) : NullFree (.list items)
  | object {ms : List (String × Value)} (h : ∀ m ∈ ms, NullFree m.2) : NullFree (.object ms)

/-- Keys increase strictly by the bytes they are written in. -/
def Json.ByBytes (ms : List (String × Value)) : Prop :=
  ms.Pairwise fun a b => Utf8.ofString a.1 < Utf8.ofString b.1

/-- A member for `key` stands among `ms` exactly if `bytes` are not empty; it has the shape and is
written as these bytes. -/
structure Json.Stands (key : String) (bytes : Bytes) (Shape : Value → Prop)
    (ms : List (String × Value)) : Prop where
  present : (∃ v, (key, v) ∈ ms) ↔ bytes ≠ []
  written : ∀ v, (key, v) ∈ ms → Utf8.encode v.printChars = bytes ∧ Shape v

theorem Json.stands_of_mem {key : String} {absent : Bool} {w : Value} {Shape : Value → Prop}
    {ms : List (String × Value)} (shape : absent = false → Shape w)
    (h : ∀ v, (key, v) ∈ ms ↔ (if absent then none else some w) = some v) :
    Stands key (if absent then [] else Utf8.encode w.printChars) Shape ms := by
  cases absent with
  | true => exact ⟨by simp [h], fun v hv => by simp [h] at hv⟩
  | false =>
    refine ⟨by simp [h, encode_print_ne_nil], fun v hv => ?_⟩
    obtain rfl : w = v := by simpa [h] using hv
    exact ⟨rfl, shape rfl⟩

theorem Json.mem_member_iff {k key : String} {v : Value} {v? : Option Value} :
    (k, v) ∈ Value.member key v? ↔ k = key ∧ v? = some v := by
  cases v? with
  | none => simp [Value.member]
  | some w => simp [Value.member, eq_comm]

theorem Json.sublist_member (key : String) (v? : Option Value) :
    ((Value.member key v?).map Prod.fst).Sublist [key] := by
  cases v? with
  | none => exact List.nil_sublist _
  | some v => exact .refl _

theorem Json.Value.nullFree_texts (vs : List String) : NullFree (.list (vs.map .text)) := by
  refine .list fun v hv => ?_
  obtain ⟨t, -, rfl⟩ := List.mem_map.1 hv
  exact .text t

theorem Dictionary.byBytes {α : Type} (d : Dictionary α) (f : String × α → Value) :
    ByBytes (d.entries.map fun e => (e.1, f e)) :=
  List.pairwise_map.2 (d.increasing.imp fun lt => Utf8.ofString_lt lt)

namespace Compact

/-- A bare string, or a list of at least two strings. -/
inductive Canonical : Value → Prop
  | one (t : String) : Canonical (.text t)
  | many (t u : String) (r : List String) : Canonical (.list ((t :: u :: r).map .text))

theorem Canonical.nullFree {v : Value} (h : Canonical v) : v.NullFree := by
  cases h with
  | one t => exact .text t
  | many t u r => exact Value.nullFree_texts _

theorem canonical_toJson {c : Compact} (h : c.isEmpty = false) : Canonical c.toJson := by
  match c, h with
  | ⟨[v]⟩, _ => exact .one v
  | ⟨v :: w :: r⟩, _ => exact .many v w r

end Compact

namespace Principals

/-- The star, or at least one provider with its identities. -/
inductive Canonical : Value → Prop
  | everyone : Canonical (.text "*")
  | listed {ms : List (String × Value)} (some : ms ≠ []) (order : ByBytes ms)
      (identities : ∀ m ∈ ms, Compact.Canonical m.2) : Canonical (.object ms)

theorem Canonical.nullFree {v : Value} (h : Canonical v) : v.NullFree := by
  cases h with
  | everyone => exact .text "*"
  | listed some order identities => exact .object fun m hm => (identities m hm).nullFree

theorem canonical_toJson {p : Principals} (h : p.isAbsent = false) : Canonical p.toJson := by
  cases p with
  | unstated => cases h
  | everyone => exact .everyone
  | listed d =>
    refine .listed ?_ ((d.filter _).byBytes _) fun m hm => ?_
    · intro none
      rw [isAbsent_listed.2 (List.map_eq_nil_iff.1 none)] at h
      cases h
    · obtain ⟨e, he, rfl⟩ := List.mem_map.1 hm
      exact Compact.canonical_toJson (by simpa using (List.mem_filter.1 he).2)

end Principals

namespace Statement

/-- Keys of operators, then keys of conditions, and a list of strings for each. -/
inductive CanonicalConditions : Value → Prop
  | object {ms : List (String × Value)} (order : ByBytes ms)
      (keys : ∀ m ∈ ms, ∃ ks, m.2 = .object ks ∧ ByBytes ks ∧
        ∀ k ∈ ks, ∃ vs : List String, k.2 = .list (vs.map .text)) : CanonicalConditions (.object ms)

theorem CanonicalConditions.nullFree {v : Value} (h : CanonicalConditions v) : v.NullFree := by
  obtain ⟨order, keys⟩ := h
  refine .object fun m hm => ?_
  obtain ⟨ks, hks, -, values⟩ := keys m hm
  rw [hks]
  refine .object fun k hk => ?_
  obtain ⟨vs, hvs⟩ := values k hk
  rw [hvs]
  exact Value.nullFree_texts vs

theorem canonical_conditionsToJson (c : Conditions) :
    CanonicalConditions (conditionsToJson c) := by
  rw [conditionsToJson_eq]
  refine .object (c.byBytes _) fun m hm => ?_
  obtain ⟨e, -, rfl⟩ := List.mem_map.1 hm
  refine ⟨_, rfl, e.2.byBytes _, fun k hk => ?_⟩
  obtain ⟨values, -, rfl⟩ := List.mem_map.1 hk
  exact ⟨values.2, rfl⟩

structure CanonicalMembers (s : Statement) (ms : List (String × Value)) : Prop where
  order : (ms.map Prod.fst).Sublist
    ["Sid", "Effect", "Principal", "Action", "Resource", "Condition"]
  sid : ∀ v, ("Sid", v) ∈ ms ↔ s.sid.map .text = some v
  effect : ∀ v, ("Effect", v) ∈ ms ↔ s.effect.map (fun e => .text e.word) = some v
  principal : Stands "Principal" s.principals.encode Principals.Canonical ms
  action : Stands "Action" s.actions.encode Compact.Canonical ms
  resource : Stands "Resource" s.resources.encode Compact.Canonical ms
  condition : ∀ v, ("Condition", v) ∈ ms → CanonicalConditions v

inductive Canonical : Statement → Value → Prop
  | object {s : Statement} {ms : List (String × Value)} (members : CanonicalMembers s ms) :
      Canonical s (.object ms)

theorem canonical_toJson (s : Statement) : Canonical s s.toJson := by
  refine .object ⟨?_, ?_, ?_, ?_, ?_, ?_, ?_⟩
  · simp only [List.map_append]
    exact (((((sublist_member _ _).append (sublist_member _ _)).append (sublist_member _ _)).append
      (sublist_member _ _)).append (sublist_member _ _)).append (sublist_member _ _)
  · simp [mem_member_iff]
  · simp [mem_member_iff]
  · exact stands_of_mem Principals.canonical_toJson (by simp [mem_member_iff, Principals.toJson?])
  · exact stands_of_mem Compact.canonical_toJson (by simp [mem_member_iff, Compact.toJson?])
  · exact stands_of_mem Compact.canonical_toJson (by simp [mem_member_iff, Compact.toJson?])
  · intro v hv
    have given : conditionsToJson? s.conditions = some v := by simpa [mem_member_iff] using hv
    rw [conditionsToJson?_eq_some given]
    exact canonical_conditionsToJson s.conditions

/-- A member of a statement stands under one of its keys, so there is no null in it. -/
theorem Canonical.nullFree {s : Statement} {v : Value} (h : Canonical s v) : v.NullFree := by
  obtain ⟨members⟩ := h
  refine .object fun (k, v) hm => ?_
  have known := members.order.subset (List.mem_map.2 ⟨(k, v), hm, rfl⟩)
  simp only [List.mem_cons, List.not_mem_nil, or_false] at known
  rcases known with rfl | rfl | rfl | rfl | rfl | rfl
  · obtain ⟨t, -, rfl⟩ := Option.map_eq_some_iff.1 ((members.sid v).1 hm)
    exact .text t
  · obtain ⟨e, -, rfl⟩ := Option.map_eq_some_iff.1 ((members.effect v).1 hm)
    exact .text e.word
  · exact (members.principal.written v hm).2.nullFree
  · exact (members.action.written v hm).2.nullFree
  · exact (members.resource.written v hm).2.nullFree
  · exact (members.condition v hm).nullFree

theorem nullFree_of_canonical {ss : List Statement} {vs : List Value}
    (h : List.Forall₂ Canonical ss vs) : ∀ v ∈ vs, v.NullFree := by
  induction h with
  | nil => exact List.forall_mem_nil _
  | cons statement _ ih => exact List.forall_mem_cons.2 ⟨statement.nullFree, ih⟩

end Statement

namespace Rules

structure CanonicalMembers (r : Rules) (ms : List (String × Value)) : Prop where
  order : (ms.map Prod.fst).Sublist ["Version", "Id", "Statement"]
  version : ∀ v, ("Version", v) ∈ ms ↔ r.version ≠ "" ∧ v = .text r.version
  id : ∀ v, ("Id", v) ∈ ms ↔ r.id.map .text = some v
  statements : ∃ vs, List.Forall₂ Statement.Canonical r.statements vs ∧
    ∀ v, ("Statement", v) ∈ ms ↔ v = .list vs

theorem canonicalMembers_toJson (r : Rules) :
    ∃ ms, r.toJson = .object ms ∧ r.CanonicalMembers ms := by
  have each :
      List.Forall₂ Statement.Canonical r.statements (r.statements.map Statement.toJson) := by
    rw [List.forall₂_map_right_iff]
    exact List.forall₂_same.2 fun s _ => s.canonical_toJson
  refine ⟨_, rfl, ?_, ?_, ?_, _, each, ?_⟩
  · simp only [List.map_append]
    exact ((sublist_member _ _).append (sublist_member _ _)).append (.refl _)
  · intro v
    by_cases h : r.version = ""
    · simp [mem_member_iff, h]
    · simp only [List.mem_append, mem_member_iff, String.isEmpty_iff, if_neg h]
      simp [h, eq_comm]
  · simp [mem_member_iff]
  · simp [mem_member_iff]

theorem CanonicalMembers.nullFree {r : Rules} {ms : List (String × Value)}
    (h : r.CanonicalMembers ms) : (Value.object ms).NullFree := by
  refine .object fun (k, v) hm => ?_
  have known := h.order.subset (List.mem_map.2 ⟨(k, v), hm, rfl⟩)
  simp only [List.mem_cons, List.not_mem_nil, or_false] at known
  rcases known with rfl | rfl | rfl
  · obtain ⟨-, rfl⟩ := (h.version v).1 hm
    exact .text r.version
  · obtain ⟨t, -, rfl⟩ := Option.map_eq_some_iff.1 ((h.id v).1 hm)
    exact .text t
  · obtain ⟨vs, each, only⟩ := h.statements
    rw [(only v).1 hm]
    exact .list (Statement.nullFree_of_canonical each)

/-- Every document is written as one object, which reads as JSON text, has the members of a
document, and has no null in it. -/
theorem text_canonical (r : Rules) : ∃ ms,
    r.toText = (Value.object ms).print ∧
    r.encode = Utf8.encode (Value.object ms).printChars ∧
    Json.Spelling r.encode (Value.object ms).tree [] ∧
    r.CanonicalMembers ms ∧
    (Value.object ms).NullFree := by
  obtain ⟨ms, written, members⟩ := r.canonicalMembers_toJson
  have spelled := spelling_print r.toJson []
  rw [List.append_nil] at spelled
  refine ⟨ms, ?_, ?_, ?_, members, members.nullFree⟩
  · rw [toText, written]
  · rw [encode, written]
  · rw [← written]
    exact spelled

end Rules

end ObjectStorage
