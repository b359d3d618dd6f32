import ObjectStorage.Proofs.Json.Record
import ObjectStorage.Proofs.Policy.Normal

/-!
# Policy documents round trip

What is written for a document is read back as its normal form. Each field has a lemma of its own
that reads the field's tree; a statement puts them together member by member, and the list of
statements passes the check that it gets as a whole.
-/
namespace ObjectStorage

open Json

namespace Compact

theorem ofTree_list (vs : List String) :
    ofTree (Value.list (vs.map .text)).tree = .ok ⟨vs⟩ := by
  have texts : readAll Tree.toText (Value.trees (vs.map .text)) .closed =
      .ok (vs.map fun v => v) := readAll_trees vs fun _ => rfl
  rw [Value.tree, ofTree, texts, List.map_id']
  rfl

theorem ofTree_toJson (c : Compact) : ofTree c.toJson.tree = .ok c := by
  match c with
  | ⟨[]⟩ => exact ofTree_list []
  | ⟨[v]⟩ => rfl
  | ⟨v :: w :: r⟩ => exact ofTree_list (v :: w :: r)

theorem check_texts (vs : List String) (n : Nat) :
    (Value.list (vs.map .text)).tree.check (n + 2) = .ok () := by
  refine check_list fun v hv => ?_
  obtain ⟨t, -, rfl⟩ := List.mem_map.1 hv
  rfl

theorem check_toJson (c : Compact) (n : Nat) : c.toJson.tree.check (n + 2) = .ok () := by
  match c with
  | ⟨[]⟩ => exact check_texts [] n
  | ⟨[v]⟩ => rfl
  | ⟨v :: w :: r⟩ => exact check_texts (v :: w :: r) n

theorem toJson?_eq_some {c : Compact} {v : Value} (h : c.toJson? = some v) : v = c.toJson := by
  rw [toJson?] at h
  split at h
  · cases h
  · exact (Option.some.inj h).symm

theorem eq_empty_of_toJson? {c : Compact} (h : c.toJson? = none) : c = empty := by
  rw [toJson?] at h
  split at h
  · next hc =>
    cases c with
    | mk vs => rw [show vs = [] from List.isEmpty_iff.1 hc]; rfl
  · cases h

end Compact

namespace Principals

theorem ofTree_toJson {p : Principals} (h : p.isAbsent = false) :
    ofTree p.toJson.tree = .ok p.norm := by
  cases p with
  | unstated => cases h
  | everyone => rfl
  | listed d =>
    have entries : readEntries Compact.ofTree (Value.memberTrees
        ((d.filter fun c => !c.isEmpty).entries.map fun e => (e.1, e.2.toJson))) .closed =
        .ok ((d.filter fun c => !c.isEmpty).entries.map fun e => (e.1, e.2)) :=
      readEntries_memberTrees _ Compact.ofTree_toJson
    rw [toJson, Value.tree, ofTree, entries, norm, h, List.map_id']
    change Except.ok (listed (.ofList _)) = _
    rw [Dictionary.ofList_entries]
    rfl

theorem check_toJson (p : Principals) (n : Nat) : p.toJson.tree.check (n + 3) = .ok () := by
  cases p with
  | unstated => rfl
  | everyone => rfl
  | listed d =>
    refine check_object fun m hm => ?_
    obtain ⟨e, -, rfl⟩ := List.mem_map.1 hm
    exact e.2.check_toJson n

theorem toJson?_eq_some {p : Principals} {v : Value} (h : p.toJson? = some v) :
    p.isAbsent = false ∧ v = p.toJson := by
  rw [toJson?] at h
  split at h
  · cases h
  · next hp => exact ⟨Bool.eq_false_iff.2 hp, (Option.some.inj h).symm⟩

theorem norm_of_toJson? {p : Principals} (h : p.toJson? = none) : p.norm = unstated := by
  rw [toJson?] at h
  split at h
  · next hp => exact norm_of_isAbsent hp
  · cases h

end Principals

namespace Statement

def keysToJson (keys : Dictionary (List String)) : Value :=
  .object (keys.entries.map fun e => (e.1, .list (e.2.map .text)))

/-- Condition values are read as a list that has a short form, which is never written. -/
def compactKeys (keys : Dictionary (List String)) : List (String × Compact) :=
  keys.entries.map fun e => (e.1, ⟨e.2⟩)

theorem conditionsToJson_eq (c : Conditions) :
    conditionsToJson c = .object (c.entries.map fun e => (e.1, keysToJson e.2)) := rfl

theorem toEntries_keysToJson (keys : Dictionary (List String)) :
    Tree.toEntries Compact.ofTree (keysToJson keys).tree = .ok (compactKeys keys) := by
  rw [keysToJson, Value.tree]
  exact readEntries_memberTrees _ Compact.ofTree_list

theorem ofList_compactKeys (keys : Dictionary (List String)) :
    Dictionary.ofList ((compactKeys keys).map fun (key, c) => (key, c.values)) = keys := by
  rw [compactKeys, List.map_map]
  change Dictionary.ofList (keys.entries.map fun e => e) = keys
  rw [List.map_id', Dictionary.ofList_entries]

theorem conditionsOfTree_toJson (c : Conditions) :
    conditionsOfTree (conditionsToJson c).tree = .ok c := by
  have operators : readEntries (Tree.toEntries Compact.ofTree)
      (Value.memberTrees (c.entries.map fun e => (e.1, keysToJson e.2))) .closed =
      .ok (c.entries.map fun e => (e.1, compactKeys e.2)) :=
    readEntries_memberTrees _ toEntries_keysToJson
  have restored : Dictionary.ofList ((c.entries.map fun e => (e.1, compactKeys e.2)).map
      fun e => (e.1, Dictionary.ofList (e.2.map fun k => (k.1, k.2.values)))) = c := by
    rw [List.map_map]
    change Dictionary.ofList (c.entries.map fun e => (e.1, Dictionary.ofList
      ((compactKeys e.2).map fun k => (k.1, k.2.values)))) = c
    simp only [ofList_compactKeys]
    rw [List.map_id', Dictionary.ofList_entries]
  rw [conditionsToJson_eq, Value.tree]
  change ((readEntries (Tree.toEntries Compact.ofTree) _ .closed).map some).bind _ = _
  rw [operators]
  exact congrArg Except.ok restored

theorem check_conditions (c : Conditions) (n : Nat) :
    (conditionsToJson c).tree.check (n + 4) = .ok () := by
  refine check_object fun m hm => ?_
  obtain ⟨e, -, rfl⟩ := List.mem_map.1 hm
  refine check_object fun m hm => ?_
  obtain ⟨e, -, rfl⟩ := List.mem_map.1 hm
  exact Compact.check_texts e.2 n

theorem conditionsToJson?_eq_some {c : Conditions} {v : Value}
    (h : conditionsToJson? c = some v) : v = conditionsToJson c := by
  rw [conditionsToJson?] at h
  split at h
  · cases h
  · exact (Option.some.inj h).symm

theorem eq_empty_of_conditionsToJson? {c : Conditions} (h : conditionsToJson? c = none) :
    c = .empty := by
  rw [conditionsToJson?] at h
  split at h
  · next hc => exact Dictionary.ext (List.isEmpty_iff.1 hc)
  · cases h

theorem reads_sid (s r : Statement) (h : r.sid = none) :
    shape.Reads ["Sid"] (Value.memberTrees (Value.member "Sid" (s.sid.map .text))) r
      { r with sid := s.sid } := by
  refine Shape.reads_optional shape "Sid" (fun v r => { r with sid := v }) rfl
    (fun v hv => ?_) fun hv => ?_
  · obtain ⟨t, ht, rfl⟩ := Option.map_eq_some_iff.1 hv
    rw [ht]
    rfl
  · rw [Option.map_eq_none_iff.1 hv, ← h]

theorem reads_effect (s r : Statement) (h : r.effect = none) :
    shape.Reads ["Effect"]
      (Value.memberTrees (Value.member "Effect" (s.effect.map fun e => .text e.word))) r
      { r with effect := s.effect.map .norm } := by
  have norm : s.effect.map Effect.norm = (s.effect.map Effect.word).map Effect.ofWord := by
    cases s.effect with
    | none => rfl
    | some e => rw [Option.map_some, Option.map_some, Option.map_some, Effect.ofWord_word]
  rw [norm]
  refine Shape.reads_optional shape "Effect" (fun v r => { r with effect := Option.map .ofWord v }) rfl
    (fun v hv => ?_) fun hv => ?_
  · obtain ⟨e, he, rfl⟩ := Option.map_eq_some_iff.1 hv
    rw [he]
    rfl
  · rw [Option.map_eq_none_iff.1 hv, Option.map_none, Option.map_none, ← h]

theorem reads_principals (s r : Statement) (h : r.principals = .unstated) :
    shape.Reads ["Principal"]
      (Value.memberTrees (Value.member "Principal" s.principals.toJson?)) r
      { r with principals := s.principals.norm } := by
  refine Shape.reads_optional shape "Principal" (fun v r => { r with principals := v }) rfl
    (fun v hv => ?_) fun hv => ?_
  · obtain ⟨hp, rfl⟩ := Principals.toJson?_eq_some hv
    exact Principals.ofTree_toJson hp
  · rw [Principals.norm_of_toJson? hv, ← h]

theorem reads_actions (s r : Statement) (h : r.actions = .empty) :
    shape.Reads ["Action"] (Value.memberTrees (Value.member "Action" s.actions.toJson?)) r
      { r with actions := s.actions } := by
  refine Shape.reads_optional shape "Action" (fun v r => { r with actions := v }) rfl
    (fun v hv => ?_) fun hv => ?_
  · rw [Compact.toJson?_eq_some hv, Compact.ofTree_toJson]
  · rw [Compact.eq_empty_of_toJson? hv, ← h]

theorem reads_resources (s r : Statement) (h : r.resources = .empty) :
    shape.Reads ["Resource"] (Value.memberTrees (Value.member "Resource" s.resources.toJson?)) r
      { r with resources := s.resources } := by
  refine Shape.reads_optional shape "Resource" (fun v r => { r with resources := v }) rfl
    (fun v hv => ?_) fun hv => ?_
  · rw [Compact.toJson?_eq_some hv, Compact.ofTree_toJson]
  · rw [Compact.eq_empty_of_toJson? hv, ← h]

theorem reads_conditions (s r : Statement) (h : r.conditions = .empty) :
    shape.Reads ["Condition"]
      (Value.memberTrees (Value.member "Condition" (conditionsToJson? s.conditions))) r
      { r with conditions := s.conditions } := by
  refine Shape.reads_optional shape "Condition" (fun v r => { r with conditions := v }) rfl
    (fun v hv => ?_) fun hv => ?_
  · rw [conditionsToJson?_eq_some hv, conditionsOfTree_toJson]
  · rw [eq_empty_of_conditionsToJson? hv, ← h]

theorem read_toJson (s : Statement) : shape.read s.toJson.tree = .ok s.norm := by
  have h₁ := s.reads_sid empty rfl
  have h₂ := Shape.reads_append (by decide) h₁ (s.reads_effect _ rfl)
  have h₃ := Shape.reads_append (by decide) h₂ (s.reads_principals _ rfl)
  have h₄ := Shape.reads_append (by decide) h₃ (s.reads_actions _ rfl)
  have h₅ := Shape.reads_append (by decide) h₄ (s.reads_resources _ rfl)
  have h₆ := Shape.reads_append (by decide) h₅ (s.reads_conditions _ rfl)
  simp only [← Value.memberTrees_append] at h₆
  exact Shape.read_object h₆ (by decide)

theorem check_toJson (s : Statement) (n : Nat) : s.toJson.tree.check (n + 5) = .ok () := by
  refine check_object fun m hm => ?_
  simp only [List.mem_append] at hm
  rcases hm with ((((hm | hm) | hm) | hm) | hm) | hm
  · obtain ⟨t, -, ht⟩ := Option.map_eq_some_iff.1 (mem_member hm)
    rw [← ht]
    rfl
  · obtain ⟨e, -, he⟩ := Option.map_eq_some_iff.1 (mem_member hm)
    rw [← he]
    rfl
  · rw [(Principals.toJson?_eq_some (mem_member hm)).2]
    exact s.principals.check_toJson (n + 1)
  · rw [Compact.toJson?_eq_some (mem_member hm)]
    exact s.actions.check_toJson (n + 2)
  · rw [Compact.toJson?_eq_some (mem_member hm)]
    exact s.resources.check_toJson (n + 2)
  · rw [conditionsToJson?_eq_some (mem_member hm)]
    exact check_conditions s.conditions n

end Statement

namespace Rules

theorem statementsOfTree_toJson (ss : List Statement) :
    statementsOfTree (Value.list (ss.map Statement.toJson)).tree =
      .ok (ss.map Statement.norm) := by
  have checked : (Value.list (ss.map Statement.toJson)).tree.check (depthLimit - 1) = .ok () := by
    refine check_list (n := 125) fun v hv => ?_
    obtain ⟨s, -, rfl⟩ := List.mem_map.1 hv
    exact s.check_toJson 121
  have many : manyOfTree (Value.list (ss.map Statement.toJson)).tree =
      .ok (ss.map Statement.norm) := by
    rw [Value.tree]
    exact readAll_trees ss Statement.read_toJson
  rw [Value.tree, statementsOfTree, ← Value.tree, checked, many]
  · rfl
  · intro h; cases h

theorem read_toJson (r : Rules) : shape.read r.toJson.tree = .ok r.norm := by
  have version : shape.Reads ["Version"] (Value.memberTrees (Value.member "Version"
      (if r.version.isEmpty then none else some (.text r.version)))) empty
      { empty with version := r.version } := by
    refine Shape.reads_optional shape "Version" (fun v r => { r with version := v }) rfl
      (fun v hv => ?_) fun hv => ?_ <;> split at hv
    · cases hv
    · cases hv; rfl
    · next h => rw [String.isEmpty_iff.1 h]; rfl
    · cases hv
  have name (q : Rules) (h : q.id = none) : shape.Reads ["Id"]
      (Value.memberTrees (Value.member "Id" (r.id.map .text))) q { q with id := r.id } := by
    refine Shape.reads_optional shape "Id" (fun v r => { r with id := v }) rfl
      (fun v hv => ?_) fun hv => ?_
    · obtain ⟨t, ht, rfl⟩ := Option.map_eq_some_iff.1 hv
      rw [ht]
      rfl
    · rw [Option.map_eq_none_iff.1 hv, ← h]
  have statements (q : Rules) : shape.Reads ["Statement"] (Value.memberTrees
      (Value.member "Statement" (some (.list (r.statements.map Statement.toJson))))) q
      { q with statements := r.statements.map .norm } := by
    refine Shape.reads_optional shape "Statement" (fun v r => { r with statements := v }) rfl
      (fun v hv => ?_) fun hv => by cases hv
    rw [← Option.some.inj hv]
    exact statementsOfTree_toJson r.statements
  have all := Shape.reads_append (by decide) (Shape.reads_append (by decide) version
    (name _ rfl)) (statements _)
  simp only [← Value.memberTrees_append] at all
  exact Shape.read_object all (by decide)

theorem decode_encode (r : Rules) : decode r.encode = .ok r.norm := by
  rw [decode, encode, decode_print, read_toJson]
  rfl

theorem encode_eq_ofString (r : Rules) : r.encode = Utf8.ofString r.toText := by
  rw [encode, toText, Value.print, Utf8.ofString, String.toList_ofList]

theorem ofText_toText (r : Rules) : ofText r.toText = .ok r.norm := by
  rw [ofText, ← encode_eq_ofString, decode_encode]

theorem toText_norm (r : Rules) : r.norm.toText = r.toText := by
  rw [toText, toJson_norm, toText]

theorem toText_eq_iff {q r : Rules} : q.toText = r.toText ↔ q.norm = r.norm := by
  refine ⟨fun h => ?_, fun h => ?_⟩
  · have hq := ofText_toText q
    rw [h, ofText_toText] at hq
    exact (Except.ok.inj hq).symm
  · rw [← toText_norm q, h, toText_norm]

/-- A document reads back from its text as its normal form, which differs from it in effects and
principals alone. It is the document itself exactly for a normal one, and two documents have one
text exactly if they have one normal form. -/
theorem document_round_trip (r : Rules) :
    ofText r.toText = .ok r.norm ∧
    decode r.encode = .ok r.norm ∧
    r.encode = Utf8.ofString r.toText ∧
    (ofText r.toText = .ok r ↔ r.IsNormal) ∧
    r.norm.norm = r.norm ∧
    r.norm.toText = r.toText ∧
    (∀ q : Rules, q.toText = r.toText ↔ q.norm = r.norm) ∧
    (∀ q : Rules, q.encode = r.encode ↔ q.norm = r.norm) ∧
    r.norm.version = r.version ∧
    r.norm.id = r.id ∧
    r.norm.statements.map (fun s => (s.sid, s.actions, s.resources, s.conditions)) =
      r.statements.map (fun s => (s.sid, s.actions, s.resources, s.conditions)) := by
  refine ⟨ofText_toText r, decode_encode r, encode_eq_ofString r, ?_, norm_norm r, toText_norm r,
    fun q => toText_eq_iff, fun q => ?_, rfl, rfl, ?_⟩
  · rw [ofText_toText, ← norm_eq_self_iff]
    exact ⟨fun h => Except.ok.inj h, fun h => congrArg Except.ok h⟩
  · rw [← toText_eq_iff, encode_eq_ofString, encode_eq_ofString]
    exact ⟨fun h => Utf8.ofString_injective h, fun h => congrArg Utf8.ofString h⟩
  · rw [norm, List.map_map]
    rfl

end Rules

end ObjectStorage
