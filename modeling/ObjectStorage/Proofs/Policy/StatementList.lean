import Mathlib.Data.List.Forall2
import ObjectStorage.Proofs.Json.Members
import ObjectStorage.Proofs.Policy.RoundTrip

/-!
# Lists of statements

What a document makes of the list it gives for its statements. The list is read as many statements
first, and only if that fails as one statement whose fields stand in their order. `kept_iff_objects`
says that each item is kept as the statement it is alone exactly if all items are objects.
-/
namespace ObjectStorage

open Json

def Json.Tree.isObject : Tree → Bool
  | .object _ _ => true
  | _ => false

namespace Rules

/-- A document that has `t` for its statements, and no other member, has the statement `s`. -/
def Alone (t : Tree) (s : Statement) : Prop :=
  shape.read (.ofMembers [("Statement", t)]) = .ok { empty with statements := [s] }

/-- Each item of a list is an object and has become the statement that it is alone. -/
def Kept (items : List Tree) (statements : List Statement) : Prop :=
  List.Forall₂ (fun t s => t.isObject = true ∧ Alone t s) items statements

/-- A list was taken for the fields of one statement. -/
def Merged (items : List Tree) (statements : List Statement) : Prop :=
  items.length ≤ Statement.shape.fields.length ∧
    ∃ s, Statement.shape.read (.list items .closed) = .ok s ∧ statements = [s]

variable {items : List Tree} {last : Json.Ending} {statements : List Statement}

theorem manyOfTree_list_iff : manyOfTree (.list items .closed) = .ok statements ↔
    List.Forall₂ (fun t s => Statement.shape.read t = .ok s) items statements := by
  have entries : items.map Statement.shape.read = statements.map .ok ↔
      List.Forall₂ (fun t s => Statement.shape.read t = .ok s) items statements := by
    rw [← List.forall₂_eq_eq_eq, List.forall₂_map_left_iff, List.forall₂_map_right_iff]
  rw [← entries]
  constructor
  · intro h
    obtain ⟨ss, read, h⟩ := bind_eq_ok h
    cases h
    exact mapM_eq_ok read
  · intro h
    rw [manyOfTree, readAll, mapM_ok_of_map h]
    rfl

theorem statementsOfTree_list (h : statementsOfTree (.list items last) = .ok statements) :
    last = .closed ∧ (∀ t ∈ items, t.check (depthLimit - 1) = .ok ()) ∧
      (manyOfTree (.list items .closed) = .ok statements ∨
        (∀ ss, manyOfTree (.list items .closed) ≠ .ok ss) ∧
          ∃ s, Statement.shape.read (.list items .closed) = .ok s ∧ statements = [s]) := by
  rw [statementsOfTree] at h
  · obtain ⟨⟨⟩, checked, h⟩ := bind_eq_ok h
    obtain ⟨-, checkedItems, rfl⟩ := check_list_iff.1 checked
    refine ⟨rfl, fun t ht => t.check_mono (by decide) (checkItems_iff.1 checkedItems t ht), ?_⟩
    split at h
    · next ss hs =>
      cases h
      exact Or.inl hs
    · next s hs many =>
      cases h
      exact Or.inr ⟨many, s, hs, rfl⟩
    · cases h
  · intro h
    cases h

theorem alone_of_read {t : Tree} {s : Statement} (object : t.isObject = true)
    (checked : t.check (depthLimit - 1) = .ok ()) (h : Statement.shape.read t = .ok s) :
    Alone t s := by
  have one : statementsOfTree t = .ok [s] := by
    cases t with
    | object members ending =>
      rw [statementsOfTree, checked, h]
      · rfl
      · intro h
        cases h
    | null | boolean _ | number _ | text _ | list _ _ | broken _ _ => cases object
  have field : (do
      let v ← statementsOfTree t
      return fun r : Rules => { r with statements := v }) =
        .ok fun r => { r with statements := [s] } := by
    rw [one]
    rfl
  have reads : shape.Reads ["Statement"] [(.ok "Statement", t)] empty _ :=
    Shape.reads_member rfl field empty
  exact Shape.read_object reads (by decide)

/-- No object is the first field of a statement. -/
theorem read_list_of_objects {s : Statement} (objects : ∀ t ∈ items, t.isObject = true)
    (h : Statement.shape.read (.list items last) = .ok s) : items = [] := by
  cases items with
  | nil => rfl
  | cons t items =>
    have object := objects t List.mem_cons_self
    cases t with
    | object members ending => cases h
    | null | boolean _ | number _ | text _ | list _ _ | broken _ _ => cases object

theorem kept_of_statementsOfTree (objects : ∀ t ∈ items, t.isObject = true)
    (h : statementsOfTree (.list items last) = .ok statements) : Kept items statements := by
  obtain ⟨rfl, checked, many | ⟨many, s, one, -⟩⟩ := statementsOfTree_list h
  · have each : ∀ t ∈ items, t.isObject = true ∧ t.check (depthLimit - 1) = .ok () :=
      fun t ht => ⟨objects t ht, checked t ht⟩
    have read := (List.forall₂_and_left items statements).2 ⟨each, manyOfTree_list_iff.1 many⟩
    exact read.imp fun t s h => ⟨h.1.1, alone_of_read h.1.1 h.1.2 h.2⟩
  · rw [read_list_of_objects objects one] at many
    exact absurd rfl (many [])

/-- Only the member with the statements decides which statements a document has. -/
theorem statements_of_decode {text : Bytes} {members : List (Except Json.Error String × Tree)}
    {ending : Json.Ending} {rest : Option Bytes} {r : Rules} {t : Tree}
    (tree : readTree text = (.object members ending, rest))
    (given : (.ok "Statement", t) ∈ members) (accepted : decode text = .ok r) :
    statementsOfTree t = .ok r.statements := by
  have apart : shape.Apart "Statement" statements := by
    simp only [Shape.Apart, shape, List.forall_mem_cons]
    refine ⟨fun _ t set h r => ?_, fun _ t set h r => ?_, fun other => absurd rfl other,
      List.forall_mem_nil _⟩
    · obtain ⟨v, -, h⟩ := bind_eq_ok h
      cases h
      rfl
    · obtain ⟨v, -, h⟩ := bind_eq_ok h
      cases h
      rfl
  have read := read_of_decode (mapError_eq_ok accepted)
  rw [tree] at read
  obtain ⟨field, found, set, q, hset, view⟩ :=
    Shape.exists_read_of_mem apart (by decide) given read
  cases found
  obtain ⟨ss, hss, hset⟩ := bind_eq_ok hset
  cases hset
  rw [hss, view]

/-- A document that is accepted with a list for its statements keeps each item as the statement it
is alone exactly if all items are objects. Otherwise lists stand for the fields of statements: some
items of the list, or the list itself when its items cannot be read as statements one by one. -/
theorem kept_iff_objects {text : Bytes} {members : List (Except Json.Error String × Tree)}
    {ending : Json.Ending} {rest : Option Bytes} {r : Rules}
    (tree : readTree text = (.object members ending, rest))
    (given : (.ok "Statement", .list items last) ∈ members) (accepted : decode text = .ok r) :
    (Kept items r.statements ↔ ∀ t ∈ items, t.isObject = true) ∧
      (List.Forall₂ (fun t s => Statement.shape.read t = .ok s) items r.statements ∨
        (∀ ss, ¬ List.Forall₂ (fun t s => Statement.shape.read t = .ok s) items ss) ∧
          Merged items r.statements) := by
  have h := statements_of_decode tree given accepted
  constructor
  · constructor
    · intro kept
      exact ((List.forall₂_and_left items r.statements).1 kept).1
    · intro objects
      exact kept_of_statementsOfTree objects h
  · obtain ⟨-, -, many | ⟨many, s, one, hs⟩⟩ := statementsOfTree_list h
    · exact Or.inl (manyOfTree_list_iff.1 many)
    · refine Or.inr ⟨fun ss read => many ss (manyOfTree_list_iff.2 read), ?_, s, one, hs⟩
      exact Shape.length_le_of_readPositions one

/-- A denial and a permission, each kept as it is. -/
theorem kept_iff_objects_of_two : ∃ members,
    readTree (encode ⟨"", none, [.ofEffect .deny, (Statement.ofEffect .allow).withSid "s1"]⟩) =
        (.object members .closed, some []) ∧
      decode (encode ⟨"", none, [.ofEffect .deny, (Statement.ofEffect .allow).withSid "s1"]⟩) =
        .ok ⟨"", none, [.ofEffect .deny, (Statement.ofEffect .allow).withSid "s1"]⟩ ∧
      ∃ items, (.ok "Statement", .list items .closed) ∈ members ∧ items.length = 2 ∧
        Kept items [.ofEffect .deny, (Statement.ofEffect .allow).withSid "s1"] := by
  let r : Rules := ⟨"", none, [.ofEffect .deny, (Statement.ofEffect .allow).withSid "s1"]⟩
  have tree := readTree_print r.toJson []
  rw [List.append_nil] at tree
  have given : ((.ok "Statement", (Value.list (r.statements.map Statement.toJson)).tree) :
      Except Json.Error String × Tree) ∈ Value.memberTrees
        [("Statement", .list (r.statements.map Statement.toJson))] := List.mem_singleton.2 rfl
  have accepted : decode r.encode = .ok r := by
    rw [decode_encode]
    decide
  refine ⟨_, tree, accepted, _, given, rfl, ?_⟩
  exact (kept_iff_objects tree given accepted).1.2 (by decide)

/-- Two texts in the place of two statements are read as one statement. -/
theorem merged_of_texts : ∃ members items r,
    readTree (Utf8.ofString "\x7b\"Statement\":[\"s1\",\"Allow\"]\x7d") =
        (.object members .closed, some []) ∧
      (.ok "Statement", .list items .closed) ∈ members ∧
      decode (Utf8.ofString "\x7b\"Statement\":[\"s1\",\"Allow\"]\x7d") = .ok r ∧
      items.length = 2 ∧ r.statements = [(Statement.ofEffect .allow).withSid "s1"] ∧
      ¬ Kept items r.statements := by
  let v : Value := .object [("Statement", .list [.text "s1", .text "Allow"])]
  have text : Utf8.ofString "\x7b\"Statement\":[\"s1\",\"Allow\"]\x7d" =
      Utf8.encode v.printChars := by
    decide +kernel
  have tree := readTree_print v []
  have accepted : decode (Utf8.encode v.printChars) =
      .ok ⟨"", none, [(Statement.ofEffect .allow).withSid "s1"]⟩ := by
    rw [decode, decode_print]
    rfl
  rw [List.append_nil] at tree
  rw [text]
  refine ⟨_, _, _, tree, List.mem_singleton.2 rfl, accepted, rfl, rfl, fun kept => ?_⟩
  exact absurd kept.length_eq (by decide)

end Rules

end ObjectStorage
