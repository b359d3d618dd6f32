import Mathlib.Data.List.Forall2
import ObjectStorage.Proofs.Json.Members
import ObjectStorage.Proofs.Policy.Normal

/-!
# Spellings of policy documents

A document has many spellings: short and long forms of lists, null or nothing for what is absent,
members in any order and members nobody asks for. Each kind of value has its spellings stated apart
and a lemma that its reader takes all of them. A statement and a document put them together by their
members.
-/
namespace ObjectStorage

open Json

section
variable {α β : Type}

/-- Entries in any order, each value spelled in its own way. -/
inductive Dictionary.Spelling (spelling : Tree → β → Prop) : Tree → Dictionary β → Prop
  | object {ms : List (String × Tree)} {es : List (String × β)} {d : Dictionary β}
      (values : List.Forall₂ (fun m e => m.1 = e.1 ∧ spelling m.2 e.2) ms es)
      (order : es.Perm d.entries) : Spelling spelling (.ofMembers ms) d

variable {spelling : Tree → β → Prop} {read : Tree → Except Json.Error α} {value : α → β}

theorem Dictionary.Spelling.toEntries
    (h : ∀ t b, spelling t b → ∃ a, read t = .ok a ∧ value a = b) {t : Tree} {d : Dictionary β}
    (hd : Dictionary.Spelling spelling t d) :
    ∃ as, t.toEntries read = .ok as ∧ .ofList (as.map fun e => (e.1, value e.2)) = d := by
  obtain ⟨entries, order⟩ := hd
  obtain ⟨as, has, rfl⟩ := readEntries_of_spelling h entries
  exact ⟨as, has, ofList_of_perm order⟩

end

/-- A text, or null for its absence. -/
inductive OptionalTextSpelling : Tree → Option String → Prop
  | null : OptionalTextSpelling .null none
  | text (v : String) : OptionalTextSpelling (.text (.ok v)) (some v)

theorem OptionalTextSpelling.optional {t : Tree} {v? : Option String}
    (h : OptionalTextSpelling t v?) : optional Tree.toText t = .ok v? := by
  cases h <;> rfl

namespace Compact

inductive Spelling : Tree → Compact → Prop
  | null : Spelling .null empty
  | short (v : String) : Spelling (.text (.ok v)) (one v)
  | long (vs : List String) : Spelling (.list (vs.map fun v => .text (.ok v)) .closed) ⟨vs⟩

theorem Spelling.ofTree {t : Tree} {c : Compact} (h : Spelling t c) : ofTree t = .ok c := by
  cases h with
  | null => rfl
  | short v => rfl
  | long vs =>
    have texts : (vs.map fun v => Tree.text (.ok v)).mapM Tree.toText =
        .ok (vs.map fun v => v) := by
      rw [List.mapM_map]
      exact mapM_ok fun v _ => rfl
    rw [Compact.ofTree, readAll, texts, List.map_id']
    rfl

end Compact

namespace Principals

inductive Spelling : Tree → Principals → Prop
  | null : Spelling .null unstated
  | short : Spelling (.text (.ok star)) everyone
  | long : Spelling (.list [.text (.ok star)] .closed) everyone
  | listed {t : Tree} {d : Dictionary Compact} (h : Dictionary.Spelling Compact.Spelling t d) :
      Spelling t (listed d)

theorem Spelling.ofTree {t : Tree} {p : Principals} (h : Spelling t p) : ofTree t = .ok p := by
  cases h with
  | null => rfl
  | short => rfl
  | long => rfl
  | listed h =>
    obtain ⟨es, hes, hd⟩ := h.toEntries fun _ c hc => ⟨c, hc.ofTree, rfl⟩
    cases h with
    | object entries order =>
      change (readEntries _ _ .closed).map (fun es => Principals.listed (.ofList es)) = _
      change readEntries Compact.ofTree _ .closed = _ at hes
      rw [hes, ← hd, List.map_id']
      rfl

end Principals

namespace Statement

inductive ConditionsSpelling : Tree → Conditions → Prop
  | null : ConditionsSpelling .null .empty
  | object {t : Tree} {c : Conditions} (h : Dictionary.Spelling
      (Dictionary.Spelling fun t vs => Compact.Spelling t ⟨vs⟩) t c) : ConditionsSpelling t c

theorem ConditionsSpelling.ofTree {t : Tree} {c : Conditions} (h : ConditionsSpelling t c) :
    conditionsOfTree t = .ok c := by
  cases h with
  | null => rfl
  | object h =>
    have keys {t : Tree} {k : Dictionary (List String)}
        (hk : Dictionary.Spelling (fun t vs => Compact.Spelling t ⟨vs⟩) t k) :
        ∃ es, t.toEntries Compact.ofTree = .ok es ∧
          .ofList (es.map fun e => (e.1, e.2.values)) = k :=
      hk.toEntries fun _ vs hv => ⟨⟨vs⟩, hv.ofTree, rfl⟩
    obtain ⟨operators, ho, hc⟩ := h.toEntries fun _ _ hk => keys hk
    cases h with
    | object entries order =>
      change ((Tree.toEntries _ _).map some).bind _ = _
      rw [ho]
      exact congrArg Except.ok hc

/-- The members of a statement, among which there may be others. -/
structure MembersSpelling (ms : List (String × Tree)) (s : Statement) : Prop where
  once : Once shape.keys ms
  sid : Given OptionalTextSpelling none s.sid (member? "Sid" ms)
  effect : Given OptionalTextSpelling none (s.effect.map Effect.word) (member? "Effect" ms)
  principals : Given Principals.Spelling .unstated s.principals (member? "Principal" ms)
  actions : Given Compact.Spelling .empty s.actions (member? "Action" ms)
  resources : Given Compact.Spelling .empty s.resources (member? "Resource" ms)
  conditions : Given ConditionsSpelling .empty s.conditions (member? "Condition" ms)

inductive Spelling : Tree → Statement → Prop
  | object {ms : List (String × Tree)} {s : Statement} (h : MembersSpelling ms s) :
      Spelling (.ofMembers ms) s

def part (s : Statement) (seen : List String) : Statement where
  sid := if "Sid" ∈ seen then s.sid else none
  effect := (if "Effect" ∈ seen then s.effect.map Effect.word else none).map Effect.ofWord
  principals := if "Principal" ∈ seen then s.principals else .unstated
  actions := if "Action" ∈ seen then s.actions else .empty
  resources := if "Resource" ∈ seen then s.resources else .empty
  conditions := if "Condition" ∈ seen then s.conditions else .empty

theorem MembersSpelling.part_eq {ms : List (String × Tree)} {s : Statement}
    (h : MembersSpelling ms s) (normal : ∀ e ∈ s.effect, e.IsNormal) {seen : List String}
    (complete : ∀ k ∈ shape.keys, k ∉ seen → member? k ms = none) : s.part seen = s := by
  have restored : (s.effect.map Effect.word).map Effect.ofWord = s.effect := by
    cases he : s.effect with
    | none => rfl
    | some e =>
      rw [Option.map_some, Option.map_some, Effect.ofWord_word,
        Effect.norm_eq_self_iff.2 (normal e he)]
  rw [part, h.sid.filled (complete _ (by decide)), h.effect.filled (complete _ (by decide)),
    h.principals.filled (complete _ (by decide)), h.actions.filled (complete _ (by decide)),
    h.resources.filled (complete _ (by decide)), h.conditions.filled (complete _ (by decide)),
    restored]

theorem Spelling.read {t : Tree} {s : Statement} (h : Spelling t s) {n : Nat}
    (checked : t.check n = .ok ()) (normal : ∀ e ∈ s.effect, e.IsNormal) :
    shape.read t = .ok s := by
  obtain ⟨h⟩ := h
  apply Shape.read_ofMembers s.part (by decide) checked h.once rfl
  · simp only [shape, List.forall_mem_cons]
    refine ⟨?_, ?_, ?_, ?_, ?_, ?_, List.forall_mem_nil _⟩
    · exact h.sid.reads h.once (by decide) s.part (fun v (s : Statement) => { s with sid := v })
        (fun _ _ ht => ht.optional) fun _ => by simp [part]
    · exact h.effect.reads h.once (by decide) s.part
        (fun v (s : Statement) => { s with effect := v.map .ofWord })
        (fun _ _ ht => ht.optional) fun _ => by simp [part]
    · exact h.principals.reads h.once (by decide) s.part
        (fun v (s : Statement) => { s with principals := v })
        (fun _ _ ht => ht.ofTree) fun _ => by simp [part]
    · exact h.actions.reads h.once (by decide) s.part
        (fun v (s : Statement) => { s with actions := v })
        (fun _ _ ht => ht.ofTree) fun _ => by simp [part]
    · exact h.resources.reads h.once (by decide) s.part
        (fun v (s : Statement) => { s with resources := v })
        (fun _ _ ht => ht.ofTree) fun _ => by simp [part]
    · exact h.conditions.reads h.once (by decide) s.part
        (fun v (s : Statement) => { s with conditions := v })
        (fun _ _ ht => ht.ofTree) fun _ => by simp [part]
  · exact fun _ => h.part_eq normal

end Statement

namespace Rules

inductive StatementsSpelling : Tree → List Statement → Prop
  | null : StatementsSpelling .null []
  | bare {t : Tree} {s : Statement} (h : Statement.Spelling t s) : StatementsSpelling t [s]
  | list {ts : List Tree} {ss : List Statement} (h : List.Forall₂ Statement.Spelling ts ss) :
      StatementsSpelling (.list ts .closed) ss

theorem manyOfTree_of_spelling {ts : List Tree} {ss : List Statement} {n : Nat}
    (h : List.Forall₂ Statement.Spelling ts ss) (checked : ∀ t ∈ ts, t.check n = .ok ())
    (normal : ∀ s ∈ ss, ∀ e ∈ s.effect, e.IsNormal) :
    manyOfTree (.list ts .closed) = .ok ss := by
  have items : ts.mapM Statement.shape.read = .ok ss := by
    induction h with
    | nil => rfl
    | cons ht _ ih =>
      rw [List.forall_mem_cons] at checked normal
      rw [List.mapM_cons, ht.read checked.1 normal.1, ih checked.2 normal.2]
      rfl
  rw [manyOfTree, readAll, items]
  rfl

theorem StatementsSpelling.ofTree {t : Tree} {ss : List Statement} (h : StatementsSpelling t ss)
    (checked : t.check (depthLimit - 1) = .ok ())
    (normal : ∀ s ∈ ss, ∀ e ∈ s.effect, e.IsNormal) : statementsOfTree t = .ok ss := by
  cases h with
  | null => rfl
  | @bare t s h =>
    have one := h.read checked (normal s List.mem_cons_self)
    obtain ⟨h⟩ := h
    rw [Tree.ofMembers] at checked one ⊢
    rw [statementsOfTree, checked, one]
    · rfl
    · intro h
      cases h
  | @list ts ss h =>
    obtain ⟨-, items, -⟩ := check_list_iff.1 checked
    have many := manyOfTree_of_spelling h (checkItems_iff.1 items) normal
    rw [statementsOfTree, checked, many]
    · rfl
    · intro h
      cases h

/-- The members of a document, among which there may be others. -/
structure MembersSpelling (ms : List (String × Tree)) (r : Rules) : Prop where
  once : Once shape.keys ms
  version : Given (fun t v => t = .text (.ok v)) "" r.version (member? "Version" ms)
  id : Given OptionalTextSpelling none r.id (member? "Id" ms)
  statements : Given StatementsSpelling [] r.statements (member? "Statement" ms)

inductive Spelling : Tree → Rules → Prop
  | object {ms : List (String × Tree)} {r : Rules} (h : MembersSpelling ms r) :
      Spelling (.ofMembers ms) r

def part (r : Rules) (seen : List String) : Rules where
  version := if "Version" ∈ seen then r.version else ""
  id := if "Id" ∈ seen then r.id else none
  statements := if "Statement" ∈ seen then r.statements else []

theorem Spelling.read {t : Tree} {r : Rules} (h : Spelling t r)
    (checked : t.check depthLimit = .ok ())
    (normal : ∀ s ∈ r.statements, ∀ e ∈ s.effect, e.IsNormal) : shape.read t = .ok r := by
  obtain ⟨h⟩ := h
  apply Shape.read_ofMembers r.part (by decide) checked h.once rfl
  · simp only [shape, List.forall_mem_cons]
    refine ⟨?_, ?_, ?_, List.forall_mem_nil _⟩
    · refine h.version.reads h.once (by decide) r.part
        (fun v (r : Rules) => { r with version := v }) (fun _ _ ht => ?_) fun _ => by simp [part]
      rw [ht]
      rfl
    · exact h.id.reads h.once (by decide) r.part (fun v (r : Rules) => { r with id := v })
        (fun _ _ ht => ht.optional) fun _ => by simp [part]
    · exact h.statements.reads h.once (by decide) r.part
        (fun v (r : Rules) => { r with statements := v })
        (fun _ hm ht => ht.ofTree (check_member checked hm) normal) fun _ => by simp [part]
  · intro seen complete
    rw [part, h.version.filled (complete _ (by decide)), h.id.filled (complete _ (by decide)),
      h.statements.filled (complete _ (by decide))]

/-- Every text that spells a document is read as this document. -/
theorem decode_of_spelling {r : Rules} (normal : ∀ s ∈ r.statements, ∀ e ∈ s.effect, e.IsNormal)
    {text rest : Bytes} {t : Tree} (h : Json.Spelling text t rest) (last : skipBlanks rest = [])
    (hr : Spelling t r) (shallow : t.depth < depthLimit) : decode text = .ok r := by
  have tree : readTree text = (t, some rest) := readTree_of_spelling h
  have value : shape.read t = .ok r := hr.read (h.check shallow) normal
  have whole : Json.decode shape.read text = .ok r := by
    simp only [Json.decode, tree, value, Option.map_some, last]
    rfl
  rw [decode, whole]
  rfl

/-- An unknown member with an integer, one bare statement, members out of order, and a null. -/
theorem decode_of_spelling_with_unknown_member :
    decode (Utf8.ofString ("\x7b\"Note\":-7,\"Statement\":\x7b\"Action\":\"tos:*\"," ++
        "\"Effect\":\"Deny\",\"Sid\":null\x7d\x7d")) =
      .ok { empty with
        statements := [{ Statement.ofEffect .deny with actions := .one "tos:*" }] } := by
  have integer (rest : Bytes) :
      IntegerSpelling (0x2D :: 0x37 :: 0x2C :: rest) (-7) (0x2C :: rest) := by
    have seven : DigitSpelling [0x37] 7 :=
      ⟨List.forall_mem_singleton.2 (by decide), by decide, by decide, rfl⟩
    apply IntegerSpelling.negative seven
    · decide
    · decide
    · intro b hb
      cases hb
      decide
  have members := membersSpelling_print [("Statement", .object [("Action", .text "tos:*"),
    ("Effect", .text "Deny"), ("Sid", .null)])] []
  have spelled := Json.Spelling.object (s := 0x7B :: _) (by rfl) (.quoted (k := "Note")
    (.integer (s := 0x2D :: 0x37 :: 0x2C :: _) (integer _)) members.comma)
  have statement : Statement.MembersSpelling
      [("Action", .text (.ok "tos:*")), ("Effect", .text (.ok "Deny")), ("Sid", .null)]
      { Statement.ofEffect .deny with actions := .one "tos:*" } :=
    ⟨by decide, .null, .text "Deny", rfl, .short "tos:*", rfl, rfl⟩
  have document : MembersSpelling
      [("Note", .number (.ok (.integer (-7)))), ("Statement", .ofMembers _)] ⟨"", none, [_]⟩ :=
    ⟨by decide, rfl, rfl, .bare (.object statement)⟩
  refine Eq.trans (congrArg decode ?_)
    (decode_of_spelling ?_ spelled rfl (.object document) (by decide))
  · decide +kernel
  · intro s hs e he
    rw [List.mem_singleton.1 hs] at he
    cases he
    exact ⟨by decide, by decide⟩

end Rules

end ObjectStorage
