import ObjectStorage.Proofs.Json.StringMembers
import ObjectStorage.Proofs.Xml.Children
import ObjectStorage.Refusal

/-!
# What a text tells of a refusal

JSON and XML give a refusal in the same way: by members with keys, of which those with the keys of
fields come once and are strings. `Regular` says so, and `ofMembers` is the refusal that is given.
A list of strings gives the fields in their order. `ofJson?_eq_some_iff` and `ofXml?_eq_some_iff`
say of whole texts what is read and as which refusal.
-/
namespace ObjectStorage.Refusal

open Json

def told? (ms : List (String × Option String)) (key : String) : Option String :=
  (ms.find? (·.1 == key)).bind (·.2)

/-- No field is told twice, and each that is told has a string. -/
structure Regular (ms : List (String × Option String)) : Prop where
  once : ms.Pairwise fun m n => m.1 ∈ fieldNames → m.1 ≠ n.1
  strings : ∀ m ∈ ms, m.1 ∈ fieldNames → m.2 ≠ none

/-- The refusal that members give. A field that is not told is empty. -/
def ofMembers (ms : List (String × Option String)) : Refusal where
  code := (told? ms codeField).getD ""
  message := (told? ms messageField).getD ""
  requestId := (told? ms requestField).getD ""
  hostId := (told? ms hostField).getD ""

def ofTexts (vs : List String) : Refusal where
  code := vs.getD 0 ""
  message := vs.getD 1 ""
  requestId := vs.getD 2 ""
  hostId := vs.getD 3 ""

variable {ms : List (String × Option String)} {ns : List (String × Tree)} {text : List Char}
  {r : Refusal}

theorem told?_of_mem (once : ms.Pairwise fun m n => m.1 ∈ fieldNames → m.1 ≠ n.1) {key : String}
    {v? : Option String} (known : key ∈ fieldNames) (hm : (key, v?) ∈ ms) : told? ms key = v? := by
  induction ms with
  | nil => cases hm
  | cons m ms ih =>
    obtain ⟨apart, once⟩ := List.pairwise_cons.1 once
    rcases List.mem_cons.1 hm with rfl | hm
    · simp [told?]
    · have other : m.1 ≠ key := fun same => apart _ hm (same ▸ known) same
      rw [told?, List.find?_cons_of_neg (by simpa using other)]
      exact ih once hm

theorem isTextual_shape : shape.IsTextual := by
  have text {set : String → Refusal → Refusal} (t : Tree) (f : Refusal → Refusal)
      (h : (do let v ← t.toText; return set v) = .ok f) : ∃ v, t = .text (.ok v) := by
    obtain ⟨v, hv, -⟩ := bind_eq_ok h
    exact ⟨v, toText_eq_ok_iff.1 hv⟩
  simp only [Shape.IsTextual, shape, List.forall_mem_cons]
  exact ⟨text, text, text, text, List.forall_mem_nil _⟩

def part (r : Refusal) (seen : List String) : Refusal where
  code := if "Code" ∈ seen then r.code else ""
  message := if "Message" ∈ seen then r.message else ""
  requestId := if "RequestId" ∈ seen then r.requestId else ""
  hostId := if "HostId" ∈ seen then r.hostId else ""

theorem mem_of_fits (each : List.Forall₂ Fits ns ms) {key : String} {t : Tree}
    (hn : (key, t) ∈ ns) : ∃ v?, (key, v?) ∈ ms ∧ ∀ v ∈ v?, t = .text (.ok v) := by
  induction each with
  | nil => cases hn
  | @cons n m ns ms fits _ ih =>
    rcases List.mem_cons.1 hn with rfl | hn
    · exact ⟨m.2, List.mem_cons.2 (.inl (Prod.ext fits.1 rfl)), fits.2⟩
    · obtain ⟨v?, hm, h⟩ := ih hn
      exact ⟨v?, List.mem_cons_of_mem m hm, h⟩

theorem keys_of_fits (each : List.Forall₂ Fits ns ms) : ns.map Prod.fst = ms.map Prod.fst := by
  induction each with
  | nil => rfl
  | cons fits _ ih => rw [List.map_cons, List.map_cons, ih, fits.1]

theorem tree_of_told (each : List.Forall₂ Fits ns ms) (regular : Regular ms) {key : String}
    {t : Tree} (known : key ∈ fieldNames) (hn : (key, t) ∈ ns) :
    t = .text (.ok ((told? ms key).getD "")) := by
  obtain ⟨v?, hm, h⟩ := mem_of_fits each hn
  rw [told?_of_mem regular.once known hm]
  cases v? with
  | none => exact absurd rfl (regular.strings _ hm known)
  | some v => exact h v rfl

theorem told?_of_member? (each : List.Forall₂ Fits ns ms) {key : String}
    (absent : member? key ns = none) : told? ms key = none := by
  induction each with
  | nil => rfl
  | @cons n m ns ms fits _ ih =>
    by_cases hk : n.1 = key
    · rw [member?, List.find?_cons_of_pos (by simpa using hk)] at absent
      cases absent
    · rw [member?, List.find?_cons_of_neg (by simpa using hk)] at absent
      rw [told?, List.find?_cons_of_neg (by simpa [← fits.1] using hk)]
      exact ih absent

theorem read_of_fits (skipped : ∀ n ∈ ns, n.2.skip = .ok ()) (each : List.Forall₂ Fits ns ms)
    (regular : Regular ms) : shape.read (.ofMembers ns) = .ok (ofMembers ms) := by
  have names : (ns.map Prod.fst).Pairwise fun k l => k ∈ fieldNames → k ≠ l := by
    rw [keys_of_fits each, List.pairwise_map]
    exact regular.once
  have tree {key : String} (known : key ∈ fieldNames) (t : Tree) (hn : (key, t) ∈ ns) :=
    tree_of_told each regular known hn
  have once : Once shape.keys ns := List.pairwise_map.1 names
  -- What has been read at any time depends on the keys that were seen, and not on their order.
  apply Shape.read_of_skipped (ofMembers ms).part (by decide) skipped once rfl
  · simp only [shape, List.forall_mem_cons]
    refine ⟨?_, ?_, ?_, ?_, List.forall_mem_nil _⟩
    all_goals
      intro t ht
      rw [tree (by decide) t ht]
      refine ⟨_, rfl, fun seen => ?_⟩
      simp [part, ofMembers, codeField, messageField, requestField, hostField]
  · intro seen complete
    have filled {key : String} (known : key ∈ fieldNames) :
        (if key ∈ seen then (told? ms key).getD "" else "") = (told? ms key).getD "" := by
      rw [ite_eq_left_iff]
      intro unseen
      rw [told?_of_member? each (complete key known unseen)]
      rfl
    exact congr (congr (congr (congrArg Refusal.mk (filled (by decide))) (filled (by decide)))
      (filled (by decide))) (filled (by decide))

theorem read_texts {vs : List String} (short : vs.length ≤ 4) :
    shape.read (.list (textTrees vs) .closed) = .ok (ofTexts vs) := by
  match vs, short with
  | [], _ | [_], _ | [_, _], _ | [_, _, _], _ | [_, _, _, _], _ => rfl

/-- A refusal is read from an object that tells its fields, or from a list of them. -/
theorem exists_of_read {t : Tree} (h : shape.read t = .ok r) :
    (∃ ns ms, t = .ofMembers ns ∧ List.Forall₂ Fits ns ms ∧ Regular ms) ∨
      ∃ vs, t = .list (textTrees vs) .closed ∧ vs.length ≤ 4 := by
  cases t with
  | object members ending =>
    obtain ⟨ns, ms, rfl, each, once, known⟩ := Shape.exists_of_readMembers isTextual_shape h
    rw [Shape.closed_of_readMembers h]
    exact .inl ⟨ns, ms, rfl, each, once, fun m hm hk => (known m hm hk).2⟩
  | list items ending =>
    obtain ⟨vs, rfl, short⟩ := Shape.exists_of_readPositions isTextual_shape h
    rw [Shape.closed_of_readPositions h]
    exact .inr ⟨vs, rfl, short⟩
  | null | boolean _ | number _ | text _ | broken _ _ => cases h

/-- What is read of a text as JSON: an object that tells the fields, or a list of at most four
strings. -/
theorem ofJson?_eq_some_iff : ofJson? text = some r ↔
    (∃ ms, ObjectText (Utf8.encode text) ms ∧ Regular ms ∧ r = ofMembers ms) ∨
      ∃ vs, ListText (Utf8.encode text) vs ∧ vs.length ≤ 4 ∧ r = ofTexts vs := by
  have outcome : ofJson? text = some r ↔
      Json.decode shape.read (Utf8.encode text) = .ok r := by
    rw [ofJson?]
    cases Json.decode shape.read (Utf8.encode text) <;> simp [Except.toOption]
  rw [outcome, decode_eq_ok_iff fun t r => Shape.isOpen_of_read]
  constructor
  · rintro ⟨t, rest, taken, last, read⟩
    obtain ⟨ns, ms, rfl, each, regular⟩ | ⟨vs, rfl, short⟩ := exists_of_read read
    · rw [read_of_fits taken.skip_member each regular] at read
      cases read
      exact .inl ⟨ms, objectText_iff.2 ⟨ns, rest, taken, last, each⟩, regular, rfl⟩
    · rw [read_texts short] at read
      cases read
      exact .inr ⟨vs, listText_iff.2 ⟨rest, taken, last⟩, short, rfl⟩
  · rintro (⟨ms, object, regular, rfl⟩ | ⟨vs, list, short, rfl⟩)
    · obtain ⟨ns, rest, taken, last, each⟩ := objectText_iff.1 object
      exact ⟨_, rest, taken, last, read_of_fits taken.skip_member each regular⟩
    · obtain ⟨rest, taken, last⟩ := listText_iff.1 list
      exact ⟨_, rest, taken, last, read_texts short⟩

open Xml in
theorem fieldOf_entriesOf (known : ∀ m ∈ ms, (m.1 ∈ fieldNames ↔ m.2 ≠ none)) {key : String}
    (hk : key ∈ fieldNames) : fieldOf (entriesOf ms) key = (told? ms key).getD "" := by
  induction ms with
  | nil => rfl
  | cons m ms ih =>
    obtain ⟨here, later⟩ := List.forall_mem_cons.1 known
    obtain ⟨k, _ | v⟩ := m
    · have other : k ≠ key := by
        rintro rfl
        exact here.1 hk rfl
      rw [told?, List.find?_cons_of_neg (by simpa using other)]
      exact ih later
    · by_cases same : k = key
      · simp [same, fieldOf, entriesOf, told?]
      · rw [told?, List.find?_cons_of_neg (by simpa using same), fieldOf, entriesOf,
          List.filterMap_cons]
        simp only [Option.map_some]
        rw [List.find?_cons_of_neg (by simpa using same)]
        exact ih later

/-- What is read of a text as XML: a root of any name whose children tell the fields. -/
theorem ofXml?_eq_some_iff : ofXml? text = some r ↔
    ∃ root ms, Xml.Rooted fieldNames root (Xml.tokensOf text) ms ∧ Regular ms ∧
      r = ofMembers ms := by
  have fields {root : List Char} {ms : List (String × Option String)}
      (rooted : Xml.Rooted fieldNames root (Xml.tokensOf text) ms) :
      (⟨fieldOf (Xml.entriesOf ms) codeField, fieldOf (Xml.entriesOf ms) messageField,
        fieldOf (Xml.entriesOf ms) requestField, fieldOf (Xml.entriesOf ms) hostField⟩ : Refusal) =
          ofMembers ms := by
    have field {key : String} (hk : key ∈ fieldNames) := fieldOf_entriesOf rooted.known_iff hk
    exact congr (congr (congr (congrArg Refusal.mk (field (by decide))) (field (by decide)))
      (field (by decide))) (field (by decide))
  rw [ofXml?, Option.map_eq_some_iff]
  constructor
  · rintro ⟨es, read, rfl⟩
    obtain ⟨root, ms, rooted, rfl, once⟩ := Xml.record?_eq_some_iff.1 read
    exact ⟨root, ms, rooted, ⟨once, fun m hm => (rooted.known_iff m hm).1⟩, fields rooted⟩
  · rintro ⟨root, ms, rooted, regular, rfl⟩
    exact ⟨_, Xml.record?_eq_some_iff.2 ⟨root, ms, rooted, rfl, regular.once⟩, fields rooted⟩

end ObjectStorage.Refusal
