import ObjectStorage.Proofs.Json.Grammar
import ObjectStorage.Proofs.Json.Members

/-!
# Objects of strings

An object of which some members are strings that are asked for and the others are values of any
kind, whose content does not count. `ObjectText` says it of a whole text, with each string or with
nothing for a value that was not looked into; `ListText` is a list of strings. A record whose fields
are all strings is read from these two and from nothing else: `exists_of_read` finds what was given,
and how a record comes from it is for the record to say.
-/
namespace ObjectStorage.Json

/-- The value of a member: a string, or a value of any kind that is not looked into. -/
inductive ValueGiven : Bytes → Option String → Bytes → Prop
  | text {s r rest : Bytes} {t : List Char} (h : skipBlanks s = 0x22 :: r)
      (content : TextSpelling r t rest) : ValueGiven s (some (String.ofList t)) rest
  | any {s rest : Bytes} (content : ValueForm s rest) : ValueGiven s none rest

/-- The members of an object up to its brace, from the opening one if the flag is set. -/
inductive MembersGiven : Bool → Bytes → List (String × Option String) → Bytes → Prop
  | close {first : Bool} {s rest : Bytes} (h : skipBlanks s = 0x7D :: rest) :
      MembersGiven first s [] rest
  | first {s r q p o rest : Bytes} {k : List Char} {v? : Option String}
      {ms : List (String × Option String)} (h : skipBlanks s = 0x22 :: r)
      (key : TextSpelling r k q) (colon : skipBlanks q = 0x3A :: p) (value : ValueGiven p v? o)
      (tail : MembersGiven false o ms rest) : MembersGiven true s ((String.ofList k, v?) :: ms) rest
  | next {s s' r q p o rest : Bytes} {k : List Char} {v? : Option String}
      {ms : List (String × Option String)} (comma : skipBlanks s = 0x2C :: s')
      (h : skipBlanks s' = 0x22 :: r) (key : TextSpelling r k q) (colon : skipBlanks q = 0x3A :: p)
      (value : ValueGiven p v? o) (tail : MembersGiven false o ms rest) :
      MembersGiven false s ((String.ofList k, v?) :: ms) rest

def ObjectText (s : Bytes) (ms : List (String × Option String)) : Prop :=
  ∃ r rest, skipBlanks s = 0x7B :: r ∧ MembersGiven true r ms rest ∧ skipBlanks rest = []

def textTrees (vs : List String) : List Tree := vs.map fun v => .text (.ok v)

def ListText (s : Bytes) (vs : List String) : Prop :=
  ∃ rest, Spelling s (.list (textTrees vs) .closed) rest ∧ skipBlanks rest = []

def Fits (n : String × Tree) (m : String × Option String) : Prop :=
  n.1 = m.1 ∧ ∀ v ∈ m.2, n.2 = .text (.ok v)

variable {s rest : Bytes} {ms : List (String × Option String)} {ns : List (String × Tree)}

theorem MembersGiven.endsNumber (h : MembersGiven false s ms rest) : EndsNumber s := by
  cases h with
  | close h => exact endsNumber_of_skipBlanks h (.inr (.inr rfl))
  | next h => exact endsNumber_of_skipBlanks h (.inl rfl)

theorem ValueGiven.taken {v? : Option String} (h : ValueGiven s v? rest)
    (last : EndsNumber rest) : ∃ t, Taken s t rest ∧ ∀ v ∈ v?, t = .text (.ok v) := by
  cases h with
  | text h content =>
    have leaf := LeafTaken.text (readTextLeaf_iff.2 content)
    refine ⟨_, .leaf (h ▸ leaf), ?_⟩
    rintro v ⟨⟩
    rfl
  | any content =>
    obtain ⟨t, ht⟩ := content.taken last
    exact ⟨t, ht, fun v hv => by cases hv⟩

theorem MembersGiven.taken {first : Bool} (h : MembersGiven first s ms rest) :
    ∃ ns : List (String × Tree), TakenMembers first s (ns.map fun n => (.ok n.1, n.2)) rest ∧
      List.Forall₂ Fits ns ms := by
  induction h with
  | close h => exact ⟨[], .close h, .nil⟩
  | first h key colon value tail ih =>
    obtain ⟨t, ht, fits⟩ := value.taken tail.endsNumber
    obtain ⟨ns, hns, each⟩ := ih
    exact ⟨(_, t) :: ns, .first h (readTextLeaf_iff.2 key) colon ht hns, .cons ⟨rfl, fits⟩ each⟩
  | next comma h key colon value tail ih =>
    obtain ⟨t, ht, fits⟩ := value.taken tail.endsNumber
    obtain ⟨ns, hns, each⟩ := ih
    exact ⟨(_, t) :: ns, .next comma h (readTextLeaf_iff.2 key) colon ht hns,
      .cons ⟨rfl, fits⟩ each⟩

theorem Taken.given {t : Tree} {v? : Option String} (h : Taken s t rest)
    (fits : ∀ v ∈ v?, t = .text (.ok v)) : ValueGiven s v? rest := by
  cases v? with
  | none => exact .any h.form.1
  | some v =>
    obtain rfl := fits v rfl
    have spelled := h.spelling ⟨v, rfl⟩
    generalize ht : Tree.text (.ok v) = t at spelled
    cases spelled with
    | text hs content =>
      cases ht
      exact .text hs content
    | null | yes | no | integer _ | list _ _ | object _ _ => cases ht

theorem TakenMembers.given {first : Bool} {s rest : Bytes}
    {ts : List (Except Error String × Tree)} {ms : List (String × Option String)} :
    TakenMembers first s ts rest →
      List.Forall₂ (fun t m => t.1 = .ok m.1 ∧ ∀ v ∈ m.2, t.2 = .text (.ok v)) ts ms →
      MembersGiven first s ms rest
  | .close h, .nil => .close h
  | .first h key colon value tail, .cons (b := (k, v?)) ⟨hk, fits⟩ each => by
    subst hk
    rw [← String.ofList_toList (s := k)]
    exact .first h (textSpelling_of_leaf key) colon (value.given fits) (tail.given each)
  | .next comma h key colon value tail, .cons (b := (k, v?)) ⟨hk, fits⟩ each => by
    subst hk
    rw [← String.ofList_toList (s := k)]
    exact .next comma h (textSpelling_of_leaf key) colon (value.given fits) (tail.given each)

theorem objectText_iff : ObjectText s ms ↔
    ∃ ns rest, Taken s (.ofMembers ns) rest ∧ skipBlanks rest = [] ∧ List.Forall₂ Fits ns ms := by
  constructor
  · rintro ⟨r, rest, hs, members, last⟩
    obtain ⟨ns, hns, each⟩ := members.taken
    exact ⟨ns, rest, .object hs hns, last, each⟩
  · rintro ⟨ns, rest, taken, last, each⟩
    rw [Tree.ofMembers] at taken
    cases taken with
    | leaf content =>
      generalize skipBlanks s = u at content
      cases content
    | object hs members =>
      refine ⟨_, rest, hs, members.given ?_, last⟩
      rw [List.forall₂_map_left_iff]
      exact each.imp fun n m fits => ⟨congrArg _ fits.1, fits.2⟩

theorem skip_of_skipMembers {ms : List (Except Error String × Tree)}
    (h : skipMembers ms = .ok ()) : ∀ m ∈ ms, m.2.skip = .ok () := by
  induction ms with
  | nil => exact List.forall_mem_nil _
  | cons m ms ih =>
    rw [skipMembers] at h
    obtain ⟨⟨⟩, value, tail⟩ := bind_eq_ok h
    exact List.forall_mem_cons.2 ⟨value, ih tail⟩

theorem Taken.skip_member (h : Taken s (.ofMembers ns) rest) : ∀ n ∈ ns, n.2.skip = .ok () := by
  have skip := h.form.2
  rw [Tree.ofMembers, Tree.skip] at skip
  obtain ⟨⟨⟩, members, -⟩ := bind_eq_ok skip
  exact fun n hn => skip_of_skipMembers members (.ok n.1, n.2) (List.mem_map.2 ⟨n, hn, rfl⟩)

theorem listText_iff {vs : List String} : ListText s vs ↔
    ∃ rest, Taken s (.list (textTrees vs) .closed) rest ∧ skipBlanks rest = [] := by
  have words : (Tree.list (textTrees vs) .closed).IsWords := by
    refine itemsAreWords_iff.2 fun t ht => ?_
    obtain ⟨v, -, rfl⟩ := List.mem_map.1 ht
    exact ⟨v, rfl⟩
  refine exists_congr fun rest => ?_
  rw [spelling_iff words, readTree_iff]

namespace Shape

variable {α : Type} {shape : Shape α} {r r' : α}

/-- Every field of the record takes a string and nothing else. -/
def IsTextual (shape : Shape α) : Prop :=
  ∀ field ∈ shape.fields, ∀ t set, field.read t = .ok set → ∃ v, t = .text (.ok v)

theorem closed_of_readPositions {ending : Ending} {count : Nat} {fields : List (Field α)}
    {items : List Tree} (h : shape.readPositions ending count fields items r = .ok r') :
    ending = .closed := by
  induction fields generalizing count items r with
  | nil =>
    cases items with
    | nil =>
      obtain ⟨⟨⟩, h, -⟩ := bind_eq_ok h
      cases ending <;> first | rfl | cases h
    | cons t items => cases h
  | cons field fields ih =>
    cases items with
    | nil =>
      rw [readPositions] at h
      cases ending <;> first | rfl | cases h
    | cons t items =>
      obtain ⟨set, -, h⟩ := bind_eq_ok h
      exact ih h

theorem closed_of_readMembers {ending : Ending} {seen : List String}
    {ts : List (Except Error String × Tree)} (h : shape.readMembers ending seen ts r = .ok r') :
    ending = .closed := by
  induction ts generalizing seen r with
  | nil =>
    rw [readMembers] at h
    obtain ⟨⟨⟩, h, -⟩ := bind_eq_ok h
    exact closed_of_afterMembers h
  | cons t ts ih =>
    obtain ⟨key, -, ⟨-, h⟩ | ⟨field, set, -, -, -, h⟩⟩ := readMembers_cons_ok h
    · exact ih h
    · exact ih h

theorem isOpen_of_read {t : Tree} (h : shape.read t = .ok r) : t.isOpen = false := by
  cases t with
  | list items ending =>
    rw [closed_of_readPositions h]
    rfl
  | object members ending =>
    rw [closed_of_readMembers h]
    rfl
  | null | boolean _ | number _ | text _ => rfl
  | broken _ _ => cases h

theorem exists_of_readMembers (textual : shape.IsTextual) {ending : Ending} {seen : List String}
    {ts : List (Except Error String × Tree)} (h : shape.readMembers ending seen ts r = .ok r') :
    ∃ (ns : List (String × Tree)) (ms : List (String × Option String)),
      ts = ns.map (fun n => (.ok n.1, n.2)) ∧ List.Forall₂ Fits ns ms ∧
      ms.Pairwise (fun m n => m.1 ∈ shape.keys → m.1 ≠ n.1) ∧
      ∀ m ∈ ms, m.1 ∈ shape.keys → m.1 ∉ seen ∧ m.2 ≠ none := by
  induction ts generalizing seen r with
  | nil => exact ⟨[], [], rfl, .nil, .nil, fun m hm => by cases hm⟩
  | cons t ts ih =>
    obtain ⟨key, hkey, ⟨unknown, h⟩ | ⟨field, set, found, unseen, read, h⟩⟩ :=
      readMembers_cons_ok h
    · obtain ⟨ns, ms, hts, each, once, known⟩ := ih h
      have foreign : key ∉ shape.keys := by
        intro hk
        obtain ⟨field, hf, hfk⟩ := List.mem_map.1 hk
        exact absurd (List.find?_eq_none.1 unknown field hf) (by simp [hfk])
      refine ⟨(key, t.2) :: ns, (key, none) :: ms, ?_, .cons ⟨rfl, fun v hv => by cases hv⟩ each,
        .cons (fun m _ hk => absurd hk foreign) once, fun m hm hk => ?_⟩
      · rw [List.map_cons, ← hkey, hts]
      · rcases List.mem_cons.1 hm with rfl | hm
        · exact absurd hk foreign
        · exact known m hm hk
    · obtain ⟨ns, ms, hts, each, once, known⟩ := ih h
      obtain ⟨v, hv⟩ := textual field (List.mem_of_find?_eq_some found) t.2 set read
      refine ⟨(key, t.2) :: ns, (key, some v) :: ms, ?_, .cons ⟨rfl, ?_⟩ each,
        .cons (fun m hm hk same => ?_) once, fun m hm hk => ?_⟩
      · rw [List.map_cons, ← hkey, hts]
      · rintro w ⟨⟩
        exact hv
      · exact (known m hm (same ▸ hk)).1 (same ▸ List.mem_cons_self)
      · rcases List.mem_cons.1 hm with rfl | hm
        · exact ⟨unseen, Option.some_ne_none v⟩
        · exact ⟨fun hs => (known m hm hk).1 (List.mem_cons_of_mem _ hs), (known m hm hk).2⟩

theorem exists_of_readPositions {ending : Ending} {count : Nat} {fields : List (Field α)}
    (textual : ∀ field ∈ fields, ∀ t set, field.read t = .ok set → ∃ v, t = .text (.ok v))
    {items : List Tree} (h : shape.readPositions ending count fields items r = .ok r') :
    ∃ vs, items = textTrees vs ∧ vs.length ≤ fields.length := by
  induction fields generalizing count items r with
  | nil =>
    cases items with
    | nil => exact ⟨[], rfl, Nat.le_refl 0⟩
    | cons t items => cases h
  | cons field fields ih =>
    cases items with
    | nil => exact ⟨[], rfl, Nat.zero_le _⟩
    | cons t items =>
      obtain ⟨set, read, tail⟩ := bind_eq_ok h
      obtain ⟨v, rfl⟩ := textual field List.mem_cons_self t set read
      obtain ⟨vs, rfl, short⟩ := ih (fun f hf => textual f (List.mem_cons_of_mem field hf)) tail
      exact ⟨v :: vs, rfl, Nat.succ_le_succ short⟩

end Shape

end ObjectStorage.Json
