import ObjectStorage.Proofs.Json.Taken

/-!
# Values of any kind

The grammar of JSON, apart from what the values stand for: `ValueForm` with every number, every
string and any depth. What the reader takes to its end has this form. A value that has only words
in it is also spelled as it was read.
-/
namespace ObjectStorage.Json

mutual

/-- A value with any blanks before it, and what follows it. -/
inductive ValueForm : Bytes → Bytes → Prop
  | null {s rest : Bytes} (h : skipBlanks s = 0x6E :: 0x75 :: 0x6C :: 0x6C :: rest) :
      ValueForm s rest
  | yes {s rest : Bytes} (h : skipBlanks s = 0x74 :: 0x72 :: 0x75 :: 0x65 :: rest) :
      ValueForm s rest
  | no {s rest : Bytes} (h : skipBlanks s = 0x66 :: 0x61 :: 0x6C :: 0x73 :: 0x65 :: rest) :
      ValueForm s rest
  | positive {s rest : Bytes} (content : NumberForm (skipBlanks s) rest) : ValueForm s rest
  | negative {s r rest : Bytes} (h : skipBlanks s = 0x2D :: r) (content : NumberForm r rest) :
      ValueForm s rest
  | text {s r rest : Bytes} (h : skipBlanks s = 0x22 :: r) (content : TextForm r rest) :
      ValueForm s rest
  | list {s r rest : Bytes} (h : skipBlanks s = 0x5B :: r) (items : ItemsForm true r rest) :
      ValueForm s rest
  | object {s r rest : Bytes} (h : skipBlanks s = 0x7B :: r) (members : MembersForm true r rest) :
      ValueForm s rest

/-- The items of a list up to its bracket, from the opening one if the flag is set. -/
inductive ItemsForm : Bool → Bytes → Bytes → Prop
  | close {first : Bool} {s rest : Bytes} (h : skipBlanks s = 0x5D :: rest) :
      ItemsForm first s rest
  | first {s r rest : Bytes} (item : ValueForm s r) (tail : ItemsForm false r rest) :
      ItemsForm true s rest
  | next {s r q rest : Bytes} (h : skipBlanks s = 0x2C :: r) (item : ValueForm r q)
      (tail : ItemsForm false q rest) : ItemsForm false s rest

/-- The members of an object up to its brace, from the opening one if the flag is set. -/
inductive MembersForm : Bool → Bytes → Bytes → Prop
  | close {first : Bool} {s rest : Bytes} (h : skipBlanks s = 0x7D :: rest) :
      MembersForm first s rest
  | first {s r q p o rest : Bytes} (h : skipBlanks s = 0x22 :: r) (key : TextForm r q)
      (colon : skipBlanks q = 0x3A :: p) (value : ValueForm p o)
      (tail : MembersForm false o rest) : MembersForm true s rest
  | next {s s' r q p o rest : Bytes} (comma : skipBlanks s = 0x2C :: s')
      (h : skipBlanks s' = 0x22 :: r) (key : TextForm r q) (colon : skipBlanks q = 0x3A :: p)
      (value : ValueForm p o) (tail : MembersForm false o rest) : MembersForm false s rest

end

theorem LeafTaken.form {s rest : Bytes} {t : Tree} (h : LeafTaken (skipBlanks s) t rest) :
    ValueForm s rest ∧ t.skip = .ok () := by
  generalize hs : skipBlanks s = u at h
  cases h with
  | null => exact ⟨.null hs, rfl⟩
  | yes => exact ⟨.yes hs, rfl⟩
  | no => exact ⟨.no hs, rfl⟩
  | positive content => exact ⟨.positive (by rw [hs]; exact numberForm_of_read content), rfl⟩
  | negative content => exact ⟨.negative hs (numberForm_of_read content), rfl⟩
  | text content => exact ⟨.text hs (textForm_of_leaf content), rfl⟩

mutual

theorem Taken.form {s rest : Bytes} {t : Tree} :
    Taken s t rest → ValueForm s rest ∧ t.skip = .ok ()
  | .leaf content => content.form
  | .list h items => by
    obtain ⟨form, skip⟩ := items.form
    rw [Tree.skip, skip]
    exact ⟨.list h form, rfl⟩
  | .object h members => by
    obtain ⟨form, skip⟩ := members.form
    rw [Tree.skip, skip]
    exact ⟨.object h form, rfl⟩

theorem TakenItems.form {first : Bool} {s rest : Bytes} {ts : List Tree} :
    TakenItems first s ts rest → ItemsForm first s rest ∧ skipItems ts = .ok ()
  | .close h => ⟨.close h, rfl⟩
  | .first item tail => by
    rw [skipItems, item.form.2]
    exact ⟨.first item.form.1 tail.form.1, tail.form.2⟩
  | .next h item tail => by
    rw [skipItems, item.form.2]
    exact ⟨.next h item.form.1 tail.form.1, tail.form.2⟩

theorem TakenMembers.form {first : Bool} {s rest : Bytes}
    {ms : List (Except Error String × Tree)} :
    TakenMembers first s ms rest → MembersForm first s rest ∧ skipMembers ms = .ok ()
  | .close h => ⟨.close h, rfl⟩
  | .first h key colon value tail => by
    rw [skipMembers, value.form.2]
    exact ⟨.first h (textForm_of_leaf key) colon value.form.1 tail.form.1, tail.form.2⟩
  | .next comma h key colon value tail => by
    rw [skipMembers, value.form.2]
    exact ⟨.next comma h (textForm_of_leaf key) colon value.form.1 tail.form.1, tail.form.2⟩

end

/-- A comma or a closing bracket ends a number, and so does a blank. -/
theorem endsNumber_of_skipBlanks {s r : Bytes} {b : UInt8} (h : skipBlanks s = b :: r)
    (hb : b = 0x2C ∨ b = 0x5D ∨ b = 0x7D) : EndsNumber s := by
  cases s with
  | nil => cases h
  | cons c s =>
    intro d hd
    cases hd
    by_cases blank : Blank.isJsonBlank c = true
    · simp only [Blank.isJsonBlank, Bool.or_eq_true, beq_iff_eq] at blank
      obtain ((rfl | rfl) | rfl) | rfl := blank <;> decide
    · rw [skipBlanks, List.dropWhile_cons_of_neg blank] at h
      obtain ⟨rfl, -⟩ := List.cons.inj h
      obtain rfl | rfl | rfl := hb <;> decide

theorem ItemsForm.endsNumber {s rest : Bytes} (h : ItemsForm false s rest) : EndsNumber s := by
  cases h with
  | close h => exact endsNumber_of_skipBlanks h (.inr (.inl rfl))
  | next h => exact endsNumber_of_skipBlanks h (.inl rfl)

theorem MembersForm.endsNumber {s rest : Bytes} (h : MembersForm false s rest) : EndsNumber s := by
  cases h with
  | close h => exact endsNumber_of_skipBlanks h (.inr (.inr rfl))
  | next h => exact endsNumber_of_skipBlanks h (.inl rfl)

mutual

theorem ValueForm.taken {s rest : Bytes} :
    ValueForm s rest → EndsNumber rest → ∃ t, Taken s t rest
  | .null h, _ => ⟨.null, .leaf (h ▸ .null)⟩
  | .yes h, _ => ⟨.boolean true, .leaf (h ▸ .yes)⟩
  | .no h, _ => ⟨.boolean false, .leaf (h ▸ .no)⟩
  | .positive content, last => by
    obtain ⟨value, hv⟩ := readNumber_of_form false content last
    exact ⟨_, .leaf (.positive hv)⟩
  | .negative h content, last => by
    obtain ⟨value, hv⟩ := readNumber_of_form true content last
    exact ⟨.number value, .leaf (h ▸ .negative hv)⟩
  | .text h content, _ => by
    obtain ⟨value, hv⟩ := readTextLeaf_of_form content
    exact ⟨.text value, .leaf (h ▸ .text hv)⟩
  | .list h items, _ => by
    obtain ⟨ts, ht⟩ := items.taken
    exact ⟨_, .list h ht⟩
  | .object h members, _ => by
    obtain ⟨ms, hm⟩ := members.taken
    exact ⟨_, .object h hm⟩

theorem ItemsForm.taken {first : Bool} {s rest : Bytes} :
    ItemsForm first s rest → ∃ ts, TakenItems first s ts rest
  | .close h => ⟨[], .close h⟩
  | .first item tail => by
    obtain ⟨t, ht⟩ := item.taken tail.endsNumber
    obtain ⟨ts, hts⟩ := tail.taken
    exact ⟨t :: ts, .first ht hts⟩
  | .next h item tail => by
    obtain ⟨t, ht⟩ := item.taken tail.endsNumber
    obtain ⟨ts, hts⟩ := tail.taken
    exact ⟨t :: ts, .next h ht hts⟩

theorem MembersForm.taken {first : Bool} {s rest : Bytes} :
    MembersForm first s rest → ∃ ms, TakenMembers first s ms rest
  | .close h => ⟨[], .close h⟩
  | .first h key colon value tail => by
    obtain ⟨k, hk⟩ := readTextLeaf_of_form key
    obtain ⟨t, ht⟩ := value.taken tail.endsNumber
    obtain ⟨ms, hms⟩ := tail.taken
    exact ⟨(k, t) :: ms, .first h hk colon ht hms⟩
  | .next comma h key colon value tail => by
    obtain ⟨k, hk⟩ := readTextLeaf_of_form key
    obtain ⟨t, ht⟩ := value.taken tail.endsNumber
    obtain ⟨ms, hms⟩ := tail.taken
    exact ⟨(k, t) :: ms, .next comma h hk colon ht hms⟩

end

mutual

/-- No number is in the value, and every string in it is well formed. -/
def Tree.IsWords : Tree → Prop
  | .null | .boolean _ => True
  | .text value => ∃ v, value = .ok v
  | .list items _ => ItemsAreWords items
  | .object members _ => MembersAreWords members
  | .number _ | .broken _ _ => False

def ItemsAreWords : List Tree → Prop
  | [] => True
  | t :: r => t.IsWords ∧ ItemsAreWords r

def MembersAreWords : List (Except Error String × Tree) → Prop
  | [] => True
  | (k, t) :: r => (∃ v, k = .ok v) ∧ t.IsWords ∧ MembersAreWords r

end

theorem itemsAreWords_iff {ts : List Tree} : ItemsAreWords ts ↔ ∀ t ∈ ts, t.IsWords := by
  induction ts with
  | nil => simp [ItemsAreWords]
  | cons t r ih => rw [ItemsAreWords, List.forall_mem_cons, ih]

theorem textSpelling_of_leaf {s rest : Bytes} {v : String}
    (h : readTextLeaf s = .ok (.ok v, rest)) : TextSpelling s v.toList rest := by
  rw [← readTextLeaf_iff, String.ofList_toList]
  exact h

mutual

/-- A value of words is spelled as it was read. -/
theorem Taken.spelling {s rest : Bytes} {t : Tree} : Taken s t rest → t.IsWords → Spelling s t rest
  | .leaf content, words => by
    generalize hs : skipBlanks s = u at content
    cases content with
    | null => exact .null hs
    | yes => exact .yes hs
    | no => exact .no hs
    | positive _ | negative _ => exact words.elim
    | text content =>
      obtain ⟨v, rfl⟩ := words
      have spelled := Spelling.text hs (textSpelling_of_leaf content)
      rwa [String.ofList_toList] at spelled
  | .list h items, words => .list h (items.spelling words)
  | .object h members, words => .object h (members.spelling words)

theorem TakenItems.spelling {first : Bool} {s rest : Bytes} {ts : List Tree} :
    TakenItems first s ts rest → ItemsAreWords ts → ItemsSpelling first s ts rest
  | .close h, _ => .close h
  | .first item tail, ⟨word, words⟩ => .first (item.spelling word) (tail.spelling words)
  | .next h item tail, ⟨word, words⟩ => .next h (item.spelling word) (tail.spelling words)

theorem TakenMembers.spelling {first : Bool} {s rest : Bytes}
    {ms : List (Except Error String × Tree)} :
    TakenMembers first s ms rest → MembersAreWords ms → MembersSpelling first s ms rest
  | .close h, _ => .close h
  | .first h key colon value tail, ⟨⟨v, hv⟩, word, words⟩ => by
    subst hv
    rw [← String.ofList_toList (s := v)]
    exact .first h (textSpelling_of_leaf key) colon (value.spelling word) (tail.spelling words)
  | .next comma h key colon value tail, ⟨⟨v, hv⟩, word, words⟩ => by
    subst hv
    rw [← String.ofList_toList (s := v)]
    exact .next comma h (textSpelling_of_leaf key) colon (value.spelling word)
      (tail.spelling words)

end

theorem spelling_iff {s rest : Bytes} {t : Tree} (words : t.IsWords) :
    Spelling s t rest ↔ readTree s = (t, some rest) :=
  ⟨readTree_of_spelling, fun h => (readTree_iff.1 h).spelling words⟩

/-- A reader that takes values of words only reads the whole texts that spell such a value. -/
theorem decode_eq_ok_iff_spelling {α : Type} {read : Tree → Except Error α}
    {Meaning : Tree → α → Prop} (reads : ∀ t a, read t = .ok a ↔ Meaning t a)
    (words : ∀ t a, Meaning t a → t.IsWords) (whole : ∀ t a, Meaning t a → t.isOpen = false)
    {s : Bytes} {a : α} : decode read s = .ok a ↔
      ∃ t rest, Spelling s t rest ∧ skipBlanks rest = [] ∧ Meaning t a := by
  rw [decode_eq_ok_iff fun t b h => whole t b ((reads t b).1 h)]
  refine exists_congr fun t => exists_congr fun rest => ?_
  rw [reads]
  constructor
  · rintro ⟨taken, last, meaning⟩
    exact ⟨taken.spelling (words t a meaning), last, meaning⟩
  · rintro ⟨spelled, last, meaning⟩
    exact ⟨spelled.taken, last, meaning⟩

end ObjectStorage.Json
