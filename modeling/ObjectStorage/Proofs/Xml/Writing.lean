import Mathlib.Data.List.Basic
import Mathlib.Data.List.TakeWhile
import ObjectStorage.Proofs.Xml.Children

/-!
# Written documents

An XML document that gives strings by elements below its root: an optional declaration, blanks
between elements and in tags, and character data in which a character stands for itself or is
written by its predefined entity. Other elements may stand among them, with such data and then any
content. The tokens come piece by piece, and `DocumentText.rooted` says that the reader finds the
elements that were written, when their strings have no blanks at the ends.
-/
namespace ObjectStorage.Xml

def isNameChar (c : Char) : Bool := !isBlank c && !"<>/\"'!?&=:".toList.contains c

/-- A name without a prefix has neither blanks nor markup in it. -/
structure IsName (name : List Char) : Prop where
  nonempty : name ≠ []
  chars : ∀ c ∈ name, isNameChar c = true

instance (name : List Char) : Decidable (IsName name) :=
  decidable_of_iff ((!name.isEmpty && name.all isNameChar) = true) <| by
    rw [Bool.and_eq_true, List.all_eq_true, Bool.not_eq_true', List.isEmpty_eq_false_iff]
    exact ⟨fun h => ⟨h.1, h.2⟩, fun h => ⟨h.1, h.2⟩⟩

def IsBlanks (b : List Char) : Prop := ∀ c ∈ b, isBlank c = true

structure Trimmed (value : List Char) : Prop where
  first : ∀ c ∈ value.head?, isBlank c = false
  last : ∀ c ∈ value.getLast?, isBlank c = false

instance (value : List Char) : Decidable (Trimmed value) :=
  decidable_of_iff ((value.head?.all (!isBlank ·) && value.getLast?.all (!isBlank ·)) = true) <| by
    simp only [Bool.and_eq_true, Option.all_eq_true, Bool.not_eq_true']
    exact ⟨fun h => ⟨h.1, h.2⟩, fun h => ⟨h.1, h.2⟩⟩

/-- Character data and the text that it is written for. -/
inductive Escaped : List Char → List Char → Prop
  | nil : Escaped [] []
  | plain {c : Char} {raw value : List Char} (h : c ≠ '<' ∧ c ≠ '&') (tail : Escaped raw value) :
      Escaped (c :: raw) (c :: value)
  | entity (c : Char) {raw value : List Char} (tail : Escaped raw value) :
      Escaped (escapeChar c ++ raw) (c :: value)

/-- Content between tags of one name, and what follows. The lists `b` and `b'` stand in the tags. -/
def enclosed (name b content b' r : List Char) : List Char :=
  '<' :: (name ++ b ++ '>' :: (content ++ '<' :: '/' :: (name ++ b' ++ '>' :: r)))

/-- Content of any kind: character data and elements. -/
inductive ContentText : List Char → Prop
  | nil : ContentText []
  | char {c : Char} {r : List Char} (h : c ≠ '<') (tail : ContentText r) : ContentText (c :: r)
  | element {name b b' content r : List Char} (h : IsName name) (blanks : IsBlanks b)
      (blanks' : IsBlanks b') (inner : ContentText content) (tail : ContentText r) :
      ContentText (enclosed name b content b' r)
  | empty {name b r : List Char} (h : IsName name) (blanks : IsBlanks b) (tail : ContentText r) :
      ContentText ('<' :: (name ++ b ++ '/' :: '>' :: r))

/-- An element for a key: with the value or, if there is none, with some data and then, from the
first tag on, content of any kind. It may be an empty tag if there is nothing to write. -/
inductive ElementText (key : String) : Option String → List Char → Prop
  | full {value : String} {b b' raw : List Char} (blanks : IsBlanks b) (blanks' : IsBlanks b')
      (content : Escaped raw value.toList) :
      ElementText key (some value) (enclosed key.toList b raw b' [])
  | other {b b' raw value content : List Char} (blanks : IsBlanks b) (blanks' : IsBlanks b')
      (data : Escaped raw value) (inner : ContentText content)
      (tagged : ∀ c ∈ content.head?, c = '<') :
      ElementText key none (enclosed key.toList b (raw ++ content) b' [])
  | empty {v? : Option String} {b : List Char} (blanks : IsBlanks b) (nothing : v?.getD "" = "") :
      ElementText key v? ('<' :: (key.toList ++ b ++ ['/', '>']))

inductive ElementsText : List (String × Option String) → List Char → Prop
  | nil {b : List Char} (blanks : IsBlanks b) : ElementsText [] b
  | cons {key : String} {v? : Option String} {ms : List (String × Option String)}
      {b e r : List Char} (blanks : IsBlanks b) (name : IsName key.toList)
      (element : ElementText key v? e) (tail : ElementsText ms r) :
      ElementsText ((key, v?) :: ms) (b ++ (e ++ r))

inductive PrologText : List Char → Prop
  | none {b : List Char} (blanks : IsBlanks b) : PrologText b
  | declaration {body b : List Char} (h : '>' ∉ body) (blanks : IsBlanks b) :
      PrologText ('<' :: '?' :: 'x' :: 'm' :: 'l' :: (body ++ '?' :: '>' :: b))

/-- A document with these elements below its root. -/
inductive DocumentText (root : String) (ms : List (String × Option String)) : List Char → Prop
  | mk {prolog b b' last content : List Char} (start : PrologText prolog) (blanks : IsBlanks b)
      (blanks' : IsBlanks b') (ends : IsBlanks last) (elements : ElementsText ms content) :
      DocumentText root ms (prolog ++ enclosed root.toList b content b' last)

variable {name b raw value : List Char}

theorem ne_of_kind {kind : Char → Bool} {c d : Char} (hc : kind c = true) (hd : kind d = false) :
    c ≠ d := by
  rintro rfl
  rw [hc] at hd
  cases hd

theorem isBlank_of_isNameChar {c : Char} (hc : isNameChar c = true) : isBlank c = false := by
  rw [isNameChar, Bool.and_eq_true, Bool.not_eq_true'] at hc
  exact hc.1

theorem ne_of_mem_tag (hn : IsName name) (hb : IsBlanks b) {d : Char}
    (foreign : isNameChar d = false) (blank : isBlank d = false) : ∀ c ∈ name ++ b, c ≠ d := by
  intro c hc
  rcases List.mem_append.1 hc with hc | hc
  · exact ne_of_kind (hn.chars c hc) foreign
  · exact ne_of_kind (hb c hc) blank

theorem nameOf_tag (hn : IsName name) (hb : IsBlanks b) : Token.nameOf (name ++ b) = name := by
  have inside : ∀ c ∈ name, (!isBlank c) = true := fun c hc => by
    rw [isBlank_of_isNameChar (hn.chars c hc)]
    rfl
  rw [Token.nameOf, List.takeWhile_append_of_pos inside]
  cases b with
  | nil => exact List.append_nil name
  | cons c b => simp [hb c List.mem_cons_self]

theorem dropBlanks_tag (hn : IsName name) (hb : IsBlanks b) :
    ((name ++ b).reverse.dropWhile isBlank).reverse = name := by
  rw [List.reverse_append, List.dropWhile_append_of_pos fun c hc => hb c (List.mem_reverse.1 hc)]
  cases hr : name.reverse with
  | nil => exact absurd (List.reverse_eq_nil_iff.1 hr) hn.nonempty
  | cons c r =>
    have hc : c ∈ name := by
      rw [← List.mem_reverse, hr]
      exact List.mem_cons_self
    rw [List.dropWhile_cons_of_neg (by simp [isBlank_of_isNameChar (hn.chars c hc)]), ← hr,
      List.reverse_reverse]

theorem childName_tag {key : String} (hn : IsName key.toList) (hb : IsBlanks b) :
    childName (key.toList ++ b) = key := by
  have plain : key.toList.contains ':' = false := by
    simpa using fun hc => ne_of_kind (hn.chars ':' hc) rfl rfl
  rw [childName, nameOf_tag hn hb, localName, plain]
  exact String.ofList_toList

theorem hasAttributes_tag (hn : IsName name) (hb : IsBlanks b) :
    hasAttributes (name ++ b) = true := by
  have none : b.dropWhile isBlank = [] := List.dropWhile_eq_nil_iff.2 hb
  rw [hasAttributes, nameOf_tag hn hb, List.drop_left, attributesOk, none]

theorem tokens_markup {c : Char} {s : List Char} (start : c ≠ '!' ∧ c ≠ '?')
    (plain : ∀ d ∈ c :: s, d ≠ '>' ∧ d ≠ '"' ∧ d ≠ '\'') (r : List Char) :
    tokens .markup (c :: (s ++ '>' :: r)) = Token.ofTag (c :: s) ++ tokens (.text []) r := by
  obtain ⟨⟨h₁, h₂, h₃⟩, rest⟩ := List.forall_mem_cons.1 plain
  rw [tokens, if_neg start.1, if_neg start.2, if_neg h₁, if_neg (not_or.2 ⟨h₂, h₃⟩),
    tokens_tag s [c] r rest]
  rfl

theorem plain_tag (hn : IsName name) (hb : IsBlanks b) :
    ∀ d ∈ name ++ b, d ≠ '>' ∧ d ≠ '"' ∧ d ≠ '\'' := fun d hd =>
  ⟨ne_of_mem_tag hn hb rfl rfl d hd, ne_of_mem_tag hn hb rfl rfl d hd,
    ne_of_mem_tag hn hb rfl rfl d hd⟩

theorem exists_cons_tag (hn : IsName name) (b : List Char) : ∃ c s, name ++ b = c :: s ∧
    isNameChar c = true := by
  obtain ⟨c, n, rfl⟩ := List.exists_cons_of_ne_nil hn.nonempty
  exact ⟨c, n ++ b, rfl, hn.chars c List.mem_cons_self⟩

theorem tokens_opening (hn : IsName name) (hb : IsBlanks b) (r : List Char) :
    tokens .markup (name ++ b ++ '>' :: r) = .opening (name ++ b) :: tokens (.text []) r := by
  obtain ⟨c, s, hs, first⟩ := exists_cons_tag hn b
  have plain := plain_tag hn hb
  have last : (name ++ b).getLast? ≠ some '/' := fun h =>
    ne_of_mem_tag hn hb rfl rfl '/' (List.mem_of_getLast? h) rfl
  rw [hs] at plain last ⊢
  rw [List.cons_append, tokens_markup ⟨ne_of_kind first rfl, ne_of_kind first rfl⟩ plain,
    Token.ofTag.eq_def]
  split
  · next start => exact absurd (List.cons.inj start).1 (ne_of_kind first rfl)
  · rw [if_neg last]
    rfl

theorem tokens_closing (hn : IsName name) (hb : IsBlanks b) (r : List Char) :
    tokens .markup ('/' :: (name ++ b ++ '>' :: r)) = .closing name :: tokens (.text []) r := by
  have plain : ∀ d ∈ '/' :: (name ++ b), d ≠ '>' ∧ d ≠ '"' ∧ d ≠ '\'' :=
    List.forall_mem_cons.2 ⟨by decide, plain_tag hn hb⟩
  rw [tokens_markup (by decide) plain, Token.ofTag, dropBlanks_tag hn hb]
  simp [hn.nonempty]

theorem tokens_empty (hn : IsName name) (hb : IsBlanks b) (r : List Char) :
    tokens .markup (name ++ b ++ '/' :: '>' :: r) =
      .opening (name ++ b) :: .closing name :: tokens (.text []) r := by
  obtain ⟨c, s, hs, first⟩ := exists_cons_tag hn b
  have plain : ∀ d ∈ name ++ b ++ ['/'], d ≠ '>' ∧ d ≠ '"' ∧ d ≠ '\'' := by
    intro d hd
    rcases List.mem_append.1 hd with hd | hd
    · exact plain_tag hn hb d hd
    · rw [List.mem_singleton.1 hd]
      decide
  have closed := nameOf_tag hn hb
  rw [hs] at plain closed ⊢
  rw [List.cons_append] at plain
  have whole : c :: s ++ '/' :: '>' :: r = c :: ((s ++ ['/']) ++ '>' :: r) := by simp
  rw [whole, tokens_markup ⟨ne_of_kind first rfl, ne_of_kind first rfl⟩ plain,
    Token.ofTag.eq_def]
  split
  · next start => exact absurd (List.cons.inj start).1 (ne_of_kind first rfl)
  · rw [← List.cons_append, List.getLast?_concat, if_pos rfl, List.dropLast_concat, closed]
    rfl

theorem escapeChar_cases (c : Char) : (escapeChar c = [c] ∧ c ≠ '<') ∨
    ∃ m, escapeChar c = '&' :: (m ++ [';']) ∧ '<' ∉ m := by
  rw [escapeChar]
  split
  · exact .inr ⟨"lt".toList, rfl, by decide⟩
  · next lt =>
    split
    · exact .inr ⟨"gt".toList, rfl, by decide⟩
    · split
      · exact .inr ⟨"amp".toList, rfl, by decide⟩
      · split
        · exact .inr ⟨"apos".toList, rfl, by decide⟩
        · split
          · exact .inr ⟨"quot".toList, rfl, by decide⟩
          · exact .inl ⟨rfl, lt⟩

theorem Escaped.no_markup (h : Escaped raw value) : ∀ c ∈ raw, c ≠ '<' := by
  induction h with
  | nil => exact List.forall_mem_nil _
  | plain h _ ih => exact List.forall_mem_cons.2 ⟨h.1, ih⟩
  | entity c _ ih =>
    refine List.forall_mem_append.2 ⟨?_, ih⟩
    obtain ⟨h, plain⟩ | ⟨m, h, plain⟩ := escapeChar_cases c
    · rw [h]
      exact List.forall_mem_singleton.2 plain
    · rw [h, List.forall_mem_cons, List.forall_mem_append]
      exact ⟨by decide, fun d hd start => plain (start ▸ hd),
        List.forall_mem_singleton.2 (by decide)⟩

theorem Escaped.unescape (h : Escaped raw value) : unescape? raw = some value := by
  induction h with
  | nil => rfl
  | plain h _ ih =>
    rw [unescape?] at ih
    rw [unescape?, unescapeFrom, if_neg h.2, ih]
    rfl
  | entity c _ ih =>
    rw [unescape?] at ih
    rw [unescape?, unescapeFrom_escapeChar, ih]
    rfl

theorem Escaped.nil_iff (h : Escaped raw value) : raw = [] ↔ value = [] := by
  cases h with
  | nil => simp
  | plain _ _ => simp
  | entity c _ =>
    obtain ⟨h, -⟩ | ⟨m, h, -⟩ := escapeChar_cases c <;> simp [h]

theorem Escaped.last (h : Escaped raw value) {d : Char} (hd : raw.getLast? = some d) :
    value.getLast? = some d ∨ d = ';' := by
  induction h with
  | nil => cases hd
  | @plain c raw value _ tail ih =>
    by_cases ends : raw = []
    · rw [ends] at hd
      rw [tail.nil_iff.1 ends]
      exact .inl hd
    · have more : value ≠ [] := fun none => ends (tail.nil_iff.2 none)
      rw [List.getLast?_cons_of_ne_nil ends] at hd
      rw [List.getLast?_cons_of_ne_nil more]
      exact ih hd
  | @entity c raw value tail ih =>
    by_cases ends : raw = []
    · rw [ends, List.append_nil] at hd
      rw [tail.nil_iff.1 ends]
      obtain ⟨h, -⟩ | ⟨m, h, -⟩ := escapeChar_cases c
      · rw [h] at hd
        exact .inl hd
      · rw [h, ← List.cons_append, List.getLast?_concat] at hd
        exact .inr (Option.some.inj hd).symm
    · have more : value ≠ [] := fun none => ends (tail.nil_iff.2 none)
      rw [List.getLast?_append_of_ne_nil _ ends] at hd
      rw [List.getLast?_cons_of_ne_nil more]
      exact ih hd

theorem Escaped.trimmed (h : Escaped raw value) (trimmed : Trimmed value) : Trimmed raw := by
  refine ⟨fun d hd => ?_, fun d hd => ?_⟩
  · cases h with
    | nil => cases hd
    | plain _ _ => exact trimmed.first d hd
    | entity c _ =>
      obtain ⟨h, -⟩ | ⟨m, h, -⟩ := escapeChar_cases c
      · rw [h] at hd
        exact trimmed.first d hd
      · rw [h] at hd
        cases hd
        rfl
  · obtain hv | rfl := h.last hd
    · exact trimmed.last d hv
    · rfl

theorem escaped_self {s : List Char} (h : ∀ c ∈ s, c ≠ '<' ∧ c ≠ '&') : Escaped s s := by
  induction s with
  | nil => exact .nil
  | cons c s ih =>
    obtain ⟨hc, hs⟩ := List.forall_mem_cons.1 h
    exact .plain hc (ih hs)

theorem IsBlanks.escaped (h : IsBlanks b) : Escaped b b :=
  escaped_self fun c hc => ⟨ne_of_kind (h c hc) rfl, ne_of_kind (h c hc) rfl⟩

theorem escaped_escape (value : List Char) : Escaped (escape value) value := by
  induction value with
  | nil => exact .nil
  | cons c value ih => exact .entity c ih

theorem dropWhile_of_trimmed {s : List Char} (h : ∀ c, s.head? = some c → isBlank c = false) :
    s.dropWhile isBlank = s := by
  cases s with
  | nil => rfl
  | cons c r => simp [h c rfl]

/-- The content of an element, which is no part if it is empty. -/
def partsOf (raw : List Char) : List Part := if raw.isEmpty then [] else [.text raw]

theorem token_partsOf (raw : List Char) :
    (partsOf raw).map Part.token = Token.ofText raw.reverse := by
  rw [partsOf, Token.ofText]
  cases raw <;> simp [Part.token]

theorem join?_partsOf (h : Escaped raw value) (trimmed : Trimmed value) :
    Part.join? (partsOf raw) = some value := by
  have ends := h.trimmed trimmed
  have first := dropWhile_of_trimmed ends.first
  have last : (raw.reverse.dropWhile isBlank).reverse = raw := by
    rw [dropWhile_of_trimmed (by simpa using ends.last), List.reverse_reverse]
  rw [partsOf]
  split
  · next none =>
    rw [h.nil_iff.1 (List.isEmpty_iff.1 none)]
    rfl
  · next some =>
    have inner : Part.dropFirstBlanks [.text raw] = [.text raw] := by
      rw [Part.dropFirstBlanks, first]
      simp [some]
    have runs : ((Part.runs [.text raw]).map Part.dropFirstBlanks).filter (!·.isEmpty) =
        [[.text raw]] := by
      simp [Part.runs, inner]
    rw [Part.join?, runs]
    simp [Part.dropLastBlanks, last, Part.value?, h.unescape]

variable {known : List String} {root : List Char} {ts : List Token}
  {ms : List (String × Option String)}

theorem enclosed_append (name b content b' r s : List Char) :
    enclosed name b content b' r ++ s = enclosed name b content b' (r ++ s) := by
  simp [enclosed]

theorem tokens_enclosed (hn : IsName name) (hb : IsBlanks b) (read content b' r : List Char) :
    tokens (.text read) (enclosed name b content b' r) = Token.ofText read ++
      .opening (name ++ b) ::
        tokens (.text []) (content ++ '<' :: '/' :: (name ++ b' ++ '>' :: r)) := by
  rw [enclosed, tokens, if_pos rfl, tokens_opening hn hb]

theorem Children.blanks (hb : IsBlanks b) (h : Children known root ts ms) :
    Children known root (Token.ofText b.reverse ++ ts) ms := by
  rw [Token.ofText]
  split
  · exact h
  · rw [List.reverse_reverse]
    exact .text hb.escaped.unescape h

theorem Content.ofText (read : List Char) (h : Content ts) : Content (Token.ofText read ++ ts) := by
  rw [Token.ofText]
  split
  · exact h
  · exact .plain rfl h

/-- Content that starts with a tag has no data in front. -/
theorem ContentText.tokens {content : List Char} (h : ContentText content) (read r : List Char) :
    ∃ inner, Content inner ∧
      Xml.tokens (.text read) (content ++ '<' :: r) = inner ++ Xml.tokens .markup r ∧
      ((∀ c ∈ content.head?, c = '<') → ∃ tagged, inner = Token.ofText read ++ tagged ∧
        ∀ started, firstDataOk started tagged = true) := by
  -- Data that was read before the content and the data in front of it are one token.
  induction h generalizing read r with
  | nil =>
    refine ⟨Token.ofText read ++ [], Content.nil.ofText read, ?_, fun _ => ⟨_, rfl, fun _ => rfl⟩⟩
    rw [List.nil_append, Xml.tokens, if_pos rfl, List.append_nil]
  | @char c s h tail ih =>
    rw [List.cons_append, Xml.tokens, if_neg h]
    obtain ⟨inner, balanced, hi, -⟩ := ih (c :: read) r
    exact ⟨inner, balanced, hi, fun tagged => absurd (tagged c rfl) h⟩
  | @element name b b' content s hn blanks blanks' inner tail ih ih' =>
    obtain ⟨within, balanced, hw, -⟩ := ih [] ('/' :: (name ++ b' ++ '>' :: (s ++ '<' :: r)))
    obtain ⟨after, balanced', ha, -⟩ := ih' [] r
    refine ⟨Token.ofText read ++ (.opening (name ++ b) ::
      (within ++ .closing (Token.nameOf (name ++ b)) :: after)),
      (Content.element balanced balanced').ofText read, ?_, fun _ => ⟨_, rfl, fun _ => rfl⟩⟩
    rw [enclosed_append, tokens_enclosed hn blanks, hw, tokens_closing hn blanks', ha,
      nameOf_tag hn blanks]
    simp
  | @empty name b s hn blanks tail ih =>
    obtain ⟨after, balanced, ha, -⟩ := ih [] r
    refine ⟨Token.ofText read ++ (.opening (name ++ b) ::
      ([] ++ .closing (Token.nameOf (name ++ b)) :: after)),
      (Content.element .nil balanced).ofText read, ?_, fun _ => ⟨_, rfl, fun _ => rfl⟩⟩
    have whole : '<' :: (name ++ b ++ '/' :: '>' :: s) ++ '<' :: r =
        '<' :: (name ++ b ++ '/' :: '>' :: (s ++ '<' :: r)) := by
      simp
    rw [whole, Xml.tokens, if_pos rfl, tokens_empty hn blanks, ha, nameOf_tag hn blanks]
    simp

theorem firstDataOk_ofText (data : Escaped raw value)
    (after : ∀ started, firstDataOk started ts = true) :
    firstDataOk false (Token.ofText raw.reverse ++ ts) = true := by
  rw [Token.ofText]
  split
  · exact after false
  · rw [List.reverse_reverse, List.singleton_append, firstDataOk, data.unescape, after]
    rfl

/-- Data and then content from a tag on are balanced, and the data can be read. -/
theorem ContentText.tokens_of_data {content : List Char} (h : ContentText content)
    (tagged : ∀ c ∈ content.head?, c = '<') (data : Escaped raw value) (r : List Char) :
    ∃ inner, Content inner ∧ firstDataOk false inner = true ∧
      Xml.tokens (.text []) (raw ++ content ++ '<' :: r) = inner ++ Xml.tokens .markup r := by
  obtain ⟨inner, balanced, hi, starts⟩ := h.tokens raw.reverse r
  obtain ⟨rest, rfl, after⟩ := starts tagged
  refine ⟨_, balanced, firstDataOk_ofText data after, ?_⟩
  rw [List.append_assoc, tokens_data raw [] _ data.no_markup, List.append_nil, hi]

/-- An element is read as the child that it is written for: as a field if it has a value. -/
theorem ElementText.child {key : String} {v? : Option String} {e : List Char}
    (h : ElementText key v? e) (name : IsName key.toList) (asked : key ∈ known ↔ v? ≠ none)
    (trimmed : ∀ v ∈ v?, Trimmed v.toList) {r : List Char}
    (tail : Children known root (tokens (.text []) r) ms) :
    Children known root (tokens (.text []) (e ++ r)) ((key, v?) :: ms) := by
  cases h with
  | @full value b b' raw blanks blanks' content =>
    have named := childName_tag name blanks
    have child := Children.field (named ▸ asked.2 (Option.some_ne_none value))
      (join?_partsOf content (trimmed value rfl)) tail
    rw [named, String.ofList_toList, nameOf_tag name blanks, token_partsOf] at child
    rw [enclosed_append, tokens_enclosed name blanks, tokens_text raw [] _ content.no_markup,
      tokens_closing name blanks', List.append_nil]
    exact child
  | @other b b' raw value content blanks blanks' data inner tagged =>
    have named := childName_tag name blanks
    obtain ⟨within, balanced, ok, hw⟩ :=
      inner.tokens_of_data tagged data ('/' :: (key.toList ++ b' ++ '>' :: ([] ++ r)))
    have child := Children.skipped (fun found => asked.1 (named ▸ found) rfl) balanced ok tail
    rw [named, nameOf_tag name blanks] at child
    rw [enclosed_append, tokens_enclosed name blanks, hw, tokens_closing name blanks']
    exact child
  | @empty v? b blanks nothing =>
    have named := childName_tag name blanks
    have whole : '<' :: (key.toList ++ b ++ ['/', '>']) ++ r =
        '<' :: (key.toList ++ b ++ '/' :: '>' :: r) := by
      simp
    rw [whole, tokens, if_pos rfl, tokens_empty name blanks]
    cases v? with
    | none =>
      have child := Children.skipped (fun found => asked.1 (named ▸ found) rfl) .nil rfl tail
      rwa [named, nameOf_tag name blanks] at child
    | some value =>
      obtain rfl : value = "" := nothing
      have found : childName (key.toList ++ b) ∈ known := by
        rw [named]
        exact asked.2 (Option.some_ne_none "")
      have joined : Part.join? [] = some [] := rfl
      have child := Children.field found joined tail
      rwa [named, nameOf_tag name blanks] at child

theorem ElementText.exists_cons {key : String} {v? : Option String} {e : List Char}
    (h : ElementText key v? e) : ∃ e', e = '<' :: e' := by
  cases h with
  | full | other | empty => exact ⟨_, rfl⟩

/-- Elements are read as the children that they are written for, up to the end tag of the root. -/
theorem ElementsText.children {content r : List Char} (h : ElementsText ms content)
    (asked : ∀ m ∈ ms, (m.1 ∈ known ↔ m.2 ≠ none) ∧ ∀ v ∈ m.2, Trimmed v.toList)
    (ends : Children known root (tokens .markup r) []) :
    Children known root (tokens (.text []) (content ++ '<' :: r)) ms := by
  induction h with
  | nil blanks =>
    rw [tokens_text _ _ _ fun c hc => ne_of_kind (blanks c hc) rfl, List.append_nil]
    exact ends.blanks blanks
  | @cons key v? ms b e rest blanks name element tail ih =>
    obtain ⟨⟨known, trimmed⟩, asked⟩ := List.forall_mem_cons.1 asked
    have child := element.child name known trimmed (ih asked)
    obtain ⟨e', rfl⟩ := element.exists_cons
    rw [List.cons_append, tokens, if_pos rfl] at child
    rw [List.append_assoc, List.append_assoc, List.cons_append,
      tokens_text b [] _ fun c hc => ne_of_kind (blanks c hc) rfl, List.append_nil]
    exact child.blanks blanks

theorem tokens_declaration {body read : List Char} (h : '>' ∉ body) (started : 1 ≤ read.length)
    (r : List Char) :
    tokens (.instruction read) (body ++ '?' :: '>' :: r) = tokens (.text []) r := by
  induction body generalizing read with
  | nil =>
    have ends : endsWith "?" ('?' :: read) = true := by
      simp [endsWith]
    rw [List.nil_append, tokens, if_neg (by simp), tokens, if_pos ⟨rfl, ends⟩,
      if_neg (by simp only [List.length_cons]; omega)]
  | cons c body ih =>
    rw [List.mem_cons, not_or] at h
    rw [List.cons_append, tokens, if_neg fun both => h.1 both.1.symm]
    exact ih h.2 (Nat.le_succ_of_le started)

theorem Rooted.blanks (hb : IsBlanks b) (h : Rooted known root ts ms) :
    Rooted known root (Token.ofText b.reverse ++ ts) ms := by
  rw [Token.ofText]
  split
  · exact h
  · rw [List.reverse_reverse]
    exact .blank (List.all_eq_true.2 hb) h

theorem PrologText.rooted {prolog r : List Char} (h : PrologText prolog)
    (rooted : Rooted known root (tokens .markup r) ms) :
    Rooted known root (tokens (.text []) (prolog ++ '<' :: r)) ms := by
  have blank {b : List Char} (hb : IsBlanks b) :
      Rooted known root (tokens (.text []) (b ++ '<' :: r)) ms := by
    rw [tokens_text b [] r fun c hc => ne_of_kind (hb c hc) rfl, List.append_nil]
    exact rooted.blanks hb
  cases h with
  | none blanks => exact blank blanks
  | @declaration body b plain blanks =>
    have inside : '>' ∉ 'x' :: 'm' :: 'l' :: body := by simpa using plain
    have skipped := @tokens_declaration _ ['?'] inside (Nat.le_refl 1) (b ++ '<' :: r)
    have read : tokens (.text []) ('<' :: '?' :: 'x' :: 'm' :: 'l' :: (body ++ '?' :: '>' :: b) ++
        '<' :: r) = tokens (.text []) (b ++ '<' :: r) := by
      rw [← skipped]
      simp [tokens, Token.ofText]
    rw [read]
    exact blank blanks

theorem PrologText.head {prolog r : List Char} (h : PrologText prolog) :
    (prolog ++ '<' :: r).head? ≠ some '\ufeff' := by
  cases h with
  | declaration => simp
  | none blanks =>
    cases prolog with
    | nil => simp
    | cons c b =>
      intro mark
      exact ne_of_kind (blanks c List.mem_cons_self) rfl (Option.some.inj mark)

/-- No document has a byte order mark in front. -/
theorem tokensOf_document {name : String} {text : List Char} (h : DocumentText name ms text) :
    tokensOf text = tokens (.text []) text := by
  have head : text.head? ≠ some '\ufeff' := by
    cases h with
    | mk start => exact start.head
  rw [tokensOf.eq_def]
  split
  · exact absurd rfl head
  · rfl

/-- A document that is written is read with the elements that were written. -/
theorem DocumentText.rooted {name : String} {text : List Char} (h : DocumentText name ms text)
    (hn : IsName name.toList)
    (asked : ∀ m ∈ ms, (m.1 ∈ known ↔ m.2 ≠ none) ∧ ∀ v ∈ m.2, Trimmed v.toList) :
    Rooted known name.toList (tokensOf text) ms := by
  rw [tokensOf_document h]
  cases h with
  | mk start blanks blanks' ends elements =>
    apply start.rooted
    rw [tokens_opening hn blanks]
    refine .root (nameOf_tag hn blanks) (hasAttributes_tag hn blanks) ?_
    apply elements.children asked
    rw [tokens_closing hn blanks']
    exact .close

end ObjectStorage.Xml
