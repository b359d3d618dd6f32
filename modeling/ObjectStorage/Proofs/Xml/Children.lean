import ObjectStorage.Xml.Record

/-!
# Records in XML

Which texts are read as a record, as a grammar of their tokens: what may stand before the root, the
children of the root one after the other, and in a child that is skipped balanced tags and readable
data in front of them. `Children` gives each child with its name, and with its text if the name is
known. `rootEntries_iff` says that the reader takes these and nothing else, and finds the children
that are known.
-/
namespace ObjectStorage.Xml

def Token.isPlain : Token → Bool
  | .text _ | .literal _ | .doctype => true
  | .opening _ | .closing _ | .broken => false

inductive Content : List Token → Prop
  | nil : Content []
  | plain {t : Token} {ts : List Token} (h : t.isPlain = true) (tail : Content ts) :
      Content (t :: ts)
  | element {tag : List Char} {inner ts : List Token} (h : Content inner) (tail : Content ts) :
      Content (.opening tag :: (inner ++ .closing (Token.nameOf tag) :: ts))

def Part.token : Part → Token
  | .text raw => .text raw
  | .literal content => .literal content
  | .doctype => .doctype

def childName (tag : List Char) : String := String.ofList (localName (Token.nameOf tag))

/-- The children of the root up to its end tag; what follows does not count. -/
inductive Children (known : List String) (root : List Char) :
    List Token → List (String × Option String) → Prop
  | close {rest : List Token} : Children known root (.closing root :: rest) []
  | text {raw value : List Char} {ts : List Token} {ms : List (String × Option String)}
      (h : unescape? raw = some value) (tail : Children known root ts ms) :
      Children known root (.text raw :: ts) ms
  | literal {content : List Char} {ts : List Token} {ms : List (String × Option String)}
      (tail : Children known root ts ms) : Children known root (.literal content :: ts) ms
  | doctype {ts : List Token} {ms : List (String × Option String)}
      (tail : Children known root ts ms) : Children known root (.doctype :: ts) ms
  | field {tag value : List Char} {parts : List Part} {ts : List Token}
      {ms : List (String × Option String)} (h : childName tag ∈ known)
      (content : Part.join? parts = some value) (tail : Children known root ts ms) :
      Children known root
        (.opening tag :: (parts.map Part.token ++ .closing (Token.nameOf tag) :: ts))
        ((childName tag, some (String.ofList value)) :: ms)
  | skipped {tag : List Char} {inner ts : List Token} {ms : List (String × Option String)}
      (h : childName tag ∉ known) (content : Content inner)
      (data : firstDataOk false inner = true) (tail : Children known root ts ms) :
      Children known root (.opening tag :: (inner ++ .closing (Token.nameOf tag) :: ts))
        ((childName tag, none) :: ms)

/-- A record whose root has this name, with the children of the root. -/
inductive Rooted (known : List String) (root : List Char) :
    List Token → List (String × Option String) → Prop
  | doctype {ts : List Token} {ms : List (String × Option String)}
      (tail : Rooted known root ts ms) : Rooted known root (.doctype :: ts) ms
  | blank {raw : List Char} {ts : List Token} {ms : List (String × Option String)}
      (h : raw.all isBlank = true) (tail : Rooted known root ts ms) :
      Rooted known root (.text raw :: ts) ms
  | root {tag : List Char} {ts : List Token} {ms : List (String × Option String)}
      (name : Token.nameOf tag = root) (attributes : hasAttributes tag = true)
      (children : Children known root ts ms) : Rooted known root (.opening tag :: ts) ms

def entriesOf (ms : List (String × Option String)) : List Entry :=
  ms.filterMap fun m => m.2.map fun v => (m.1, v.toList)

variable {known : List String} {root : List Char} {ts : List Token} {es : List Entry}
  {ms : List (String × Option String)}

/-- Where the reader is after the end of a child in these elements. -/
def Place.after (names : List (List Char)) : Place :=
  if names.isEmpty then .root else .skipped names

theorem Content.entries {inner : List Token} (h : Content inner) {names : List (List Char)}
    (within : names ≠ []) (ts : List Token) :
    Xml.entries known root (.skipped names) (inner ++ ts) =
      Xml.entries known root (.skipped names) ts := by
  induction h generalizing names ts with
  | nil => rfl
  | @plain t r h tail ih =>
    rw [← ih within ts]
    cases t with
    | text _ | literal _ | doctype => rw [List.cons_append, Xml.entries]
    | opening _ | closing _ | broken => cases h
  | @element tag inner r h tail ih ih' =>
    have last : names.isEmpty = false := by simpa using within
    rw [List.cons_append, List.append_assoc, Xml.entries, ih (List.cons_ne_nil _ _),
      List.cons_append, Xml.entries, if_pos rfl, last]
    exact ih' within ts

theorem exists_content {name : List Char} {names : List (List Char)} (ts : List Token)
    (h : entries known root (.skipped (name :: names)) ts = some es) :
    ∃ inner rest, ts = inner ++ .closing name :: rest ∧ Content inner ∧
      entries known root (.after names) rest = some es := by
  match ts with
  | [] => cases h
  | .broken :: _ => cases h
  | .text _ :: ts | .literal _ :: ts | .doctype :: ts =>
    rw [entries] at h
    obtain ⟨inner, rest, rfl, content, tail⟩ := exists_content ts h
    exact ⟨_ :: inner, rest, rfl, .plain rfl content, tail⟩
  | .closing other :: ts =>
    rw [entries] at h
    split at h
    · next same =>
      subst same
      exact ⟨[], ts, rfl, .nil, h⟩
    · cases h
  | .opening tag :: ts =>
    -- An inner element is read to its own end first; the outer one ends in what is left, which is
    -- no tail of the pattern, so the recursion is on the number of tokens.
    rw [entries] at h
    obtain ⟨inner, rest, hts, content, tail⟩ := exists_content ts h
    have shorter : rest.length < ts.length := by
      simp only [hts, List.length_append, List.length_cons]
      omega
    obtain ⟨inner', rest', rfl, content', tail'⟩ := exists_content rest tail
    refine ⟨.opening tag :: (inner ++ .closing (Token.nameOf tag) :: inner'), rest', ?_,
      .element content content', tail'⟩
    rw [hts, List.cons_append, List.append_assoc, List.cons_append]
termination_by ts.length

/-- What comes after the end of an element does not count for its first data. -/
theorem firstDataOk_append (started : Bool) (inner : List Token) (name : List Char)
    (ts : List Token) :
    firstDataOk started (inner ++ .closing name :: ts) = firstDataOk started inner := by
  induction inner generalizing started with
  | nil => rfl
  | cons t inner ih =>
    cases t with
    | text _ | literal _ | doctype => simp only [List.cons_append, firstDataOk, ih]
    | opening _ | closing _ | broken => rfl

theorem entries_part (name : List Char) (parts : List Part) (p : Part) (ts : List Token) :
    entries known root (.field name parts) (p.token :: ts) =
      entries known root (.field name (parts ++ [p])) ts := by
  cases p <;> rw [Part.token, entries]

theorem entries_parts (name : List Char) (parts more : List Part) (ts : List Token) :
    entries known root (.field name parts) (more.map Part.token ++ ts) =
      entries known root (.field name (parts ++ more)) ts := by
  induction more generalizing parts with
  | nil => rw [List.map_nil, List.nil_append, List.append_nil]
  | cons p more ih =>
    rw [List.map_cons, List.cons_append, entries_part, ih, List.append_assoc,
      List.singleton_append]

theorem exists_parts {name : List Char} {parts : List Part} {ts : List Token}
    (h : entries known root (.field name parts) ts = some es) :
    ∃ more value rest es', ts = more.map Part.token ++ .closing name :: rest ∧
      Part.join? (parts ++ more) = some value ∧ entries known root .root rest = some es' ∧
      es = (String.ofList (localName name), value) :: es' := by
  induction ts generalizing parts with
  | nil => cases h
  | cons t ts ih =>
    have more (p : Part) (h : entries known root (.field name parts) (p.token :: ts) = some es) :
        ∃ more value rest es', p.token :: ts = more.map Part.token ++ .closing name :: rest ∧
          Part.join? (parts ++ more) = some value ∧ entries known root .root rest = some es' ∧
          es = (String.ofList (localName name), value) :: es' := by
      rw [entries_part] at h
      obtain ⟨more, value, rest, es', rfl, content, tail⟩ := ih h
      exact ⟨p :: more, value, rest, es', rfl, by simpa using content, tail⟩
    cases t with
    | opening _ | broken => cases h
    | text raw => exact more (.text raw) h
    | literal raw => exact more (.literal raw) h
    | doctype => exact more .doctype h
    | closing other =>
      rw [entries] at h
      split at h
      · next same =>
        subst same
        split at h
        · next value content =>
          obtain ⟨es', tail, rfl⟩ := Option.map_eq_some_iff.1 h
          exact ⟨[], value, ts, es', rfl, by simpa using content, tail, rfl⟩
        · cases h
      · cases h

theorem exists_children {es : List Entry} (ts : List Token)
    (h : entries known root .root ts = some es) :
    ∃ ms, Children known root ts ms ∧ entriesOf ms = es := by
  match ts with
  | [] => cases h
  | .broken :: _ => cases h
  | .text raw :: ts =>
    rw [entries] at h
    split at h
    · next value resolved =>
      obtain ⟨ms, children, found⟩ := exists_children ts h
      exact ⟨ms, .text resolved children, found⟩
    · cases h
  | .literal _ :: ts =>
    rw [entries] at h
    obtain ⟨ms, children, found⟩ := exists_children ts h
    exact ⟨ms, .literal children, found⟩
  | .doctype :: ts =>
    rw [entries] at h
    obtain ⟨ms, children, found⟩ := exists_children ts h
    exact ⟨ms, .doctype children, found⟩
  | .closing name :: ts =>
    rw [entries] at h
    split at h
    · next same =>
      cases h
      exact ⟨[], same ▸ .close, rfl⟩
    · cases h
  | .opening tag :: ts =>
    rw [entries] at h
    split at h
    · next found =>
      obtain ⟨parts, value, rest, es', hts, content, tail, rfl⟩ := exists_parts h
      have shorter : rest.length < ts.length := by
        simp only [hts, List.length_append, List.length_cons]
        omega
      obtain ⟨ms, children, rfl⟩ := exists_children rest tail
      refine ⟨_, hts ▸ Children.field (List.contains_iff_mem.1 found) content children, ?_⟩
      rw [entriesOf, List.filterMap_cons]
      simp [entriesOf, childName]
    · next foreign =>
      split at h
      · next data =>
        obtain ⟨inner, rest, hts, content, tail⟩ := exists_content ts h
        have shorter : rest.length < ts.length := by
          simp only [hts, List.length_append, List.length_cons]
          omega
        obtain ⟨ms, children, rfl⟩ := exists_children rest tail
        have unknown : childName tag ∉ known := by simpa [childName] using foreign
        rw [hts, firstDataOk_append] at data
        refine ⟨_, hts ▸ Children.skipped unknown content data children, ?_⟩
        rw [entriesOf, List.filterMap_cons]
        rfl
      · cases h
termination_by ts.length

theorem Children.entries (h : Children known root ts ms) :
    Xml.entries known root .root ts = some (entriesOf ms) := by
  induction h with
  | close =>
    rw [Xml.entries, if_pos rfl]
    rfl
  | text resolved tail ih => rw [Xml.entries, resolved, ih]
  | literal tail ih | doctype tail ih => rw [Xml.entries, ih]
  | @field tag value parts ts ms found content tail ih =>
    have listed : known.contains (String.ofList (localName (Token.nameOf tag))) = true :=
      List.contains_iff_mem.2 found
    rw [Xml.entries, if_pos listed, entries_parts, List.nil_append, Xml.entries,
      if_pos rfl, content, ih]
    simp [entriesOf, childName]
  | @skipped tag inner ts ms foreign content data tail ih =>
    have unknown : ¬ known.contains (String.ofList (localName (Token.nameOf tag))) = true := by
      simpa [childName] using foreign
    have read : firstDataOk false (inner ++ .closing (Token.nameOf tag) :: ts) = true := by
      rwa [firstDataOk_append]
    rw [Xml.entries, if_neg unknown, if_pos read, content.entries (List.cons_ne_nil _ _),
      Xml.entries, if_pos rfl]
    simpa [entriesOf] using ih

theorem rootEntries_iff : rootEntries known ts = some es ↔
    ∃ root ms, Rooted known root ts ms ∧ entriesOf ms = es := by
  constructor
  · intro h
    induction ts with
    | nil => cases h
    | cons t ts ih =>
      cases t with
      | doctype =>
        obtain ⟨root, ms, rooted, found⟩ := ih h
        exact ⟨root, ms, .doctype rooted, found⟩
      | text raw =>
        rw [rootEntries] at h
        split at h
        · next blank =>
          obtain ⟨root, ms, rooted, found⟩ := ih h
          exact ⟨root, ms, .blank blank rooted, found⟩
        · cases h
      | opening tag =>
        rw [rootEntries] at h
        split at h
        · next attributes =>
          obtain ⟨ms, children, found⟩ := exists_children ts h
          exact ⟨_, ms, .root rfl attributes children, found⟩
        · cases h
      | closing _ | literal _ | broken => cases h
  · rintro ⟨root, ms, rooted, rfl⟩
    induction rooted with
    | doctype tail ih => rw [rootEntries, ih]
    | blank h tail ih => rw [rootEntries, if_pos h, ih]
    | root name attributes children =>
      rw [rootEntries, if_pos attributes, name, children.entries]

theorem Rooted.unique {root' : List Char} {ms' : List (String × Option String)}
    (h : Rooted known root ts ms) (h' : Rooted known root' ts ms') : root = root' := by
  induction h with
  | doctype _ ih =>
    cases h' with
    | doctype tail => exact ih tail
  | blank _ _ ih =>
    cases h' with
    | blank _ tail => exact ih tail
  | root name =>
    cases h' with
    | root name' => exact name.symm.trans name'

theorem Children.known_iff (h : Children known root ts ms) :
    ∀ m ∈ ms, (m.1 ∈ known ↔ m.2 ≠ none) := by
  induction h with
  | close => exact List.forall_mem_nil _
  | text _ _ ih | literal _ ih | doctype _ ih => exact ih
  | field found _ _ ih => exact List.forall_mem_cons.2 ⟨by simp [found], ih⟩
  | skipped foreign _ _ _ ih => exact List.forall_mem_cons.2 ⟨by simp [foreign], ih⟩

theorem Rooted.known_iff (h : Rooted known root ts ms) :
    ∀ m ∈ ms, (m.1 ∈ known ↔ m.2 ≠ none) := by
  induction h with
  | doctype _ ih | blank _ _ ih => exact ih
  | root _ _ children => exact children.known_iff

theorem keys_entriesOf (ms : List (String × Option String)) :
    (entriesOf ms).map (·.1) = (ms.filter (·.2.isSome)).map (·.1) := by
  induction ms with
  | nil => rfl
  | cons m ms ih =>
    obtain ⟨k, _ | v⟩ := m
    · simpa [entriesOf] using ih
    · simpa [entriesOf] using ih

/-- No entry is found twice exactly if each known child comes once. -/
theorem nodup_entriesOf (h : ∀ m ∈ ms, (m.1 ∈ known ↔ m.2 ≠ none)) :
    ((entriesOf ms).map (·.1)).Nodup ↔ ms.Pairwise fun m n => m.1 ∈ known → m.1 ≠ n.1 := by
  rw [keys_entriesOf, List.Nodup, List.pairwise_map, List.pairwise_filter]
  refine List.Pairwise.iff_of_mem fun {m n} hm hn => ?_
  have given (m : String × Option String) (hm : m ∈ ms) : m.2.isSome = true ↔ m.1 ∈ known := by
    rw [Option.isSome_iff_ne_none, h m hm]
  rw [given m hm, given n hn]
  exact ⟨fun apart hk same => apart hk (same ▸ hk) same, fun apart hk _ => apart hk⟩

theorem record?_eq_some_iff {text : List Char} : record? known text = some es ↔
    ∃ root ms, Rooted known root (tokensOf text) ms ∧ entriesOf ms = es ∧
      ms.Pairwise fun m n => m.1 ∈ known → m.1 ≠ n.1 := by
  rw [record?, Option.filter_eq_some_iff, rootEntries_iff]
  constructor
  · rintro ⟨⟨root, ms, rooted, rfl⟩, once⟩
    exact ⟨root, ms, rooted, rfl, (nodup_entriesOf rooted.known_iff).1 (of_decide_eq_true once)⟩
  · rintro ⟨root, ms, rooted, rfl, once⟩
    exact ⟨⟨root, ms, rooted, rfl⟩, decide_eq_true ((nodup_entriesOf rooted.known_iff).2 once)⟩

example : record? ["Code"] "<E><Code> x<!DOCTYPE d> </Code><Note><b/>&n;</Note></E>".toList =
    some [("Code", ['x'])] := by
  decide +kernel

example : record? ["Code"] "<E><Code>x</Code><Note>&n;<b/></Note></E>".toList = none := by
  decide +kernel

end ObjectStorage.Xml
