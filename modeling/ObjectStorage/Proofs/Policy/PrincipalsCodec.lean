import ObjectStorage.Proofs.Json.Grammar
import ObjectStorage.Proofs.Policy.Lookup
import ObjectStorage.Proofs.Policy.RoundTrip
import ObjectStorage.Proofs.Policy.Spelling

/-!
# What principals are read from

`Principals.Meaning` says which values stand for principals and for which; a provider that is given
twice counts as it is given last. The reader of a value accepts these and no others, and
`decode_exact` says it for whole texts: what is accepted, how all else is refused, and that everyone
is never written like a list of identities.
-/
namespace ObjectStorage

open Json

namespace Compact

theorem ofTree_eq_ok_iff {t : Tree} {c : Compact} : ofTree t = .ok c ↔ Spelling t c := by
  constructor
  · intro h
    cases t with
    | null =>
      cases h
      exact .null
    | text value =>
      obtain ⟨v, rfl, rfl⟩ := map_eq_ok h
      exact .short v
    | list ts ending =>
      obtain ⟨vs, read, rfl⟩ := map_eq_ok h
      obtain ⟨rfl, texts⟩ := readAll_eq_ok_iff.1 read
      have items : ts = vs.map fun v => .text (.ok v) := by
        rw [← List.forall₂_eq_eq_eq, List.forall₂_map_right_iff]
        exact texts.imp fun t v => toText_eq_ok_iff.1
      rw [items]
      exact .long vs
    | boolean _ | number _ | object _ _ | broken _ _ => cases h
  · exact Spelling.ofTree

theorem Spelling.isWords {t : Tree} {c : Compact} (h : Spelling t c) : t.IsWords := by
  cases h with
  | null => trivial
  | short v => exact ⟨v, rfl⟩
  | long vs =>
    refine itemsAreWords_iff.2 fun t ht => ?_
    obtain ⟨v, -, rfl⟩ := List.mem_map.1 ht
    exact ⟨v, rfl⟩

end Compact

namespace Principals

inductive Meaning : Tree → Principals → Prop
  | null : Meaning .null unstated
  | short : Meaning (.text (.ok star)) everyone
  | long : Meaning (.list [.text (.ok star)] .closed) everyone
  | listed {ms : List (String × Tree)} {es : List (String × Compact)} {d : Dictionary Compact}
      (values : List.Forall₂ (fun m e => m.1 = e.1 ∧ Compact.Spelling m.2 e.2) ms es)
      (last : ∀ k, d.get? k = Dictionary.last? es k) : Meaning (.ofMembers ms) (listed d)

variable {t : Tree} {p : Principals}

theorem ofText_eq_ok_iff {v : String} : ofText v = .ok p ↔ v = star ∧ p = everyone := by
  rw [ofText]
  split
  · next h => simp [h, eq_comm]
  · next h => simp [h]

theorem ofTexts_eq_ok_iff {vs : List String} : ofTexts vs = .ok p ↔ vs = [star] ∧ p = everyone := by
  rw [ofTexts]
  split
  · next h => simp [h, eq_comm]
  · next h => simp [h]

theorem exists_members {ms : List (Except Json.Error String × Tree)}
    {es : List (String × Compact)} (h : List.Forall₂
      (fun m e => m.1 = .ok e.1 ∧ Compact.ofTree m.2 = .ok e.2) ms es) :
    ∃ ns : List (String × Tree), ms = ns.map (fun n => (.ok n.1, n.2)) ∧
      List.Forall₂ (fun n e => n.1 = e.1 ∧ Compact.Spelling n.2 e.2) ns es := by
  induction h with
  | nil => exact ⟨[], rfl, .nil⟩
  | @cons m e ms es hm _ ih =>
    obtain ⟨ns, rfl, values⟩ := ih
    refine ⟨(e.1, m.2) :: ns, ?_, .cons ⟨rfl, Compact.ofTree_eq_ok_iff.1 hm.2⟩ values⟩
    rw [List.map_cons, ← hm.1]

theorem ofTree_eq_ok_iff : ofTree t = .ok p ↔ Meaning t p := by
  constructor
  · intro h
    cases t with
    | null =>
      cases h
      exact .null
    | text value =>
      obtain ⟨v, rfl, h⟩ := bind_eq_ok h
      obtain ⟨rfl, rfl⟩ := ofText_eq_ok_iff.1 h
      exact .short
    | list ts ending =>
      obtain ⟨vs, read, h⟩ := bind_eq_ok h
      obtain ⟨rfl, rfl⟩ := ofTexts_eq_ok_iff.1 h
      obtain ⟨rfl, texts⟩ := readAll_eq_ok_iff.1 read
      obtain ⟨t, _, ht, none, rfl⟩ := List.forall₂_cons_right_iff.1 texts
      rw [toText_eq_ok_iff.1 ht, List.forall₂_nil_right_iff.1 none]
      exact .long
    | object ms ending =>
      obtain ⟨es, read, rfl⟩ := map_eq_ok h
      obtain ⟨rfl, entries⟩ := readEntries_eq_ok_iff.1 read
      obtain ⟨ns, rfl, values⟩ := exists_members entries
      exact .listed values (Dictionary.get?_ofList es)
    | boolean _ | number _ | broken _ _ => cases h
  · intro h
    cases h with
    | null | short | long => rfl
    | @listed ms es d values last =>
      have entries : readEntries Compact.ofTree (ms.map fun m => (.ok m.1, m.2)) .closed =
          .ok es := by
        refine readEntries_eq_ok_iff.2 ⟨rfl, ?_⟩
        rw [List.forall₂_map_left_iff]
        exact values.imp fun m e h => ⟨congrArg _ h.1, h.2.ofTree⟩
      rw [Tree.ofMembers, ofTree, entries]
      exact congrArg (fun d => Except.ok (listed d)) (Dictionary.ofList_eq_iff.2 last)

theorem Meaning.isWords (h : Meaning t p) : t.IsWords := by
  cases h with
  | null => trivial
  | short => exact ⟨star, rfl⟩
  | long => exact ⟨⟨star, rfl⟩, trivial⟩
  | @listed ms es d values last =>
    clear last
    induction values with
    | nil => trivial
    | cons value _ ih => exact ⟨⟨_, rfl⟩, value.2.isWords, ih⟩

theorem Meaning.isOpen (h : Meaning t p) : t.isOpen = false := by
  cases h <;> rfl

/-- A text for principals, of which the blanks at the ends do not count: nothing at all, or one
value. -/
def IsText (data : Bytes) (p : Principals) : Prop :=
  (Blank.trimBy Blank.isJsonBlank data = [] ∧ p = unstated) ∨
    ∃ t rest, Json.Spelling (Blank.trimBy Blank.isJsonBlank data) t rest ∧
      skipBlanks rest = [] ∧ Meaning t p

theorem json_decode_eq_ok_iff {s : Bytes} : Json.decode ofTree s = .ok p ↔
    ∃ t rest, Json.Spelling s t rest ∧ skipBlanks rest = [] ∧ Meaning t p :=
  decode_eq_ok_iff_spelling (fun _ _ => ofTree_eq_ok_iff) (fun _ _ h => h.isWords)
    fun _ _ h => h.isOpen

theorem decode_of_trim {data : Bytes} (h : Blank.trimBy Blank.isJsonBlank data ≠ []) :
    decode data = (Json.decode ofTree (Blank.trimBy Blank.isJsonBlank data)).mapError
      fun e => .document (.policy (.json e)) := by
  rw [decode]
  split
  · next none => exact absurd none h
  · rfl

theorem decode_eq_ok_iff {data : Bytes} : decode data = .ok p ↔ IsText data p := by
  by_cases h : Blank.trimBy Blank.isJsonBlank data = []
  · have nothing (t : Tree) (rest : Bytes) : ¬ Json.Spelling [] t rest := fun spelled =>
      absurd spelled.taken.length_lt (Nat.not_lt_zero _)
    have read : decode data = .ok unstated := by
      rw [decode, h]
    rw [read, IsText, h]
    constructor
    · intro same
      exact .inl ⟨rfl, (Except.ok.inj same).symm⟩
    · rintro (⟨-, rfl⟩ | ⟨t, rest, spelled, -⟩)
      · rfl
      · exact absurd spelled (nothing t rest)
  · rw [decode_of_trim h, IsText, ← json_decode_eq_ok_iff]
    constructor
    · exact fun read => .inr (mapError_eq_ok read)
    · rintro (⟨none, -⟩ | read)
      · exact absurd none h
      · rw [read]
        rfl

theorem decode_cases (data : Bytes) :
    (∃ p, decode data = .ok p) ∨
      ∃ cause, decode data = .error (.document (.policy (.json cause))) := by
  rw [decode]
  split
  · exact .inl ⟨unstated, rfl⟩
  · cases Json.decode ofTree _ with
    | ok p => exact .inl ⟨p, rfl⟩
    | error cause => exact .inr ⟨cause, rfl⟩

theorem decode_encode (p : Principals) : decode p.encode = .ok p.norm := by
  by_cases absent : p.isAbsent = true
  · rw [encode, if_pos absent, norm_of_isAbsent absent]
    rfl
  · have read : Json.decode ofTree (Utf8.encode p.toJson.printChars) = .ok p.norm := by
      rw [Json.decode_print, ofTree_toJson (Bool.eq_false_iff.2 absent)]
    rw [encode, if_neg absent, decode_of_trim, trim_print, read]
    · rfl
    · rw [trim_print]
      exact encode_print_ne_nil p.toJson

theorem encode_ne_everyone (d : Dictionary Compact) : (listed d).encode ≠ everyone.encode := by
  intro same
  have read := decode_encode (listed d)
  rw [same, decode_encode, norm, norm] at read
  split at read <;> cases read

/-- A text is read exactly if it is one for principals, and as these; every other text is refused
for its syntax. What is written for principals reads back without the providers that have no
identities, and no list of identities is written as everyone is. -/
theorem decode_exact (data : Bytes) (p : Principals) :
    (decode data = .ok p ↔ IsText data p) ∧
    ((∃ q, IsText data q) ∨ ∃ problem detail, decode data = .error (.document problem) ∧
      problem.message = "InvalidPolicySyntax: " ++ detail) ∧
    decode p.encode = .ok p.norm ∧
    ∀ d, (listed d).encode ≠ everyone.encode := by
  refine ⟨decode_eq_ok_iff, ?_, decode_encode p, encode_ne_everyone⟩
  obtain ⟨q, read⟩ | ⟨cause, refused⟩ := decode_cases data
  · exact .inl ⟨q, decode_eq_ok_iff.1 read⟩
  · exact .inr ⟨.policy (.json cause), cause.message, refused, rfl⟩

end Principals

end ObjectStorage
