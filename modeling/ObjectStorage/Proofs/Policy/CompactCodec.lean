import ObjectStorage.Proofs.Json.Encoded
import ObjectStorage.Proofs.Policy.PrincipalsCodec
import ObjectStorage.Proofs.Text.Trimmed

/-!
# What a list with a short form is read from

A text for a list is nothing at all, null, one string or a list of strings, with any blanks around.
The reader looks at the first byte before it reads the value, and no value that it could read starts
with another byte, so `decode_texts` can say which texts are read: those, and what is written between
any blanks, which is told apart by its first byte.
-/
namespace ObjectStorage.Compact

open Json

variable {data : Bytes} {c : Compact}

theorem Spelling.isOpen {t : Tree} (h : Spelling t c) : t.isOpen = false := by
  cases h <;> rfl

/-- What is left of a text without the blanks at its ends is nothing, or one value for the list. -/
def IsText (data : Bytes) (c : Compact) : Prop :=
  ∃ text, Blank.IsTrimmed Blank.isJsonBlank data text ∧
    (text = [] ∧ c = empty ∨
      ∃ t rest, Json.Spelling text t rest ∧ skipBlanks rest = [] ∧ Spelling t c)

theorem isText_iff : IsText data c ↔
    Blank.trimBy Blank.isJsonBlank data = [] ∧ c = empty ∨
      ∃ t rest, Json.Spelling (Blank.trimBy Blank.isJsonBlank data) t rest ∧
        skipBlanks rest = [] ∧ Spelling t c := by
  constructor
  · rintro ⟨text, trimmed, h⟩
    rwa [Blank.trimBy_eq_iff.2 trimmed]
  · exact fun h => ⟨_, Blank.isTrimmed_trimBy _ data, h⟩

/-- The first byte tells null, a string and a list from all else. -/
theorem startsValue_of_spelling {b : UInt8} {r rest : Bytes} {t : Tree}
    (visible : Blank.isJsonBlank b = false) (h : Json.Spelling (b :: r) t rest)
    (hc : Spelling t c) : startsValue b = true := by
  have first : skipBlanks (b :: r) = b :: r := by
    rw [skipBlanks, List.dropWhile_cons_of_neg (by rw [visible]; exact Bool.false_ne_true)]
  cases hc with
  | null =>
    cases h with
    | null h =>
      rw [first] at h
      cases h
      rfl
  | short v =>
    cases h with
    | text h content =>
      rw [first] at h
      cases h
      rfl
  | long vs =>
    cases h with
    | list h items =>
      rw [first] at h
      cases h
      rfl

theorem json_decode_eq_ok_iff {s : Bytes} : Json.decode ofTree s = .ok c ↔
    ∃ t rest, Json.Spelling s t rest ∧ skipBlanks rest = [] ∧ Spelling t c :=
  decode_eq_ok_iff_spelling (fun _ _ => ofTree_eq_ok_iff) (fun _ _ h => h.isWords)
    fun _ _ h => h.isOpen

theorem decode_eq_ok_iff : decode data = .ok c ↔ IsText data c := by
  rw [isText_iff, decode]
  split
  · next none =>
    rw [none]
    constructor
    · intro h
      exact .inl ⟨rfl, (Except.ok.inj h).symm⟩
    · rintro (⟨-, rfl⟩ | ⟨t, rest, spelled, -⟩)
      · rfl
      · exact absurd spelled.taken.length_lt (Nat.not_lt_zero _)
  · next b r some =>
    have visible : Blank.isJsonBlank b = false :=
      (Blank.isTrimmed_trimBy Blank.isJsonBlank data).first b (by rw [some]; rfl)
    rw [some]
    split
    · constructor
      · exact fun h => .inr (json_decode_eq_ok_iff.1 (mapError_eq_ok h))
      · rintro (⟨none, -⟩ | h)
        · cases none
        · rw [json_decode_eq_ok_iff.2 h]
          rfl
    · next other =>
      constructor
      · intro h
        cases h
      · rintro (⟨none, -⟩ | ⟨t, rest, spelled, -, hc⟩)
        · cases none
        · exact absurd (startsValue_of_spelling visible spelled hc) other

theorem decode_cases (data : Bytes) :
    (∃ c, decode data = .ok c) ∨ ∃ problem, decode data = .error (.document (.policy problem)) := by
  rw [decode]
  split
  · exact .inl ⟨empty, rfl⟩
  · split
    · cases Json.decode ofTree _ with
      | ok c => exact .inl ⟨c, rfl⟩
      | error cause => exact .inr ⟨.json cause, rfl⟩
    · next b _ _ _ => exact .inr ⟨.unexpectedByte b, rfl⟩

theorem IsText.encoded (h : IsText data c) : ∃ cs, data = Utf8.encode cs := by
  have blanks {bs : Bytes} (rest : Bytes) (h : ∀ b ∈ bs, Blank.isJsonBlank b = true) :
      Encoded (bs ++ rest) rest := encoded_append fun b hb => ascii_of_blank (h b hb)
  obtain ⟨text, ⟨⟨before, after, rfl, hb, ha⟩, -, -⟩, value⟩ := h
  have inner : Encoded text [] := by
    obtain ⟨rfl, -⟩ | ⟨t, rest, spelled, last, -⟩ := value
    · exact .refl []
    · exact spelled.encoded.trans (last ▸ encoded_skipBlanks rest)
  obtain ⟨xs, rfl⟩ := inner
  obtain ⟨ys, hys⟩ := blanks [] ha
  obtain ⟨zs, hzs⟩ := blanks [] hb
  rw [List.append_nil, List.append_nil] at hys hzs
  exact ⟨zs ++ xs ++ ys, by rw [Utf8.encode_append, Utf8.encode_append, ← hzs, ← hys,
    List.append_nil]⟩

/-- The bytes for a list: none, a string, or the list of all strings. -/
inductive Written : Compact → Bytes → Prop
  | none : Written empty []
  | one {v : String} {s : Bytes} (content : TextSpelling s v.toList []) :
      Written (one v) (0x22 :: s)
  | many {vs : List String} {s : Bytes} (several : 2 ≤ vs.length)
      (items : ItemsSpelling true s (vs.map fun v => .text (.ok v)) []) : Written ⟨vs⟩ (0x5B :: s)

theorem written_encode (c : Compact) : Written c c.encode := by
  match c with
  | ⟨[]⟩ => exact .none
  | ⟨[v]⟩ =>
    have quoted := encode_printTextChars v.toList []
    rw [List.append_nil] at quoted
    have bytes : encode ⟨[v]⟩ = 0x22 :: (Utf8.encode (v.toList.flatMap escapeChar) ++ [0x22]) := by
      rw [← quoted]
      rfl
    rw [bytes]
    exact .one (textSpelling_print v.toList [])
  | ⟨v :: w :: r⟩ =>
    have items := itemsSpelling_print ((v :: w :: r).map .text) []
    rw [Value.trees_eq_map, List.map_map] at items
    have bytes : encode ⟨v :: w :: r⟩ =
        0x5B :: (Utf8.encode (Value.printItems ((v :: w :: r).map .text)) ++ [0x5D]) := by
      rw [show encode ⟨v :: w :: r⟩ = Utf8.encode
        (Value.list ((v :: w :: r).map .text)).printChars from rfl, Value.printChars,
        List.cons_append, Utf8.encode_cons, Utf8.encode_append]
      rfl
    rw [bytes]
    exact .many (Nat.le_add_left 2 _) items

theorem trim_encode (c : Compact) : Blank.trimBy Blank.isJsonBlank c.encode = c.encode := by
  rw [encode]
  split
  · rfl
  · exact trim_print c.toJson

theorem decode_encode (c : Compact) : decode c.encode = .ok c := by
  rw [decode_eq_ok_iff, isText_iff, trim_encode, encode]
  split
  · next none =>
    refine .inl ⟨rfl, ?_⟩
    cases c with
    | mk vs => exact congrArg mk (List.isEmpty_iff.1 none)
  · refine .inr (json_decode_eq_ok_iff.1 ?_)
    rw [decode_print, ofTree_toJson]

theorem decode_between {before after : Bytes} (hb : ∀ b ∈ before, Blank.isJsonBlank b = true)
    (ha : ∀ b ∈ after, Blank.isJsonBlank b = true) (data : Bytes) :
    decode (before ++ data ++ after) = decode data := by
  rw [decode, Blank.trimBy_append_right ha, Blank.trimBy_append_left hb, decode]

/-- A text is read exactly if it is one for a list, and as this list; every other text is refused for
its syntax, as is all that is no text. A list is written as nothing, a string or a list, and reads
back between any blanks. -/
theorem decode_texts (data : Bytes) (c : Compact) :
    (decode data = .ok c ↔ IsText data c) ∧
    ((∃ d, IsText data d) ∨ ∃ problem detail, decode data = .error (.document problem) ∧
      problem.message = "InvalidPolicySyntax: " ++ detail) ∧
    (Utf8.decode? data = none → ¬ IsText data c) ∧
    Written c c.encode ∧
    ∀ before after, (∀ b ∈ before, Blank.isJsonBlank b = true) →
      (∀ b ∈ after, Blank.isJsonBlank b = true) → decode (before ++ c.encode ++ after) = .ok c := by
  refine ⟨decode_eq_ok_iff, ?_, ?_, written_encode c, fun before after hb ha => ?_⟩
  · obtain ⟨d, read⟩ | ⟨problem, refused⟩ := decode_cases data
    · exact .inl ⟨d, decode_eq_ok_iff.1 read⟩
    · exact .inr ⟨.policy problem, problem.message, refused, rfl⟩
  · intro ill text
    obtain ⟨cs, rfl⟩ := text.encoded
    rw [Utf8.decode?_encode] at ill
    cases ill
  · rw [decode_between hb ha, decode_encode]

/-- Blanks of all four kinds around the list of a string with an escape, and a string cut short. -/
theorem decode_texts_of_quoted :
    decode (Utf8.ofString "\r\n[\"say \\u0022hi\\\"\", \"\"]\t ") = .ok ⟨["say \"hi\"", ""]⟩ ∧
    decode (Utf8.ofString " \t" ++ encode ⟨["say \"hi\"", ""]⟩ ++ Utf8.ofString "\n\r") =
      .ok ⟨["say \"hi\"", ""]⟩ ∧
    ¬ IsText [0x22, 0xC3, 0x22] empty := by
  obtain ⟨-, -, -, -, between⟩ := decode_texts [] ⟨["say \"hi\"", ""]⟩
  obtain ⟨-, -, ill, -, -⟩ := decode_texts [0x22, 0xC3, 0x22] empty
  exact ⟨by decide +kernel, between _ _ (by decide +kernel) (by decide +kernel), ill (by decide)⟩

end ObjectStorage.Compact
