import ObjectStorage.Proofs.Client.Refused
import ObjectStorage.Proofs.Json.Printing
import ObjectStorage.Proofs.Refusal.Told

/-!
# Which texts are refusals of the service

A text is taken for a refusal if it tells a code that is not empty: as a member of an object, as the
first of a list of strings, or as a child of the root of an XML document. Both the list and the name
of the root say what is more than an envelope: `toError_service_iff` has the exact texts, and an
accepted text is an object or a document of errors only if it is no list and its root is so named.
-/
namespace ObjectStorage

open Json

namespace Xml

variable {known : List String} {root : List Char} {ms : List (String × Option String)}

theorem blank_of_rooted {read : List Char} {ts : List Token}
    (h : Rooted known root (Token.ofText read ++ ts) ms) : read.all isBlank = true := by
  rw [Token.ofText] at h
  split at h
  · next empty => rw [List.isEmpty_iff.1 empty, List.all_nil]
  · cases h with
    | blank h _ => rwa [List.all_reverse] at h

/-- A record starts with markup, of which only blanks come first. -/
theorem rooted_tokens {read cs : List Char} (h : Rooted known root (tokens (.text read) cs) ms) :
    read.all isBlank = true ∧ ∃ r, cs.dropWhile isBlank = '<' :: r := by
  -- Data before the first tag is a token of its own, and a record has only blanks there.
  induction cs generalizing read with
  | nil =>
    rw [tokens, Token.ofText] at h
    split at h
    · cases h
    · cases h with
      | blank _ tail => cases tail
  | cons c r ih =>
    rw [tokens] at h
    split at h
    · next start =>
      subst start
      exact ⟨blank_of_rooted h, r, rfl⟩
    · obtain ⟨all, starts⟩ := ih h
      rw [List.all_cons, Bool.and_eq_true] at all
      rw [List.dropWhile_cons_of_pos all.1]
      exact ⟨all.2, starts⟩

theorem skipBlanks_encode {cs r : List Char} (h : cs.dropWhile isBlank = '<' :: r) :
    skipBlanks (Utf8.encode cs) = 0x3C :: Utf8.encode r := by
  induction cs with
  | nil => cases h
  | cons c cs ih =>
    by_cases hc : isBlank c = true
    · rw [List.dropWhile_cons_of_pos hc] at h
      simp only [isBlank, Bool.or_eq_true, beq_iff_eq] at hc
      obtain ((rfl | rfl) | rfl) | rfl := hc <;> exact ih h
    · rw [List.dropWhile_cons_of_neg hc] at h
      obtain ⟨rfl, rfl⟩ := List.cons.inj h
      rfl

theorem Rooted.not_json {text : List Char} (h : Rooted known root (tokensOf text) ms) {b : UInt8}
    {r : Bytes} (start : skipBlanks (Utf8.encode text) = b :: r) : b = 0x3C ∨ b = 0xEF := by
  rw [tokensOf.eq_def] at h
  split at h
  · cases start
    exact .inr rfl
  · obtain ⟨-, q, hq⟩ := rooted_tokens h
    rw [skipBlanks_encode hq] at start
    cases start
    exact .inl rfl

end Xml

namespace Refusal

variable {ms : List (String × Option String)} {text root : List Char} {r : Refusal}

theorem start_of_object {s : Bytes} (h : ObjectText s ms) : ∃ r, skipBlanks s = 0x7B :: r := by
  obtain ⟨r, -, h, -⟩ := h
  exact ⟨r, h⟩

theorem start_of_list {s : Bytes} {vs : List String} (h : ListText s vs) :
    ∃ r, skipBlanks s = 0x5B :: r := by
  obtain ⟨rest, spelled, -⟩ := h
  cases spelled with
  | list h _ => exact ⟨_, h⟩

theorem ofJson?_of_rooted (h : Xml.Rooted fieldNames root (Xml.tokensOf text) ms) :
    ofJson? text = none := by
  cases hr : ofJson? text with
  | none => rfl
  | some r =>
    obtain ⟨ms', object, -⟩ | ⟨vs, list, -⟩ := ofJson?_eq_some_iff.1 hr
    · obtain ⟨q, hq⟩ := start_of_object object
      exact absurd (h.not_json hq) (by decide)
    · obtain ⟨q, hq⟩ := start_of_list list
      exact absurd (h.not_json hq) (by decide)

theorem ofText?_of_told (told : (ofJson? text <|> ofXml? text) = some r) (code : r.code ≠ "") :
    ofText? text = some r := by
  rw [ofText?, told]
  simpa using code

end Refusal

end ObjectStorage
