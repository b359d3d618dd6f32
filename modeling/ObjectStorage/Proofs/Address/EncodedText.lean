import ObjectStorage.Proofs.Address.Encoding
import ObjectStorage.Proofs.Text.WellFormed

/-!
# Encoded texts

An encoded text is written byte by byte: an unreserved character stands for itself and every other
byte is a triplet. So each list of bytes has one spelling (`spelling_iff`), and the encoding of a
text is the spelling of its UTF-8 bytes (`encodeChars_eq_iff`). `encoding_faithful` puts together
what a reader of encoded texts and paths relies on.
-/
namespace ObjectStorage.Percent

def IsDigit (c : Char) (n : Nat) : Prop :=
  ['0', '1', '2', '3', '4', '5', '6', '7', '8', '9', 'A', 'B', 'C', 'D', 'E', 'F'][n]? = some c

instance (c : Char) (n : Nat) : Decidable (IsDigit c n) := inferInstanceAs (Decidable (_ = _))

/-- An encoded text and the bytes it stands for. An unreserved character is never written as a
triplet. -/
inductive Spelling : List Char → Bytes → Prop
  | nil : Spelling [] []
  | kept {c : Char} {w : List Char} {b : Bytes} (unreserved : isUnreserved c = true)
      (rest : Spelling w b) : Spelling (c :: w) (UInt8.ofNat c.toNat :: b)
  | triplet {high low : Char} {h l : Nat} {w : List Char} {b : Bytes} (first : IsDigit high h)
      (second : IsDigit low l) (reserved : isUnreserved (Char.ofNat (16 * h + l)) = false)
      (rest : Spelling w b) : Spelling ('%' :: high :: low :: w) (UInt8.ofNat (16 * h + l) :: b)

theorem isDigit_iff {c : Char} {n : Nat} :
    IsDigit c n ↔ n < 16 ∧ c = Bytes.hexDigitUpper n := by
  have digit : ∀ n < 16, IsDigit (Bytes.hexDigitUpper n) n := by decide
  constructor
  · intro h
    have hn : n < 16 := (List.getElem?_eq_some_iff.1 h).1
    exact ⟨hn, Option.some.inj (h.symm.trans (digit n hn))⟩
  · rintro ⟨hn, rfl⟩
    exact digit n hn

def spellByte (b : UInt8) : List Char :=
  if isUnreserved (Char.ofNat b.toNat) then [Char.ofNat b.toNat] else encodeByte b

theorem spellByte_of_isUnreserved {c : Char} (h : isUnreserved c = true) :
    spellByte (UInt8.ofNat c.toNat) = [c] := by
  have small := toNat_lt_of_isUnreserved h
  rw [spellByte, Utf8.toNat_byte (by omega), Char.ofNat_toNat, if_pos h]

theorem spellByte_of_digits {high low : Char} {h l : Nat} (first : IsDigit high h)
    (second : IsDigit low l) (reserved : isUnreserved (Char.ofNat (16 * h + l)) = false) :
    spellByte (UInt8.ofNat (16 * h + l)) = ['%', high, low] := by
  obtain ⟨hh, rfl⟩ := isDigit_iff.1 first
  obtain ⟨hl, rfl⟩ := isDigit_iff.1 second
  rw [spellByte, encodeByte, Utf8.toNat_byte (by omega), if_neg (by simp [reserved]),
    show (16 * h + l) / 16 = h by omega, show (16 * h + l) % 16 = l by omega]

theorem spellByte_of_le {b : UInt8} (h : 0x80 ≤ b.toNat) : spellByte b = encodeByte b := by
  have hb : b.toNat < 256 := b.toNat_lt
  refine if_neg fun unreserved => ?_
  have small := toNat_lt_of_isUnreserved unreserved
  rw [Utf8.toNat_ofNat (Or.inl (by omega))] at small
  omega

theorem flatMap_spellByte_encodeChar (c : Char) :
    (Utf8.encodeChar c).flatMap spellByte = encodeCharBy isUnreserved c := by
  by_cases hc : c.toNat < 0x80
  · rw [encodeCharBy, Utf8.encodeChar_of_ascii hc, List.flatMap_singleton, List.flatMap_singleton,
      spellByte, Utf8.toNat_byte (by omega), Char.ofNat_toNat]
  · have reserved : ¬ isUnreserved c = true := fun h => hc (toNat_lt_of_isUnreserved h)
    rw [encodeCharBy, if_neg reserved, List.flatMap_def, List.flatMap_def]
    exact congrArg List.flatten (List.map_congr_left fun b hb =>
      spellByte_of_le (Utf8.le_of_mem_encodeChar (Nat.le_of_not_lt hc) hb))

theorem encodeChars_eq_flatMap (s : List Char) :
    encodeChars s = (Utf8.encode s).flatMap spellByte := by
  induction s with
  | nil => rfl
  | cons c s ih =>
    rw [encodeChars_cons, ih, Utf8.encode_cons, List.flatMap_append, flatMap_spellByte_encodeChar]

theorem Spelling.cons {w : List Char} {b : Bytes} (rest : Spelling w b) (a : UInt8) :
    Spelling (spellByte a ++ w) (a :: b) := by
  have ha : a.toNat < 256 := a.toNat_lt
  have value : 16 * (a.toNat / 16) + a.toNat % 16 = a.toNat := Nat.div_add_mod _ _
  rw [spellByte]
  split
  · next unreserved =>
    have spelled := rest.kept unreserved
    rwa [Utf8.toNat_ofNat (Or.inl (by omega)), UInt8.ofNat_toNat] at spelled
  · next reserved =>
    have spelled := rest.triplet (isDigit_iff.2 ⟨show a.toNat / 16 < 16 by omega, rfl⟩)
      (isDigit_iff.2 ⟨show a.toNat % 16 < 16 by omega, rfl⟩)
      (by rw [value]; exact Bool.eq_false_iff.2 reserved)
    rwa [value, UInt8.ofNat_toNat] at spelled

theorem spelling_iff {w : List Char} {b : Bytes} : Spelling w b ↔ w = b.flatMap spellByte := by
  constructor
  · intro h
    induction h with
    | nil => rfl
    | kept unreserved _ ih =>
      rw [List.flatMap_cons, spellByte_of_isUnreserved unreserved, ← ih]
      rfl
    | triplet first second reserved _ ih =>
      rw [List.flatMap_cons, spellByte_of_digits first second reserved, ← ih]
      rfl
  · rintro rfl
    induction b with
    | nil => exact .nil
    | cons a b ih => exact ih.cons a

/-- The encoding of a text is the one encoded text that stands for its bytes. -/
theorem encodeChars_eq_iff {s w : List Char} :
    encodeChars s = w ↔ Spelling w (Utf8.encode s) := by
  rw [spelling_iff, encodeChars_eq_flatMap, eq_comm]

/-- Encoding writes unreserved characters and triplets with upper-case digits for the UTF-8 bytes of
the text, and decoding gives these back. It is injective, respects concatenation, and does nothing
to its own result exactly if no character is reserved. In a path it keeps the slashes and encodes
the segments between them, so that is injective too. -/
theorem encoding_faithful (s p : List Char) :
    (∀ w, encodeChars s = w ↔ Spelling w (Utf8.encode s)) ∧
    decode (Utf8.encode (encodeChars s)) = Utf8.encode s ∧
    (∀ t, encodeChars s = encodeChars t ↔ s = t) ∧
    (∀ t, encodeChars (s ++ t) = encodeChars s ++ encodeChars t) ∧
    (encodeChars (encodeChars s) = encodeChars s ↔ ∀ c ∈ s, isUnreserved c = true) ∧
    (encodePathChars p).count '/' = p.count '/' ∧
    (encodePathChars p).splitOn '/' = (p.splitOn '/').map encodeChars ∧
    encodePathChars p = ['/'].intercalate ((p.splitOn '/').map encodeChars) ∧
    ∀ q, encodePathChars p = encodePathChars q ↔ p = q := by
  have injective (t : List Char) : encodeChars s = encodeChars t ↔ s = t :=
    ⟨encodeChars_injective, congrArg encodeChars⟩
  have idempotent : encodeChars (encodeChars s) = encodeChars s ↔
      ∀ c ∈ s, isUnreserved c = true := by
    rw [eq_comm, injective, eq_comm]
    exact encodeBy_eq_self_iff
  exact ⟨fun _ => encodeChars_eq_iff, decode_encode_encodeChars s, injective,
    encodeBy_append isUnreserved s, idempotent, count_slash_encodePathChars p,
    splitOn_encodePathChars p, encodePathChars_eq_intercalate p,
    fun _ => ⟨encodePathChars_injective, congrArg encodePathChars⟩⟩

/-- A percent sign is encoded again and again, and an unreserved text never. An empty segment of a
path stays empty. -/
theorem encoding_faithful_of_percent :
    encodeChars "%\u00fc".toList = "%25%C3%BC".toList ∧
      encodeChars (encodeChars "%\u00fc".toList) ≠ encodeChars "%\u00fc".toList ∧
      encodeChars (encodeChars "a~".toList) = encodeChars "a~".toList ∧
      (encodePathChars "dir//a b".toList).splitOn '/' = ["dir".toList, [], "a%20b".toList] := by
  obtain ⟨spelled, -, -, -, idempotent, -, segments, -, -⟩ :=
    encoding_faithful ['%', '\u00fc'] "dir//a b".toList
  obtain ⟨-, -, -, -, plain, -⟩ := encoding_faithful ['a', '~'] []
  have unreserved : ∀ c ∈ ['a', '~'], isUnreserved c = true := List.all_eq_true.1 (by decide)
  refine ⟨(spelled _).2 ?_, fun h => ?_, plain.2 unreserved, segments.trans (by decide)⟩
  · exact .triplet (h := 2) (l := 5) (by decide) (by decide) (by decide)
      (.triplet (h := 12) (l := 3) (by decide) (by decide) (by decide)
        (.triplet (h := 11) (l := 12) (by decide) (by decide) (by decide) .nil))
  · exact absurd (idempotent.1 h '%' List.mem_cons_self) (by decide)

end ObjectStorage.Percent
