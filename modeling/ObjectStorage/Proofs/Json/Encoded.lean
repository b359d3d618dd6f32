import Mathlib.Data.List.TakeWhile
import ObjectStorage.Proofs.Json.Spelling
import ObjectStorage.Proofs.Text.WellFormed

/-!
# Spellings are texts

Bytes that spell a value are the bytes of characters: all that stands between the characters of
strings is ASCII, and the strings are spelled by whole characters.
-/
namespace ObjectStorage.Json

/-- The bytes before `rest` are those of characters. -/
def Encoded (s rest : Bytes) : Prop := ∃ cs, s = Utf8.encode cs ++ rest

variable {s r q rest : Bytes}

theorem Encoded.refl (s : Bytes) : Encoded s s := ⟨[], rfl⟩

theorem Encoded.trans (h : Encoded s r) (h' : Encoded r rest) : Encoded s rest := by
  obtain ⟨cs, rfl⟩ := h
  obtain ⟨ds, rfl⟩ := h'
  exact ⟨cs ++ ds, by rw [Utf8.encode_append, List.append_assoc]⟩

theorem encoded_append {bs : Bytes} (h : ∀ b ∈ bs, b < 0x80) : Encoded (bs ++ rest) rest := by
  induction bs with
  | nil => exact .refl rest
  | cons b bs ih =>
    rw [List.forall_mem_cons] at h
    obtain ⟨cs, hcs⟩ := ih h.2
    refine ⟨Char.ofNat b.toNat :: cs, ?_⟩
    rw [Utf8.encode_cons, Utf8.encodeChar_of_lt h.1, List.append_assoc, ← hcs]
    rfl

theorem Encoded.cons {b : UInt8} (h : b < 0x80) (tail : Encoded r rest) :
    Encoded (b :: r) rest := by
  have one : Encoded ([b] ++ r) r := encoded_append (List.forall_mem_singleton.2 h)
  exact one.trans tail

theorem ascii_of_blank {b : UInt8} (h : Blank.isJsonBlank b = true) : b < 0x80 := by
  simp only [Blank.isJsonBlank, Bool.or_eq_true, beq_iff_eq] at h
  rcases h with ((rfl | rfl) | rfl) | rfl <;> decide

theorem ascii_of_isDigit {b : UInt8} (h : isDigit b = true) : b < 0x80 := by
  simp only [isDigit, Bool.and_eq_true, decide_eq_true_eq] at h
  exact UInt8.lt_of_le_of_lt h.2 (by decide)

theorem ascii_of_simpleEscape? {b x : UInt8} (h : simpleEscape? b = some x) : b < 0x80 := by
  unfold simpleEscape? at h
  repeat' split at h
  all_goals first | (next hb => rw [hb]; decide) | cases h

theorem lt_of_hexByte? : ∀ n < 256, (hexByte? (UInt8.ofNat n)).isSome = true → n < 0x80 := by
  decide +kernel

theorem ascii_of_unit? {a b c d : UInt8} {n : Nat} (h : unit? a b c d = some n) :
    ∀ x ∈ [a, b, c, d], x < 0x80 := by
  have ascii {x : UInt8} {m : Nat} (hx : hexByte? x = some m) : x < 0x80 :=
    UInt8.lt_iff_toNat_lt.2 (lt_of_hexByte? x.toNat x.toNat_lt (by
      rw [UInt8.ofNat_toNat, hx]
      rfl))
  rw [unit?] at h
  split at h
  · next ha hb hc hd => simp [ascii ha, ascii hb, ascii hc, ascii hd]
  · cases h

theorem encoded_skipBlanks (s : Bytes) : Encoded s (skipBlanks s) := by
  have skipped : Encoded (s.takeWhile Blank.isJsonBlank ++ skipBlanks s) (skipBlanks s) :=
    encoded_append fun b hb => ascii_of_blank (List.mem_takeWhile_imp hb)
  rwa [skipBlanks, List.takeWhile_append_dropWhile] at skipped

theorem Encoded.after {b : UInt8} (h : skipBlanks s = b :: r) (ascii : b < 0x80)
    (tail : Encoded r rest) : Encoded s rest :=
  (encoded_skipBlanks s).trans (h ▸ .cons ascii tail)

theorem TextSpelling.encoded {t : List Char} (h : TextSpelling s t rest) : Encoded s rest := by
  induction h with
  | close => exact .cons (by decide) (.refl _)
  | @plain c s rest t hc tail ih =>
    refine .trans ⟨[c], ?_⟩ ih
    rw [Utf8.encode_cons, Utf8.encode, List.flatMap_nil, List.append_nil]
  | letter hb tail ih => exact .cons (by decide) (.cons (ascii_of_simpleEscape? hb) ih)
  | unit hn low tail ih =>
    exact .cons (by decide) (.cons (by decide) ((encoded_append (ascii_of_unit? hn)).trans ih))
  | pair hn leading hm trailing tail ih =>
    have low := encoded_append (ascii_of_unit? hm) |>.trans ih
    exact .cons (by decide) (.cons (by decide) ((encoded_append (ascii_of_unit? hn)).trans
      (.cons (by decide) (.cons (by decide) low))))

theorem IntegerSpelling.encoded {v : Int} (h : IntegerSpelling s v rest) : Encoded s rest := by
  cases h with
  | natural h fits last => exact encoded_append fun b hb => ascii_of_isDigit (h.digits b hb)
  | negative h nonzero fits last =>
    exact .cons (by decide) (encoded_append fun b hb => ascii_of_isDigit (h.digits b hb))

theorem encoded_word {w : Bytes} (h : skipBlanks s = w ++ rest) (ascii : ∀ b ∈ w, b < 0x80) :
    Encoded s rest :=
  (encoded_skipBlanks s).trans (h ▸ encoded_append ascii)

mutual

theorem Spelling.encoded {s rest : Bytes} {t : Tree} : Spelling s t rest → Encoded s rest
  | .null h => encoded_word (w := [0x6E, 0x75, 0x6C, 0x6C]) h (by decide +kernel)
  | .yes h => encoded_word (w := [0x74, 0x72, 0x75, 0x65]) h (by decide +kernel)
  | .no h => encoded_word (w := [0x66, 0x61, 0x6C, 0x73, 0x65]) h (by decide +kernel)
  | .integer content => (encoded_skipBlanks s).trans content.encoded
  | .text h content => .after h (by decide) content.encoded
  | .list h items => .after h (by decide) items.encoded
  | .object h members => .after h (by decide) members.encoded

theorem ItemsSpelling.encoded {first : Bool} {s rest : Bytes} {ts : List Tree} :
    ItemsSpelling first s ts rest → Encoded s rest
  | .close h => .after h (by decide) (.refl rest)
  | .first item tail => item.encoded.trans tail.encoded
  | .next h item tail => .after h (by decide) (item.encoded.trans tail.encoded)

theorem MembersSpelling.encoded {first : Bool} {s rest : Bytes}
    {ms : List (Except Error String × Tree)} : MembersSpelling first s ms rest → Encoded s rest
  | .close h => .after h (by decide) (.refl rest)
  | .first h key colon value tail =>
    .after h (by decide) (key.encoded.trans
      (.after colon (by decide) (value.encoded.trans tail.encoded)))
  | .next comma h key colon value tail =>
    .after comma (by decide) (.after h (by decide) (key.encoded.trans
      (.after colon (by decide) (value.encoded.trans tail.encoded))))

end

end ObjectStorage.Json
