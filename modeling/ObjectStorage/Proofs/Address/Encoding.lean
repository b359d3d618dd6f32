import ObjectStorage.Text.Percent

/-!
# Encoded segments

Percent encoding loses nothing: what is encoded decodes to the bytes of the text, so two texts with
the same encoding are the same, and a text is its own encoding exactly if all of it is kept. A slash
is no character of an encoded segment, so an encoded path splits into the encoded segments.
-/
namespace ObjectStorage.Percent

def bytesOf (cs : List Char) : Bytes := cs.map fun c => UInt8.ofNat c.toNat

theorem bytesOf_of_ascii {s : List Char} (h : ∀ c ∈ s, c.toNat < 0x80) :
    bytesOf s = Utf8.encode s := by
  induction s with
  | nil => rfl
  | cons c s ih =>
    rw [Utf8.encode_cons, Utf8.encodeChar_of_ascii (h c List.mem_cons_self),
      ← ih fun d hd => h d (List.mem_cons_of_mem c hd)]
    rfl

theorem toNat_lt_of_isUnreserved {c : Char} (h : isUnreserved c = true) : c.toNat < 0x80 := by
  simp only [isUnreserved, Bool.or_eq_true, beq_iff_eq] at h
  rcases h with (((h | rfl) | rfl) | rfl) | rfl
  · exact toNat_lt_of_isAlphanum h
  · decide
  · decide
  · decide
  · decide

theorem decode_encodeBytes (b r : Bytes) :
    decode (bytesOf (b.flatMap encodeByte) ++ r) = b ++ decode r := by
  induction b with
  | nil => rfl
  | cons a b ih =>
    rw [List.flatMap_cons, bytesOf, List.map_append, List.append_assoc, decode_encodeByte,
      ← bytesOf, ih, List.cons_append]

/-- Any characters may be kept but those of more than one byte and the percent sign. -/
theorem decode_encodeBy {keep : Char → Bool}
    (hk : ∀ c, keep c = true → c.toNat < 0x80 ∧ c ≠ '%') (s : List Char) :
    decode (bytesOf (encodeBy keep s)) = Utf8.encode s := by
  induction s with
  | nil => rfl
  | cons c s ih =>
    rw [encodeBy_cons, bytesOf, List.map_append, Utf8.encode_cons, encodeCharBy]
    split
    · next hc =>
      obtain ⟨hlt, hp⟩ := hk c hc
      have hne : UInt8.ofNat c.toNat ≠ 0x25 := by
        intro heq
        have hn : c.toNat = 0x25 := (Utf8.byte_eq (by omega)).1 heq
        rw [← Char.ofNat_toNat c, hn] at hp
        exact hp (by decide)
      rw [List.map_cons, List.map_nil, List.singleton_append, decode_of_ne hne,
        Utf8.encodeChar_of_ascii hlt, ← bytesOf, ih, List.singleton_append]
    · rw [← bytesOf, decode_encodeBytes, ← bytesOf, ih]

theorem encodeChars_cons (c : Char) (s : List Char) :
    encodeChars (c :: s) = encodeCharBy isUnreserved c ++ encodeChars s :=
  encodeBy_cons isUnreserved c s

theorem decode_encodeChars (s : List Char) : decode (bytesOf (encodeChars s)) = Utf8.encode s := by
  refine decode_encodeBy (fun c hc => ⟨toNat_lt_of_isUnreserved hc, ?_⟩) s
  rintro rfl
  exact absurd hc (by decide)

theorem encodeChars_injective {s t : List Char} (h : encodeChars s = encodeChars t) : s = t := by
  have hb : Utf8.encode s = Utf8.encode t := by
    rw [← decode_encodeChars, h, decode_encodeChars]
  have hs := Utf8.decode?_encode s
  rw [hb, Utf8.decode?_encode] at hs
  exact (Option.some.inj hs).symm

theorem mem_encodeBy {keep : Char → Bool} {s : List Char} {c : Char} (h : c ∈ encodeBy keep s) :
    keep c = true ∨ isUnreserved c = true ∨ c = '%' := by
  obtain ⟨d, -, hc⟩ := List.mem_flatMap.1 h
  rw [encodeCharBy] at hc
  split at hc
  · next hd =>
    rw [List.mem_singleton] at hc
    exact Or.inl (hc ▸ hd)
  · obtain ⟨b, -, hb⟩ := List.mem_flatMap.1 hc
    have digit : ∀ n < 16, isUnreserved (Bytes.hexDigitUpper n) = true := by decide
    have hlt : b.toNat < 256 := b.toNat_lt
    simp only [encodeByte, List.mem_cons, List.not_mem_nil, or_false] at hb
    rcases hb with rfl | rfl | rfl
    · exact Or.inr (Or.inr rfl)
    · exact Or.inr (Or.inl (digit _ (by omega)))
    · exact Or.inr (Or.inl (digit _ (by omega)))

theorem mem_encodeChars {s : List Char} {c : Char} (h : c ∈ encodeChars s) :
    isUnreserved c = true ∨ c = '%' :=
  (mem_encodeBy h).elim Or.inl id

theorem toNat_lt_of_mem_encodeChars {s : List Char} {c : Char} (h : c ∈ encodeChars s) :
    c.toNat < 0x80 := by
  rcases mem_encodeChars h with h | rfl
  · exact toNat_lt_of_isUnreserved h
  · decide

theorem decode_encode_encodeChars (s : List Char) :
    decode (Utf8.encode (encodeChars s)) = Utf8.encode s := by
  rw [← bytesOf_of_ascii fun _ => toNat_lt_of_mem_encodeChars, decode_encodeChars]

theorem not_mem_encodeChars {c : Char} (hc : isUnreserved c = false) (hp : c ≠ '%')
    (s : List Char) : c ∉ encodeChars s := by
  intro h
  rcases mem_encodeChars h with h | h
  · rw [hc] at h
    cases h
  · exact hp h

theorem slash_not_mem_encodeChars (s : List Char) : '/' ∉ encodeChars s :=
  not_mem_encodeChars (by decide) (by decide) s

theorem encodeBy_eq_self {keep : Char → Bool} {s : List Char} (h : ∀ c ∈ s, keep c = true) :
    encodeBy keep s = s := by
  induction s with
  | nil => rfl
  | cons c s ih =>
    rw [encodeBy_cons, encodeCharBy, if_pos (h c List.mem_cons_self),
      ih fun d hd => h d (List.mem_cons_of_mem c hd), List.singleton_append]

theorem lt_length_encodeCharBy {keep : Char → Bool} {c : Char} (h : keep c = false) :
    1 < (encodeCharBy keep c).length := by
  obtain ⟨b, r, hb⟩ := List.exists_cons_of_ne_nil (Utf8.encodeChar_ne_nil c)
  have three : (encodeByte b).length = 3 := rfl
  rw [encodeCharBy, if_neg (by simp [h]), hb, List.flatMap_cons, List.length_append, three]
  omega

theorem length_le_encodeBy (keep : Char → Bool) (s : List Char) :
    s.length ≤ (encodeBy keep s).length := by
  induction s with
  | nil => exact Nat.zero_le _
  | cons c s ih =>
    have first : 1 ≤ (encodeCharBy keep c).length := by
      cases hc : keep c with
      | true => simp [encodeCharBy, hc]
      | false => exact Nat.le_of_lt (lt_length_encodeCharBy hc)
    rw [encodeBy_cons, List.length_append, List.length_cons]
    omega

/-- A character that is not kept makes the text longer. -/
theorem encodeBy_eq_self_iff {keep : Char → Bool} {s : List Char} :
    encodeBy keep s = s ↔ ∀ c ∈ s, keep c = true := by
  refine ⟨fun h => ?_, encodeBy_eq_self⟩
  induction s with
  | nil => exact List.forall_mem_nil _
  | cons c s ih =>
    rw [encodeBy_cons] at h
    cases hc : keep c with
    | true =>
      rw [encodeCharBy, if_pos hc, List.singleton_append] at h
      exact List.forall_mem_cons.2 ⟨hc, ih (List.cons.inj h).2⟩
    | false =>
      -- the rest does not get shorter, so it cannot make up for the triplet
      have longer := lt_length_encodeCharBy hc
      have rest := length_le_encodeBy keep s
      have same := congrArg List.length h
      rw [List.length_append, List.length_cons] at same
      omega

/-- What stands in front of the first slash belongs to the first segment. -/
theorem splitOn_append {w : List Char} (h : '/' ∉ w) (t : List Char) :
    (w ++ t).splitOn '/' = (t.splitOn '/').modifyHead (w ++ ·) := by
  induction w with
  | nil =>
    rw [List.nil_append]
    cases t.splitOn '/' <;> rfl
  | cons c w ih =>
    rw [List.mem_cons, not_or] at h
    have hc : ¬ (c == '/') = true := by simpa using Ne.symm h.1
    rw [List.cons_append, List.splitOn_cons_eq_if_modifyHead, if_neg hc, ih h.2]
    cases t.splitOn '/' <;> rfl

theorem slash_not_mem_encodeCharBy (c : Char) : '/' ∉ encodeCharBy isUnreserved c := by
  have h := slash_not_mem_encodeChars [c]
  rwa [encodeChars, encodeBy, List.flatMap_singleton] at h

theorem encodePathChars_slash (s : List Char) :
    encodePathChars ('/' :: s) = '/' :: encodePathChars s := rfl

theorem encodePathChars_cons {c : Char} (h : c ≠ '/') (s : List Char) :
    encodePathChars (c :: s) = encodeCharBy isUnreserved c ++ encodePathChars s := by
  have plain : encodeCharBy (fun c => isUnreserved c || c == '/') c =
      encodeCharBy isUnreserved c := by
    simp [encodeCharBy, h]
  rw [encodePathChars, encodeBy_cons, plain, encodePathChars]

theorem splitOn_encodePathChars (s : List Char) :
    (encodePathChars s).splitOn '/' = (s.splitOn '/').map encodeChars := by
  induction s with
  | nil => rfl
  | cons c s ih =>
    rw [List.splitOn_cons_eq_if_modifyHead]
    by_cases hc : c = '/'
    · subst hc
      rw [encodePathChars_slash, List.splitOn_cons_eq_if_modifyHead, if_pos (by decide),
        if_pos (by decide), List.map_cons, ih]
      rfl
    · rw [encodePathChars_cons hc, if_neg (by simpa using hc),
        splitOn_append (slash_not_mem_encodeCharBy c), ih]
      cases s.splitOn '/' <;> rfl

theorem encodePathChars_eq_intercalate (s : List Char) :
    encodePathChars s = ['/'].intercalate ((s.splitOn '/').map encodeChars) := by
  rw [← splitOn_encodePathChars, List.intercalate_splitOn]

theorem count_slash_encodePathChars (s : List Char) :
    (encodePathChars s).count '/' = s.count '/' := by
  induction s with
  | nil => rfl
  | cons c s ih =>
    by_cases hc : c = '/'
    · subst hc
      rw [encodePathChars_slash, List.count_cons_self, List.count_cons_self, ih]
    · rw [encodePathChars_cons hc, List.count_append,
        List.count_eq_zero.2 (slash_not_mem_encodeCharBy c), List.count_cons_of_ne hc, ih,
        Nat.zero_add]

theorem encodePathChars_injective {s t : List Char} (h : encodePathChars s = encodePathChars t) :
    s = t := by
  have segments := congrArg (List.splitOn '/') h
  rw [splitOn_encodePathChars, splitOn_encodePathChars,
    List.map_inj_right fun _ _ => encodeChars_injective] at segments
  have joined := congrArg (['/'].intercalate ·) segments
  simpa only [List.intercalate_splitOn] using joined

end ObjectStorage.Percent
