import ObjectStorage.Text.Utf8

/-!
# Well-formed bytes

Bytes that read as characters are the bytes of these characters, so `decode?` and `encode` undo each
other: `decode?_eq_some_iff`. Texts are ordered as their bytes are: `ofString_lt`.
-/
namespace ObjectStorage.Utf8

theorem toNat_ofNat {n : Nat} (h : n < 0xD800 ∨ 0xDFFF < n ∧ n < 0x110000) :
    (Char.ofNat n).toNat = n := by
  rw [Char.ofNat, dif_pos h]
  rfl

theorem isTail_iff {b : UInt8} : isTail b = true ↔ 0x80 ≤ b.toNat ∧ b.toNat ≤ 0xBF := by
  simp [isTail, UInt8.le_iff_toNat_le]

theorem encodeChar_of_lt {a : UInt8} (h : a < 0x80) : encodeChar (Char.ofNat a.toNat) = [a] := by
  have ha : a.toNat < 0x80 := UInt8.lt_iff_toNat_lt.1 h
  have hn := toNat_ofNat_of_ascii ha
  rw [encodeChar_of_ascii (by rw [hn]; exact ha), hn, UInt8.ofNat_toNat]

theorem encodeChar_char₂ {a b : UInt8} (ha : leadsTwo a = true) (hb : isTail b = true) :
    encodeChar (char₂ a b) = [a, b] := by
  rw [isTail_iff] at hb
  simp only [leadsTwo, Bool.and_eq_true, decide_eq_true_eq, UInt8.le_iff_toNat_le] at ha
  simp at ha
  have hn : (char₂ a b).toNat = a.toNat % 32 * 64 + b.toNat % 64 := toNat_ofNat (by omega)
  rw [encodeChar, hn, if_neg (by omega), if_pos (by omega)]
  simp (disch := omega) only [List.cons.injEq, and_true, byte_eq]
  omega

theorem encodeChar_char₃ {a b c : UInt8} (hab : leadsThree a b = true) (hc : isTail c = true) :
    encodeChar (char₃ a b c) = [a, b, c] := by
  rw [isTail_iff] at hc
  simp only [leadsThree, isTail, Bool.or_eq_true, Bool.and_eq_true, beq_iff_eq, decide_eq_true_eq,
    UInt8.le_iff_toNat_le, ← UInt8.toNat_inj] at hab
  simp at hab
  have hn : (char₃ a b c).toNat = a.toNat % 16 * 4096 + b.toNat % 64 * 64 + c.toNat % 64 :=
    toNat_ofNat (by omega)
  rw [encodeChar, hn, if_neg (by omega), if_neg (by omega), if_pos (by omega)]
  simp (disch := omega) only [List.cons.injEq, and_true, byte_eq]
  omega

theorem encodeChar_char₄ {a b c d : UInt8} (hab : leadsFour a b = true) (hc : isTail c = true)
    (hd : isTail d = true) : encodeChar (char₄ a b c d) = [a, b, c, d] := by
  rw [isTail_iff] at hc hd
  simp only [leadsFour, isTail, Bool.or_eq_true, Bool.and_eq_true, beq_iff_eq, decide_eq_true_eq,
    UInt8.le_iff_toNat_le, ← UInt8.toNat_inj] at hab
  simp at hab
  have hn : (char₄ a b c d).toNat =
      a.toNat % 8 * 262144 + b.toNat % 64 * 4096 + c.toNat % 64 * 64 + d.toNat % 64 :=
    toNat_ofNat (by omega)
  rw [encodeChar, hn, if_neg (by omega), if_neg (by omega), if_neg (by omega)]
  simp (disch := omega) only [List.cons.injEq, and_true, byte_eq]
  omega

theorem encodeChar_eq_cons (c : Char) : ∃ b tails, encodeChar c = b :: tails ∧
    isTail b = false ∧ ∀ x ∈ tails, isTail x = true := by
  have hc : c.toNat < 0x110000 := by
    rcases c.valid with hv | hv
    · exact Nat.lt_trans hv (by decide)
    · exact hv.2
  have lead {n : Nat} (hn : n < 256) (h : n < 0x80 ∨ 0xBF < n) :
      isTail (UInt8.ofNat n) = false := by
    rw [Bool.eq_false_iff, ne_eq, isTail_iff, toNat_byte hn]
    omega
  simp only [encodeChar]
  repeat' split
  · exact ⟨_, [], rfl, lead (by omega) (by omega), List.forall_mem_nil _⟩
  · exact ⟨_, [_], rfl, lead (by omega) (by omega),
      List.forall_mem_singleton.2 (isTail_byte (by omega))⟩
  · refine ⟨_, [_, _], rfl, lead (by omega) (by omega), ?_⟩
    simp only [List.forall_mem_cons]
    exact ⟨isTail_byte (by omega), isTail_byte (by omega), List.forall_mem_nil _⟩
  · refine ⟨_, [_, _, _], rfl, lead (by omega) (by omega), ?_⟩
    simp only [List.forall_mem_cons]
    exact ⟨isTail_byte (by omega), isTail_byte (by omega), isTail_byte (by omega),
      List.forall_mem_nil _⟩

theorem toNat_of_encodeChar {c : Char} {b : UInt8} {r : Bytes} (h : encodeChar c = b :: r)
    (hb : b.toNat < 0x80) : c.toNat = b.toNat := by
  have hc : c.toNat < 0xD800 ∨ 0xDFFF < c.toNat ∧ c.toNat < 0x110000 := c.valid
  simp only [encodeChar] at h
  split at h
  · next hn =>
    rw [← (List.cons.inj h).1, toNat_byte (by omega)]
  · split at h
    · rw [← (List.cons.inj h).1, toNat_byte (by omega)] at hb
      omega
    · split at h
      · rw [← (List.cons.inj h).1, toNat_byte (by omega)] at hb
        omega
      · rw [← (List.cons.inj h).1, toNat_byte (by omega)] at hb
        omega

theorem le_of_mem_encodeChar {c : Char} (hc : 0x80 ≤ c.toNat) {b : UInt8}
    (h : b ∈ encodeChar c) : 0x80 ≤ b.toNat := by
  obtain ⟨lead, tails, eq, -, inside⟩ := encodeChar_eq_cons c
  rw [eq, List.mem_cons] at h
  rcases h with rfl | h
  · refine Nat.le_of_not_lt fun small => ?_
    have same := toNat_of_encodeChar eq small
    omega
  · exact (isTail_iff.1 (inside b h)).1

theorem encode_of_decode? {b : Bytes} {s : List Char} (h : decode? b = some s) : encode s = b := by
  fun_induction decode? b generalizing s with
  | case1 =>
    cases h
    rfl
  | case2 a r ha ih =>
    obtain ⟨t, ht, rfl⟩ := Option.map_eq_some_iff.1 h
    rw [encode_cons, encodeChar_of_lt ha, ih ht]
    rfl
  | case3 => cases h
  | case4 a ha b r hl hb ih =>
    obtain ⟨t, ht, rfl⟩ := Option.map_eq_some_iff.1 h
    rw [encode_cons, encodeChar_char₂ hl hb, ih ht]
    rfl
  | case5 => cases h
  | case6 => cases h
  | case7 a ha b hl c r hab hc ih =>
    obtain ⟨t, ht, rfl⟩ := Option.map_eq_some_iff.1 h
    rw [encode_cons, encodeChar_char₃ hab hc, ih ht]
    rfl
  | case8 => cases h
  | case9 => cases h
  | case10 a ha b hl c hl₃ d r hl₄ ih =>
    obtain ⟨t, ht, rfl⟩ := Option.map_eq_some_iff.1 h
    obtain ⟨⟨hab, hc⟩, hd⟩ : (leadsFour a b = true ∧ isTail c = true) ∧ isTail d = true := by
      simpa using hl₄
    rw [encode_cons, encodeChar_char₄ hab hc hd, ih ht]
    rfl
  | case11 => cases h

theorem decode?_eq_some_iff {b : Bytes} {s : List Char} : decode? b = some s ↔ b = encode s :=
  ⟨fun h => (encode_of_decode? h).symm, fun h => h ▸ decode?_encode s⟩

/-- The bytes of two characters differ first where those of the smaller one are smaller. -/
theorem encodeChar_lt {c d : Char} (h : c < d) (s t : Bytes) :
    encodeChar c ++ s < encodeChar d ++ t := by
  have hcd : c.toNat < d.toNat := UInt32.lt_iff_toNat_lt.1 h
  have hd : d.toNat < 0x110000 := by
    rcases d.valid with hv | hv
    · exact Nat.lt_trans hv (by decide)
    · exact hv.2
  simp only [encodeChar]
  repeat' split
  all_goals
    simp (disch := omega) only [List.cons_append, List.nil_append, List.cons_lt_cons_iff,
      UInt8.lt_iff_toNat_lt, ← UInt8.toNat_inj, toNat_byte]
    omega

theorem encode_lt {s t : List Char} (h : s < t) : encode s < encode t := by
  induction s generalizing t with
  | nil =>
    cases t with
    | nil => exact absurd h (List.lt_irrefl [])
    | cons d t =>
      obtain ⟨b, r, hb⟩ := List.exists_cons_of_ne_nil (encodeChar_ne_nil d)
      rw [encode_cons, hb]
      exact List.nil_lt_cons b _
  | cons c s ih =>
    cases t with
    | nil => exact absurd h (List.not_lt_nil _)
    | cons d t =>
      rw [encode_cons, encode_cons]
      rcases List.cons_lt_cons_iff.1 h with hcd | ⟨rfl, hst⟩
      · exact encodeChar_lt hcd _ _
      · exact List.append_left_lt (ih hst)

theorem ofString_lt {s t : String} (h : s < t) : ofString s < ofString t :=
  encode_lt h

end ObjectStorage.Utf8
