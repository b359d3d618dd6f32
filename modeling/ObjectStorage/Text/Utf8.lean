import ObjectStorage.Bytes

/-!
# UTF-8

`encode` writes characters as bytes, `decode?` reads exactly the well-formed byte sequences and
`decodeLossy` reads every sequence, with one replacement character for each longest ill-formed
start of a character. `decode?_encode` and `toStringLossy_ofString`: what is written reads back.
-/
namespace ObjectStorage.Utf8

def encodeChar (c : Char) : Bytes :=
  let n := c.toNat
  if n < 0x80 then [UInt8.ofNat n]
  else if n < 0x800 then [UInt8.ofNat (0xC0 + n / 64), UInt8.ofNat (0x80 + n % 64)]
  else if n < 0x10000 then
    [UInt8.ofNat (0xE0 + n / 4096), UInt8.ofNat (0x80 + n / 64 % 64), UInt8.ofNat (0x80 + n % 64)]
  else
    [UInt8.ofNat (0xF0 + n / 262144), UInt8.ofNat (0x80 + n / 4096 % 64),
      UInt8.ofNat (0x80 + n / 64 % 64), UInt8.ofNat (0x80 + n % 64)]

def encode (s : List Char) : Bytes := s.flatMap encodeChar

theorem encodeChar_ne_nil (c : Char) : encodeChar c ≠ [] := by
  simp only [encodeChar]
  repeat' split
  all_goals exact List.cons_ne_nil _ _

theorem encode_cons (c : Char) (s : List Char) : encode (c :: s) = encodeChar c ++ encode s :=
  List.flatMap_cons

theorem encode_append (s t : List Char) : encode (s ++ t) = encode s ++ encode t :=
  List.flatMap_append

def isTail (b : UInt8) : Bool := 0x80 ≤ b && b ≤ 0xBF

def leadsTwo (a : UInt8) : Bool := 0xC2 ≤ a && a ≤ 0xDF

/-- The first two bytes of a three-byte character: no overlong form, no surrogate. -/
def leadsThree (a b : UInt8) : Bool :=
  (a == 0xE0 && 0xA0 ≤ b && b ≤ 0xBF) || (0xE1 ≤ a && a ≤ 0xEC && isTail b) ||
    (a == 0xED && 0x80 ≤ b && b ≤ 0x9F) || (0xEE ≤ a && a ≤ 0xEF && isTail b)

/-- The first two bytes of a four-byte character: no overlong form, none above U+10FFFF. -/
def leadsFour (a b : UInt8) : Bool :=
  (a == 0xF0 && 0x90 ≤ b && b ≤ 0xBF) || (0xF1 ≤ a && a ≤ 0xF3 && isTail b) ||
    (a == 0xF4 && 0x80 ≤ b && b ≤ 0x8F)

def char₂ (a b : UInt8) : Char := Char.ofNat (a.toNat % 32 * 64 + b.toNat % 64)

def char₃ (a b c : UInt8) : Char :=
  Char.ofNat (a.toNat % 16 * 4096 + b.toNat % 64 * 64 + c.toNat % 64)

def char₄ (a b c d : UInt8) : Char :=
  Char.ofNat (a.toNat % 8 * 262144 + b.toNat % 64 * 4096 + c.toNat % 64 * 64 + d.toNat % 64)

def decode? : Bytes → Option (List Char)
  | [] => some []
  | a :: r =>
    if a < 0x80 then (decode? r).map (Char.ofNat a.toNat :: ·)
    else match r with
    | [] => none
    | b :: r =>
      if leadsTwo a then
        if isTail b then (decode? r).map (char₂ a b :: ·) else none
      else match r with
      | [] => none
      | c :: r =>
        if leadsThree a b then
          if isTail c then (decode? r).map (char₃ a b c :: ·) else none
        else match r with
        | [] => none
        | d :: r =>
          if leadsFour a b && isTail c && isTail d then (decode? r).map (char₄ a b c d :: ·)
          else none

def replacement : Char := '\ufffd'

def decodeLossy : Bytes → List Char
  | [] => []
  | a :: r =>
    if a < 0x80 then Char.ofNat a.toNat :: decodeLossy r
    else match r with
    | [] => [replacement]
    | b :: r₂ =>
      if leadsTwo a then
        if isTail b then char₂ a b :: decodeLossy r₂ else replacement :: decodeLossy (b :: r₂)
      else if leadsThree a b then
        match r₂ with
        | [] => [replacement]
        | c :: r₃ =>
          if isTail c then char₃ a b c :: decodeLossy r₃ else replacement :: decodeLossy (c :: r₃)
      else if leadsFour a b then
        match r₂ with
        | [] => [replacement]
        | c :: r₃ =>
          if isTail c then
            match r₃ with
            | [] => [replacement]
            | d :: r₄ =>
              if isTail d then char₄ a b c d :: decodeLossy r₄
              else replacement :: decodeLossy (d :: r₄)
          else replacement :: decodeLossy (c :: r₃)
      else replacement :: decodeLossy (b :: r₂)

def ofString (s : String) : Bytes := encode s.toList

def toString? (b : Bytes) : Option String := (decode? b).map String.ofList

def toStringLossy (b : Bytes) : String := String.ofList (decodeLossy b)

theorem toNat_byte {n : Nat} (h : n < 256) : (UInt8.ofNat n).toNat = n :=
  UInt8.toNat_ofNat_of_lt' h

theorem le_byte {k : UInt8} {n : Nat} (h : n < 256) : k ≤ UInt8.ofNat n ↔ k.toNat ≤ n := by
  rw [UInt8.le_iff_toNat_le, toNat_byte h]

theorem byte_le {k : UInt8} {n : Nat} (h : n < 256) : UInt8.ofNat n ≤ k ↔ n ≤ k.toNat := by
  rw [UInt8.le_iff_toNat_le, toNat_byte h]

theorem byte_lt {k : UInt8} {n : Nat} (h : n < 256) : UInt8.ofNat n < k ↔ n < k.toNat := by
  rw [UInt8.lt_iff_toNat_lt, toNat_byte h]

theorem byte_eq {k : UInt8} {n : Nat} (h : n < 256) : UInt8.ofNat n = k ↔ n = k.toNat := by
  rw [← UInt8.toNat_inj, toNat_byte h]

theorem isTail_byte {n : Nat} (h : n < 64) : isTail (UInt8.ofNat (0x80 + n)) = true := by
  have hb : 0x80 + n < 256 := by omega
  simp only [isTail, le_byte hb, byte_le hb, Bool.and_eq_true, decide_eq_true_eq]
  exact ⟨by simp, by simp; omega⟩

theorem decode?_one {n : Nat} (h : n < 0x80) (r : Bytes) :
    decode? (UInt8.ofNat n :: r) = (decode? r).map (Char.ofNat n :: ·) := by
  have ha : UInt8.ofNat n < 0x80 := (byte_lt (by omega)).2 h
  rw [decode?.eq_def]
  simp only [ha, if_true, toNat_byte (show n < 256 by omega)]

theorem decode?_two {a b : Nat} (ha : 2 ≤ a) (ha' : a < 32) (hb : b < 64) (r : Bytes) :
    decode? (UInt8.ofNat (0xC0 + a) :: UInt8.ofNat (0x80 + b) :: r) =
      (decode? r).map (Char.ofNat (a * 64 + b) :: ·) := by
  have hx : 0xC0 + a < 256 := by omega
  have hn : ¬ UInt8.ofNat (0xC0 + a) < 0x80 := by rw [byte_lt hx]; simp; omega
  have hl : leadsTwo (UInt8.ofNat (0xC0 + a)) = true := by
    simp only [leadsTwo, le_byte hx, byte_le hx, Bool.and_eq_true, decide_eq_true_eq]
    exact ⟨by simp; omega, by simp; omega⟩
  have hv : char₂ (UInt8.ofNat (0xC0 + a)) (UInt8.ofNat (0x80 + b)) = Char.ofNat (a * 64 + b) := by
    rw [char₂, toNat_byte hx, toNat_byte (by omega), show (0xC0 + a) % 32 = a by omega,
      show (0x80 + b) % 64 = b by omega]
  rw [decode?.eq_def]
  simp only [hn, if_false, hl, isTail_byte hb, hv, if_true]

theorem decode?_three {a b c : Nat} (ha : a < 16) (hb : b < 64) (hc : c < 64)
    (low : 0x800 ≤ a * 4096 + b * 64) (gap : a = 13 → b < 32) (r : Bytes) :
    decode? (UInt8.ofNat (0xE0 + a) :: UInt8.ofNat (0x80 + b) :: UInt8.ofNat (0x80 + c) :: r) =
      (decode? r).map (Char.ofNat (a * 4096 + b * 64 + c) :: ·) := by
  have hx : 0xE0 + a < 256 := by omega
  have hy : 0x80 + b < 256 := by omega
  have hn : ¬ UInt8.ofNat (0xE0 + a) < 0x80 := by rw [byte_lt hx]; simp; omega
  have h₂ : leadsTwo (UInt8.ofNat (0xE0 + a)) = false := by
    simp only [leadsTwo, byte_le hx, Bool.and_eq_false_iff, decide_eq_false_iff_not]
    exact Or.inr (by simp; omega)
  have h₃ : leadsThree (UInt8.ofNat (0xE0 + a)) (UInt8.ofNat (0x80 + b)) = true := by
    simp only [leadsThree, isTail_byte hb, le_byte hx, byte_le hx, le_byte hy, byte_le hy,
      Bool.or_eq_true, Bool.and_eq_true, beq_iff_eq, byte_eq hx, decide_eq_true_eq]
    simp
    omega
  have hv : char₃ (UInt8.ofNat (0xE0 + a)) (UInt8.ofNat (0x80 + b)) (UInt8.ofNat (0x80 + c)) =
      Char.ofNat (a * 4096 + b * 64 + c) := by
    rw [char₃, toNat_byte hx, toNat_byte hy, toNat_byte (by omega),
      show (0xE0 + a) % 16 = a by omega, show (0x80 + b) % 64 = b by omega,
      show (0x80 + c) % 64 = c by omega]
  rw [decode?.eq_def]
  simp only [hn, if_false, h₂, h₃, isTail_byte hc, hv, if_true, Bool.false_eq_true]

theorem decode?_four {a b c d : Nat} (ha : a < 5) (hb : b < 64) (hc : c < 64) (hd : d < 64)
    (low : 0x10000 ≤ a * 262144 + b * 4096) (high : a * 262144 + b * 4096 < 0x110000) (r : Bytes) :
    decode? (UInt8.ofNat (0xF0 + a) :: UInt8.ofNat (0x80 + b) :: UInt8.ofNat (0x80 + c) ::
        UInt8.ofNat (0x80 + d) :: r) =
      (decode? r).map (Char.ofNat (a * 262144 + b * 4096 + c * 64 + d) :: ·) := by
  have hx : 0xF0 + a < 256 := by omega
  have hy : 0x80 + b < 256 := by omega
  have hn : ¬ UInt8.ofNat (0xF0 + a) < 0x80 := by rw [byte_lt hx]; simp; omega
  have h₂ : leadsTwo (UInt8.ofNat (0xF0 + a)) = false := by
    simp only [leadsTwo, byte_le hx, Bool.and_eq_false_iff, decide_eq_false_iff_not]
    exact Or.inr (by simp; omega)
  have h₃ : leadsThree (UInt8.ofNat (0xF0 + a)) (UInt8.ofNat (0x80 + b)) = false := by
    rw [Bool.eq_false_iff]
    simp only [ne_eq, leadsThree, le_byte hx, byte_le hx, le_byte hy, byte_le hy,
      Bool.or_eq_true, Bool.and_eq_true, beq_iff_eq, byte_eq hx, decide_eq_true_eq]
    simp
    omega
  have h₄ : leadsFour (UInt8.ofNat (0xF0 + a)) (UInt8.ofNat (0x80 + b)) = true := by
    simp only [leadsFour, isTail_byte hb, le_byte hx, byte_le hx, le_byte hy, byte_le hy,
      Bool.or_eq_true, Bool.and_eq_true, beq_iff_eq, byte_eq hx, decide_eq_true_eq]
    simp
    omega
  have hv : char₄ (UInt8.ofNat (0xF0 + a)) (UInt8.ofNat (0x80 + b)) (UInt8.ofNat (0x80 + c))
      (UInt8.ofNat (0x80 + d)) = Char.ofNat (a * 262144 + b * 4096 + c * 64 + d) := by
    rw [char₄, toNat_byte hx, toNat_byte hy, toNat_byte (by omega), toNat_byte (by omega),
      show (0xF0 + a) % 8 = a by omega, show (0x80 + b) % 64 = b by omega,
      show (0x80 + c) % 64 = c by omega, show (0x80 + d) % 64 = d by omega]
  rw [decode?.eq_def]
  simp only [hn, if_false, h₂, h₃, h₄, isTail_byte hc, isTail_byte hd, hv, if_true,
    Bool.false_eq_true, Bool.and_self]

theorem decode?_encodeChar (c : Char) (r : Bytes) :
    decode? (encodeChar c ++ r) = (decode? r).map (c :: ·) := by
  have hc : c.toNat < 0xD800 ∨ 0xDFFF < c.toNat ∧ c.toNat < 0x110000 := c.valid
  simp only [encodeChar]
  split
  · next h =>
    rw [List.singleton_append, decode?_one h, Char.ofNat_toNat]
  · split
    · next h =>
      rw [List.cons_append, List.singleton_append, decode?_two (by omega) (by omega) (by omega),
        show c.toNat / 64 * 64 + c.toNat % 64 = c.toNat by omega, Char.ofNat_toNat]
    · split
      · next h =>
        rw [List.cons_append, List.cons_append, List.singleton_append,
          decode?_three (by omega) (by omega) (by omega) (by omega) (by omega),
          show c.toNat / 4096 * 4096 + c.toNat / 64 % 64 * 64 + c.toNat % 64 = c.toNat by omega,
          Char.ofNat_toNat]
      · next h =>
        rw [List.cons_append, List.cons_append, List.cons_append, List.singleton_append,
          decode?_four (by omega) (by omega) (by omega) (by omega) (by omega) (by omega),
          show c.toNat / 262144 * 262144 + c.toNat / 4096 % 64 * 4096 + c.toNat / 64 % 64 * 64 +
            c.toNat % 64 = c.toNat by omega, Char.ofNat_toNat]

theorem decode?_encode (s : List Char) : decode? (encode s) = some s := by
  induction s with
  | nil => rw [encode, List.flatMap_nil, decode?.eq_def]
  | cons c s ih =>
    rw [encode, List.flatMap_cons, decode?_encodeChar, ← encode, ih, Option.map_some]

theorem toString?_ofString (s : String) : toString? (ofString s) = some s := by
  rw [toString?, ofString, decode?_encode, Option.map_some, String.ofList_toList]

theorem ofString_injective {s t : String} (h : ofString s = ofString t) : s = t := by
  have hs := toString?_ofString s
  rw [h, toString?_ofString] at hs
  exact (Option.some.inj hs).symm

theorem decodeLossy_of_decode? {b : Bytes} {s : List Char} (h : decode? b = some s) :
    decodeLossy b = s := by
  fun_induction decode? b generalizing s with
  | case1 =>
    cases h
    rfl
  | case2 a r ha ih =>
    obtain ⟨t, ht, rfl⟩ := Option.map_eq_some_iff.1 h
    rw [decodeLossy.eq_def]
    simp [ha, ih ht]
  | case3 => cases h
  | case4 a ha b r hl ht ih =>
    obtain ⟨t, hd, rfl⟩ := Option.map_eq_some_iff.1 h
    rw [decodeLossy.eq_def]
    simp [ha, hl, ht, ih hd]
  | case5 => cases h
  | case6 => cases h
  | case7 a ha b hl c r hl₃ ht ih =>
    obtain ⟨t, hd, rfl⟩ := Option.map_eq_some_iff.1 h
    rw [decodeLossy.eq_def]
    simp [ha, hl, hl₃, ht, ih hd]
  | case8 => cases h
  | case9 => cases h
  | case10 a ha b hl c hl₃ d r hl₄ ih =>
    obtain ⟨t, hd, rfl⟩ := Option.map_eq_some_iff.1 h
    simp only [Bool.and_eq_true] at hl₄
    rw [decodeLossy.eq_def]
    simp [ha, hl, hl₃, hl₄, ih hd]
  | case11 => cases h

theorem toStringLossy_ofString (s : String) : toStringLossy (ofString s) = s := by
  rw [toStringLossy, ofString, decodeLossy_of_decode? (decode?_encode s.toList),
    String.ofList_toList]

theorem encodeChar_of_ascii {c : Char} (h : c.toNat < 0x80) :
    encodeChar c = [UInt8.ofNat c.toNat] := by
  simp only [encodeChar, if_pos h]

theorem toNat_ofNat_of_ascii {n : Nat} (h : n < 0x80) : (Char.ofNat n).toNat = n := by
  have hv : n.isValidChar := Or.inl (by omega)
  rw [Char.ofNat, dif_pos hv]
  rfl

theorem encode_of_ascii {b : Bytes} (h : ∀ a ∈ b, a < 0x80) :
    encode (b.map fun a => Char.ofNat a.toNat) = b := by
  induction b with
  | nil => rfl
  | cons a r ih =>
    have ha : a.toNat < 0x80 := UInt8.lt_iff_toNat_lt.1 (h a List.mem_cons_self)
    have hn := toNat_ofNat_of_ascii ha
    rw [List.map_cons, encode_cons, encodeChar_of_ascii (by rw [hn]; exact ha), hn,
      UInt8.ofNat_toNat, ih fun c hc => h c (List.mem_cons_of_mem a hc), List.singleton_append]

theorem ofString_of_ascii {b : Bytes} {s : String} (h : ∀ a ∈ b, a < 0x80)
    (hs : toString? b = some s) : ofString s = b := by
  have hb := encode_of_ascii h
  rw [← hb, toString?, decode?_encode, Option.map_some] at hs
  rw [← Option.some.inj hs, ofString, String.toList_ofList, hb]

end ObjectStorage.Utf8
