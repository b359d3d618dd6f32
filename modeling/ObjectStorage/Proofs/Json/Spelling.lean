import ObjectStorage.Proofs.Json.Integer

/-!
# Spellings

The ways of writing a tree as JSON text: blanks anywhere between tokens, every escape of a
character in a string. A spelling is stated with what follows it. The bytes of a string are read as
they are spelled; that a whole tree is, is said where its reader is.
-/
namespace ObjectStorage.Json

def isPlain (c : Char) : Bool := c != '"' && c != '\\' && 0x20 ≤ c.toNat

/-- The number that four hexadecimal digits spell. -/
def unit? (a b c d : UInt8) : Option Nat :=
  match hexByte? a, hexByte? b, hexByte? c, hexByte? d with
  | some a, some b, some c, some d => some (a * 4096 + b * 256 + c * 16 + d)
  | _, _, _, _ => none

/-- From after the opening quote: the characters of the string, and what follows the closing
quote. A character above U+FFFF is escaped as two surrogates. -/
inductive TextSpelling : Bytes → List Char → Bytes → Prop
  | close {rest : Bytes} : TextSpelling (0x22 :: rest) [] rest
  | plain {c : Char} {s rest : Bytes} {t : List Char} (hc : isPlain c = true)
      (tail : TextSpelling s t rest) : TextSpelling (Utf8.encodeChar c ++ s) (c :: t) rest
  | letter {b x : UInt8} {s rest : Bytes} {t : List Char} (hb : simpleEscape? b = some x)
      (tail : TextSpelling s t rest) :
      TextSpelling (0x5C :: b :: s) (Char.ofNat x.toNat :: t) rest
  | unit {a b c d : UInt8} {n : Nat} {s rest : Bytes} {t : List Char}
      (hn : unit? a b c d = some n) (low : n < 0xD800 ∨ 0xDFFF < n)
      (tail : TextSpelling s t rest) :
      TextSpelling (0x5C :: 0x75 :: a :: b :: c :: d :: s) (Char.ofNat n :: t) rest
  | pair {a b c d a' b' c' d' : UInt8} {n m : Nat} {s rest : Bytes} {t : List Char}
      (hn : unit? a b c d = some n) (leading : 0xD800 ≤ n ∧ n ≤ 0xDBFF)
      (hm : unit? a' b' c' d' = some m) (trailing : 0xDC00 ≤ m ∧ m ≤ 0xDFFF)
      (tail : TextSpelling s t rest) :
      TextSpelling (0x5C :: 0x75 :: a :: b :: c :: d :: 0x5C :: 0x75 :: a' :: b' :: c' :: d' :: s)
        (Char.ofNat (0x10000 + (n - 0xD800) * 1024 + (m - 0xDC00)) :: t) rest

def isPlainByte (b : UInt8) : Bool := b != 0x22 && b != 0x5C && !(b < 0x20)

theorem isPlainByte_of_le {n : Nat} (low : 0x80 ≤ n) (high : n < 256) :
    isPlainByte (UInt8.ofNat n) = true := by
  simp only [isPlainByte, Bool.and_eq_true, bne_iff_ne, ne_eq, Utf8.byte_eq high,
    Bool.not_eq_true', decide_eq_false_iff_not, Utf8.byte_lt high]
  simp
  omega

theorem isPlainByte_of_mem {c : Char} (hc : isPlain c = true) :
    ∀ b ∈ Utf8.encodeChar c, isPlainByte b = true := by
  have hv : c.toNat < 0x110000 := by
    rcases c.valid with h | h
    · exact Nat.lt_trans h (by decide)
    · exact h.2
  simp only [isPlain, Bool.and_eq_true, bne_iff_ne, ne_eq, decide_eq_true_eq] at hc
  obtain ⟨⟨hq, hs⟩, hl⟩ := hc
  have hq : c.toNat ≠ 0x22 := fun h => hq (Char.ext (UInt32.toNat_inj.1 h))
  have hs : c.toNat ≠ 0x5C := fun h => hs (Char.ext (UInt32.toNat_inj.1 h))
  intro b hb
  simp only [Utf8.encodeChar] at hb
  split at hb
  · next h =>
    have hn : c.toNat < 256 := by omega
    rw [List.mem_singleton.1 hb]
    simp only [isPlainByte, Bool.and_eq_true, bne_iff_ne, ne_eq, Utf8.byte_eq hn,
      Bool.not_eq_true', decide_eq_false_iff_not, Utf8.byte_lt hn]
    simp
    omega
  · split at hb
    · simp only [List.mem_cons, List.not_mem_nil, or_false] at hb
      rcases hb with rfl | rfl <;> exact isPlainByte_of_le (by omega) (by omega)
    · split at hb <;> simp only [List.mem_cons, List.not_mem_nil, or_false] at hb
      · rcases hb with rfl | rfl | rfl <;> exact isPlainByte_of_le (by omega) (by omega)
      · rcases hb with rfl | rfl | rfl | rfl <;> exact isPlainByte_of_le (by omega) (by omega)

theorem readTextBytes_plain {b : UInt8} (hb : isPlainByte b = true) (fuel : Nat) (s : Bytes) :
    readTextBytes (fuel + 1) (b :: s) =
      (readTextBytes fuel s).map fun (t, r) => (b :: t, r) := by
  simp only [isPlainByte, Bool.and_eq_true, bne_iff_ne, ne_eq, Bool.not_eq_true',
    decide_eq_false_iff_not] at hb
  rw [readTextBytes.eq_def]
  simp only [if_neg hb.1.1, if_neg hb.1.2, if_neg hb.2]
  cases readTextBytes fuel s <;> rfl

theorem readTextBytes_append {bs s t rest : Bytes} (hb : ∀ b ∈ bs, isPlainByte b = true)
    {fuel : Nat} (h : readTextBytes fuel s = .ok (t, rest)) :
    readTextBytes (fuel + bs.length) (bs ++ s) = .ok (bs ++ t, rest) := by
  induction bs with
  | nil => exact h
  | cons b bs ih =>
    have tail := ih fun x hx => hb x (List.mem_cons_of_mem b hx)
    rw [List.cons_append, List.length_cons, ← Nat.add_assoc,
      readTextBytes_plain (hb b List.mem_cons_self), tail]
    rfl

theorem readUnit_of_unit? {a b c d : UInt8} {n : Nat} (h : unit? a b c d = some n) (s : Bytes) :
    readUnit (a :: b :: c :: d :: s) = .ok (n, s) := by
  rw [unit?] at h
  split at h
  · next ha hb hc hd =>
    cases h
    rw [readUnit]
    simp only [ha, hb, hc, hd]
  · cases h

theorem encodeChar_letter {b x : UInt8} (h : simpleEscape? b = some x) :
    Utf8.encodeChar (Char.ofNat x.toNat) = [x] := by
  unfold simpleEscape? at h
  repeat' split at h
  all_goals first | (cases h; decide) | cases h

theorem letter_ne {b x : UInt8} (h : simpleEscape? b = some x) : b ≠ 0x75 := by
  rintro rfl
  cases h

theorem TextSpelling.length_lt {s rest : Bytes} {t : List Char} (h : TextSpelling s t rest) :
    rest.length < s.length := by
  induction h with
  | close => simp
  | plain hc tail ih => rw [List.length_append]; omega
  | letter hb tail ih => simp only [List.length_cons]; omega
  | unit hn low tail ih => simp only [List.length_cons]; omega
  | pair hn leading hm trailing tail ih => simp only [List.length_cons]; omega

theorem readCodePoint_unit {a b c d : UInt8} {n : Nat} (hn : unit? a b c d = some n)
    (low : n < 0xD800 ∨ 0xDFFF < n) (s : Bytes) :
    readCodePoint (a :: b :: c :: d :: s) = .ok (Char.ofNat n, s) := by
  have h₁ : ¬ (0xDC00 ≤ n ∧ n ≤ 0xDFFF) := by omega
  have h₂ : n < 0xD800 ∨ n > 0xDBFF := by omega
  simp only [readCodePoint, readUnit_of_unit? hn]
  change (if 0xDC00 ≤ n ∧ n ≤ 0xDFFF then _ else _) = _
  rw [if_neg h₁, if_pos h₂]
  rfl

theorem readCodePoint_pair {a b c d a' b' c' d' : UInt8} {n m : Nat}
    (hn : unit? a b c d = some n) (leading : 0xD800 ≤ n ∧ n ≤ 0xDBFF)
    (hm : unit? a' b' c' d' = some m) (trailing : 0xDC00 ≤ m ∧ m ≤ 0xDFFF) (s : Bytes) :
    readCodePoint (a :: b :: c :: d :: 0x5C :: 0x75 :: a' :: b' :: c' :: d' :: s) =
      .ok (Char.ofNat (0x10000 + (n - 0xD800) * 1024 + (m - 0xDC00)), s) := by
  have h₁ : ¬ (0xDC00 ≤ n ∧ n ≤ 0xDFFF) := by omega
  have h₂ : ¬ (n < 0xD800 ∨ n > 0xDBFF) := by omega
  have h₃ : ¬ (m < 0xDC00 ∨ m > 0xDFFF) := by omega
  simp only [readCodePoint, readUnit_of_unit? hn]
  change (if 0xDC00 ≤ n ∧ n ≤ 0xDFFF then _ else _) = _
  rw [if_neg h₁, if_neg h₂]
  change (readUnit (a' :: b' :: c' :: d' :: s)).bind _ = _
  rw [readUnit_of_unit? hm]
  change (if m < 0xDC00 ∨ m > 0xDFFF then _ else _) = _
  rw [if_neg h₃]
  rfl

theorem readTextBytes_letter {b x : UInt8} (hb : simpleEscape? b = some x) (fuel : Nat)
    (s : Bytes) :
    readTextBytes (fuel + 1) (0x5C :: b :: s) =
      (readTextBytes fuel s).map fun (t, r) => (x :: t, r) := by
  rw [readTextBytes.eq_def]
  simp only [if_neg (letter_ne hb), hb, if_neg (show ¬ (0x5C : UInt8) = 0x22 by decide)]
  cases readTextBytes fuel s <;> rfl

theorem readTextBytes_codePoint {s r : Bytes} {c : Char} (h : readCodePoint s = .ok (c, r))
    (fuel : Nat) :
    readTextBytes (fuel + 1) (0x5C :: 0x75 :: s) =
      (readTextBytes fuel r).map fun (t, r) => (Utf8.encodeChar c ++ t, r) := by
  rw [readTextBytes.eq_def]
  simp only [if_neg (show ¬ (0x5C : UInt8) = 0x22 by decide), h]
  change (readTextBytes fuel r).bind _ = _
  cases readTextBytes fuel r <;> rfl

theorem readTextBytes_of_spelling {s rest : Bytes} {t : List Char} (h : TextSpelling s t rest)
    {fuel : Nat} (hf : s.length ≤ fuel + rest.length) :
    readTextBytes fuel s = .ok (Utf8.encode t, rest) := by
  induction h generalizing fuel with
  | close =>
    obtain ⟨k, rfl⟩ : ∃ k, fuel = k + 1 := ⟨fuel - 1, by simp at hf; omega⟩
    rfl
  | @plain c s rest t hc tail ih =>
    have hl := tail.length_lt
    rw [List.length_append] at hf
    obtain ⟨k, rfl⟩ : ∃ k, fuel = k + (Utf8.encodeChar c).length :=
      ⟨fuel - (Utf8.encodeChar c).length, by omega⟩
    exact readTextBytes_append (isPlainByte_of_mem hc) (ih (by omega))
  | letter hb tail ih =>
    have hl := tail.length_lt
    simp only [List.length_cons] at hf
    obtain ⟨k, rfl⟩ : ∃ k, fuel = k + 1 := ⟨fuel - 1, by omega⟩
    rw [readTextBytes_letter hb, ih (by omega), Utf8.encode_cons, encodeChar_letter hb]
    rfl
  | unit hn low tail ih =>
    have hl := tail.length_lt
    simp only [List.length_cons] at hf
    obtain ⟨k, rfl⟩ : ∃ k, fuel = k + 1 := ⟨fuel - 1, by omega⟩
    rw [readTextBytes_codePoint (readCodePoint_unit hn low _), ih (by omega), Utf8.encode_cons]
    rfl
  | pair hn leading hm trailing tail ih =>
    have hl := tail.length_lt
    simp only [List.length_cons] at hf
    obtain ⟨k, rfl⟩ : ∃ k, fuel = k + 1 := ⟨fuel - 1, by omega⟩
    rw [readTextBytes_codePoint (readCodePoint_pair hn leading hm trailing _), ih (by omega),
      Utf8.encode_cons]
    rfl

mutual

/-- A value with any blanks before it. Of the numbers it has the integers of 64 bits. -/
inductive Spelling : Bytes → Tree → Bytes → Prop
  | null {s rest : Bytes} (h : skipBlanks s = 0x6E :: 0x75 :: 0x6C :: 0x6C :: rest) :
      Spelling s .null rest
  | yes {s rest : Bytes} (h : skipBlanks s = 0x74 :: 0x72 :: 0x75 :: 0x65 :: rest) :
      Spelling s (.boolean true) rest
  | no {s rest : Bytes} (h : skipBlanks s = 0x66 :: 0x61 :: 0x6C :: 0x73 :: 0x65 :: rest) :
      Spelling s (.boolean false) rest
  | integer {s rest : Bytes} {v : Int} (content : IntegerSpelling (skipBlanks s) v rest) :
      Spelling s (.number (.ok (.integer v))) rest
  | text {s r rest : Bytes} {t : List Char} (h : skipBlanks s = 0x22 :: r)
      (content : TextSpelling r t rest) : Spelling s (.text (.ok (String.ofList t))) rest
  | list {s r rest : Bytes} {ts : List Tree} (h : skipBlanks s = 0x5B :: r)
      (items : ItemsSpelling true r ts rest) : Spelling s (.list ts .closed) rest
  | object {s r rest : Bytes} {ms : List (Except Error String × Tree)}
      (h : skipBlanks s = 0x7B :: r) (members : MembersSpelling true r ms rest) :
      Spelling s (.object ms .closed) rest

/-- The items of a list up to its bracket, from the opening one if the flag is set. -/
inductive ItemsSpelling : Bool → Bytes → List Tree → Bytes → Prop
  | close {first : Bool} {s rest : Bytes} (h : skipBlanks s = 0x5D :: rest) :
      ItemsSpelling first s [] rest
  | first {s r rest : Bytes} {t : Tree} {ts : List Tree} (item : Spelling s t r)
      (tail : ItemsSpelling false r ts rest) : ItemsSpelling true s (t :: ts) rest
  | next {s r q rest : Bytes} {t : Tree} {ts : List Tree} (h : skipBlanks s = 0x2C :: r)
      (item : Spelling r t q) (tail : ItemsSpelling false q ts rest) :
      ItemsSpelling false s (t :: ts) rest

/-- The members of an object up to its brace, from the opening one if the flag is set. -/
inductive MembersSpelling : Bool → Bytes → List (Except Error String × Tree) → Bytes → Prop
  | close {first : Bool} {s rest : Bytes} (h : skipBlanks s = 0x7D :: rest) :
      MembersSpelling first s [] rest
  | first {s r q p o rest : Bytes} {k : List Char} {t : Tree}
      {ms : List (Except Error String × Tree)} (h : skipBlanks s = 0x22 :: r)
      (key : TextSpelling r k q) (colon : skipBlanks q = 0x3A :: p) (value : Spelling p t o)
      (tail : MembersSpelling false o ms rest) :
      MembersSpelling true s ((.ok (String.ofList k), t) :: ms) rest
  | next {s s' r q p o rest : Bytes} {k : List Char} {t : Tree}
      {ms : List (Except Error String × Tree)} (comma : skipBlanks s = 0x2C :: s')
      (h : skipBlanks s' = 0x22 :: r) (key : TextSpelling r k q)
      (colon : skipBlanks q = 0x3A :: p) (value : Spelling p t o)
      (tail : MembersSpelling false o ms rest) :
      MembersSpelling false s ((.ok (String.ofList k), t) :: ms) rest

end

theorem length_skipBlanks (s : Bytes) : (skipBlanks s).length ≤ s.length :=
  (List.dropWhile_sublist _).length_le

theorem length_lt_of_skipBlanks {s r : Bytes} {b : UInt8} (h : skipBlanks s = b :: r) :
    r.length < s.length := by
  have hl := length_skipBlanks s
  rw [h, List.length_cons] at hl
  omega

theorem skipBlanks_of_eq {s r : Bytes} {b : UInt8} (h : skipBlanks s = b :: r) :
    skipBlanks (b :: r) = b :: r := by
  have hb : Blank.isJsonBlank b = false := by
    have hn := List.head?_dropWhile_not Blank.isJsonBlank s
    rw [show s.dropWhile Blank.isJsonBlank = b :: r from h] at hn
    exact hn
  simp [skipBlanks, hb]

end ObjectStorage.Json
