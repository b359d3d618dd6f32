import ObjectStorage.Proofs.Json.Spelling
import ObjectStorage.Proofs.Outcome
import ObjectStorage.Proofs.Text.WellFormed

/-!
# Strings and numbers as they are written

What the readers of strings and numbers take, said apart from them and in both directions. Of a
string that nobody asks for only the form counts: `skipText_iff`. A string that is asked for is a
spelling of characters: `readTextLeaf_iff`. A number is digits with a fraction and an exponent, of
any size: `readNumber_of_form` and `numberForm_of_read`.
-/
namespace ObjectStorage.Json

/-- From after the opening quote to after the closing one, whatever the bytes and the numbers of
escapes stand for. -/
inductive TextForm : Bytes → Bytes → Prop
  | close {rest : Bytes} : TextForm (0x22 :: rest) rest
  | plain {b : UInt8} {s rest : Bytes} (hb : isPlainByte b = true) (tail : TextForm s rest) :
      TextForm (b :: s) rest
  | letter {b x : UInt8} {s rest : Bytes} (hb : simpleEscape? b = some x)
      (tail : TextForm s rest) : TextForm (0x5C :: b :: s) rest
  | unit {a b c d : UInt8} {n : Nat} {s rest : Bytes} (hn : unit? a b c d = some n)
      (tail : TextForm s rest) : TextForm (0x5C :: 0x75 :: a :: b :: c :: d :: s) rest

theorem isPlainByte_iff {b : UInt8} :
    isPlainByte b = true ↔ b ≠ 0x22 ∧ b ≠ 0x5C ∧ ¬ b < 0x20 := by
  simp [isPlainByte, and_assoc]

theorem unit?_of_readUnit {s rest : Bytes} {n : Nat} (h : readUnit s = .ok (n, rest)) :
    ∃ a b c d, s = a :: b :: c :: d :: rest ∧ unit? a b c d = some n := by
  rw [readUnit.eq_def] at h
  split at h
  · next a b c d r =>
    split at h
    · next ha hb hc hd =>
      cases h
      refine ⟨a, b, c, d, rfl, ?_⟩
      simp only [unit?, ha, hb, hc, hd]
    · cases h
  · cases h

theorem textForm_of_skip {fuel : Nat} {s rest : Bytes} (h : skipText fuel s = .ok rest) :
    TextForm s rest := by
  induction fuel generalizing s with
  | zero => cases h
  | succ fuel ih =>
    cases s with
    | nil => cases h
    | cons b r =>
      rw [skipText.eq_def] at h
      simp only at h
      split at h
      · next hb =>
        cases h
        rw [hb]
        exact .close
      · next quote =>
        split at h
        · next hb =>
          rw [hb]
          split at h
          · cases h
          · next e r =>
            split at h
            · next he =>
              obtain ⟨⟨n, r'⟩, hn, skipped⟩ := bind_eq_ok h
              obtain ⟨a, b, c, d, rfl, hu⟩ := unit?_of_readUnit hn
              rw [he]
              exact .unit hu (ih skipped)
            · split at h
              · next he =>
                obtain ⟨x, hx⟩ := Option.isSome_iff_exists.1 he
                exact .letter hx (ih h)
              · cases h
        · next escape =>
          split at h
          · cases h
          · next control => exact .plain (isPlainByte_iff.2 ⟨quote, escape, control⟩) (ih h)

theorem TextForm.length_lt {s rest : Bytes} (h : TextForm s rest) : rest.length < s.length := by
  induction h with
  | close => simp
  | plain hb tail ih => simp only [List.length_cons]; omega
  | letter hb tail ih => simp only [List.length_cons]; omega
  | unit hn tail ih => simp only [List.length_cons]; omega

theorem skipText_plain {b : UInt8} (hb : isPlainByte b = true) (fuel : Nat) (s : Bytes) :
    skipText (fuel + 1) (b :: s) = skipText fuel s := by
  obtain ⟨quote, escape, control⟩ := isPlainByte_iff.1 hb
  rw [skipText.eq_def]
  simp only [if_neg quote, if_neg escape, if_neg control]

theorem skipText_unit {a b c d : UInt8} {n : Nat} (hn : unit? a b c d = some n) (fuel : Nat)
    (s : Bytes) :
    skipText (fuel + 1) (0x5C :: 0x75 :: a :: b :: c :: d :: s) = skipText fuel s := by
  rw [skipText.eq_def]
  simp only [if_neg (show ¬ (0x5C : UInt8) = 0x22 by decide), readUnit_of_unit? hn]
  rfl

theorem skipText_of_form {s rest : Bytes} (h : TextForm s rest) {fuel : Nat}
    (hf : s.length ≤ fuel + rest.length) : skipText fuel s = .ok rest := by
  induction h generalizing fuel with
  | close =>
    obtain ⟨k, rfl⟩ : ∃ k, fuel = k + 1 := ⟨fuel - 1, by simp at hf; omega⟩
    rfl
  | plain hb tail ih =>
    have hl := tail.length_lt
    simp only [List.length_cons] at hf
    obtain ⟨k, rfl⟩ : ∃ k, fuel = k + 1 := ⟨fuel - 1, by omega⟩
    rw [skipText_plain hb]
    exact ih (by omega)
  | letter hb tail ih =>
    have hl := tail.length_lt
    simp only [List.length_cons] at hf
    obtain ⟨k, rfl⟩ : ∃ k, fuel = k + 1 := ⟨fuel - 1, by omega⟩
    rw [skipText.eq_def]
    simp only [if_neg (letter_ne hb), hb, if_neg (show ¬ (0x5C : UInt8) = 0x22 by decide),
      Option.isSome_some]
    exact ih (by omega)
  | unit hn tail ih =>
    have hl := tail.length_lt
    simp only [List.length_cons] at hf
    obtain ⟨k, rfl⟩ : ∃ k, fuel = k + 1 := ⟨fuel - 1, by omega⟩
    rw [skipText_unit hn]
    exact ih (by omega)

theorem skipText_iff {s rest : Bytes} : skipText (s.length + 1) s = .ok rest ↔ TextForm s rest :=
  ⟨textForm_of_skip, fun h => skipText_of_form h (by omega)⟩

/-- How the bytes of a string are read: as they are, or out of an escape. -/
inductive TextTaken : Bytes → Bytes → Bytes → Prop
  | close {rest : Bytes} : TextTaken (0x22 :: rest) [] rest
  | plain {b : UInt8} {s t rest : Bytes} (hb : isPlainByte b = true) (tail : TextTaken s t rest) :
      TextTaken (b :: s) (b :: t) rest
  | letter {b x : UInt8} {s t rest : Bytes} (hb : simpleEscape? b = some x)
      (tail : TextTaken s t rest) : TextTaken (0x5C :: b :: s) (x :: t) rest
  | codePoint {c : Char} {s r t rest : Bytes} (hc : readCodePoint s = .ok (c, r))
      (tail : TextTaken r t rest) : TextTaken (0x5C :: 0x75 :: s) (Utf8.encodeChar c ++ t) rest

theorem textTaken_of_read {fuel : Nat} {s t rest : Bytes}
    (h : readTextBytes fuel s = .ok (t, rest)) : TextTaken s t rest := by
  induction fuel generalizing s t with
  | zero => cases h
  | succ fuel ih =>
    cases s with
    | nil => cases h
    | cons b r =>
      rw [readTextBytes.eq_def] at h
      simp only at h
      split at h
      · next hb =>
        cases h
        rw [hb]
        exact .close
      · next quote =>
        split at h
        · next hb =>
          rw [hb]
          split at h
          · cases h
          · next e r =>
            split at h
            · next he =>
              obtain ⟨⟨c, r'⟩, hc, h⟩ := bind_eq_ok h
              obtain ⟨⟨t', q⟩, ht, h⟩ := bind_eq_ok h
              cases h
              rw [he]
              exact .codePoint hc (ih ht)
            · split at h
              · cases h
              · next x hx =>
                obtain ⟨⟨t', q⟩, ht, h⟩ := bind_eq_ok h
                cases h
                exact .letter hx (ih ht)
        · next escape =>
          split at h
          · cases h
          · next control =>
            obtain ⟨⟨t', q⟩, ht, h⟩ := bind_eq_ok h
            cases h
            exact .plain (isPlainByte_iff.2 ⟨quote, escape, control⟩) (ih ht)

theorem readCodePoint_cases {s rest : Bytes} {c : Char} (h : readCodePoint s = .ok (c, rest)) :
    (∃ a b c' d n, s = a :: b :: c' :: d :: rest ∧ unit? a b c' d = some n ∧
      (n < 0xD800 ∨ 0xDFFF < n) ∧ c = Char.ofNat n) ∨
    ∃ a b c' d n a' b' c'' d' m,
      s = a :: b :: c' :: d :: 0x5C :: 0x75 :: a' :: b' :: c'' :: d' :: rest ∧
      unit? a b c' d = some n ∧ (0xD800 ≤ n ∧ n ≤ 0xDBFF) ∧
      unit? a' b' c'' d' = some m ∧ (0xDC00 ≤ m ∧ m ≤ 0xDFFF) ∧
      c = Char.ofNat (0x10000 + (n - 0xD800) * 1024 + (m - 0xDC00)) := by
  obtain ⟨⟨n, r⟩, hn, first⟩ := bind_eq_ok h
  obtain ⟨a, b, c', d, rfl, hu⟩ := unit?_of_readUnit hn
  simp only at first
  split at first
  · cases first
  · next notTrailing =>
    split at first
    · next low =>
      cases first
      exact .inl ⟨a, b, c', d, n, rfl, hu, by omega, rfl⟩
    · next leading =>
      split at first
      · cases first
      · cases first
      · obtain ⟨⟨m, q⟩, hm, second⟩ := bind_eq_ok first
        obtain ⟨a', b', c'', d', rfl, hu'⟩ := unit?_of_readUnit hm
        simp only at second
        split at second
        · cases second
        · next trailing =>
          obtain ⟨hc, rfl⟩ := Prod.mk.inj (Except.ok.inj second)
          exact .inr ⟨a, b, c', d, n, a', b', c'', d', m, rfl, hu, by omega, hu', by omega, hc.symm⟩
      · cases first

theorem letter_not_tail {b x : UInt8} (h : simpleEscape? b = some x) :
    Utf8.isTail x = false := by
  unfold simpleEscape? at h
  repeat' split at h
  all_goals first | (cases h; decide) | cases h

/-- Bytes inside a character are no escapes. -/
theorem TextTaken.tails {bs s t rest : Bytes} (hb : ∀ b ∈ bs, Utf8.isTail b = true)
    (h : TextTaken s (bs ++ t) rest) : ∃ r, s = bs ++ r ∧ TextTaken r t rest := by
  induction bs generalizing s with
  | nil => exact ⟨s, rfl, h⟩
  | cons b bs ih =>
    obtain ⟨tail, tails⟩ := List.forall_mem_cons.1 hb
    generalize hu : b :: bs ++ t = u at h
    cases h with
    | close => cases hu
    | plain _ h =>
      obtain ⟨rfl, rfl⟩ := List.cons.inj hu
      obtain ⟨r, rfl, hr⟩ := ih tails h
      exact ⟨r, rfl, hr⟩
    | letter hx _ =>
      obtain ⟨rfl, -⟩ := List.cons.inj hu
      rw [letter_not_tail hx] at tail
      cases tail
    | @codePoint c _ _ _ _ hc h =>
      obtain ⟨a, _, ha, lead, -⟩ := Utf8.encodeChar_eq_cons c
      rw [ha] at hu
      obtain ⟨rfl, -⟩ := List.cons.inj hu
      rw [lead] at tail
      cases tail

theorem isPlain_of_byte {c : Char} {b : UInt8} {tails : Bytes}
    (hc : Utf8.encodeChar c = b :: tails) (hb : isPlainByte b = true) : isPlain c = true := by
  obtain ⟨quote, escape, control⟩ := isPlainByte_iff.1 hb
  have single (h : c.toNat < 0x80) : b = UInt8.ofNat c.toNat := by
    rw [Utf8.encodeChar_of_ascii h] at hc
    exact (List.cons.inj hc).1.symm
  simp only [isPlain, Bool.and_eq_true, bne_iff_ne, ne_eq, decide_eq_true_eq]
  refine ⟨⟨?_, ?_⟩, ?_⟩
  · rintro rfl
    exact quote (single (by decide))
  · rintro rfl
    exact escape (single (by decide))
  · refine Nat.not_lt.1 fun low => control ?_
    rw [single (by omega), Utf8.byte_lt (by omega)]
    exact low

theorem TextTaken.spelling {t : List Char} {s rest : Bytes}
    (h : TextTaken s (Utf8.encode t) rest) : TextSpelling s t rest := by
  induction t generalizing s with
  | nil =>
    generalize hu : Utf8.encode [] = u at h
    cases h with
    | close => exact .close
    | plain _ _ => cases hu
    | letter _ _ => cases hu
    | @codePoint c _ _ _ _ _ _ =>
      exact absurd (List.append_eq_nil_iff.1 hu.symm).1 (Utf8.encodeChar_ne_nil c)
  | cons c t ih =>
    have read := Utf8.decode?_encode (c :: t)
    generalize hu : Utf8.encode (c :: t) = u at h read
    cases h with
    | close => exact absurd (List.append_eq_nil_iff.1 hu).1 (Utf8.encodeChar_ne_nil c)
    | plain hb h =>
      obtain ⟨b, tails, hc, -, inside⟩ := Utf8.encodeChar_eq_cons c
      rw [Utf8.encode_cons, hc, List.cons_append] at hu
      obtain ⟨rfl, rfl⟩ := List.cons.inj hu
      obtain ⟨r, rfl, hr⟩ := h.tails inside
      have spelled := TextSpelling.plain (isPlain_of_byte hc hb) (ih hr)
      rw [hc] at spelled
      exact spelled
    | @letter _ x _ u _ hx h =>
      have first := Utf8.decode?_encodeChar (Char.ofNat x.toNat) u
      rw [encodeChar_letter hx, List.singleton_append, read] at first
      obtain ⟨t', ht, hc⟩ := Option.map_eq_some_iff.1 first.symm
      obtain ⟨rfl, rfl⟩ := List.cons.inj hc
      rw [← Utf8.encode_of_decode? ht] at h
      exact .letter hx (ih h)
    | codePoint hd h =>
      rw [Utf8.decode?_encodeChar] at read
      obtain ⟨t', ht, hc⟩ := Option.map_eq_some_iff.1 read
      obtain ⟨rfl, rfl⟩ := List.cons.inj hc
      rw [← Utf8.encode_of_decode? ht] at h
      obtain ⟨_, _, _, _, n, rfl, hn, low, rfl⟩ |
        ⟨_, _, _, _, n, _, _, _, _, m, rfl, hn, leading, hm, trailing, hv⟩ :=
        readCodePoint_cases hd
      · exact .unit hn low (ih h)
      · rw [hv]
        exact .pair hn leading hm trailing (ih h)

theorem textForm_of_leaf {s rest : Bytes} {value : Except Error String}
    (h : readTextLeaf s = .ok (value, rest)) : TextForm s rest := by
  rw [readTextLeaf] at h
  split at h
  · next hs =>
    cases h
    exact skipText_iff.1 hs
  · split at h <;> cases h

theorem readTextLeaf_of_form {s rest : Bytes} (h : TextForm s rest) :
    ∃ value, readTextLeaf s = .ok (value, rest) := by
  refine ⟨readText s, ?_⟩
  simp only [readTextLeaf, skipText_iff.2 h]

theorem TextForm.append {bs s rest : Bytes} (hb : ∀ b ∈ bs, isPlainByte b = true)
    (h : TextForm s rest) : TextForm (bs ++ s) rest := by
  induction bs with
  | nil => exact h
  | cons b bs ih =>
    obtain ⟨first, others⟩ := List.forall_mem_cons.1 hb
    exact .plain first (ih others)

theorem TextSpelling.form {s rest : Bytes} {t : List Char} (h : TextSpelling s t rest) :
    TextForm s rest := by
  induction h with
  | close => exact .close
  | plain hc _ ih => exact ih.append (isPlainByte_of_mem hc)
  | letter hb _ ih => exact .letter hb ih
  | unit hn _ _ ih => exact .unit hn ih
  | pair hn _ hm _ _ ih => exact .unit hn (.unit hm ih)

theorem readTextLeaf_of_spelling {s rest : Bytes} {t : List Char} (h : TextSpelling s t rest) :
    readTextLeaf s = .ok (.ok (String.ofList t), rest) := by
  have hf : s.length ≤ s.length + 1 + rest.length := by omega
  have hr : readText s = .ok (String.ofList t) := by
    have decoded : Utf8.toString? (Utf8.encode t) = some (String.ofList t) := by
      rw [Utf8.toString?, Utf8.decode?_encode]
      rfl
    rw [readText, readTextBytes_of_spelling h hf]
    simp only [bind, Except.bind, decoded]
    rfl
  simp only [readTextLeaf, skipText_iff.2 h.form, hr]

theorem readTextLeaf_iff {s rest : Bytes} {t : List Char} :
    readTextLeaf s = .ok (.ok (String.ofList t), rest) ↔ TextSpelling s t rest := by
  refine ⟨fun h => ?_, readTextLeaf_of_spelling⟩
  have value : readText s = .ok (String.ofList t) := by
    rw [readTextLeaf] at h
    split at h
    · exact congrArg Prod.fst (Except.ok.inj h)
    · split at h <;> cases h
  obtain ⟨⟨bytes, rest'⟩, read, value⟩ := bind_eq_ok value
  simp only at value
  split at value
  · next v decoded =>
    cases value
    obtain ⟨cs, hcs, ht⟩ := Option.map_eq_some_iff.1 decoded
    have spelled : TextSpelling s cs rest' := by
      rw [Utf8.decode?_eq_some_iff.1 hcs] at read
      exact (textTaken_of_read read).spelling
    rw [String.ofList_injective ht] at spelled
    have same := readTextLeaf_of_spelling spelled
    rw [h] at same
    cases same
    exact spelled
  · cases value

def IsDigits (ds : Bytes) : Prop := ds ≠ [] ∧ ∀ b ∈ ds, isDigit b = true

inductive FractionForm : Bytes → Prop
  | absent : FractionForm []
  | present {ds : Bytes} (h : IsDigits ds) : FractionForm (0x2E :: ds)

inductive ExponentForm : Bytes → Prop
  | absent : ExponentForm []
  | present {letter : UInt8} {sign ds : Bytes} (hl : letter = 0x65 ∨ letter = 0x45)
      (hs : sign = [] ∨ sign = [0x2B] ∨ sign = [0x2D]) (h : IsDigits ds) :
      ExponentForm (letter :: (sign ++ ds))

/-- A number after its sign, of any size and precision, and what follows it. -/
inductive NumberForm : Bytes → Bytes → Prop
  | parts {whole fraction exponent rest : Bytes} {n : Nat} (hw : DigitSpelling whole n)
      (hf : FractionForm fraction) (he : ExponentForm exponent) :
      NumberForm (whole ++ (fraction ++ (exponent ++ rest))) rest

theorem spanDigits_eq (s : Bytes) :
    ∃ ds rest, s = ds ++ rest ∧ (∀ b ∈ ds, isDigit b = true) ∧
      spanDigits s = (ds.map digitValue, rest) := by
  induction s with
  | nil => exact ⟨[], [], rfl, List.forall_mem_nil _, rfl⟩
  | cons b r ih =>
    rw [spanDigits]
    split
    · next hb =>
      obtain ⟨ds, rest, rfl, hd, hs⟩ := ih
      rw [hs]
      exact ⟨b :: ds, rest, rfl, List.forall_mem_cons.2 ⟨hb, hd⟩, rfl⟩
    · exact ⟨[], b :: r, rfl, List.forall_mem_nil _, rfl⟩

def withDigits {α : Type} (s : Bytes) (f : List Nat → Bytes → Except Error α) : Except Error α :=
  match spanDigits s with
  | ([], []) => .error .endInValue
  | ([], _) => .error .invalidNumber
  | (ds, rest) => f ds rest

theorem withDigits_eq_ok {α : Type} {s : Bytes} {f : List Nat → Bytes → Except Error α} {a : α}
    (h : withDigits s f = .ok a) :
    ∃ ds rest, s = ds ++ rest ∧ IsDigits ds ∧ f (ds.map digitValue) rest = .ok a := by
  obtain ⟨ds, rest, rfl, hd, hs⟩ := spanDigits_eq s
  refine ⟨ds, rest, rfl, ?_⟩
  rw [withDigits, hs] at h
  split at h
  · cases h
  · cases h
  · next hne heq =>
    obtain ⟨rfl, rfl⟩ := Prod.mk.inj heq
    exact ⟨⟨fun hn => hne (by rw [hn, List.map_nil]), hd⟩, h⟩

theorem withDigits_append {α : Type} {ds rest : Bytes} (h : IsDigits ds)
    (last : ∀ b, rest.head? = some b → isDigit b = false)
    (f : List Nat → Bytes → Except Error α) :
    withDigits (ds ++ rest) f = f (ds.map digitValue) rest := by
  rw [withDigits, spanDigits_append ds rest h.2 last]
  split
  · next heq => exact absurd (List.map_eq_nil_iff.1 (Prod.mk.inj heq).1) h.1
  · next heq => exact absurd (List.map_eq_nil_iff.1 (Prod.mk.inj heq).1) h.1
  · next heq =>
    obtain ⟨rfl, rfl⟩ := Prod.mk.inj heq
    rfl

section
variable (negative : Bool) (significand : Nat) (start : Int)

theorem readExponent_plus (r : Bytes) : readExponent negative significand start (0x2B :: r) =
    withDigits r fun ds rest => .ok (withExponent negative significand start false ds, rest) :=
  rfl

theorem readExponent_minus (r : Bytes) : readExponent negative significand start (0x2D :: r) =
    withDigits r fun ds rest => .ok (withExponent negative significand start true ds, rest) :=
  rfl

theorem readExponent_bare {s : Bytes} (plus : ∀ r, s ≠ 0x2B :: r) (minus : ∀ r, s ≠ 0x2D :: r) :
    readExponent negative significand start s =
      withDigits s fun ds rest =>
        .ok (withExponent negative significand start false ds, rest) := by
  rw [readExponent]
  · rfl
  · exact plus
  · exact minus

theorem readExponent_cases (s : Bytes) : ∃ sign r down, s = sign ++ r ∧
    (sign = [] ∨ sign = [0x2B] ∨ sign = [0x2D]) ∧
    readExponent negative significand start s =
      withDigits r fun ds rest =>
        .ok (withExponent negative significand start down ds, rest) := by
  by_cases plus : ∃ r, s = 0x2B :: r
  · obtain ⟨r, rfl⟩ := plus
    exact ⟨[0x2B], r, false, rfl, .inr (.inl rfl), readExponent_plus ..⟩
  · by_cases minus : ∃ r, s = 0x2D :: r
    · obtain ⟨r, rfl⟩ := minus
      exact ⟨[0x2D], r, true, rfl, .inr (.inr rfl), readExponent_minus ..⟩
    · exact ⟨[], s, false, rfl, .inl rfl, readExponent_bare _ _ _
        (fun r h => plus ⟨r, h⟩) fun r h => minus ⟨r, h⟩⟩

theorem readExponent_of_form {sign ds rest : Bytes}
    (hs : sign = [] ∨ sign = [0x2B] ∨ sign = [0x2D]) (h : IsDigits ds) (last : EndsNumber rest) :
    ∃ value, readExponent negative significand start (sign ++ (ds ++ rest)) =
      .ok (value, rest) := by
  have read := withDigits_append (α := Except Error Number × Bytes) h fun b hb => (last b hb).1
  rcases hs with rfl | rfl | rfl
  · obtain ⟨b, r, rfl⟩ := List.exists_cons_of_ne_nil h.1
    have hb : isDigit b = true := h.2 b List.mem_cons_self
    refine ⟨_, (readExponent_bare _ _ _ ?_ ?_).trans (read _)⟩
    · rintro r h
      obtain ⟨rfl, -⟩ := List.cons.inj h
      cases hb
    · rintro r h
      obtain ⟨rfl, -⟩ := List.cons.inj h
      cases hb
  · exact ⟨_, read _⟩
  · exact ⟨_, read _⟩

end

theorem exponentForm_of_read {negative : Bool} {significand : Nat} {start : Int} {s rest : Bytes}
    {letter : UInt8} {value : Except Error Number} (hl : letter = 0x65 ∨ letter = 0x45)
    (h : readExponent negative significand start s = .ok (value, rest)) :
    ∃ e, ExponentForm e ∧ letter :: s = e ++ rest := by
  obtain ⟨sign, r, down, rfl, hs, read⟩ := readExponent_cases negative significand start s
  rw [read] at h
  obtain ⟨ds, rest, rfl, hd, h⟩ := withDigits_eq_ok h
  cases h
  exact ⟨_, .present hl hs hd, by simp⟩

theorem fractionForm_of_read {negative : Bool} {significand : Nat} {left : List Nat}
    {s rest : Bytes} {value : Except Error Number}
    (h : readFraction negative significand left s = .ok (value, rest)) :
    ∃ f e, FractionForm f ∧ ExponentForm e ∧ s = f ++ (e ++ rest) := by
  rw [readFraction.eq_def] at h
  simp only at h
  split at h
  · next r =>
    obtain ⟨ds, q, rfl, hd, read⟩ := withDigits_eq_ok h
    have exponent : ∃ e, ExponentForm e ∧ q = e ++ rest := by
      split at read
      · exact exponentForm_of_read (.inl rfl) read
      · exact exponentForm_of_read (.inr rfl) read
      · cases read
        exact ⟨[], .absent, rfl⟩
    obtain ⟨e, he, rfl⟩ := exponent
    exact ⟨_, e, .present hd, he, rfl⟩
  · obtain ⟨e, he, hs⟩ := exponentForm_of_read (.inl rfl) h
    exact ⟨[], e, .absent, he, hs⟩
  · obtain ⟨e, he, hs⟩ := exponentForm_of_read (.inr rfl) h
    exact ⟨[], e, .absent, he, hs⟩
  · split at h <;> cases h <;> exact ⟨[], [], .absent, .absent, rfl⟩

theorem NumberForm.head {s rest : Bytes} (h : NumberForm s rest) :
    ∃ b r, s = b :: r ∧ isDigit b = true := by
  obtain ⟨hw, -, -⟩ := h
  obtain ⟨b, r, rfl, hb⟩ := hw.head
  exact ⟨b, _, rfl, hb⟩

theorem NumberForm.length_lt {s rest : Bytes} (h : NumberForm s rest) :
    rest.length < s.length := by
  obtain ⟨hw, -, -⟩ := h
  have hl := List.length_pos_iff.2 hw.nonempty
  simp only [List.length_append]
  omega

theorem numberForm_of_read {negative : Bool} {s rest : Bytes} {value : Except Error Number}
    (h : readNumber negative s = .ok (value, rest)) : NumberForm s rest := by
  obtain ⟨ds, q, rfl, hd, hs⟩ := spanDigits_eq s
  rw [readNumber, hs] at h
  split at h
  · cases h
  · cases h
  · cases h
  · next nonempty plain heq =>
    obtain ⟨rfl, rfl⟩ := Prod.mk.inj heq
    obtain ⟨f, e, hf, he, rfl⟩ := fractionForm_of_read h
    refine .parts ⟨hd, fun hn => nonempty (by rw [hn, List.map_nil]), fun first => ?_, rfl⟩ hf he
    -- a zero that is not alone has been refused
    cases ds with
    | nil => cases first
    | cons b ds =>
      cases first
      cases ds with
      | nil => rfl
      | cons c ds => exact absurd rfl (plain _ _)

section
variable (negative : Bool) (significand : Nat) {exponent rest : Bytes}

theorem ExponentForm.head (he : ExponentForm exponent) (last : EndsNumber rest) {b : UInt8}
    (hb : (exponent ++ rest).head? = some b) : isDigit b = false ∧ b ≠ 0x2E := by
  cases he with
  | absent => exact ⟨(last b hb).1, (last b hb).2.1⟩
  | present hl =>
    cases hb
    rcases hl with rfl | rfl <;> decide

/-- An exponent is read wherever one may stand, and else the number is at its end. -/
theorem ExponentForm.read (he : ExponentForm exponent) (last : EndsNumber rest) (start : Int)
    {next : Bytes → Except Error (Except Error Number × Bytes)}
    (small : ∀ r, next (0x65 :: r) = readExponent negative significand start r)
    (large : ∀ r, next (0x45 :: r) = readExponent negative significand start r)
    (ends : ∃ value, next rest = .ok (value, rest)) :
    ∃ value, next (exponent ++ rest) = .ok (value, rest) := by
  cases he with
  | absent => exact ends
  | @present letter sign ds hl hs h =>
    rw [List.cons_append, List.append_assoc]
    rcases hl with rfl | rfl
    · rw [small]
      exact readExponent_of_form negative significand start hs h last
    · rw [large]
      exact readExponent_of_form negative significand start hs h last

def readAfterFraction (left : List Nat) (ds : List Nat) (rest : Bytes) :
    Except Error (Except Error Number × Bytes) :=
  let read := appendDigits significand ds
  let start := (left.length : Int) - (ds.length - read.2.length : Nat)
  match rest with
  | 0x65 :: r => readExponent negative read.1 start r
  | 0x45 :: r => readExponent negative read.1 start r
  | _ => .ok (floatOf negative read.1 start, rest)

theorem readFraction_point (left : List Nat) (r : Bytes) :
    readFraction negative significand left (0x2E :: r) =
      withDigits r (readAfterFraction negative significand left) := rfl

theorem readFraction_of_form (left : List Nat) {fraction : Bytes} (hf : FractionForm fraction)
    (he : ExponentForm exponent) (last : EndsNumber rest) :
    ∃ value, readFraction negative significand left (fraction ++ (exponent ++ rest)) =
      .ok (value, rest) := by
  cases hf with
  | absent =>
    refine he.read negative significand last _ (fun _ => rfl) (fun _ => rfl) ?_
    rw [readFraction.eq_def]
    simp only
    split
    · exact absurd rfl (last _ rfl).2.1
    · exact absurd rfl (last _ rfl).2.2.1
    · exact absurd rfl (last _ rfl).2.2.2
    · split <;> exact ⟨_, rfl⟩
  | @present ds h =>
    have read := withDigits_append (α := Except Error Number × Bytes) h
      fun b hb => (he.head last hb).1
    rw [List.cons_append, readFraction_point, read]
    refine he.read negative _ last _ (fun _ => rfl) (fun _ => rfl) ?_
    rw [readAfterFraction]
    · exact ⟨_, rfl⟩
    · rintro r rfl
      exact (last _ rfl).2.2.1 rfl
    · rintro r rfl
      exact (last _ rfl).2.2.2 rfl

end

theorem readNumber_of_form (negative : Bool) {s rest : Bytes} (h : NumberForm s rest)
    (last : EndsNumber rest) : ∃ value, readNumber negative s = .ok (value, rest) := by
  obtain @⟨whole, fraction, exponent, rest, n, hw, hf, he⟩ := h
  have stops : ∀ b, (fraction ++ (exponent ++ rest)).head? = some b → isDigit b = false := by
    intro b hb
    cases hf with
    | absent => exact (he.head last hb).1
    | present h =>
      cases hb
      rfl
  rw [readNumber, spanDigits_append whole _ hw.digits stops]
  split
  · next heq => exact absurd (List.map_eq_nil_iff.1 (Prod.mk.inj heq).1) hw.nonempty
  · next heq => exact absurd (List.map_eq_nil_iff.1 (Prod.mk.inj heq).1) hw.nonempty
  · next heq =>
    -- a first digit zero is the only one
    obtain ⟨b, r, rfl⟩ := List.exists_cons_of_ne_nil hw.nonempty
    obtain ⟨hb, hr⟩ := List.cons.inj (Prod.mk.inj heq).1
    have zero := eq_zero_of_digitValue (hw.digits b List.mem_cons_self) hb
    rw [zero] at hw
    cases hw.plain rfl
    cases hr
  · next heq =>
    obtain ⟨rfl, rfl⟩ := Prod.mk.inj heq
    exact readFraction_of_form negative _ _ hf he last

end ObjectStorage.Json
