import ObjectStorage.Json.Decode
import ObjectStorage.Proofs.Json.Leaf

/-!
# How a value is read

`Taken` says of a value how it was read, piece by piece: leaves by their readers, lists and objects
between their brackets. The reader takes a value to its end in this way and in no other, with two
steps for each byte. What is spelled is taken, so it is read, and a whole text is read as the value
that was taken from it.
-/
namespace ObjectStorage.Json

/-- A value that is neither list nor object, from its first byte to its end. -/
inductive LeafTaken : Bytes → Tree → Bytes → Prop
  | null {rest : Bytes} : LeafTaken (0x6E :: 0x75 :: 0x6C :: 0x6C :: rest) .null rest
  | yes {rest : Bytes} : LeafTaken (0x74 :: 0x72 :: 0x75 :: 0x65 :: rest) (.boolean true) rest
  | no {rest : Bytes} :
      LeafTaken (0x66 :: 0x61 :: 0x6C :: 0x73 :: 0x65 :: rest) (.boolean false) rest
  | positive {s rest : Bytes} {value : Except Error Number}
      (content : readNumber false s = .ok (value, rest)) : LeafTaken s (.number value) rest
  | negative {s rest : Bytes} {value : Except Error Number}
      (content : readNumber true s = .ok (value, rest)) :
      LeafTaken (0x2D :: s) (.number value) rest
  | text {s rest : Bytes} {value : Except Error String}
      (content : readTextLeaf s = .ok (value, rest)) : LeafTaken (0x22 :: s) (.text value) rest

mutual

/-- A leaf, or brackets around values. -/
inductive Taken : Bytes → Tree → Bytes → Prop
  | leaf {s rest : Bytes} {t : Tree} (content : LeafTaken (skipBlanks s) t rest) : Taken s t rest
  | list {s r rest : Bytes} {ts : List Tree} (h : skipBlanks s = 0x5B :: r)
      (items : TakenItems true r ts rest) : Taken s (.list ts .closed) rest
  | object {s r rest : Bytes} {ms : List (Except Error String × Tree)}
      (h : skipBlanks s = 0x7B :: r) (members : TakenMembers true r ms rest) :
      Taken s (.object ms .closed) rest

inductive TakenItems : Bool → Bytes → List Tree → Bytes → Prop
  | close {first : Bool} {s rest : Bytes} (h : skipBlanks s = 0x5D :: rest) :
      TakenItems first s [] rest
  | first {s r rest : Bytes} {t : Tree} {ts : List Tree} (item : Taken s t r)
      (tail : TakenItems false r ts rest) : TakenItems true s (t :: ts) rest
  | next {s r q rest : Bytes} {t : Tree} {ts : List Tree} (h : skipBlanks s = 0x2C :: r)
      (item : Taken r t q) (tail : TakenItems false q ts rest) :
      TakenItems false s (t :: ts) rest

inductive TakenMembers : Bool → Bytes → List (Except Error String × Tree) → Bytes → Prop
  | close {first : Bool} {s rest : Bytes} (h : skipBlanks s = 0x7D :: rest) :
      TakenMembers first s [] rest
  | first {s r q p o rest : Bytes} {k : Except Error String} {t : Tree}
      {ms : List (Except Error String × Tree)} (h : skipBlanks s = 0x22 :: r)
      (key : readTextLeaf r = .ok (k, q)) (colon : skipBlanks q = 0x3A :: p) (value : Taken p t o)
      (tail : TakenMembers false o ms rest) : TakenMembers true s ((k, t) :: ms) rest
  | next {s s' r q p o rest : Bytes} {k : Except Error String} {t : Tree}
      {ms : List (Except Error String × Tree)} (comma : skipBlanks s = 0x2C :: s')
      (h : skipBlanks s' = 0x22 :: r) (key : readTextLeaf r = .ok (k, q))
      (colon : skipBlanks q = 0x3A :: p) (value : Taken p t o)
      (tail : TakenMembers false o ms rest) : TakenMembers false s ((k, t) :: ms) rest

end

/-- Something is missing at the end of the value. -/
def Tree.isOpen : Tree → Bool
  | .list _ ending | .object _ ending => ending != .closed
  | .broken _ _ => true
  | .null | .boolean _ | .number _ | .text _ => false

theorem readWord_cases (word : Bytes) (value : Tree) (s : Bytes) :
    (∃ rest, s = word ++ rest ∧ readWord word value s = (value, some rest)) ∨
      ∃ e e', readWord word value s = (.broken e e', none) := by
  induction word generalizing s with
  | nil => exact .inl ⟨s, rfl, by rw [readWord]⟩
  | cons w word ih =>
    cases s with
    | nil => exact .inr ⟨_, _, rfl⟩
    | cons b r =>
      rw [readWord]
      split
      · next hb =>
        subst hb
        obtain ⟨rest, hr, h⟩ | broken := ih r
        · exact .inl ⟨rest, by rw [hr]; rfl, h⟩
        · exact .inr broken
      · exact .inr ⟨_, _, rfl⟩

theorem readNumberTree_cases (negative : Bool) (s : Bytes) :
    (∃ value rest, readNumber negative s = .ok (value, rest) ∧
        readNumberTree negative s = (.number value, some rest)) ∨
      ∃ e e', readNumberTree negative s = (.broken e e', none) := by
  rw [readNumberTree]
  split
  · next value rest h => exact .inl ⟨value, rest, h, rfl⟩
  · exact .inr ⟨_, _, rfl⟩
  · exact .inr ⟨_, _, rfl⟩

theorem readLeaf_cases (b : UInt8) (r : Bytes) :
    (∃ t rest, readLeaf b r = (t, some rest) ∧ LeafTaken (b :: r) t rest) ∨
      ∃ e e', readLeaf b r = (.broken e e', none) := by
  have word {w : Bytes} {t : Tree} (taken : ∀ rest, LeafTaken (b :: (w ++ rest)) t rest) :
      (∃ t' rest, readWord w t r = (t', some rest) ∧ LeafTaken (b :: r) t' rest) ∨
        ∃ e e', readWord w t r = (.broken e e', none) := by
    obtain ⟨rest, hr, h⟩ | broken := readWord_cases w t r
    · exact .inl ⟨t, rest, h, hr ▸ taken rest⟩
    · exact .inr broken
  rw [readLeaf]
  split
  · next hb =>
    subst hb
    exact word fun rest => .null
  · split
    · next hb =>
      subst hb
      exact word fun rest => .yes
    · split
      · next hb =>
        subst hb
        exact word fun rest => .no
      · split
        · next hb =>
          subst hb
          obtain ⟨value, rest, content, h⟩ | broken := readNumberTree_cases true r
          · exact .inl ⟨_, rest, h, .negative content⟩
          · exact .inr broken
        · split
          · obtain ⟨value, rest, content, h⟩ | broken := readNumberTree_cases false (b :: r)
            · exact .inl ⟨_, rest, h, .positive content⟩
            · exact .inr broken
          · split
            · next hb =>
              subst hb
              split
              · next value rest content => exact .inl ⟨_, rest, rfl, .text content⟩
              · exact .inr ⟨_, _, rfl⟩
            · exact .inr ⟨_, _, rfl⟩

theorem LeafTaken.read {s rest : Bytes} {t : Tree} (h : LeafTaken s t rest) :
    ∃ b r, s = b :: r ∧ b ≠ 0x5B ∧ b ≠ 0x7B ∧ b ≠ 0x5D ∧ readLeaf b r = (t, some rest) := by
  cases h with
  | null | yes | no => exact ⟨_, _, rfl, by decide, by decide, by decide, rfl⟩
  | positive content =>
    obtain ⟨b, r, rfl, hb⟩ := (numberForm_of_read content).head
    have ne {c : UInt8} (hc : isDigit c = false) : b ≠ c := by
      rintro rfl
      rw [hb] at hc
      cases hc
    refine ⟨b, r, rfl, ne rfl, ne rfl, ne rfl, ?_⟩
    simp only [readLeaf_digit hb, readNumberTree, content]
  | @negative s _ _ content =>
    have leaf : readLeaf 0x2D s = readNumberTree true s := rfl
    refine ⟨_, _, rfl, by decide, by decide, by decide, ?_⟩
    simp only [leaf, readNumberTree, content]
  | text content =>
    refine ⟨_, _, rfl, by decide, by decide, by decide, ?_⟩
    simp [readLeaf, content, isDigit]

theorem Taken.of_skipBlanks {s r rest : Bytes} {b : UInt8} {t : Tree} (hs : skipBlanks s = b :: r)
    (h : Taken (b :: r) t rest) : Taken s t rest := by
  have hb := skipBlanks_of_eq hs
  cases h with
  | leaf content => exact .leaf (by rwa [hs, ← hb])
  | list h items => exact .list (hs.trans (hb.symm.trans h)) items
  | object h members => exact .object (hs.trans (hb.symm.trans h)) members

mutual

theorem readValue_cases (fuel : Nat) (s : Bytes) :
    (∃ t rest, readValue fuel s = (t, some rest) ∧ Taken s t rest) ∨
      ∃ t, readValue fuel s = (t, none) ∧ t.isOpen = true := by
  cases fuel with
  | zero => exact .inr ⟨_, by rw [readValue], rfl⟩
  | succ fuel =>
    rw [readValue.eq_def]
    simp only
    split
    · exact .inr ⟨_, rfl, rfl⟩
    · next b r hs =>
      split
      · next hb =>
        subst hb
        obtain ⟨ts, rest, h, items⟩ | ⟨ts, e, h, open_⟩ := readItems_cases fuel true r
        · exact .inl ⟨_, rest, by rw [h], .list hs items⟩
        · exact .inr ⟨_, by rw [h], by simpa [Tree.isOpen] using open_⟩
      · split
        · next hb =>
          subst hb
          obtain ⟨ms, rest, h, members⟩ | ⟨ms, e, h, open_⟩ := readMembers_cases fuel true r
          · exact .inl ⟨_, rest, by rw [h], .object hs members⟩
          · exact .inr ⟨_, by rw [h], by simpa [Tree.isOpen] using open_⟩
        · obtain ⟨t, rest, h, content⟩ | ⟨e, e', h⟩ := readLeaf_cases b r
          · exact .inl ⟨t, rest, h, .leaf (hs ▸ content)⟩
          · exact .inr ⟨_, h, rfl⟩

theorem readItems_cases (fuel : Nat) (first : Bool) (s : Bytes) :
    (∃ ts rest, readItems fuel first s = (ts, .closed, some rest) ∧
        TakenItems first s ts rest) ∨
      ∃ ts e, readItems fuel first s = (ts, e, none) ∧ e ≠ .closed := by
  cases fuel with
  | zero => exact .inr ⟨_, _, by rw [readItems], by decide⟩
  | succ fuel =>
    rw [readItems.eq_def]
    simp only
    split
    · exact .inr ⟨_, _, rfl, by decide⟩
    · next b r hs =>
      split
      · next hb =>
        subst hb
        exact .inl ⟨_, _, rfl, .close hs⟩
      · split
        · next hfirst =>
          subst hfirst
          obtain ⟨t, ts, q, rest, h, item, tail⟩ | ⟨ts, e, h, open_⟩ := readItem_cases fuel (b :: r)
          · exact .inl ⟨_, rest, h, .first (item.of_skipBlanks hs) tail⟩
          · exact .inr ⟨ts, e, h, open_⟩
        · next hfirst =>
          rw [Bool.not_eq_true] at hfirst
          subst hfirst
          split
          · next hb =>
            subst hb
            split
            · exact .inr ⟨_, _, rfl, by decide⟩
            · next c q hr =>
              split
              · exact .inr ⟨_, _, rfl, by decide⟩
              · obtain ⟨t, ts, q', rest, h, item, tail⟩ | ⟨ts, e, h, open_⟩ :=
                  readItem_cases fuel (c :: q)
                · exact .inl ⟨_, rest, h, .next hs (item.of_skipBlanks hr) tail⟩
                · exact .inr ⟨ts, e, h, open_⟩
          · exact .inr ⟨_, _, rfl, by decide⟩

theorem readItem_cases (fuel : Nat) (s : Bytes) :
    (∃ t ts r rest, readItem fuel s = (t :: ts, .closed, some rest) ∧ Taken s t r ∧
        TakenItems false r ts rest) ∨
      ∃ ts e, readItem fuel s = (ts, e, none) ∧ e ≠ .closed := by
  cases fuel with
  | zero => exact .inr ⟨_, _, by rw [readItem], by decide⟩
  | succ fuel =>
    rw [readItem.eq_def]
    obtain ⟨t, r, hv, item⟩ | ⟨t, hv, -⟩ := readValue_cases fuel s
    · obtain ⟨ts, rest, h, tail⟩ | ⟨ts, e, h, open_⟩ := readItems_cases fuel false r
      · exact .inl ⟨t, ts, r, rest, by simp only [hv, h], item, tail⟩
      · exact .inr ⟨t :: ts, e, by simp only [hv, h], open_⟩
    · exact .inr ⟨[t], .cut, by simp only [hv], by decide⟩

theorem readMembers_cases (fuel : Nat) (first : Bool) (s : Bytes) :
    (∃ ms rest, readMembers fuel first s = (ms, .closed, some rest) ∧
        TakenMembers first s ms rest) ∨
      ∃ ms e, readMembers fuel first s = (ms, e, none) ∧ e ≠ .closed := by
  cases fuel with
  | zero => exact .inr ⟨_, _, by rw [readMembers], by decide⟩
  | succ fuel =>
    rw [readMembers.eq_def]
    simp only
    split
    · exact .inr ⟨_, _, rfl, by decide⟩
    · next b r hs =>
      split
      · next hb =>
        subst hb
        exact .inl ⟨_, _, rfl, .close hs⟩
      · split
        · next hfirst =>
          subst hfirst
          split
          · next hb =>
            subst hb
            obtain ⟨k, t, ms, q, p, o, rest, h, key, colon, value, tail⟩ | ⟨ms, e, h, open_⟩ :=
              readMember_cases fuel r
            · exact .inl ⟨_, rest, h, .first hs key colon value tail⟩
            · exact .inr ⟨ms, e, h, open_⟩
          · exact .inr ⟨_, _, rfl, by decide⟩
        · next hfirst =>
          rw [Bool.not_eq_true] at hfirst
          subst hfirst
          split
          · next hb =>
            subst hb
            split
            · exact .inr ⟨_, _, rfl, by decide⟩
            · next c r' hr =>
              split
              · next hc =>
                subst hc
                obtain ⟨k, t, ms, q, p, o, rest, h, key, colon, value, tail⟩ |
                  ⟨ms, e, h, open_⟩ := readMember_cases fuel r'
                · exact .inl ⟨_, rest, h, .next hs hr key colon value tail⟩
                · exact .inr ⟨ms, e, h, open_⟩
              · split
                · exact .inr ⟨_, _, rfl, by decide⟩
                · exact .inr ⟨_, _, rfl, by decide⟩
          · exact .inr ⟨_, _, rfl, by decide⟩

theorem readMember_cases (fuel : Nat) (s : Bytes) :
    (∃ k t ms q p o rest, readMember fuel s = ((k, t) :: ms, .closed, some rest) ∧
        readTextLeaf s = .ok (k, q) ∧ skipBlanks q = 0x3A :: p ∧ Taken p t o ∧
        TakenMembers false o ms rest) ∨
      ∃ ms e, readMember fuel s = (ms, e, none) ∧ e ≠ .closed := by
  cases fuel with
  | zero => exact .inr ⟨_, _, by rw [readMember], by decide⟩
  | succ fuel =>
    rw [readMember.eq_def]
    simp only
    split
    · exact .inr ⟨_, _, rfl, by decide⟩
    · next k q key =>
      split
      · exact .inr ⟨_, _, rfl, by decide⟩
      · next b p colon =>
        split
        · next hb =>
          subst hb
          obtain ⟨t, o, hv, value⟩ | ⟨t, hv, -⟩ := readValue_cases fuel p
          · obtain ⟨ms, rest, h, tail⟩ | ⟨ms, e, h, open_⟩ := readMembers_cases fuel false o
            · exact .inl ⟨k, t, ms, q, p, o, rest, by simp only [hv, h], key, colon, value, tail⟩
            · exact .inr ⟨(k, t) :: ms, e, by simp only [hv, h], open_⟩
          · exact .inr ⟨[(k, t)], .cut, by simp only [hv], by decide⟩
        · exact .inr ⟨_, _, rfl, by decide⟩

end

theorem LeafTaken.length_lt {s rest : Bytes} {t : Tree} (h : LeafTaken s t rest) :
    rest.length < s.length := by
  cases h with
  | null | yes | no =>
    simp only [List.length_cons]
    omega
  | positive content => exact (numberForm_of_read content).length_lt
  | negative content => exact Nat.lt_succ_of_lt (numberForm_of_read content).length_lt
  | text content => exact Nat.lt_succ_of_lt (textForm_of_leaf content).length_lt

theorem length_lt_of_key {s q p : Bytes} {k : Except Error String}
    (key : readTextLeaf s = .ok (k, q)) (colon : skipBlanks q = 0x3A :: p) :
    p.length < s.length :=
  Nat.lt_trans (length_lt_of_skipBlanks colon) (textForm_of_leaf key).length_lt

mutual

theorem Taken.length_lt {s rest : Bytes} {t : Tree} : Taken s t rest → rest.length < s.length
  | .leaf content => Nat.lt_of_lt_of_le content.length_lt (length_skipBlanks s)
  | .list h items => Nat.lt_trans items.length_lt (length_lt_of_skipBlanks h)
  | .object h members => Nat.lt_trans members.length_lt (length_lt_of_skipBlanks h)

theorem TakenItems.length_lt {first : Bool} {s rest : Bytes} {ts : List Tree} :
    TakenItems first s ts rest → rest.length < s.length
  | .close h => length_lt_of_skipBlanks h
  | .first item tail => Nat.lt_trans tail.length_lt item.length_lt
  | .next h item tail =>
    Nat.lt_trans tail.length_lt (Nat.lt_trans item.length_lt (length_lt_of_skipBlanks h))

theorem TakenMembers.length_lt {first : Bool} {s rest : Bytes}
    {ms : List (Except Error String × Tree)} :
    TakenMembers first s ms rest → rest.length < s.length
  | .close h => length_lt_of_skipBlanks h
  | .first h key colon value tail => by
    have h₁ := length_lt_of_skipBlanks h
    have h₂ := length_lt_of_key key colon
    have h₃ := value.length_lt
    have h₄ := tail.length_lt
    omega
  | .next comma h key colon value tail => by
    have h₀ := length_lt_of_skipBlanks comma
    have h₁ := length_lt_of_skipBlanks h
    have h₂ := length_lt_of_key key colon
    have h₃ := value.length_lt
    have h₄ := tail.length_lt
    omega

end

theorem readValue_of_skipBlanks {s r : Bytes} {b : UInt8} (h : skipBlanks s = b :: r)
    (fuel : Nat) : readValue fuel (b :: r) = readValue fuel s := by
  cases fuel with
  | zero => rfl
  | succ fuel => rw [readValue.eq_def, readValue.eq_def]; simp only [skipBlanks_of_eq h, h]

theorem readItem_of_value {fuel : Nat} {s r rest : Bytes} {t : Tree} {ts : List Tree}
    {ending : Ending} (h : readValue fuel s = (t, some r))
    (ht : readItems fuel false r = (ts, ending, some rest)) :
    readItem (fuel + 1) s = (t :: ts, ending, some rest) := by
  rw [readItem.eq_def]
  simp only [h, ht]

/-- No value starts with the bracket that would end its list. -/
theorem Taken.head {s rest : Bytes} {t : Tree} (h : Taken s t rest) :
    ∃ b r, skipBlanks s = b :: r ∧ b ≠ 0x5D := by
  cases h with
  | leaf content =>
    obtain ⟨b, r, hs, -, -, hb, -⟩ := content.read
    exact ⟨b, r, hs, hb⟩
  | list h _ => exact ⟨_, _, h, by decide⟩
  | object h _ => exact ⟨_, _, h, by decide⟩

theorem readMember_of_leaf {fuel : Nat} {s q p o rest : Bytes} {k : Except Error String} {t : Tree}
    {ms : List (Except Error String × Tree)} {ending : Ending}
    (key : readTextLeaf s = .ok (k, q)) (colon : skipBlanks q = 0x3A :: p)
    (h : readValue fuel p = (t, some o))
    (ht : readMembers fuel false o = (ms, ending, some rest)) :
    readMember (fuel + 1) s = ((k, t) :: ms, ending, some rest) := by
  rw [readMember.eq_def]
  simp only [key, colon, if_true, h, ht]

mutual

/-- Two steps for each byte suffice. -/
theorem Taken.read {s rest : Bytes} {t : Tree} (h : Taken s t rest) (fuel : Nat)
    (hf : 2 * s.length ≤ fuel + 2 * rest.length) : readValue fuel s = (t, some rest) := by
  have hl := h.length_lt
  obtain ⟨k, rfl⟩ : ∃ k, fuel = k + 1 := ⟨fuel - 1, by omega⟩
  rw [readValue.eq_def]
  cases h with
  | leaf content =>
    obtain ⟨b, r, hs, list, object, -, leaf⟩ := content.read
    simp only [hs, if_neg list, if_neg object, leaf]
  | list h items =>
    have hr := length_lt_of_skipBlanks h
    simp only [h, if_true, items.read k (by omega)]
  | object h members =>
    have hr := length_lt_of_skipBlanks h
    simp only [h, if_true, members.read k (by omega)]
    rfl

theorem TakenItems.read {first : Bool} {s rest : Bytes} {ts : List Tree}
    (h : TakenItems first s ts rest) (fuel : Nat)
    (hf : 2 * s.length ≤ fuel + 2 * rest.length) :
    readItems fuel first s = (ts, .closed, some rest) := by
  have hl := h.length_lt
  obtain ⟨k, rfl⟩ : ∃ k, fuel = k + 1 + 1 := ⟨fuel - 2, by omega⟩
  rw [readItems.eq_def]
  cases h with
  | close h => simp only [h, if_true]
  | first item tail =>
    obtain ⟨b, r, hs, hb⟩ := item.head
    have h₁ := item.length_lt
    have h₂ := tail.length_lt
    have hv := item.read k (by omega)
    rw [← readValue_of_skipBlanks hs] at hv
    simp only [hs, if_neg hb, if_true]
    exact readItem_of_value hv (tail.read k (by omega))
  | next h item tail =>
    obtain ⟨b, r, hs, hb⟩ := item.head
    have h₀ := length_lt_of_skipBlanks h
    have h₁ := item.length_lt
    have h₂ := tail.length_lt
    have hv := item.read k (by omega)
    rw [← readValue_of_skipBlanks hs] at hv
    simp only [h, hs, if_neg hb, if_true, Bool.false_eq_true, if_false,
      if_neg (show ¬ (0x2C : UInt8) = 0x5D by decide)]
    exact readItem_of_value hv (tail.read k (by omega))

theorem TakenMembers.read {first : Bool} {s rest : Bytes}
    {ms : List (Except Error String × Tree)} (h : TakenMembers first s ms rest) (fuel : Nat)
    (hf : 2 * s.length ≤ fuel + 2 * rest.length) :
    readMembers fuel first s = (ms, .closed, some rest) := by
  have hl := h.length_lt
  obtain ⟨k, rfl⟩ : ∃ k, fuel = k + 1 + 1 := ⟨fuel - 2, by omega⟩
  rw [readMembers.eq_def]
  cases h with
  | close h => simp only [h, if_true]
  | first h key colon value tail =>
    have h₀ := length_lt_of_skipBlanks h
    have h₁ := length_lt_of_key key colon
    have h₂ := value.length_lt
    have h₃ := tail.length_lt
    simp only [h, if_true, if_neg (show ¬ (0x22 : UInt8) = 0x7D by decide)]
    exact readMember_of_leaf key colon (value.read k (by omega)) (tail.read k (by omega))
  | next comma h key colon value tail =>
    have hc := length_lt_of_skipBlanks comma
    have h₀ := length_lt_of_skipBlanks h
    have h₁ := length_lt_of_key key colon
    have h₂ := value.length_lt
    have h₃ := tail.length_lt
    simp only [comma, h, if_true, Bool.false_eq_true, if_false,
      if_neg (show ¬ (0x2C : UInt8) = 0x7D by decide)]
    exact readMember_of_leaf key colon (value.read k (by omega)) (tail.read k (by omega))

end

theorem readTree_iff {s rest : Bytes} {t : Tree} :
    readTree s = (t, some rest) ↔ Taken s t rest := by
  constructor
  · intro h
    obtain ⟨t', rest', read, taken⟩ | ⟨t', read, -⟩ := readValue_cases (2 * s.length + 2) s
    · rw [readTree, read] at h
      cases h
      exact taken
    · rw [readTree, read] at h
      cases h
  · exact fun h => h.read _ (by omega)

theorem IntegerSpelling.taken {s rest : Bytes} {v : Int} (h : IntegerSpelling s v rest) :
    LeafTaken s (.number (.ok (.integer v))) rest := by
  obtain ⟨b, r, rfl, -, leaf⟩ := h.readLeaf
  obtain ⟨t, rest', read, taken⟩ | ⟨e, e', read⟩ := readLeaf_cases b r
  · rw [leaf] at read
    cases read
    exact taken
  · rw [leaf] at read
    cases read

mutual

theorem Spelling.taken {s rest : Bytes} {t : Tree} : Spelling s t rest → Taken s t rest
  | .null h => .leaf (h ▸ .null)
  | .yes h => .leaf (h ▸ .yes)
  | .no h => .leaf (h ▸ .no)
  | .integer content => .leaf content.taken
  | .text h content => .leaf (h ▸ .text (readTextLeaf_of_spelling content))
  | .list h items => .list h items.taken
  | .object h members => .object h members.taken

theorem ItemsSpelling.taken {first : Bool} {s rest : Bytes} {ts : List Tree} :
    ItemsSpelling first s ts rest → TakenItems first s ts rest
  | .close h => .close h
  | .first item tail => .first item.taken tail.taken
  | .next h item tail => .next h item.taken tail.taken

theorem MembersSpelling.taken {first : Bool} {s rest : Bytes}
    {ms : List (Except Error String × Tree)} :
    MembersSpelling first s ms rest → TakenMembers first s ms rest
  | .close h => .close h
  | .first h key colon value tail =>
    .first h (readTextLeaf_of_spelling key) colon value.taken tail.taken
  | .next comma h key colon value tail =>
    .next comma h (readTextLeaf_of_spelling key) colon value.taken tail.taken

end

theorem readTree_of_spelling {s rest : Bytes} {t : Tree} (h : Spelling s t rest) :
    readTree s = (t, some rest) :=
  readTree_iff.2 h.taken

section
variable {α : Type} {read : Tree → Except Error α} {s : Bytes} {a : α}

/-- A whole text is read if it is one value with blanks after it, and the value is as expected. The
reader of the value has to refuse what is incomplete. -/
theorem decode_eq_ok_iff (refuses : ∀ t a, read t = .ok a → t.isOpen = false) :
    decode read s = .ok a ↔
      ∃ t rest, Taken s t rest ∧ skipBlanks rest = [] ∧ read t = .ok a := by
  constructor
  · intro h
    obtain ⟨t, rest, tree, taken⟩ | ⟨t, tree, open_⟩ := readValue_cases (2 * s.length + 2) s
    · rw [← readTree] at tree
      simp only [decode, tree, Option.map_some] at h
      obtain ⟨b, hb, h⟩ := bind_eq_ok h
      split at h
      · cases h
      · next blank =>
        cases h
        refine ⟨t, rest, taken, ?_, hb⟩
        cases hr : skipBlanks rest with
        | nil => rfl
        | cons c r => exact absurd (congrArg some hr) (blank c r)
    · rw [← readTree] at tree
      simp only [decode, tree] at h
      obtain ⟨b, hb, -⟩ := bind_eq_ok h
      rw [refuses t b hb] at open_
      cases open_
  · rintro ⟨t, rest, taken, last, value⟩
    simp only [decode, readTree_iff.2 taken, value, Option.map_some, last]
    rfl

end

end ObjectStorage.Json
