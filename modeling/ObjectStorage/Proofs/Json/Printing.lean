import ObjectStorage.Json.Value
import ObjectStorage.Proofs.Json.Taken

/-!
# What is written reads back

`Value.tree` is the tree that a document stands for, and `readTree_print` says that the text
written for a document is one of its spellings, whatever follows it. Reading a whole text is then
reading that tree.
-/
namespace ObjectStorage.Json

namespace Value

mutual

def tree : Value → Tree
  | null => .null
  | text t => .text (.ok t)
  | list items => .list (trees items) .closed
  | object members => .object (memberTrees members) .closed

def trees : List Value → List Tree
  | [] => []
  | v :: r => v.tree :: trees r

def memberTrees : List (String × Value) → List (Except Error String × Tree)
  | [] => []
  | (k, v) :: r => (.ok k, v.tree) :: memberTrees r

end

theorem trees_eq_map (vs : List Value) : trees vs = vs.map tree := by
  induction vs with
  | nil => rfl
  | cons v r ih => rw [trees, ih, List.map_cons]

theorem memberTrees_eq_map (ms : List (String × Value)) :
    memberTrees ms = ms.map fun m => (.ok m.1, m.2.tree) := by
  induction ms with
  | nil => rfl
  | cons m r ih => rw [memberTrees, ih, List.map_cons]

theorem memberTrees_append (ms ns : List (String × Value)) :
    memberTrees (ms ++ ns) = memberTrees ms ++ memberTrees ns := by
  simp only [memberTrees_eq_map, List.map_append]

end Value

theorem unit?_hexDigit : ∀ n < 0x20,
    Utf8.encode ['\\', 'u', '0', '0', Bytes.hexDigit (n / 16), Bytes.hexDigit (n % 16)] =
      [0x5C, 0x75, 0x30, 0x30, UInt8.ofNat (Bytes.hexDigit (n / 16)).toNat,
        UInt8.ofNat (Bytes.hexDigit (n % 16)).toNat] ∧
    unit? 0x30 0x30 (UInt8.ofNat (Bytes.hexDigit (n / 16)).toNat)
      (UInt8.ofNat (Bytes.hexDigit (n % 16)).toNat) = some n := by
  decide

theorem TextSpelling.escape (c : Char) {s rest : Bytes} {t : List Char}
    (h : TextSpelling s t rest) :
    TextSpelling (Utf8.encode (escapeChar c) ++ s) (c :: t) rest := by
  unfold escapeChar
  repeat' split
  · next hc => rw [hc]; exact .letter (x := 0x22) rfl h
  · next hc => rw [hc]; exact .letter (x := 0x5C) rfl h
  · next hc => rw [hc]; exact .letter (x := 0x08) rfl h
  · next hc => rw [hc]; exact .letter (x := 0x0C) rfl h
  · next hc => rw [hc]; exact .letter (x := 0x0A) rfl h
  · next hc => rw [hc]; exact .letter (x := 0x0D) rfl h
  · next hc => rw [hc]; exact .letter (x := 0x09) rfl h
  · next hc =>
    obtain ⟨he, hu⟩ := unit?_hexDigit c.toNat hc
    rw [he, ← Char.ofNat_toNat c]
    exact .unit (by rw [Char.ofNat_toNat]; exact hu) (by omega) h
  · next hq hs _ _ _ _ _ hl =>
    rw [Utf8.encode_cons, show Utf8.encode [] = [] from rfl, List.append_nil]
    exact .plain (by simp [isPlain, hq, hs]; omega) h

theorem textSpelling_print (t : List Char) (rest : Bytes) :
    TextSpelling (Utf8.encode (t.flatMap escapeChar) ++ 0x22 :: rest) t rest := by
  induction t with
  | nil => exact .close
  | cons c t ih =>
    rw [List.flatMap_cons, Utf8.encode_append, List.append_assoc]
    exact ih.escape c

theorem encode_printTextChars (t : List Char) (rest : Bytes) :
    Utf8.encode (printTextChars t) ++ rest =
      0x22 :: (Utf8.encode (t.flatMap escapeChar) ++ 0x22 :: rest) := by
  rw [printTextChars, List.cons_append, Utf8.encode_cons, Utf8.encode_append, List.append_assoc,
    List.append_assoc]
  rfl

theorem skipBlanks_printTextChars (t : List Char) (rest : Bytes) :
    skipBlanks (Utf8.encode (printTextChars t) ++ rest) =
      0x22 :: (Utf8.encode (t.flatMap escapeChar) ++ 0x22 :: rest) := by
  rw [encode_printTextChars]
  rfl

theorem ItemsSpelling.comma {s rest : Bytes} {t : Tree} {ts : List Tree}
    (h : ItemsSpelling true s (t :: ts) rest) :
    ItemsSpelling false (0x2C :: s) (t :: ts) rest := by
  cases h with
  | first item tail => exact .next rfl item tail

theorem MembersSpelling.comma {s rest : Bytes} {m : Except Error String × Tree}
    {ms : List (Except Error String × Tree)} (h : MembersSpelling true s (m :: ms) rest) :
    MembersSpelling false (0x2C :: s) (m :: ms) rest := by
  cases h with
  | first hs key colon value tail => exact .next rfl hs key colon value tail

open Value

theorem MembersSpelling.quoted {k : String} {s q rest : Bytes} {t : Tree}
    {ms : List (Except Error String × Tree)} (value : Spelling s t q)
    (tail : MembersSpelling false q ms rest) :
    MembersSpelling true (Utf8.encode (printTextChars k.toList) ++ 0x3A :: s) ((.ok k, t) :: ms)
      rest := by
  have hk : (.ok k : Except Error String) = .ok (String.ofList k.toList) := by
    rw [String.ofList_toList]
  rw [hk]
  exact .first (skipBlanks_printTextChars _ _) (textSpelling_print _ _) rfl value tail

theorem MembersSpelling.print {k : String} {v : Value} {s rest : Bytes}
    {ms : List (Except Error String × Tree)}
    (value : Spelling (Utf8.encode v.printChars ++ s) v.tree s)
    (tail : MembersSpelling false s ms rest) :
    MembersSpelling true
      (Utf8.encode (printTextChars k.toList ++ ':' :: v.printChars) ++ s)
      ((.ok k, v.tree) :: ms) rest := by
  rw [Utf8.encode_append, List.append_assoc, Utf8.encode_cons]
  exact .quoted value tail

mutual

theorem spelling_print (v : Value) (rest : Bytes) :
    Spelling (Utf8.encode v.printChars ++ rest) v.tree rest := by
  cases v with
  | null => exact .null rfl
  | text t =>
    have ht : (Value.text t).tree = .text (.ok (String.ofList t.toList)) := by
      rw [String.ofList_toList, tree]
    rw [ht]
    exact .text (skipBlanks_printTextChars _ _) (textSpelling_print _ _)
  | list items =>
    rw [printChars, List.cons_append, Utf8.encode_cons, Utf8.encode_append, List.append_assoc,
      List.append_assoc, tree]
    exact .list rfl (itemsSpelling_print items rest)
  | object members =>
    rw [printChars, List.cons_append, Utf8.encode_cons, Utf8.encode_append, List.append_assoc,
      List.append_assoc, tree]
    exact .object rfl (membersSpelling_print members rest)

theorem itemsSpelling_print (vs : List Value) (rest : Bytes) :
    ItemsSpelling true (Utf8.encode (printItems vs) ++ 0x5D :: rest) (trees vs) rest := by
  match vs with
  | [] => exact .close rfl
  | [v] => exact .first (spelling_print v _) (.close rfl)
  | v :: w :: r =>
    rw [printItems.eq_3 v (w :: r) (List.cons_ne_nil w r), Utf8.encode_append,
      List.append_assoc, Utf8.encode_cons]
    exact .first (spelling_print v _) (itemsSpelling_print (w :: r) rest).comma

theorem membersSpelling_print (ms : List (String × Value)) (rest : Bytes) :
    MembersSpelling true (Utf8.encode (printMembers ms) ++ 0x7D :: rest) (memberTrees ms) rest := by
  match ms with
  | [] => exact .close rfl
  | [(k, v)] => exact .print (spelling_print v _) (.close rfl)
  | (k, v) :: m :: r =>
    rw [printMembers.eq_3 k v (m :: r) (List.cons_ne_nil m r), Utf8.encode_append,
      List.append_assoc, Utf8.encode_cons]
    exact .print (spelling_print v _) (membersSpelling_print (m :: r) rest).comma

end

theorem readTree_print (v : Value) (rest : Bytes) :
    readTree (Utf8.encode v.printChars ++ rest) = (v.tree, some rest) :=
  readTree_of_spelling (spelling_print v rest)

theorem decode_print {α : Type} (read : Tree → Except Error α) (v : Value) :
    decode read (Utf8.encode v.printChars) = read v.tree := by
  have h := readTree_print v []
  rw [List.append_nil] at h
  simp only [decode, h]
  cases read v.tree <;> rfl

theorem encode_print_ne_nil (v : Value) : Utf8.encode v.printChars ≠ [] := by
  have written := (spelling_print v []).taken.length_lt
  rw [List.append_nil] at written
  exact List.ne_nil_of_length_pos written

theorem trimBy_enclosed {α : Type} {p : α → Bool} {a b : α} (m : List α)
    (first : p a = false) (last : p b = false) :
    Blank.trimBy p (a :: (m ++ [b])) = a :: (m ++ [b]) := by
  apply Blank.trimBy_of_ends
  · intro c hc
    cases hc
    exact first
  · intro c hc
    rw [← List.cons_append, List.getLast?_concat] at hc
    cases hc
    exact last

theorem trim_print (v : Value) : Blank.trimBy Blank.isJsonBlank (Utf8.encode v.printChars) =
    Utf8.encode v.printChars := by
  have enclosed (a b : Char) (m : List Char) {x y : UInt8} (ha : Utf8.encodeChar a = [x])
      (hb : Utf8.encode [b] = [y]) (first : Blank.isJsonBlank x = false)
      (last : Blank.isJsonBlank y = false) :
      Blank.trimBy Blank.isJsonBlank (Utf8.encode (a :: m ++ [b])) =
        Utf8.encode (a :: m ++ [b]) := by
    rw [List.cons_append, Utf8.encode_cons, Utf8.encode_append, ha, hb]
    exact trimBy_enclosed _ first last
  cases v with
  | null => rfl
  | text t => exact enclosed '"' '"' _ rfl rfl rfl rfl
  | list items => exact enclosed '[' ']' _ rfl rfl rfl rfl
  | object members => exact enclosed '\x7b' '\x7d' _ rfl rfl rfl rfl

end ObjectStorage.Json
