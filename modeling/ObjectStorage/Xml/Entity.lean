import ObjectStorage.Bytes

/-!
# Character references

In character data an ampersand starts a reference, by name or by number, that ends in a
semicolon. `unescape?` resolves references and refuses those that stand for no character;
`escape` writes text with them.
-/
namespace ObjectStorage.Xml

def number? (radix : Nat) (cs : List Char) : Option Nat :=
  if cs.isEmpty then none
  else cs.foldlM (fun n c =>
    ((Bytes.hexValue? c).filter (· < radix)).map (n * radix + ·)) 0

def charOf? (n : Nat) : Option Char :=
  if n = 0 then none else if n.isValidChar then some (Char.ofNat n) else none

def reference? (name : List Char) : Option Char :=
  match String.ofList name with
  | "lt" => some '<'
  | "gt" => some '>'
  | "amp" => some '&'
  | "apos" => some '\''
  | "quot" => some '"'
  | _ =>
    match name with
    | '#' :: 'x' :: ds => (number? 16 ds).bind charOf?
    | '#' :: ds => (number? 10 ds).bind charOf?
    | _ => none

/-- Reads data; within a reference `name` is what was read of it, the last first. -/
def unescapeFrom : Option (List Char) → List Char → Option (List Char)
  | none, [] => some []
  | some _, [] => none
  | none, c :: r =>
    if c = '&' then unescapeFrom (some []) r else (unescapeFrom none r).map (c :: ·)
  | some name, c :: r =>
    if c = ';' then do
      let d ← reference? name.reverse
      (unescapeFrom none r).map (d :: ·)
    else if c = '&' then none
    else unescapeFrom (some (c :: name)) r

def unescape? (cs : List Char) : Option (List Char) := unescapeFrom none cs

def escapeChar (c : Char) : List Char :=
  if c = '<' then "&lt;".toList
  else if c = '>' then "&gt;".toList
  else if c = '&' then "&amp;".toList
  else if c = '\'' then "&apos;".toList
  else if c = '"' then "&quot;".toList
  else [c]

def escape (cs : List Char) : List Char := cs.flatMap escapeChar

theorem unescapeFrom_escapeChar (c : Char) (r : List Char) :
    unescapeFrom none (escapeChar c ++ r) = (unescapeFrom none r).map (c :: ·) := by
  have lt : reference? ['l', 't'] = some '<' := by decide +kernel
  have gt : reference? ['g', 't'] = some '>' := by decide +kernel
  have amp : reference? ['a', 'm', 'p'] = some '&' := by decide +kernel
  have apos : reference? ['a', 'p', 'o', 's'] = some '\'' := by decide +kernel
  have quot : reference? ['q', 'u', 'o', 't'] = some '"' := by decide +kernel
  rw [escapeChar]
  split
  · next h => subst h; simp [unescapeFrom, lt]
  · split
    · next h => subst h; simp [unescapeFrom, gt]
    · split
      · next h => subst h; simp [unescapeFrom, amp]
      · next hamp =>
        split
        · next h => subst h; simp [unescapeFrom, apos]
        · split
          · next h => subst h; simp [unescapeFrom, quot]
          · simp [unescapeFrom, hamp]

end ObjectStorage.Xml
