/-!
# Blanks

Two kinds of white space: the Unicode property, which settings and header values are trimmed by,
and the four blanks of JSON.
-/
namespace ObjectStorage.Blank

def isBlank (c : Char) : Bool :=
  let n := c.toNat
  (9 ≤ n && n ≤ 13) || n == 0x20 || n == 0x85 || n == 0xA0 || n == 0x1680 ||
    (0x2000 ≤ n && n ≤ 0x200A) || n == 0x2028 || n == 0x2029 || n == 0x202F || n == 0x205F ||
    n == 0x3000

def trimBy {α : Type} (p : α → Bool) (s : List α) : List α :=
  ((s.dropWhile p).reverse.dropWhile p).reverse

def trimChars (s : List Char) : List Char := trimBy isBlank s

def trim (s : String) : String := String.ofList (trimChars s.toList)

def isJsonBlank (b : UInt8) : Bool := b == 0x20 || b == 0x09 || b == 0x0A || b == 0x0D

theorem trimBy_of_ends {α : Type} {p : α → Bool} {s : List α}
    (first : ∀ a, s.head? = some a → p a = false)
    (last : ∀ a, s.getLast? = some a → p a = false) : trimBy p s = s := by
  have drop {t : List α} (h : ∀ a, t.head? = some a → p a = false) : t.dropWhile p = t := by
    cases t with
    | nil => rfl
    | cons a r => simp [List.dropWhile, h a rfl]
  rw [trimBy, drop first, drop (by simpa using last), List.reverse_reverse]

end ObjectStorage.Blank
