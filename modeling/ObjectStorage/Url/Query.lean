import ObjectStorage.Text.Percent

/-!
# Query parameters

Pairs of a name and a value in the form encoding: `encode` writes them, a space as a plus sign,
and `pairs` reads every text, with `&` between pairs and the first `=` of each between its parts.
-/
namespace ObjectStorage.Query

abbrev Pair := String × String

def isKept (c : Char) : Bool := c.isAlphanum || c == '*' || c == '-' || c == '.' || c == '_'

def encodeChar (c : Char) : List Char := if c = ' ' then ['+'] else Percent.encodeCharBy isKept c

def encodePart (s : String) : List Char := s.toList.flatMap encodeChar

def encodePair (p : Pair) : List Char := encodePart p.1 ++ '=' :: encodePart p.2

def encode (ps : List Pair) : List Char := ['&'].intercalate (ps.map encodePair)

def spaceOfPlus (c : Char) : Char := if c = '+' then ' ' else c

def decodePart (cs : List Char) : String :=
  Utf8.toStringLossy (Percent.decode (Utf8.encode (cs.map spaceOfPlus)))

def decodePair (cs : List Char) : Pair :=
  (decodePart (cs.takeWhile (· != '=')), decodePart ((cs.dropWhile (· != '=')).drop 1))

def pairs (cs : List Char) : List Pair :=
  ((cs.splitOn '&').filter (!·.isEmpty)).map decodePair

end ObjectStorage.Query
