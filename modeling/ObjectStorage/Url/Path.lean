import ObjectStorage.Text.Percent

/-!
# Paths

A path is a list of segments, each written after a slash. Reading one resolves the segments that
are one dot or two, in any of their spellings; a drive letter stays in front of two dots.
-/
namespace ObjectStorage

structure Path where
  segments : List (List Char)
deriving DecidableEq

namespace Path

def textChars (p : Path) : List Char := p.segments.flatMap ('/' :: ·)

def text (p : Path) : String := String.ofList p.textChars

def root : Path := ⟨[[]]⟩

def isKept (c : Char) : Bool :=
  0x20 < c.toNat && c.toNat < 0x7F && !"\"<>`#?\x7b\x7d".toList.contains c

def isDot (cs : List Char) : Bool := cs = ['.'] || cs.map Char.toLower = ['%', '2', 'e']

def isTwoDots (cs : List Char) : Bool :=
  (isDot (cs.take 1) && isDot (cs.drop 1)) || (isDot (cs.take 3) && isDot (cs.drop 3))

def isDrive : List Char → Bool
  | [c, d] => c.isAlpha && (d == ':' || d == '|')
  | _ => false

/-- Goes up from the segments `done`, the last of which comes first. -/
def up : List (List Char) → List (List Char)
  | [] => []
  | s :: r => if isDrive s then s :: r else r

/-- Resolves the dots of segments; `done` are those before, the last first. -/
def resolve (done : List (List Char)) : List (List Char) → List (List Char)
  | [] => done.reverse
  | s :: r =>
    let ends := if r.isEmpty then [[]] else []
    if isTwoDots s then resolve (ends ++ up done) r
    else if isDot s then resolve (ends ++ done) r
    else resolve (s :: done) r

/-- The path of a text without its first slash, where `isSlash` tells what else is one. -/
def ofChars (isSlash : Char → Bool) (cs : List Char) : Path :=
  ⟨resolve [] (((cs.map fun c => if isSlash c then '/' else c).splitOn '/').map
    (Percent.encodeBy isKept))⟩

end Path

end ObjectStorage
