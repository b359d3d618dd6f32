import ObjectStorage.Policy.Statement

/-!
# Policy documents

A version, an identifier and statements. The list of statements is always written; it may be read
from a list, from one statement, or from null.
-/
namespace ObjectStorage

structure Rules where
  version : String
  id : Option String
  statements : List Statement
deriving DecidableEq

namespace Rules

def empty : Rules := ⟨"", none, []⟩

instance : Inhabited Rules := ⟨empty⟩

def currentVersion : String := "2012-10-17"

def allActions : Compact := .one "tos:*"

def new : Rules := { empty with version := currentVersion }

def withVersion (r : Rules) (version : String) : Rules := { r with version := version }

def withId (r : Rules) (id : String) : Rules := { r with id := some id }

def withStatement (r : Rules) (s : Statement) : Rules :=
  { r with statements := r.statements ++ [s] }

open Json.Value in
def toJson (r : Rules) : Json.Value :=
  .object (
    member "Version" (if r.version.isEmpty then none else some (.text r.version)) ++
    member "Id" (r.id.map .text) ++
    [("Statement", .list (r.statements.map Statement.toJson))])

def encode (r : Rules) : Bytes := Utf8.encode r.toJson.printChars

def toText (r : Rules) : String := r.toJson.print

def manyOfTree : Json.Tree → Except Json.Error (List Statement)
  | .list items ending => Json.readAll Statement.shape.read items ending
  | t => .error (t.mismatch "a sequence")

/-- A value that is checked as a whole first, then read as many statements, then as one. -/
def statementsOfTree : Json.Tree → Except Json.Error (List Statement)
  | .null => .ok []
  | t => do
    t.check (Json.depthLimit - 1)
    match manyOfTree t, Statement.shape.read t with
    | .ok statements, _ => return statements
    | _, .ok statement => return [statement]
    | _, _ => throw (.noAlternative "OneOrMany")

open Json in
def shape : Json.Shape Rules where
  name := "Rules"
  fields := [
    ⟨"Version", false, fun t => do
      let v ← Tree.toText t
      return fun r => { r with version := v }⟩,
    ⟨"Id", false, fun t => do
      let v ← optional Tree.toText t
      return fun r => { r with id := v }⟩,
    ⟨"Statement", false, fun t => do
      let v ← statementsOfTree t
      return fun r => { r with statements := v }⟩]
  blank := empty

def decode (data : Bytes) : Except Error Rules :=
  (Json.decode shape.read data).mapError fun e => .document (.policy (.json e))

def ofText (text : String) : Except Error Rules := decode (Utf8.ofString text)

end Rules

end ObjectStorage
