import ObjectStorage.Json.Tree

/-!
# Values from trees

A decoder walks a tree from left to right and stops at the first thing it cannot take, so the
cause it reports is the first one in the text. A `Shape` describes a record: it is read from an
object, or from a list that gives its fields in order.
-/
namespace ObjectStorage.Json

/-- The cause why a tree is not the expected value. Lists and objects are not looked into. -/
def Tree.mismatch (expected : String) : Tree → Error
  | .null => .invalidType .null expected
  | .boolean b => .invalidType (.boolean b) expected
  | .number (.ok n) => .invalidType (.number n) expected
  | .number (.error e) => e
  | .text (.ok t) => .invalidType (.text t) expected
  | .text (.error e) => e
  | .list _ _ => .invalidType .sequence expected
  | .object _ _ => .invalidType .map expected
  | .broken reading _ => reading

def Tree.toText : Tree → Except Error String
  | .text value => value
  | t => .error (t.mismatch "a string")

def optional {α : Type} (read : Tree → Except Error α) : Tree → Except Error (Option α)
  | .null => .ok none
  | t => (read t).map some

def readAll {α : Type} (read : Tree → Except Error α) (items : List Tree) (ending : Ending) :
    Except Error (List α) := do
  let values ← items.mapM read
  raise ending.afterItems
  return values

def readEntries {α : Type} (read : Tree → Except Error α)
    (members : List (Except Error String × Tree)) (ending : Ending) :
    Except Error (List (String × α)) := do
  let entries ← members.mapM fun (key, t) => do
    let key ← key
    let value ← read t
    return (key, value)
  raise ending.afterMembers
  return entries

def Tree.toEntries {α : Type} (read : Tree → Except Error α) :
    Tree → Except Error (List (String × α))
  | .object members ending => readEntries read members ending
  | t => .error (t.mismatch "a map")

structure Field (α : Type) where
  key : String
  required : Bool
  read : Tree → Except Error (α → α)

structure Shape (α : Type) where
  name : String
  fields : List (Field α)
  /-- The record that no field has been read into. -/
  blank : α

namespace Shape

variable {α : Type}

def expected (shape : Shape α) : String := "struct " ++ shape.name

/-- Reads the fields in order; `count` of them have been read. A list may stop before fields that
are not required. -/
def readPositions (shape : Shape α) (ending : Ending) (count : Nat) :
    List (Field α) → List Tree → α → Except Error α
  | [], [], record => do
    raise ending.afterLast
    return record
  | [], _ :: _, _ => .error .trailingCharacters
  | field :: fields, [], record =>
    match ending.afterItems with
    | some e => .error e
    | none =>
      if field.required then
        .error (.invalidLength count
          (shape.expected ++ " with " ++ toString shape.fields.length ++ " elements"))
      else readPositions shape ending (count + 1) fields [] record
  | field :: fields, t :: items, record => do
    let set ← field.read t
    readPositions shape ending (count + 1) fields items (set record)

def missing (seen : List String) : List (Field α) → Except Error Unit
  | [] => .ok ()
  | field :: fields =>
    if field.required && !seen.contains field.key then .error (.missingField field.key)
    else missing seen fields

/-- Reads the members in any order; `seen` are the keys read so far. Members with other keys are
skipped, and no key of the record comes twice. -/
def readMembers (shape : Shape α) (ending : Ending) (seen : List String) :
    List (Except Error String × Tree) → α → Except Error α
  | [], record => do
    raise ending.afterMembers
    missing seen shape.fields
    return record
  | (key, t) :: members, record => do
    let key ← key
    match shape.fields.find? (·.key == key) with
    | none => do
      t.skip
      readMembers shape ending seen members record
    | some field =>
      if seen.contains key then throw (.repeatedField key)
      else do
        let set ← field.read t
        readMembers shape ending (key :: seen) members (set record)

def read (shape : Shape α) : Tree → Except Error α
  | .list items ending => shape.readPositions ending 0 shape.fields items shape.blank
  | .object members ending => shape.readMembers ending [] members shape.blank
  | t => .error (t.mismatch shape.expected)

end Shape

def decode {α : Type} (read : Tree → Except Error α) (s : Bytes) : Except Error α := do
  let (tree, rest) := readTree s
  let value ← read tree
  match rest.map skipBlanks with
  | some (_ :: _) => throw .trailingCharacters
  | _ => return value

def problem? (s : Bytes) : Option Error :=
  match decode (Tree.check depthLimit) s with
  | .ok _ => none
  | .error e => some e

end ObjectStorage.Json
