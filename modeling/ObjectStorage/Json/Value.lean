import ObjectStorage.Json.Text

/-!
# Writing JSON

Documents are built from texts, lists and objects; members are written in the order given, without
blanks.
-/
namespace ObjectStorage.Json

inductive Value where
  | null
  | text (value : String)
  | list (items : List Value)
  | object (members : List (String × Value))

namespace Value

def member (key : String) : Option Value → List (String × Value)
  | some v => [(key, v)]
  | none => []

mutual

def printChars : Value → List Char
  | null => ['n', 'u', 'l', 'l']
  | text t => printTextChars t.toList
  | list items => '[' :: printItems items ++ [']']
  | object members => '\x7b' :: printMembers members ++ ['\x7d']

def printItems : List Value → List Char
  | [] => []
  | [v] => v.printChars
  | v :: r => v.printChars ++ ',' :: printItems r

def printMembers : List (String × Value) → List Char
  | [] => []
  | [(k, v)] => printTextChars k.toList ++ ':' :: v.printChars
  | (k, v) :: r => printTextChars k.toList ++ ':' :: v.printChars ++ ',' :: printMembers r

end

def print (v : Value) : String := String.ofList v.printChars

end Value

end ObjectStorage.Json
