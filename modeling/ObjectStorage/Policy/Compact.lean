import ObjectStorage.Error
import ObjectStorage.Json.Decode
import ObjectStorage.Json.Value

/-!
# Lists with a short form

Actions, resources and identities are lists of strings. A list of one string is written as that
string, and the empty list as no bytes at all; on reading, null is the empty list too.
-/
namespace ObjectStorage

structure Compact where
  values : List String
deriving DecidableEq, Repr

namespace Compact

def empty : Compact := ⟨[]⟩

instance : Inhabited Compact := ⟨empty⟩

def one (v : String) : Compact := ⟨[v]⟩

def isEmpty (c : Compact) : Bool := c.values.isEmpty

def length (c : Compact) : Nat := c.values.length

def push (c : Compact) (v : String) : Compact := ⟨c.values ++ [v]⟩

def contains (c : Compact) (v : String) : Bool := c.values.contains v

def toJson (c : Compact) : Json.Value :=
  match c.values with
  | [v] => .text v
  | vs => .list (vs.map .text)

def toJson? (c : Compact) : Option Json.Value := if c.isEmpty then none else some c.toJson

def encode (c : Compact) : Bytes :=
  if c.isEmpty then [] else Utf8.encode c.toJson.printChars

def expected : String := "a string or an array of strings"

def ofTree : Json.Tree → Except Json.Error Compact
  | .null => .ok empty
  | .text value => value.map one
  | .list items ending => (Json.readAll Json.Tree.toText items ending).map mk
  | t => .error (t.mismatch expected)

def startsValue (b : UInt8) : Bool := b == 0x6E || b == 0x22 || b == 0x5B

def decode (data : Bytes) : Except Error Compact :=
  match Blank.trimBy Blank.isJsonBlank data with
  | [] => .ok empty
  | b :: r =>
    if startsValue b then
      (Json.decode ofTree (b :: r)).mapError fun e => .document (.policy (.json e))
    else .error (.document (.policy (.unexpectedByte b)))

end Compact

end ObjectStorage
